/-!
# Tables

A table keeps one value a key, in the order in which the keys first came. Setting a key again
replaces its value in place, so the last value set is the one found, and the size counts
distinct keys.
-/

namespace EqualityTree

/-- Pairs of a key and its value, in order of first arrival. -/
structure Table (κ α : Type) where
  entries : List (κ × α)

namespace Table

variable {κ α : Type}

def empty : Table κ α := ⟨[]⟩

instance : Inhabited (Table κ α) := ⟨empty⟩

def size (table : Table κ α) : Nat := table.entries.length

def isEmpty (table : Table κ α) : Bool := table.entries.isEmpty

def keys (table : Table κ α) : List κ := table.entries.map Prod.fst

@[simp] theorem size_empty : (empty : Table κ α).size = 0 := rfl

variable [DecidableEq κ]

def findIn (key : κ) : List (κ × α) → Option α
  | [] => none
  | (other, value) :: rest => if other = key then some value else findIn key rest

/-- Replaces the value of the first pair with this key, or adds a pair at the end. -/
def setIn (key : κ) (value : α) : List (κ × α) → List (κ × α)
  | [] => [(key, value)]
  | (other, old) :: rest =>
      if other = key then (key, value) :: rest else (other, old) :: setIn key value rest

def get? (table : Table κ α) (key : κ) : Option α := findIn key table.entries

def insert (table : Table κ α) (key : κ) (value : α) : Table κ α :=
  ⟨setIn key value table.entries⟩

def contains (table : Table κ α) (key : κ) : Bool := (table.get? key).isSome

@[simp] theorem get?_empty (key : κ) : (empty : Table κ α).get? key = none := rfl

theorem findIn_setIn_self (key : κ) (value : α) (entries : List (κ × α)) :
    findIn key (setIn key value entries) = some value := by
  induction entries with
  | nil => simp [setIn, findIn]
  | cons entry rest ih =>
      by_cases same : entry.1 = key <;> simp [setIn, findIn, same, ih]

theorem findIn_setIn_of_ne {key other : κ} (differ : other ≠ key) (value : α)
    (entries : List (κ × α)) :
    findIn other (setIn key value entries) = findIn other entries := by
  induction entries with
  | nil => simp [setIn, findIn, Ne.symm differ]
  | cons entry rest ih =>
      by_cases same : entry.1 = key
      · simp [setIn, findIn, same, Ne.symm differ]
      · simp [setIn, findIn, same, ih]

theorem length_setIn (key : κ) (value : α) (entries : List (κ × α)) :
    (setIn key value entries).length =
      if (findIn key entries).isSome then entries.length else entries.length + 1 := by
  induction entries with
  | nil => simp [setIn, findIn]
  | cons entry rest ih =>
      by_cases same : entry.1 = key
      · simp [setIn, findIn, same]
      · by_cases found : (findIn key rest).isSome <;> simp_all [setIn, findIn]

@[simp] theorem get?_insert_self (table : Table κ α) (key : κ) (value : α) :
    (table.insert key value).get? key = some value :=
  findIn_setIn_self key value table.entries

/-- Setting one key leaves the others alone. -/
theorem get?_insert_of_ne (table : Table κ α) {key other : κ} (differ : other ≠ key) (value : α) :
    (table.insert key value).get? other = table.get? other :=
  findIn_setIn_of_ne differ value table.entries

theorem get?_insert (table : Table κ α) (key other : κ) (value : α) :
    (table.insert key value).get? other = if other = key then some value else table.get? other := by
  by_cases same : other = key
  · subst same
    simp
  · simp [same, get?_insert_of_ne table same value]

/-- A new key adds one to the size, an old one nothing. -/
theorem size_insert (table : Table κ α) (key : κ) (value : α) :
    (table.insert key value).size = if table.contains key then table.size else table.size + 1 :=
  length_setIn key value table.entries

end Table

end EqualityTree
