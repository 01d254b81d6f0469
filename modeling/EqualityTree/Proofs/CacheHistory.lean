import EqualityTree.Eval.Cache
import EqualityTree.Proofs.Backends
import Mathlib.Data.Finset.Card

/-!
# Histories of a cache

A cache is asked for compiled nodes and cleared, any number of times in any order. What it holds and
counts is determined by that history: it holds the nodes asked for since the last clearing, each in
its compiled form, and it counts a miss for each request that is the first for its node since then.
Only at a miss is a node compiled. A stamp is drawn each time that is done, so the stamps drawn along
a history tell how often nodes were compiled, and a code that is found again has the stamp that it
took when it was.
-/

namespace EqualityTree

namespace Cache

/-- One use of a cache: a request for the compiled form of a node, or a clearing. -/
inductive Use
  | request (node : Comparison)
  | clear

def Use.node? : Use → Option Comparison
  | request node => some node
  | clear => none

/-- The cache after one more use, which draws a stamp if a node is compiled for it. -/
def use (cache : Cache) : Use → StateM Stamp Cache
  | .request node => do
      let (_, after) ← cache.getOrCompile node
      return after
  | .clear => return cache.clear

/-- The cache after a history of uses, the earliest first. -/
def after (history : List Use) : StateM Stamp Cache := history.foldlM use empty

theorem run_after_append (history later : List Use) (start : Stamp) :
    (after (history ++ later)).run start =
      (later.foldlM use ((after history).run start).1).run ((after history).run start).2 := by
  rw [after, List.foldlM_append]
  rfl

/-! ## What a history tells -/

def requested (history : List Use) : List Comparison := history.filterMap Use.node?

/-- The nodes asked for since the last clearing, or since the start. -/
def recent (history : List Use) : List Comparison :=
  (history.reverse.takeWhile fun use => use.node?.isSome).filterMap Use.node?

/-- Whether the use at the position asks for a node and no earlier one has asked for it since the
last clearing before the position, or since the start. -/
def isFirst (history : List Use) (position : Nat) : Bool :=
  match history[position]?.bind Use.node? with
  | some node => node ∉ recent (history.take position)
  | none => false

/-- The number of requests that were the first for their node since the last clearing before them,
or since the start. -/
def firstRequests (history : List Use) : Nat :=
  (List.range history.length).countP (isFirst history)

theorem requested_append (history : List Use) (last : Use) :
    requested (history ++ [last]) = requested history ++ last.node?.toList := by
  rw [requested, List.filterMap_append]
  cases last <;> rfl

theorem recent_append_request (history : List Use) (node : Comparison) :
    recent (history ++ [.request node]) = node :: recent history := by
  simp [recent, Use.node?]

theorem recent_append_clear (history : List Use) : recent (history ++ [.clear]) = [] := by
  simp [recent, Use.node?]

/-- Whether a request was the first for its node is not changed by what comes later. -/
theorem isFirst_append_of_lt {history : List Use} {position : Nat}
    (within : position < history.length) (last : Use) :
    isFirst (history ++ [last]) position = isFirst history position := by
  rw [isFirst, isFirst, List.getElem?_append_left within,
    List.take_append_of_le_length (Nat.le_of_lt within)]

theorem isFirst_append_length (history : List Use) (last : Use) :
    isFirst (history ++ [last]) history.length =
      last.node?.any fun node => node ∉ recent history := by
  rw [isFirst, List.getElem?_concat_length, List.take_left, Option.bind_some]
  cases last.node? <;> rfl

theorem firstRequests_append (history : List Use) (last : Use) :
    firstRequests (history ++ [last]) =
      firstRequests history +
        if last.node?.any (fun node => node ∉ recent history) then 1 else 0 := by
  have earlier : (List.range history.length).countP (isFirst (history ++ [last])) =
      (List.range history.length).countP (isFirst history) := by
    refine List.countP_congr fun position within => ?_
    rw [isFirst_append_of_lt (List.mem_range.mp within)]
  rw [firstRequests, List.length_append, List.length_singleton, List.range_succ,
    List.countP_append, earlier, List.countP_singleton, isFirst_append_length, firstRequests]

/-! ## Requests -/

theorem getOrCompile_of_found {cache : Cache} {node : Comparison} {compiled : CompiledComparison}
    (found : cache.entries.get? node = some compiled) (supply : Stamp) :
    (cache.getOrCompile node).run supply =
      ((compiled, ⟨cache.entries, cache.hits + 1, cache.misses⟩), supply) := by
  rw [getOrCompile, found]
  rfl

theorem getOrCompile_of_missing {cache : Cache} {node : Comparison}
    (missing : cache.entries.get? node = none) (supply : Stamp) :
    (cache.getOrCompile node).run supply =
      ((.ofNode supply node,
        ⟨cache.entries.insert node (.ofNode supply node), cache.hits, cache.misses + 1⟩),
        supply.next) := by
  rw [getOrCompile, missing]
  rfl

theorem run_use_request (cache : Cache) (node : Comparison) (supply : Stamp) :
    (cache.use (.request node)).run supply =
      (((cache.getOrCompile node).run supply).1.2, ((cache.getOrCompile node).run supply).2) :=
  rfl

/-- After a request the code that it gave is found. -/
theorem get?_of_request (cache : Cache) (node : Comparison) (supply : Stamp) :
    ((cache.use (.request node)).run supply).1.entries.get? node =
      some ((cache.getOrCompile node).run supply).1.1 := by
  rw [run_use_request]
  cases found : cache.entries.get? node with
  | some compiled =>
      rw [getOrCompile_of_found found]
      exact found
  | none =>
      rw [getOrCompile_of_missing found]
      exact Table.get?_insert_self _ _ _

/-- Only a clearing takes a code away. -/
theorem get?_of_use {cache : Cache} {node : Comparison} {compiled : CompiledComparison}
    (found : cache.entries.get? node = some compiled) {next : Use} (keeps : next ≠ .clear)
    (supply : Stamp) :
    ((cache.use next).run supply).1.entries.get? node = some compiled := by
  cases next with
  | clear => exact absurd rfl keeps
  | request other =>
      rw [run_use_request]
      cases otherFound : cache.entries.get? other with
      | some code =>
          rw [getOrCompile_of_found otherFound]
          exact found
      | none =>
          have differ : node ≠ other := by
            rintro rfl
            cases found.symm.trans otherFound
          rw [getOrCompile_of_missing otherFound]
          exact (Table.get?_insert_of_ne _ differ _).trans found

/-- Until the next clearing the same code is found. -/
theorem get?_of_uses {cache : Cache} {node : Comparison} {compiled : CompiledComparison}
    (found : cache.entries.get? node = some compiled) {later : List Use}
    (keeps : .clear ∉ later) (supply : Stamp) :
    ((later.foldlM use cache).run supply).1.entries.get? node = some compiled := by
  induction later generalizing cache supply with
  | nil => exact found
  | cons next later ih =>
      rw [List.mem_cons, not_or] at keeps
      obtain ⟨nextKeeps, laterKeep⟩ := keeps
      exact ih (get?_of_use found (Ne.symm nextKeeps) supply) laterKeep _

/-! ## What the cache keeps -/

/-- The cache holds and has counted what the history tells, and as many stamps have been drawn since
the start as it has counted misses. -/
structure Tracks (cache : Cache) (supply start : Stamp) (history : List Use) : Prop where
  known : ∀ node, (cache.entries.get? node).isSome = true ↔ node ∈ recent history
  code : ∀ node compiled, cache.entries.get? node = some compiled →
    ∃ stamp, compiled = .ofNode stamp node
  size : cache.size = (recent history).toFinset.card
  misses : cache.misses = firstRequests history
  requests : cache.hits + cache.misses = (requested history).length
  drawn : supply.index = start.index + cache.misses

namespace Tracks

variable {cache : Cache} {supply start : Stamp} {history : List Use}

theorem empty (start : Stamp) : Cache.empty.Tracks start start [] where
  known := fun _ => by simp [Cache.empty, recent]
  code := fun _ _ found => by cases found
  size := rfl
  misses := rfl
  requests := rfl
  drawn := rfl

theorem exists_code_of_recent (tracks : cache.Tracks supply start history) {node : Comparison}
    (known : node ∈ recent history) :
    ∃ stamp, cache.entries.get? node = some (.ofNode stamp node) := by
  obtain ⟨compiled, found⟩ := Option.isSome_iff_exists.mp ((tracks.known node).mpr known)
  obtain ⟨stamp, rfl⟩ := tracks.code node compiled found
  exact ⟨stamp, found⟩

theorem missing_of_new (tracks : cache.Tracks supply start history) {node : Comparison}
    (fresh : node ∉ recent history) : cache.entries.get? node = none := by
  rw [← tracks.known, Bool.not_eq_true, Option.isSome_eq_false_iff, Option.isNone_iff_eq_none]
    at fresh
  exact fresh

/-- The code given is that of the node, and only a new node counts as a miss. -/
theorem answer (tracks : cache.Tracks supply start history) (node : Comparison) :
    (∃ stamp, ((cache.getOrCompile node).run supply).1.1 = .ofNode stamp node) ∧
      ((cache.getOrCompile node).run supply).1.2.misses =
        cache.misses + if node ∈ recent history then 0 else 1 := by
  by_cases known : node ∈ recent history
  · obtain ⟨stamp, found⟩ := tracks.exists_code_of_recent known
    rw [getOrCompile_of_found found, if_pos known]
    exact ⟨⟨stamp, rfl⟩, rfl⟩
  · rw [getOrCompile_of_missing (tracks.missing_of_new known), if_neg known]
    exact ⟨⟨supply, rfl⟩, rfl⟩

/-- Asking for a node found keeps the entries, counts a hit and compiles nothing. -/
theorem request_of_recent (tracks : cache.Tracks supply start history) {node : Comparison}
    (known : node ∈ recent history) :
    Tracks ⟨cache.entries, cache.hits + 1, cache.misses⟩ supply start
      (history ++ [.request node]) := by
  have notFirst : firstRequests (history ++ [.request node]) = firstRequests history := by
    rw [firstRequests_append]
    simp [Use.node?, known]
  constructor
  · intro other
    rw [recent_append_request, List.mem_cons, or_iff_right_of_imp]
    · exact tracks.known other
    · rintro rfl
      exact known
  · exact tracks.code
  -- The node is listed once more, but it is no further node.
  · have counted : node ∈ (recent history).toFinset := List.mem_toFinset.mpr known
    rw [recent_append_request, List.toFinset_cons, Finset.insert_eq_of_mem counted]
    exact tracks.size
  · rw [notFirst]
    exact tracks.misses
  · have total := tracks.requests
    rw [requested_append, List.length_append]
    change cache.hits + 1 + cache.misses = (requested history).length + 1
    omega
  · exact tracks.drawn

/-- Asking for a new node compiles it, which draws a stamp, adds its entry and counts a miss. -/
theorem request_of_new (tracks : cache.Tracks supply start history) {node : Comparison}
    (fresh : node ∉ recent history) :
    Tracks ⟨cache.entries.insert node (.ofNode supply node), cache.hits, cache.misses + 1⟩
      supply.next start (history ++ [.request node]) := by
  have first : firstRequests (history ++ [.request node]) = firstRequests history + 1 := by
    rw [firstRequests_append]
    simp [Use.node?, fresh]
  constructor
  · intro other
    rw [Table.get?_insert, recent_append_request, List.mem_cons, ← tracks.known other]
    by_cases same : other = node
    · simp [same]
    · simp [same]
  · intro other compiled found
    rw [Table.get?_insert] at found
    split at found
    · next same =>
      cases found
      exact ⟨supply, same ▸ rfl⟩
    · exact tracks.code other compiled found
  · have absent : cache.entries.contains node = false := by
      rw [Table.contains, tracks.missing_of_new fresh]
      rfl
    have uncounted : node ∉ (recent history).toFinset := by rwa [List.mem_toFinset]
    change (cache.entries.insert node (.ofNode supply node)).size = _
    rw [Table.size_insert, absent, recent_append_request, List.toFinset_cons,
      Finset.card_insert_of_notMem uncounted, ← tracks.size]
    rfl
  · rw [first, ← tracks.misses]
  · have total := tracks.requests
    rw [requested_append, List.length_append]
    change cache.hits + (cache.misses + 1) = (requested history).length + 1
    omega
  · have drawn := tracks.drawn
    change supply.index + 1 = start.index + (cache.misses + 1)
    omega

theorem clear (tracks : cache.Tracks supply start history) :
    cache.clear.Tracks supply start (history ++ [.clear]) := by
  constructor
  · intro node
    simp [recent_append_clear, Cache.clear]
  · intro node compiled found
    cases found
  · rw [recent_append_clear]
    rfl
  · rw [firstRequests_append]
    exact tracks.misses
  · rw [requested_append, List.length_append]
    exact tracks.requests
  · exact tracks.drawn

/-- One more use keeps the cache, the stamps and the history in step. -/
theorem use (tracks : cache.Tracks supply start history) (next : Use) :
    ((cache.use next).run supply).1.Tracks ((cache.use next).run supply).2 start
      (history ++ [next]) := by
  cases next with
  | clear => exact tracks.clear
  | request node =>
      rw [run_use_request]
      by_cases known : node ∈ recent history
      · obtain ⟨stamp, found⟩ := tracks.exists_code_of_recent known
        rw [getOrCompile_of_found found]
        exact tracks.request_of_recent known
      · rw [getOrCompile_of_missing (tracks.missing_of_new known)]
        exact tracks.request_of_new known

end Tracks

/-- Every cache tracks the history it has been through. -/
theorem tracks_after (history : List Use) (start : Stamp) :
    ((after history).run start).1.Tracks ((after history).run start).2 start history := by
  induction history using List.reverseRecOn with
  | nil => exact Tracks.empty start
  | append_singleton earlier last ih =>
      rw [run_after_append]
      exact ih.use last

theorem isEmpty_iff (cache : Cache) : cache.isEmpty = true ↔ cache.size = 0 := by
  rw [isEmpty, Table.isEmpty, List.isEmpty_iff, size, Table.size, List.length_eq_zero_iff]

/-- Up to the next clearing, the code found for a node is the one that an earlier request gave. -/
theorem get?_after_request (earlier later : List Use) (node : Comparison)
    (keeps : .clear ∉ later) (start : Stamp) :
    let before := (after earlier).run start
    ((after (earlier ++ .request node :: later)).run start).1.entries.get? node =
      some ((before.1.getOrCompile node).run before.2).1.1 := by
  intro before
  rw [run_after_append]
  exact get?_of_uses (get?_of_request before.1 node before.2) keeps _

/-- After any history of requests and clearings, a request gives code that does, in every
environment and from every world, exactly what a walk of that very node does, and it counts as a
miss exactly if the node was not asked for since the last clearing. The misses are the requests that
were the first for their node since the start or the last clearing before them, and hits and misses
together are the requests. Nodes are compiled as often as there are misses, for that many stamps are
drawn, and a node that was asked for is not compiled again before the next clearing: each request for
it gives the very code of the first one and draws no stamp. The size is the number of distinct nodes
asked for since the last clearing, and the cache is empty exactly if it is zero. Clearing takes the
entries and leaves both counters. -/
theorem history_determines_answers_and_counters (history : List Use) (start : Stamp) :
    let cache := ((after history).run start).1
    let supply := ((after history).run start).2
    (∀ node : Comparison,
      (∀ (σ : Type) (host : Host σ) env before,
        EvalM.exec (((cache.getOrCompile node).run supply).1.1.invoke host env) before =
          EvalM.exec (node.eval host env) before) ∧
      ((cache.getOrCompile node).run supply).1.2.misses =
        cache.misses + if node ∈ recent history then 0 else 1) ∧
    cache.misses = firstRequests history ∧
    cache.hits + firstRequests history = (requested history).length ∧
    supply.index = start.index + cache.misses ∧
    (∀ earlier node later, history = earlier ++ .request node :: later → .clear ∉ later →
      let before := (after earlier).run start
      (cache.getOrCompile node).run supply =
        ((((before.1.getOrCompile node).run before.2).1.1,
          ⟨cache.entries, cache.hits + 1, cache.misses⟩), supply)) ∧
    cache.size = (recent history).toFinset.card ∧
    (cache.isEmpty = true ↔ cache.size = 0) ∧
    (after (history ++ [.clear])).run start = (⟨.empty, cache.hits, cache.misses⟩, supply) := by
  intro cache supply
  have tracks : cache.Tracks supply start history := tracks_after history start
  refine ⟨fun node => ⟨?_, (tracks.answer node).2⟩, tracks.misses, ?_, tracks.drawn, ?_, tracks.size,
    cache.isEmpty_iff, run_after_append history [.clear] start⟩
  · intro σ host env before
    obtain ⟨stamp, code⟩ := (tracks.answer node).1
    rw [code, CompiledComparison.invoke_ofNode]
  · rw [← tracks.misses]
    exact tracks.requests
  · rintro earlier node later rfl keeps
    exact getOrCompile_of_found (get?_after_request earlier later node keeps start) supply

/-- Two nodes that look alike are two nodes, and a clearing makes a node new again. -/
example :
    let operand : Expr := .parameter ⟨0⟩ "x" .bool
    let one : Comparison := ⟨⟨.equal, true, none, none⟩, ⟨1⟩, operand, operand⟩
    let other : Comparison := ⟨⟨.equal, true, none, none⟩, ⟨2⟩, operand, operand⟩
    let uses := after [.request one, .request other, .request one, .clear, .request one]
    (uses.run ⟨0⟩).1.misses = 3 ∧ (uses.run ⟨0⟩).1.hits = 1 ∧ (uses.run ⟨0⟩).1.size = 1 ∧
      (uses.run ⟨0⟩).2 = ⟨3⟩ := by
  decide

end Cache

end EqualityTree
