import EqualityTree.Expr.Render
import EqualityTree.Proofs.Tokens

/-!
# Texts of trees

The text of a leaf shows its end, if the names that are given to types, parameters and properties are
identifiers: it is a word, a word with another in parentheses, or a quoted text. A comparison begins with
a parenthesis, as no leaf does, and its operands are followed by a blank and by a parenthesis. So the text
of a tree can be read in one way only, up to leaves that are written alike.
-/

namespace EqualityTree

open Text

/-! ## Numbers -/

namespace Number

theorem not_delimiter_of_isDigit {c : Char} (digit : c.isDigit = true) : c ∉ delimiters := by
  intro member
  simp only [delimiters, List.mem_cons, List.not_mem_nil, or_false] at member
  rcases member with rfl | rfl | rfl | rfl | rfl <;> cases digit

theorem word_digits (n : Nat) : Word (digits n) where
  nonempty := by
    unfold digits
    rw [Nat.toDigits_eq_if (by decide)]
    split
    · exact List.cons_ne_nil _ _
    · exact List.append_ne_nil_of_right_ne_nil _ (List.cons_ne_nil _ _)
  plain := fun _ member => not_delimiter_of_isDigit (isDigit_of_mem_digits member)

theorem plain_zeros (count : Nat) : Plain (List.replicate count '0') := by
  intro c member
  rw [List.eq_of_mem_replicate member]
  decide

theorem word_signed {magnitude : List Char} (negative : Bool) (word : Word magnitude) :
    Word (signed negative magnitude) := by
  cases negative with
  | false => exact word
  | true => exact Word.cons (by decide) word.plain

theorem word_fixed (n places : Nat) : Word (fixed n places) := by
  unfold fixed
  dsimp only
  split
  · exact word_digits n
  · have padded : Plain (List.replicate (places + 1 - (digits n).length) '0' ++ digits n) :=
      (plain_zeros _).append (word_digits n).plain
    exact .prepend (padded.of_subset (List.take_subset _ _))
      (.cons (by decide) (padded.of_subset (List.drop_subset _ _)))

theorem word_positional (n : Nat) (power : Int) : Word (positional n power) := by
  unfold positional
  split
  · exact (word_digits n).append (plain_zeros _)
  · exact word_fixed n _

end Number

theorem Fixed.word_text {kind : IntKind} (n : Fixed kind) : Word n.text.toList := by
  rw [text, String.toList_ofList]
  exact Number.word_signed _ (Number.word_digits _)

theorem Decimal.word_text (x : Decimal) : Word x.text.toList := by
  rw [text, String.toList_ofList]
  exact Number.word_signed _ (Number.word_fixed _ _)

theorem FloatKind.word_text (kind : FloatKind) (bits : BitVec kind.width) :
    Word (kind.text bits).toList := by
  unfold text
  split
  · exact .of_all rfl rfl
  · rw [String.toList_ofList]
    exact Number.word_signed _ (.of_all rfl rfl)
  · rw [String.toList_ofList]
    exact Number.word_signed _ (.of_all rfl rfl)
  · rw [String.toList_ofList]
    exact Number.word_signed _ (Number.word_positional _ _)

/-! ## Names -/

/-- A letter or an underscore, and then letters, digits and underscores. -/
def Text.IsIdentifier (name : String) : Prop :=
  ∃ first rest, name.toList = first :: rest ∧ (first.isAlpha = true ∨ first = '_') ∧
    ∀ c ∈ rest, c.isAlphanum = true ∨ c = '_'

theorem Text.not_delimiter_of_isAlphanum {c : Char} (within : c.isAlphanum = true ∨ c = '_') :
    c ∉ delimiters := by
  intro member
  simp only [delimiters, List.mem_cons, List.not_mem_nil, or_false] at member
  rcases member with rfl | rfl | rfl | rfl | rfl <;> rcases within with within | within <;>
    cases within

theorem Text.IsIdentifier.word {name : String} (identifier : IsIdentifier name) :
    Word name.toList := by
  obtain ⟨first, rest, letters, begins, goesOn⟩ := identifier
  have begins : first.isAlphanum = true ∨ first = '_' := by
    refine begins.imp_left fun letter => ?_
    rw [Char.isAlphanum, letter, Bool.true_or]
  rw [letters]
  exact .cons (not_delimiter_of_isAlphanum begins) fun c member =>
    not_delimiter_of_isAlphanum (goesOn c member)

def ValueTy.givenNames : ValueTy → List String
  | enum ty => [ty.name]
  | _ => []

def RefTy.givenNames : RefTy → List String
  | cls ty => [ty.name]
  | _ => []

def Ty.givenNames : Ty → List String
  | value ty => ty.givenNames
  | nullable ty => ty.givenNames
  | ref ty => ty.givenNames

def Expr.givenNames : Expr → List String
  | constant _ value _ => value.naturalTy.givenNames
  | default _ ty => ty.givenNames
  | parameter _ name _ => [name]
  | property _ place => [place.owner, place.name]
  | comparison _ _ _ left right => left.givenNames ++ right.givenNames

theorem ValueTy.word_name {ty : ValueTy} (named : ∀ name ∈ ty.givenNames, IsIdentifier name) :
    Word ty.name.toList := by
  cases ty with
  | int kind => cases kind <;> exact .of_all rfl rfl
  | float kind => cases kind <;> exact .of_all rfl rfl
  | enum ty => exact (named _ (List.mem_singleton_self _)).word
  | _ => exact .of_all rfl rfl

theorem RefTy.word_name {ty : RefTy} (named : ∀ name ∈ ty.givenNames, IsIdentifier name) :
    Word ty.name.toList := by
  cases ty with
  | cls ty => exact (named _ (List.mem_singleton_self _)).word
  | _ => exact .of_all rfl rfl

theorem Ty.word_name {ty : Ty} (named : ∀ name ∈ ty.givenNames, IsIdentifier name) :
    Word ty.name.toList := by
  cases ty with
  | value ty => exact ty.word_name named
  | nullable ty =>
      rw [name, String.toList_append]
      exact (ValueTy.word_name named).append (.of_all rfl)
  | ref ty => exact ty.word_name named

/-! ## Leaves -/

/-- A word with another one in parentheses shows its end. -/
theorem Text.Word.token_call {name argument : String} (word : Word name.toList)
    (plain : Plain argument.toList) : Token (name ++ "(" ++ argument ++ ")").toList := by
  have token := Token.word word (.some plain)
  simpa [String.toList_append] using token

theorem Value.token_text {value : Value}
    (named : ∀ name ∈ value.naturalTy.givenNames, IsIdentifier name) :
    Token value.text.toList := by
  cases value with
  | bool b => cases b <;> exact (Word.of_all rfl rfl).token
  | char c => exact token_quoteChar c
  | int kind n => exact n.word_text.token
  | float kind bits => exact (kind.word_text bits).token
  | decimal x => exact x.word_text.token
  | enum ty ordinal =>
      have word : Word (ValueTy.enum ty).name.toList := ValueTy.word_name named
      exact word.token_call ordinal.word_text.plain
  | str stamp text => exact token_quoteString text
  | object stamp cls =>
      have word : Word "value".toList := .of_all rfl rfl
      have class_word : Word (RefTy.cls cls).name.toList := RefTy.word_name named
      exact word.token_call class_word.plain
  | null => exact (Word.of_all rfl rfl).token

namespace Expr

/-- All given names that occur in the text are identifiers. -/
def WellNamed (expr : Expr) : Prop := ∀ name ∈ expr.givenNames, IsIdentifier name

theorem WellNamed.token {expr : Expr} (named : expr.WellNamed) (leaf : expr.node? = none) :
    Token expr.render.toList := by
  cases expr with
  | constant stamp value ty =>
      rw [render_constant]
      exact Value.token_text named
  | default stamp ty =>
      have word : Word "default".toList := .of_all rfl rfl
      rw [render_default]
      exact word.token_call (Ty.word_name named).plain
  | parameter stamp name ty =>
      rw [render_parameter]
      exact (named name (List.mem_singleton_self _)).word.token
  | property stamp place =>
      have owner := (named place.owner List.mem_cons_self).word
      have name := (named place.name (List.mem_cons_of_mem _ List.mem_cons_self)).word
      rw [render_property, String.toList_append, String.toList_append]
      exact ((owner.append (.of_all rfl)).append name.plain).token
  | comparison stamp node terms left right => cases leaf

end Expr

/-! ## Trees -/

/-- The symbols of the operators are of one length, and they differ. -/
theorem Operator.symbol_end_unique {op other : Operator} {rest tail : List Char}
    (same : op.symbol.toList ++ rest = other.symbol.toList ++ tail) :
    op = other ∧ rest = tail := by
  cases op with
  | equal =>
      cases other with
      | equal => exact ⟨rfl, List.append_cancel_left same⟩
      | notEqual => simp [symbol] at same
  | notEqual =>
      cases other with
      | equal => simp [symbol] at same
      | notEqual => exact ⟨rfl, List.append_cancel_left same⟩

namespace Expr

/-- The trees have one shape, with the same operator at each two nodes and the same text at each two
leaves that correspond. -/
inductive Corresponds : Expr → Expr → Prop
  | leaf {left right : Expr} (leaf : left.node? = none) (otherLeaf : right.node? = none)
      (same : left.render = right.render) : Corresponds left right
  | node {stamp node otherStamp otherNode : Stamp} {terms otherTerms : Terms}
      {left right otherLeft otherRight : Expr} (op : terms.op = otherTerms.op)
      (lefts : Corresponds left otherLeft) (rights : Corresponds right otherRight) :
      Corresponds (.comparison stamp node terms left right)
        (.comparison otherStamp otherNode otherTerms otherLeft otherRight)

theorem Corresponds.render_eq {left right : Expr} (corresponds : left.Corresponds right) :
    left.render = right.render := by
  induction corresponds with
  | leaf _ _ same => exact same
  | node op _ _ left_ih right_ih =>
      rw [render_comparison, render_comparison, op, left_ih, right_ih]

/-- The text of a comparison, as it stands before something else. -/
theorem toList_render_append (stamp node : Stamp) (terms : Terms) (left right : Expr)
    (rest : List Char) :
    (comparison stamp node terms left right).render.toList ++ rest =
      '(' :: (left.render.toList ++ (' ' :: (terms.op.symbol.toList ++
        (' ' :: (right.render.toList ++ (')' :: rest)))))) := by
  simp [Operator.renderBetween, String.toList_append]

/-- Where a leaf stands in one text, a leaf of the same text stands in the other, because both show
their ends and no comparison begins as a leaf does. -/
theorem corresponds_of_leaf {left right : Expr} (leaf : left.node? = none)
    (leftNamed : left.WellNamed) (rightNamed : right.WellNamed) {rest other : List Char}
    (ends : Ends rest) (otherEnds : Ends other)
    (same : left.render.toList ++ rest = right.render.toList ++ other) :
    left.Corresponds right ∧ rest = other := by
  have token := leftNamed.token leaf
  cases otherLeaf : right.node? with
  | none =>
      obtain ⟨texts, rests⟩ := token.end_unique (rightNamed.token otherLeaf) ends otherEnds same
      exact ⟨.leaf leaf otherLeaf (String.toList_inj.mp texts), rests⟩
  | some node =>
      cases right with
      | comparison stamp node terms first second =>
          rw [toList_render_append] at same
          exact absurd same.symm (token.ne_open _)
      | _ => cases otherLeaf

/-- What can be cut off a text as the text of an expression is so in one way only. The induction is on
one of the trees, for all that may stand after it: the rest of a left operand holds the operator and the
right operand. -/
theorem corresponds_of_append {left right : Expr} (leftNamed : left.WellNamed)
    (rightNamed : right.WellNamed) {rest other : List Char} (ends : Ends rest)
    (otherEnds : Ends other) (same : left.render.toList ++ rest = right.render.toList ++ other) :
    left.Corresponds right ∧ rest = other := by
  induction left generalizing right rest other with
  | constant stamp value ty => exact corresponds_of_leaf rfl leftNamed rightNamed ends otherEnds same
  | default stamp ty => exact corresponds_of_leaf rfl leftNamed rightNamed ends otherEnds same
  | parameter stamp name ty => exact corresponds_of_leaf rfl leftNamed rightNamed ends otherEnds same
  | property stamp place => exact corresponds_of_leaf rfl leftNamed rightNamed ends otherEnds same
  | comparison stamp node terms first second first_ih second_ih =>
      cases otherLeaf : right.node? with
      | none =>
          rw [toList_render_append] at same
          exact absurd same ((rightNamed.token otherLeaf).ne_open _)
      | some otherNode =>
          cases right with
          | comparison otherStamp _ otherTerms otherFirst otherSecond =>
              obtain ⟨firstNamed, secondNamed⟩ := List.forall_mem_append.mp leftNamed
              obtain ⟨otherFirstNamed, otherSecondNamed⟩ := List.forall_mem_append.mp rightNamed
              rw [toList_render_append, toList_render_append, List.cons.injEq] at same
              obtain ⟨firsts, afterFirst⟩ := first_ih firstNamed otherFirstNamed (Ends.blank _)
                (Ends.blank _) same.2
              rw [List.cons.injEq] at afterFirst
              obtain ⟨ops, afterOp⟩ := Operator.symbol_end_unique afterFirst.2
              rw [List.cons.injEq] at afterOp
              obtain ⟨seconds, afterSecond⟩ := second_ih secondNamed otherSecondNamed
                (Ends.close _) (Ends.close _) afterOp.2
              rw [List.cons.injEq] at afterSecond
              exact ⟨.node ops firsts seconds, afterSecond.2⟩
          | _ => cases otherLeaf

end Expr

/-- Two expressions whose given names are identifiers have the same text exactly if they are of one
shape, with the same operator at each two nodes that correspond and the same text at each two leaves. -/
theorem text_determines_shape {left right : Expr} (leftNamed : left.WellNamed)
    (rightNamed : right.WellNamed) : left.render = right.render ↔ left.Corresponds right := by
  constructor
  · intro same
    have texts : left.render.toList ++ [] = right.render.toList ++ [] := by rw [same]
    exact (Expr.corresponds_of_append leftNamed rightNamed Ends.nil Ends.nil texts).1
  · exact Expr.Corresponds.render_eq

/-- A string that holds the text of a comparison is compared with null, and an equal string of another
making with a parameter of that name. -/
theorem quoted_comparison_corresponds_as_leaf :
    let written : Expr := .comparison ⟨0⟩ ⟨1⟩ ⟨.equal, true, none, none⟩
      (.constant ⟨2⟩ (.str ⟨3⟩ "a\" == (b") (.ref .str)) (.constant ⟨4⟩ .null .object)
    let other : Expr := .comparison ⟨5⟩ ⟨6⟩ ⟨.equal, true, none, none⟩
      (.constant ⟨7⟩ (.str ⟨8⟩ "a\" == (b") (.ref .str)) (.parameter ⟨9⟩ "null" .object)
    written.WellNamed ∧ other.WellNamed ∧ written.render = other.render ∧
      written.Corresponds other := by
  intro written other
  have writtenNamed : written.WellNamed := fun _ member => (List.not_mem_nil member).elim
  have otherNamed : other.WellNamed := by
    intro name member
    obtain rfl : name = "null" := List.mem_singleton.mp member
    refine ⟨'n', ['u', 'l', 'l'], rfl, Or.inl rfl, fun c letter => Or.inl ?_⟩
    simp only [List.mem_cons, List.not_mem_nil, or_false] at letter
    rcases letter with rfl | rfl | rfl <;> rfl
  have same : written.render = other.render := by
    simp [written, other, Operator.renderBetween, Value.text]
  exact ⟨writtenNamed, otherNamed, same, (text_determines_shape writtenNamed otherNamed).mp same⟩

end EqualityTree
