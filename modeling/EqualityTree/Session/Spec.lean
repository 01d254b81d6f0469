import EqualityTree.Number.Binary
import EqualityTree.Number.Fixed
import EqualityTree.Operator

/-!
# What commands say

Commands name things by ids and describe values, expressions and environments. A description is
read before anything is looked up, and a part of it may be left out or unreadable. What an
unreadable part means is decided only when its turn comes, so the first fault in order of
description is the one reported.
-/

namespace EqualityTree

/-- A part of a description as it was found. -/
inductive Field (α : Type)
  | absent
  | unreadable
  | given (value : α)

inductive ValueSpec
  | null
  | bool (b : Field Bool)
  | char (text : Field String)
  | int (kind : IntKind) (digits : Field String)
  | float (kind : FloatKind) (digits : Field String)
  | decimal (mantissa : Field String) (scale : Field Int)
  | enum (ty ordinal : Field String)
  /-- A new string instance. -/
  | str (text : Field String)
  /-- A new instance of a class. -/
  | object (cls : Field String)
  /-- The value of that id itself. -/
  | named (id : Field String)
  /-- The default value of a type. -/
  | default (ty : Field String)
  | unreadable

inductive ExprSpec
  | absent
  | unreadable
  /-- The expression of that id itself. -/
  | stored (id : String)
  | constant (value : ValueSpec) (ty : Field String)
  | default (ty : Field String)
  | parameter (ty name : Field String)
  /-- A property; it can be read if values are given for its reads. -/
  | property (owner name ty : Field String) (values : Field (List ValueSpec))
  /-- A new expression around the node of that id. -/
  | node (id : Field String)
  /-- The left operand of the node of that id. -/
  | leftOf (id : Field String)
  /-- The right operand of the node of that id. -/
  | rightOf (id : Field String)
  | comparison (op : Field Operator) (left right : ExprSpec) (method : Field String)
      (general lift : Field Bool)

inductive EnvironmentSpec
  | empty
  | unreadable
  /-- The environment of that id. -/
  | stored (id : String)
  /-- New bindings, in order. -/
  | bindings (entries : List (Field String × ValueSpec))

inductive TargetSpec
  | node (id : Field String)
  | expr (spec : ExprSpec)

inductive BodySpec
  | named (name : String)
  /-- Always the value described, which is made once. -/
  | value (spec : ValueSpec)

inductive ConversionSpec
  | absent
  | unreadable
  | stored (id : String)
  /-- The conversion of the node of that id. -/
  | ofNode (id : Field String)

end EqualityTree
