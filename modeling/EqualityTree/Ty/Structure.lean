import EqualityTree.Text.Quoted
import EqualityTree.Ty.Basic

/-!
# The long form of a type

Where the short name of a type could stand for several types, its structure is written out: the
constructor of the type and, for a nominal type, the quoted name and the whole chain of bases.
-/

namespace EqualityTree

namespace ClassTy

/-- The definition of a class with the definitions of its bases. -/
def structureText : ClassTy → String
  | root _ name => "ClassTy(ClassDef \x7b name: " ++ Text.quoteName name ++ ", base: None \x7d)"
  | derived _ name base =>
      "ClassTy(ClassDef \x7b name: " ++ Text.quoteName name ++ ", base: Some(" ++
        base.structureText ++ ") \x7d)"

end ClassTy

namespace ValueTy

def structureText : ValueTy → String
  | bool => "Bool"
  | char => "Char"
  | int .i8 => "I8"
  | int .i16 => "I16"
  | int .i32 => "I32"
  | int .i64 => "I64"
  | int .u8 => "U8"
  | int .u16 => "U16"
  | int .u32 => "U32"
  | int .u64 => "U64"
  | float .single => "F32"
  | float .double => "F64"
  | decimal => "Decimal"
  | enum ty => "Enum(EnumTy(EnumDef \x7b name: " ++ Text.quoteName ty.name ++ " \x7d))"

end ValueTy

namespace RefTy

def structureText : RefTy → String
  | str => "Str"
  | cls ty => "Class(" ++ ty.structureText ++ ")"
  | object => "Object"

end RefTy

namespace Ty

/-- The long form of a type, with its nullable form spelled out. -/
def structureText : Ty → String
  | value ty => ty.structureText
  | nullable ty => "Nullable(" ++ ty.structureText ++ ")"
  | ref ty => ty.structureText

end Ty

end EqualityTree
