import EqualityTree.Number.Shortest
import EqualityTree.Text.Quoted
import EqualityTree.Value.Basic

/-!
# The text of a value

Numbers are written plainly, characters and strings in quotes, an enum value as the name of its
type with the ordinal in parentheses, and an object as an unnamed value of its class.
-/

namespace EqualityTree.Value

def text : Value → String
  | bool true => "true"
  | bool false => "false"
  | char c => Text.quoteChar c
  | int _ n => n.text
  | float kind bits => kind.text bits
  | decimal x => x.text
  | enum ty ordinal => ty.name ++ "(" ++ ordinal.text ++ ")"
  | str _ text => Text.quoteString text
  | object _ cls => "value(" ++ cls.name ++ ")"
  | null => "null"

end EqualityTree.Value
