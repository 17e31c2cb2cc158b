import Understudy.Value.Basic
import Understudy.Decimal.Layout

set_option autoImplicit false

/-!
# Values as literals

How a value is written in messages and report paths: `null`, `true`, decimal integers, doubles in
the literal float style, text in double quotes without escapes (cut to its first 32 characters
and `...` when longer), instances as `#type@id`, and mock nodes as `mock`.
-/

namespace Understudy

def literalTextLimit : Nat := 32

def quoteLiteral (s : String) : String :=
  if s.length > literalTextLimit then "\"" ++ String.ofList (s.toList.take literalTextLimit) ++ "...\""
  else "\"" ++ s ++ "\""

/-- `#type@id`. -/
def Instance.text (o : Instance) : String := o.type.text ++ "@" ++ toString o.id.toNat

/-- The literal text of a value. -/
def Value.literal : Value → String
  | .null => "null"
  | .bool b => toString b
  | .int i => toString i.toInt
  | .float x => Decimal.FloatStyle.literal.render x
  | .str s => quoteLiteral s
  | .obj o => o.text
  | .mock _ => "mock"

def literalList (vs : List Value) : String := ", ".intercalate (vs.map Value.literal)

end Understudy
