import Understudy.Value.Basic

set_option autoImplicit false

/-!
# Typed parameters

An action may take its arguments as a boolean, an integer, a double, text, text or null, or any
value. Each kind declares a type for checking calls and reads a value: strictly by variant, text
refusing null, and any value accepting everything (declared as `Object`). What is read is again a
value, the same one: reading only decides whether it fits.
-/

namespace Understudy

/-- The kind of a typed parameter. -/
inductive ArgKind where
  | bool
  | int
  | float
  | text
  | optText
  | any
  deriving DecidableEq, Repr

namespace ArgKind

/-- The type the parameter is declared as. -/
def declared : ArgKind → TypeId
  | .bool => .bool
  | .int => .int
  | .float => .float
  | .text => .string
  | .optText => .string
  | .any => .object

def read? : ArgKind → Value → Option Value
  | .bool, v@(.bool _) => some v
  | .int, v@(.int _) => some v
  | .float, v@(.float _) => some v
  | .text, v@(.str _) => some v
  | .optText, v@(.str _) => some v
  | .optText, .null => some .null
  | .any, v => some v
  | _, _ => none

/-- Whether the value fits the kind. -/
def accepts (k : ArgKind) (v : Value) : Bool := (k.read? v).isSome

end ArgKind

end Understudy
