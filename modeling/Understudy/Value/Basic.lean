import Understudy.Catalog.Hierarchy

set_option autoImplicit false

/-!
# Values

What flows through a mocked member: null, booleans, 64-bit integers, doubles, text, opaque
instances of described types, and mock nodes.

Two values are equal only when they are of the same variant: doubles compare as IEEE numbers (so
NaN equals nothing and the two zeros are equal), instances when type and id agree, and mock nodes
only when they are the same node. A value conforms to a declared type when its runtime type is
assignable to it; null and mock nodes have no runtime type and conform to every type that is not
a value type.
-/

namespace Understudy

/-- Names a node of a session's mock graph. -/
structure NodeId where
  idx : Nat
  deriving DecidableEq, Repr, Hashable, Inhabited

/-- An opaque instance of a described type, identified by the caller. -/
structure Instance where
  type : TypeId
  id : UInt64
  deriving DecidableEq, Repr

/-- A value passed to or returned from a mocked member. -/
inductive Value where
  | null
  | bool (b : Bool)
  | int (i : Int64)
  | float (x : Float)
  | str (s : String)
  | obj (o : Instance)
  /-- A mock node: the result of a call with no arranged value, or a mock stored as a value. -/
  | mock (n : NodeId)
  deriving Inhabited

namespace Value

def equals : Value → Value → Bool
  | .null, .null => true
  | .bool a, .bool b => a == b
  | .int a, .int b => a == b
  | .float a, .float b => a == b
  | .str a, .str b => a == b
  | .obj a, .obj b => a == b
  | .mock a, .mock b => a == b
  | _, _ => false

instance : BEq Value := ⟨equals⟩

def isNull : Value → Bool
  | .null => true
  | _ => false

def asMock? : Value → Option NodeId
  | .mock n => some n
  | _ => none

def runtimeType? : Value → Option TypeId
  | .null | .mock _ => none
  | .bool _ => some .bool
  | .int _ => some .int
  | .float _ => some .float
  | .str _ => some .string
  | .obj o => some o.type

/-- Whether the value may be stored in a slot declared as `t`. -/
def conformsTo (c : Catalog) (v : Value) (t : TypeId) : Bool :=
  match v.runtimeType? with
  | some actual => c.isAssignable t actual
  | none => !c.isValueKind t

/-- The name of the runtime type, for diagnostics: `null`, `mock`, or the type's name. -/
def typeName (c : Catalog) : Value → String
  | .null => "null"
  | .mock _ => "mock"
  | v => match v.runtimeType? with
    | some t => c.nameOf t
    | none => "?"

def defaultFor (t : TypeId) : Value :=
  if t == .bool then .bool false
  else if t == .int then .int 0
  else if t == .float then .float 0.0
  else .null

end Value

end Understudy
