import Understudy.Catalog.Basic

set_option autoImplicit false

/-!
# The type catalogue

The catalogue holds every type description of a session, in registration order: the six built-in
types first, then registered types under fresh ids counted up from 16. A name refers to the type
registered last under it, so registering `Int` again hides the built-in `Int` from lookups by
name while id 4 still names it.
-/

namespace Understudy

/-- Registered type descriptions. -/
structure Catalog where
  /-- Every description with its id, in registration order. -/
  entries : List (TypeId × TypeDesc)
  /-- The id the next registration gets. -/
  next : UInt32
  deriving Repr

namespace Catalog

/-- The built-in types: `Object`, `Void`, `Bool`, `Int`, `Float` and the sealed class `String`. -/
def standard : Catalog :=
  { entries :=
      [(.object, .classType "Object"), (.void, .valueType "Void"), (.bool, .valueType "Bool"),
        (.int, .valueType "Int"), (.float, .valueType "Float"),
        (.string, { TypeDesc.classType "String" with mods := { sealed := true } })]
    next := TypeId.firstUser }

/-- Registers a description under a fresh id. -/
def register (c : Catalog) (d : TypeDesc) : TypeId × Catalog :=
  (⟨c.next⟩, { entries := c.entries ++ [(⟨c.next⟩, d)], next := c.next + 1 })

/-- The description registered under an id. -/
def get? (c : Catalog) (t : TypeId) : Option TypeDesc :=
  (c.entries.reverse.find? (·.1 == t)).map (·.2)

/-- Whether an id is registered. -/
def contains (c : Catalog) (t : TypeId) : Bool := (c.get? t).isSome

/-- The id registered last under a name. -/
def lookup (c : Catalog) (name : String) : Option TypeId :=
  (c.entries.reverse.find? (·.2.name == name)).map (·.1)

/-- The kind of a registered type. -/
def kind? (c : Catalog) (t : TypeId) : Option TypeKind := (c.get? t).map (·.kind)

/-- The name of a type for diagnostics; an unknown id is written `#n`. -/
def nameOf (c : Catalog) (t : TypeId) : String :=
  match c.get? t with
  | some d => d.name
  | none => t.text

def isValueKind (c : Catalog) (t : TypeId) : Bool := c.kind? t == some .valueType

/-- The number of registered types, built-ins included. -/
def size (c : Catalog) : Nat := c.entries.length

def baseOf (c : Catalog) (t : TypeId) : Option TypeId :=
  match c.get? t with
  | none => none
  | some d =>
    if d.kind == .interfaceType || t == .object then none else some (d.base.getD .object)

end Catalog

end Understudy
