set_option autoImplicit false

/-!
# Type descriptions

A type is described by hand: a class, an interface or a value type, with a base, the interfaces
it declares, its members and its constructors. A member has a shape (method, property, indexer,
event or field), a visibility, and modifiers that say whether it may be overridden.

Types are named by 32-bit ids. Id 0 names nothing; ids 1 to 6 are the built-in types and user
types start at 16.
-/

namespace Understudy

structure TypeId where
  raw : UInt32
  deriving DecidableEq, Repr, Hashable, Inhabited

namespace TypeId

/-- The root of every class chain; every value conforms to it. -/
def object : TypeId := ⟨1⟩
/-- The result type of members that give nothing. -/
def void : TypeId := ⟨2⟩
def bool : TypeId := ⟨3⟩
def int : TypeId := ⟨4⟩
def float : TypeId := ⟨5⟩
/-- Text; a reference type, so it accepts null. -/
def string : TypeId := ⟨6⟩

def firstUser : UInt32 := 16

def isValid (t : TypeId) : Bool := t.raw != 0

def isBuiltin (t : TypeId) : Bool := t.raw != 0 && t.raw < firstUser

/-- `#n`, the id as diagnostics write it. -/
def text (t : TypeId) : String := "#" ++ toString t.raw.toNat

end TypeId

/-- What kind of type a description is. -/
inductive TypeKind where
  /-- A reference type with single inheritance. -/
  | classType
  /-- A contract; its members are implicitly public and abstract. -/
  | interfaceType
  /-- A value type: never null, never proxied. -/
  | valueType
  deriving DecidableEq, Repr

structure TypeMods where
  /-- Cannot be derived from. -/
  sealed : Bool := false
  /-- Cannot be instantiated directly. -/
  abstract : Bool := false
  deriving DecidableEq, Repr

/-- Who may reach a member. -/
inductive Visibility where
  | pub
  | prot
  | protInternal
  | internal
  | privProt
  | priv
  deriving DecidableEq, Repr

def Visibility.isReachable : Visibility → Bool
  | .pub | .prot | .protInternal => true
  | .internal | .privProt | .priv => false

structure MemberMods where
  abstract : Bool := false
  virtual : Bool := false
  /-- Overrides an inherited virtual; itself virtual unless sealed. -/
  override : Bool := false
  /-- No further overriding. -/
  sealed : Bool := false
  /-- Not an instance member; never part of a surface. -/
  static : Bool := false
  /-- A field assignable only during construction. -/
  readonly : Bool := false
  deriving DecidableEq, Repr

def MemberMods.isOverridable (m : MemberMods) : Bool :=
  (m.abstract || m.virtual || m.override) && !m.sealed

def MemberMods.union (a b : MemberMods) : MemberMods :=
  ⟨a.abstract || b.abstract, a.virtual || b.virtual, a.override || b.override,
    a.sealed || b.sealed, a.static || b.static, a.readonly || b.readonly⟩

structure Param where
  name : String
  type : TypeId
  /-- Written by the callee. -/
  isOut : Bool := false
  deriving DecidableEq, Repr

/-- The property or event a method is an accessor of. -/
inductive Accessor where
  | property (name : String)
  | event (name : String)
  deriving DecidableEq, Repr

/-- The shape of a member. -/
inductive Shape where
  | method (genericArity : Nat) (params : List Param) (returns : TypeId)
      (accessorOf : Option Accessor)
  | property (type : TypeId) (readable writable : Bool)
  | indexer (params : List Param) (type : TypeId) (readable writable : Bool)
  | event (handlerParams : List TypeId)
  /-- Plain data; never overridable, a proxy can only seed it. -/
  | field (type : TypeId)
  deriving DecidableEq, Repr

structure Member where
  name : String
  shape : Shape
  visibility : Visibility := .pub
  mods : MemberMods := {}
  deriving DecidableEq, Repr

def indexerName : String := "Item"

namespace Member

/-- A public, non-virtual method. -/
def method (name : String) (params : List Param) (returns : TypeId) : Member :=
  ⟨name, .method 0 params returns none, .pub, {}⟩

/-- A public, non-virtual property that can be read and written. -/
def property (name : String) (type : TypeId) : Member := ⟨name, .property type true true, .pub, {}⟩

/-- A public, non-virtual indexer that can be read and written. -/
def indexer (params : List Param) (type : TypeId) : Member :=
  ⟨indexerName, .indexer params type true true, .pub, {}⟩

/-- A public event. -/
def event (name : String) (handlerParams : List TypeId) : Member :=
  ⟨name, .event handlerParams, .pub, {}⟩

/-- A public field. -/
def field (name : String) (type : TypeId) : Member := ⟨name, .field type, .pub, {}⟩

def withGenericArity (m : Member) (n : Nat) : Member :=
  match m.shape with
  | .method _ ps r a => { m with shape := .method n ps r a }
  | _ => m

def asAccessorOf (m : Member) (owner : Accessor) : Member :=
  match m.shape with
  | .method n ps r _ => { m with shape := .method n ps r (some owner) }
  | _ => m

def withAccessMode (m : Member) (read write : Bool) : Member :=
  match m.shape with
  | .property t _ _ => { m with shape := .property t read write }
  | .indexer ps t _ _ => { m with shape := .indexer ps t read write }
  | _ => m

def withMods (m : Member) (mods : MemberMods) : Member := { m with mods := m.mods.union mods }

def isStatic (m : Member) : Bool := m.mods.static

def isAbstract (m : Member) : Bool := m.mods.abstract

def isReadonly (m : Member) : Bool := m.mods.readonly

def isAccessor (m : Member) : Bool :=
  match m.shape with
  | .method _ _ _ (some _) => true
  | _ => false

end Member

structure Ctor where
  visibility : Visibility
  params : List Param
  deriving DecidableEq, Repr

structure TypeDesc where
  name : String
  kind : TypeKind
  mods : TypeMods := {}
  /-- The base class; none on a class means `Object`. -/
  base : Option TypeId := none
  /-- Declared interfaces; for an interface, the interfaces it extends. -/
  interfaces : List TypeId := []
  members : List Member := []
  /-- None means one implicit public constructor without parameters. -/
  ctors : List Ctor := []
  deriving DecidableEq, Repr

namespace TypeDesc

def classType (name : String) : TypeDesc := { name, kind := .classType }

def interfaceType (name : String) : TypeDesc := { name, kind := .interfaceType }

/-- A value type description; value types are sealed. -/
def valueType (name : String) : TypeDesc := { name, kind := .valueType, mods := { sealed := true } }

def isSealed (d : TypeDesc) : Bool := d.mods.sealed || d.kind == .valueType

def hasReachableCtor (d : TypeDesc) : Bool :=
  match d.kind with
  | .interfaceType => true
  | .valueType => false
  | .classType => d.ctors.isEmpty || d.ctors.any (·.visibility.isReachable)

end TypeDesc

end Understudy
