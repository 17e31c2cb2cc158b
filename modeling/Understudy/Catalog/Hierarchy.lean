import Understudy.Catalog.Store

set_option autoImplicit false

/-!
# Class chains, interfaces and assignability

The chain of a class or value type lists its bases from `Object` down to the type itself; an
interface's chain is just `Object`. A chain fails on an unknown type, on a base that is not
registered or not a class, and on a base that repeats.

The interfaces of a type are collected depth first, each declared interface before the ones it
extends, then those of the base, and so on down the chain; each appears once, at its first
visit. An interface reached again is not an error. Walks give up past 128 levels: an interface
nested deeper, or a base walk longer than 128 types, is reported as a cycle.

A type is derived from another when it lies below it in the chain or implements it, and a value
of one type may be stored in a slot of another when the two are equal, the slot is `Object`, or
the first is derived from the second.
-/

namespace Understudy

/-- What a base or interface reference is wrong about. -/
inductive BaseFault where
  | unregistered
  | notClass
  | notInterface
  deriving DecidableEq, Repr

/-- The text of a base fault. -/
def BaseFault.text : BaseFault → String
  | .unregistered => "base type is not registered"
  | .notClass => "base type is not a class"
  | .notInterface => "implemented type is not an interface"

/-- Why a type's hierarchy or surface cannot be computed. -/
inductive SurfaceFault where
  | unknownType (t : TypeId)
  | inheritanceCycle (name : String)
  | invalidBase (name : String) (base : TypeId) (fault : BaseFault)
  /-- A malformed description: one signature declared twice on a level, or a property
  re-declared with another type. -/
  | invariantViolation (typeName member detail : String)
  deriving DecidableEq, Repr

def SurfaceFault.message : SurfaceFault → String
  | .unknownType t => s!"type {t.text} is not registered"
  | .inheritanceCycle name => s!"inheritance cycle through type '{name}'"
  | .invalidBase name base fault => s!"type '{name}' has invalid base {base.text}: {fault.text}"
  | .invariantViolation typeName member detail =>
    s!"internal invariant violated on '{typeName}.{member}': {detail}"

def hierarchyLimit : Nat := 128

namespace Catalog

def require (c : Catalog) (t : TypeId) : Except SurfaceFault TypeDesc :=
  match c.get? t with
  | some d => .ok d
  | none => .error (.unknownType t)

def chainWalk (c : Catalog) (root : TypeId) : Nat → TypeId → List TypeId →
    Except SurfaceFault (List TypeId)
  | 0, _, _ => .error (.inheritanceCycle (c.nameOf root))
  | fuel + 1, current, acc =>
    match c.baseOf current with
    | none => .ok acc
    | some base =>
      match c.get? base with
      | none => .error (.invalidBase (c.nameOf current) base .unregistered)
      | some bd =>
        if bd.kind != .classType then .error (.invalidBase (c.nameOf current) base .notClass)
        else if acc.contains base then .error (.inheritanceCycle (c.nameOf root))
        else chainWalk c root fuel base (base :: acc)

/-- The chain of a type, `Object` first and the type last; `[Object]` for an interface. -/
def chain (c : Catalog) (t : TypeId) : Except SurfaceFault (List TypeId) := do
  let d ← c.require t
  if d.kind == .interfaceType then return [.object]
  c.chainWalk t (c.size + 1) t [t]

def collectInterface (c : Catalog) : Nat → TypeId → List TypeId → Except SurfaceFault (List TypeId)
  | 0, iface, _ => .error (.inheritanceCycle (c.nameOf iface))
  | room + 1, iface, seen => do
    let d ← c.require iface
    if d.kind != .interfaceType then throw (.invalidBase d.name iface .notInterface)
    if seen.contains iface then return seen
    d.interfaces.foldlM (fun seen b => c.collectInterface room b seen) (seen ++ [iface])

def interfaceWalk (c : Catalog) (root : TypeId) : Nat → Option TypeId → List TypeId →
    Except SurfaceFault (List TypeId)
  | _, none, seen => .ok seen
  | room, some t, seen => do
    let d ← c.require t
    let seen ← d.interfaces.foldlM (fun seen i => c.collectInterface (hierarchyLimit + 1) i seen)
      seen
    match room with
    | 0 => throw (.inheritanceCycle (c.nameOf root))
    | room + 1 => c.interfaceWalk root room (c.baseOf t) seen

/-- Every interface a type implements, transitively; for an interface, those it extends. -/
def interfaces (c : Catalog) (t : TypeId) : Except SurfaceFault (List TypeId) :=
  c.interfaceWalk t hierarchyLimit (some t) []

def isDerivedFrom (c : Catalog) (derived base : TypeId) : Bool :=
  if derived == base then false
  else if base == .object then c.contains derived
  else match c.kind? base with
    | some .interfaceType =>
      match c.interfaces derived with
      | .ok is => is.contains base
      | .error _ => false
    | some _ =>
      match c.chain derived with
      | .ok ch => ch.contains base
      | .error _ => false
    | none => false

def isAssignable (c : Catalog) (target source : TypeId) : Bool :=
  target == source || target == .object || c.isDerivedFrom source target

end Catalog

end Understudy
