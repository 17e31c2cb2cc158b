import Understudy.Surface.Signature
import Understudy.Text.Quoting

set_option autoImplicit false

/-!
# Member surfaces

The surface of a type is what a stand-in may intercept. Along the class chain each signature
resolves to its most-derived declaration; the winner is intercepted when it is reachable from
outside and overridable. A reachable winner that is not overridable but is a property that can
be read and written is settable instead, and an abstract winner that is not reachable makes the
type impossible to stand in for (the name is recorded).

For every implemented interface, its instance members whose signature no intercepted class member
covers form that interface's set; empty sets are dropped. Fields never resolve: every reachable,
writable instance field of the chain is settable, the deepest declaration of a name winning.

The surface of an interface is computed over the chain of `Object` with the interface itself
first among the implemented interfaces.
-/

namespace Understudy

structure MethodEntry where
  declaring : TypeId
  name : String
  genericArity : Nat
  params : List Param
  returns : TypeId
  isAbstract : Bool
  deriving DecidableEq, Repr

/-- An intercepted or settable property. -/
structure PropertyEntry where
  declaring : TypeId
  name : String
  type : TypeId
  readable : Bool
  writable : Bool
  isAbstract : Bool
  deriving DecidableEq, Repr

structure IndexerEntry where
  declaring : TypeId
  params : List Param
  type : TypeId
  readable : Bool
  writable : Bool
  deriving DecidableEq, Repr

structure EventEntry where
  declaring : TypeId
  name : String
  handlerParams : List TypeId
  deriving DecidableEq, Repr

/-- A field a stand-in seeds from arranged values. -/
structure FieldEntry where
  declaring : TypeId
  name : String
  type : TypeId
  deriving DecidableEq, Repr

/-- Intercepted members by shape, each in order of resolution. -/
structure Entries where
  methods : List MethodEntry := []
  properties : List PropertyEntry := []
  indexers : List IndexerEntry := []
  events : List EventEntry := []
  deriving DecidableEq, Repr

def Candidate.asProperty? (cand : Candidate) : Option PropertyEntry :=
  match cand.decl.shape with
  | .property ty r w => some ⟨cand.declaring, cand.decl.name, ty, r, w, cand.decl.isAbstract⟩
  | _ => none

namespace Entries

def push (e : Entries) (cand : Candidate) : Entries :=
  let d := cand.decl
  match d.shape with
  | .method n ps r _ =>
    { e with methods := e.methods ++ [⟨cand.declaring, d.name, n, ps, r, d.isAbstract⟩] }
  | .property ty r w =>
    { e with properties := e.properties ++ [⟨cand.declaring, d.name, ty, r, w, d.isAbstract⟩] }
  | .indexer ps ty r w => { e with indexers := e.indexers ++ [⟨cand.declaring, ps, ty, r, w⟩] }
  | .event hs => { e with events := e.events ++ [⟨cand.declaring, d.name, hs⟩] }
  | .field _ => e

def isEmpty (e : Entries) : Bool :=
  e.methods.isEmpty && e.properties.isEmpty && e.indexers.isEmpty && e.events.isEmpty

/-- How many members are intercepted. -/
def count (e : Entries) : Nat :=
  e.methods.length + e.properties.length + e.indexers.length + e.events.length

end Entries

/-- Members of one interface that the class surface does not cover. -/
structure InterfaceSet where
  iface : TypeId
  entries : Entries
  deriving DecidableEq, Repr

structure Surface where
  baseType : TypeId
  typeName : String
  kind : TypeKind
  own : Entries
  /-- Per-interface sets, in interface order. -/
  interfaceSets : List InterfaceSet
  /-- Every implemented interface, fully covered ones included. -/
  implemented : List TypeId
  settableProperties : List PropertyEntry
  settableFields : List FieldEntry
  inaccessibleAbstract : List String
  isSealed : Bool
  hasReachableCtor : Bool
  deriving DecidableEq, Repr

def chainFields (c : Catalog) (chain : List TypeId) : List FieldEntry :=
  chain.reverse.foldl (fun acc level =>
    ((c.get? level).map (·.members) |>.getD []).foldl (fun acc m =>
      match m.shape with
      | .field ty =>
        if m.isStatic || m.isReadonly || !m.visibility.isReachable || acc.any (·.name == m.name)
        then acc else acc ++ [⟨level, m.name, ty⟩]
      | _ => acc) acc) []

/-- What resolution leaves for the class surface. -/
structure Resolved where
  own : Entries := {}
  covered : List Signature := []
  inaccessibleAbstract : List String := []
  settableProperties : List PropertyEntry := []

/-- Sorts one resolved winner into the class surface. -/
def Resolved.take (r : Resolved) (s : Signature) (w : Candidate) : Resolved :=
  let reachable := w.decl.visibility.isReachable
  let overridable := reachable && w.decl.mods.isOverridable
  let r := if w.decl.isAbstract && !reachable then
    { r with inaccessibleAbstract := r.inaccessibleAbstract ++ [w.decl.name] } else r
  if overridable then { r with own := r.own.push w, covered := r.covered ++ [s] }
  else match w.decl.shape, w.asProperty? with
    | .property _ true true, some p =>
      if reachable then { r with settableProperties := r.settableProperties ++ [p] } else r
    | _, _ => r

def interfaceSet (c : Catalog) (covered : List Signature) (iface : TypeId) : InterfaceSet :=
  let members := (c.get? iface).map (·.members) |>.getD []
  ⟨iface, members.foldl (fun e m =>
    if m.isStatic then e
    else match Signature.of? m with
      | none => e
      | some s => if covered.contains s then e else e.push ⟨iface, 0, m⟩) {}⟩

def Surface.compute (c : Catalog) (t : TypeId) : Except SurfaceFault Surface := do
  let d ← c.require t
  let (classType, ifaces) ←
    if d.kind == .interfaceType then do pure (TypeId.object, t :: (← c.interfaces t))
    else do pure (t, ← c.interfaces t)
  let chain ← c.chain classType
  let table := chain.zipIdx.foldl (fun tb (level, rank) =>
    tb.addLevel level rank ((c.get? level).map (·.members) |>.getD [])) SignatureTable.empty
  let fields := chainFields c chain
  let resolved ← table.resolve d.name
  let r := resolved.foldl (fun (r : Resolved) (s, w) => r.take s w) {}
  let sets := (ifaces.map (interfaceSet c r.covered)).filter fun set => !set.entries.isEmpty
  pure { baseType := t, typeName := d.name, kind := d.kind, own := r.own, interfaceSets := sets,
         implemented := ifaces, settableProperties := r.settableProperties,
         settableFields := fields, inaccessibleAbstract := r.inaccessibleAbstract,
         isSealed := d.isSealed, hasReachableCtor := d.hasReachableCtor }

namespace Surface

def hasInaccessibleAbstract (s : Surface) : Bool := !s.inaccessibleAbstract.isEmpty

def memberCount (s : Surface) : Nat :=
  s.interfaceSets.foldl (fun n set => n + set.entries.count) s.own.count

def allOf {α : Type} (s : Surface) (pick : Entries → List α) : List α :=
  pick s.own ++ s.interfaceSets.flatMap fun set => pick set.entries

def findProperty? (s : Surface) (name : String) : Option PropertyEntry :=
  (s.allOf (·.properties)).find? (·.name == name)

def findField? (s : Surface) (name : String) : Option FieldEntry :=
  s.settableFields.find? (·.name == name)

def findEvent? (s : Surface) (name : String) : Option EventEntry :=
  (s.allOf (·.events)).find? (·.name == name)

def methodsNamed (s : Surface) (name : String) : List MethodEntry :=
  (s.allOf (·.methods)).filter (·.name == name)

def allIndexers (s : Surface) : List IndexerEntry := s.allOf (·.indexers)

end Surface

/-! ## Whether a stand-in can be built

A stand-in cannot be built for a value type, for a sealed type, for a type with abstract members
it cannot reach, or for a class none of whose constructors it can call; the first of these that
applies, in this order, is reported.
-/

/-- Why no stand-in can be built for a type. -/
inductive ProxyFault where
  | valueType (name : String)
  | sealed (name : String)
  | inaccessibleAbstract (name : String) (members : List String)
  | noReachableCtor (name : String)
  deriving DecidableEq, Repr

def ProxyFault.message : ProxyFault → String
  | .valueType name => s!"cannot proxy value type '{name}'"
  | .sealed name => s!"cannot proxy sealed type '{name}'"
  | .inaccessibleAbstract name members =>
    let listed := "[" ++ ", ".intercalate (members.map Text.quoted) ++ "]"
    s!"cannot proxy '{name}': abstract members {listed} are not reachable from outside"
  | .noReachableCtor name => s!"cannot proxy '{name}': no constructor is reachable from outside"

def Surface.checkProxyable (s : Surface) : Except ProxyFault Unit :=
  if s.kind == .valueType then .error (.valueType s.typeName)
  else if s.isSealed then .error (.sealed s.typeName)
  else if s.hasInaccessibleAbstract then .error (.inaccessibleAbstract s.typeName s.inaccessibleAbstract)
  else if !s.hasReachableCtor then .error (.noReachableCtor s.typeName)
  else .ok ()

end Understudy
