import Understudy.Mock.Session

set_option autoImplicit false

/-!
# Arranging a mock tree

Nodes grow on demand. Named-member access yields the child of that name, creating it on first
access; a property holding a mock yields that mock. Method-call access appends an arranged call,
except that the newest call with the same generic filter and structurally the same argument
patterns is shared while it still yields a chain node, so that `a.Foo().X` and `a.Foo().Y`
arranged in two statements build on one result. A member name keeps the kind it was first
arranged as; using it as another kind is a fault.

A `Handle` configures one arranged call. A handle obtained by sharing is for chaining only:
configuring it (a verb or a generic filter) appends a copy with the same patterns, which then
takes precedence, and leaves the shared call as it was. The copy keeps the shared result node
unless it gets a different generic filter.
-/

namespace Understudy

/-- Access to one arranged call during arrangement. -/
structure Handle where
  exp : ExpId
  verbs : VerbNames
  /-- The node of a shared call, when the handle was obtained by sharing it. -/
  owner : Option NodeId := none
  deriving DecidableEq, Repr

def Handle.isReused (h : Handle) : Bool := h.owner.isSome

namespace NodeId

/-- Named-member access: the child called `name`, created on first access. -/
def child (n : NodeId) (name : String) : Act ArrangeFault NodeId := do
  let g ← graph
  match g.memberAt? n name with
  | some (.child m) => pure m
  | some (.property s) =>
    match (g.slot s).value with
    | .mock m => pure m
    | _ => throw (.memberKindConflict name .property .child)
  | some (.methods _) => throw (.memberKindConflict name .methods .child)
  | none =>
    let m ← spawnFrom n
    changeGraph (·.setEntry n name (.child m))
    pure m

def callWith (n : NodeId) (name : String) (args : ArgsPattern) (generics : GenericsFilter) :
    Act ArrangeFault Handle := do
  let g ← graph
  let list ← match g.memberAt? n name with
    | some (.methods es) => pure es
    | some other => throw (.memberKindConflict name other.kind .methods)
    | none => do
      changeGraph (·.setEntry n name (.methods []))
      pure []
  let verbs := (g.node n).verbs
  let shared := list.reverse.find? fun e =>
    let x := g.exp e
    x.generics == generics && x.args.sameAs args
  match shared with
  | some e =>
    if !(g.exp e).returnsSet then return ⟨e, verbs, some n⟩
  | none => pure ()
  let chain ← spawnFrom n
  let e ← onGraph (·.addExp (Expectation.fresh name args generics chain))
  changeGraph (·.setEntry n name (.methods (list ++ [e])))
  pure ⟨e, verbs, none⟩

/-- Method-call access for a non-generic call. -/
def call (n : NodeId) (name : String) (args : ArgsPattern) : Act ArrangeFault Handle :=
  n.callWith name args GenericsFilter.none

def fork {ε : Type} (owner : NodeId) (src : ExpId) (generics : Option GenericsFilter) :
    Act ε ExpId := do
  let x := (← graph).exp src
  let filter := generics.getD x.generics
  let chain ← match x.outcome with
    | .chain m => if filter == x.generics then pure m else spawnFrom owner
    | .value _ => spawnFrom owner
  let e ← onGraph (·.addExp (Expectation.fresh x.member x.args filter chain))
  let g ← graph
  match g.memberAt? owner x.member with
  | some (.methods es) => changeGraph (·.setEntry owner x.member (.methods (es ++ [e])))
  | _ => pure ()
  pure e

def storeProperty (n : NodeId) (name : String) (v : Value) (ensured : Bool) :
    Act ArrangeFault Unit := do
  match (← graph).memberAt? n name with
  | some (.methods _) => throw (.memberKindConflict name .methods .property)
  | _ =>
    let s ← onGraph (·.addSlot { value := v, ensured })
    changeGraph (·.setEntry n name (.property s))

/-- Arranges an indexer value; later entries take precedence. -/
def setIndex {ε : Type} (n : NodeId) (args : ArgsPattern) (v : Value) : Act ε Unit :=
  changeGraph (·.modifyNode n fun nd => { nd with indexers := nd.indexers ++ [⟨args, v⟩] })

/-- Adds an event handler; subscription ids count from 1 per node, wrapping at 2^64. -/
def subscribe {ε : Type} (n : NodeId) (event : String) (cb : Callback) : Act ε UInt64 := do
  let id := ((← graph).node n).nextSubscription
  changeGraph (·.modifyNode n fun nd =>
    { nd with
      events := insertOrdered nd.events event (((findKey? nd.events event).getD []) ++ [(id, cb)])
      nextSubscription := id + 1 })
  pure id

def unsubscribe {ε : Type} (n : NodeId) (event : String) (id : UInt64) : Act ε Bool := do
  match findKey? ((← graph).node n).events event with
  | none => pure false
  | some hs =>
    let kept := hs.filter (·.1 != id)
    changeGraph (·.modifyNode n fun nd => { nd with events := insertOrdered nd.events event kept })
    pure (kept.length != hs.length)

end NodeId

namespace Handle

def configurable {ε : Type} (h : Handle) (generics : Option GenericsFilter) : Act ε Handle := do
  match h.owner with
  | some o =>
    let e ← o.fork h.exp generics
    pure ⟨e, h.verbs, none⟩
  | none =>
    match generics with
    | some f => changeGraph (·.modifyExp h.exp fun x => { x with generics := f })
    | none => pure ()
    pure ⟨h.exp, h.verbs, none⟩

/-- Sets the result; fails if one is already set. -/
def returns (h : Handle) (v : Value) : Act ArrangeFault Handle := do
  let h ← h.configurable none
  let x := (← graph).exp h.exp
  if x.returnsSet then throw (.returnsAlreadySet x.member)
  changeGraph (·.modifyExp h.exp fun x => { x with outcome := .value v, returnsSet := true })
  pure h

/-- Requires at least one call before verification passes. -/
def ensure {ε : Type} (h : Handle) : Act ε Handle := do
  let h ← h.configurable none
  changeGraph (·.modifyExp h.exp fun x => { x with mustBeCalled := true })
  pure h

def onCall {ε : Type} (h : Handle) (cb : Callback) : Act ε Handle := do
  let h ← h.configurable none
  changeGraph (·.modifyExp h.exp fun x => { x with callbacks := x.callbacks ++ [cb] })
  pure h

def outIndex (h : Handle) (i : Nat) (v : Value) : Act ArrangeFault Handle := do
  let h ← h.configurable none
  let x := (← graph).exp h.exp
  if x.outsByIndex.any (·.1 == i) then throw (.duplicateOut x.member (.index i))
  changeGraph (·.modifyExp h.exp fun x => { x with outsByIndex := x.outsByIndex ++ [(i, v)] })
  pure h

def outName (h : Handle) (name : String) (v : Value) : Act ArrangeFault Handle := do
  let h ← h.configurable none
  let x := (← graph).exp h.exp
  if x.outsByName.any (·.1 == name) then throw (.duplicateOut x.member (.name name))
  changeGraph (·.modifyExp h.exp fun x => { x with outsByName := x.outsByName ++ [(name, v)] })
  pure h

/-- Matches only calls with exactly these generic type arguments. -/
def generics {ε : Type} (h : Handle) (types : List TypeId) : Act ε Handle :=
  h.configurable (some (.exact types))

def anyGenerics {ε : Type} (h : Handle) : Act ε Handle := h.configurable (some .any)

def resultNode (h : Handle) : Act ArrangeFault NodeId := do
  let x := (← graph).exp h.exp
  match x.outcome.node? with
  | some n => pure n
  | none => throw (.notChainable x.member)

/-- Named-member access on the call's result. -/
def child (h : Handle) (name : String) : Act ArrangeFault NodeId := do
  (← h.resultNode).child name

/-- Method-call access on the call's result. -/
def call (h : Handle) (name : String) (args : ArgsPattern) : Act ArrangeFault Handle := do
  (← h.resultNode).call name args

/-- Sets a property on the call's result. -/
def setProperty (h : Handle) (name : String) (v : Value) : Act ArrangeFault Unit := do
  (← h.resultNode).storeProperty name v false

/-- The number of calls the arranged call has matched. -/
def calls {ε : Type} (h : Handle) : Act ε UInt64 := do pure ((← graph).exp h.exp).calls

end Handle

end Understudy
