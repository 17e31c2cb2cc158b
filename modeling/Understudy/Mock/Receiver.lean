import Understudy.Mock.Arrange

set_option autoImplicit false

/-!
# Receiving calls

A `Receiver` is the inbound side of a mock node: a stand-in hands it every intercepted operation.

A method call tries the member's arranged calls newest first and takes the first that applies,
so a later arrangement overrides an earlier one without removing it. An arranged call applies
when the generic filter, then the argument patterns accept the call, and every registered out
value fits the argument it would be written into. Then every callback is checked against the
argument values after the out writes, before anything is written; then the values are written
into the arguments, the call is counted, and the callbacks run in order, the first failure ending
the call. The caller's argument array is written in place, so a call answers its result or fault
together with the array as it leaves it. What happens when nothing applies is the receiver's
policy: fail, or fall through to the stand-in.

Property reads yield a child node or a slot's value (counting the read); writes replace the
entry with a fresh slot, keeping a replaced node as displaced. Indexer reads take the newest
entry whose patterns accept the keys; writes replace entries arranged for exactly those literal
keys. Raising an event checks every handler before the first one runs.
-/

namespace Understudy

/-- The result of a received operation. -/
inductive CallResult where
  | value (v : Value)
  | void
  /-- Nothing matched and the policy hands the call back to the stand-in. -/
  | fallThrough
  deriving Inhabited

def CallResult.value? : CallResult → Option Value
  | .value v => some v
  | .void | .fallThrough => none

/-- The receiving side of one node. -/
structure Receiver where
  node : NodeId
  policy : Unmatched
  deriving DecidableEq, Repr

def receiverFor {ε : Type} (n : NodeId) : Act ε Receiver := do
  pure ⟨n, (← get).settings.unmatched⟩

def receiverOf {ε : Type} (name : String) : Act ε Receiver := do
  receiverFor (← rootMock name)

namespace Expectation

def outsFit (c : Catalog) (x : Expectation) (args : List CallArg) : Bool :=
  x.outsByIndex.all (fun (i, v) => match args[i]? with
    | some a => a.accepts c v
    | none => true) &&
  x.outsByName.all fun (n, v) => (args.filter (·.name == some n)).all (·.accepts c v)

def outValues (x : Expectation) (args : List CallArg) : List Value :=
  let byIndex := x.outsByIndex.foldl (fun vs (i, v) => vs.set i v) (args.map (·.value))
  x.outsByName.foldl (fun vs (n, v) =>
    (vs.zip args).map fun (w, a) => if a.name == some n then v else w) byIndex

end Expectation

def checkAll (c : Catalog) (member : String) (vs : List Value) :
    List Callback → Except DispatchFault Unit
  | [] => .ok ()
  | cb :: rest => do
    cb.check c member vs
    checkAll c member vs rest

def invokeAll (member : String) (vs : List Value) : List Callback → Act DispatchFault Unit
  | [] => pure ()
  | cb :: rest => do
    let u := (← get).code
    liftExcept (← probe (cb.invoke u member vs))
    invokeAll member vs rest

def tryDispatch (e : ExpId) (generics : List TypeId) (args : List CallArg) :
    Act DispatchFault (Except DispatchFault (Option Value) × List CallArg) := do
  let s ← get
  let x := s.graph.exp e
  if !x.generics.accepts generics then return (.ok none, args)
  if !(← probe (x.args.accepts s.catalog s.code args)) then return (.ok none, args)
  if !x.outsFit s.catalog args then return (.ok none, args)
  let vs := x.outValues args
  match checkAll s.catalog x.member vs x.callbacks with
  | .error f => return (.error f, args)
  | .ok () =>
    let written := (args.zip vs).map fun (a, v) => { a with value := v }
    changeGraph (·.modifyExp e fun x => { x with calls := x.calls + 1 })
    let ran ← attempt (invokeAll x.member vs x.callbacks)
    pure (ran.map fun () => some x.outcome.result, written)

namespace Receiver

/-- The result for an operation nothing matched. -/
def unmatched (r : Receiver) (member : String) (args : List CallArg) :
    Except DispatchFault CallResult :=
  match r.policy with
  | .fail => .error (.unanticipated member (literalList (args.map (·.value))))
  | .fallThrough => .ok .fallThrough

def forNode (r : Receiver) (n : NodeId) : Receiver := { r with node := n }

def firstApplying (generics : List TypeId) :
    List ExpId → List CallArg → Act DispatchFault (Except DispatchFault (Option Value) × List CallArg)
  | [], args => pure (.ok none, args)
  | e :: rest, args => do
    match ← tryDispatch e generics args with
    | (.ok none, args) => firstApplying generics rest args
    | r => pure r

/-- A method call: its result or fault, and the argument array as the call leaves it. -/
def invoke (r : Receiver) (member : String) (generics : List TypeId) (args : List CallArg) :
    Act DispatchFault (Except DispatchFault CallResult × List CallArg) := do
  let exps := (← graph).expectationsOf r.node member
  match ← firstApplying generics exps.reverse args with
  | (.ok (some v), args) => pure (.ok (.value v), args)
  | (.ok none, args) => pure (r.unmatched member args, args)
  | (.error f, args) => pure (.error f, args)

def getProperty (r : Receiver) (name : String) : Act DispatchFault CallResult := do
  let g ← graph
  match g.memberAt? r.node name with
  | some (.child m) => pure (.value (.mock m))
  | some (.property s) =>
    changeGraph (·.modifySlot s fun sl => { sl with reads := sl.reads + 1 })
    pure (.value (g.slot s).value)
  | _ => liftExcept (r.unmatched name [])

end Receiver

namespace Graph

def writeProperty (g : Graph) (n : NodeId) (name : String) (v : Value) : Bool × Graph :=
  let prior : Option (Bool × Option NodeId) := match g.memberAt? n name with
    | some (.methods _) => none
    | some (.child m) => some (false, some m)
    | some (.property s) =>
      let sl := g.slot s
      some (sl.ensured && sl.reads == 0, sl.value.asMock?)
    | none => some (false, none)
  match prior with
  | none => (false, g)
  | some (ensured, replaced) =>
    let g := match replaced with
      | some m =>
        if v.asMock? == some m then g
        else g.modifyNode n fun nd => { nd with displaced := nd.displaced ++ [(name, m)] }
      | none => g
    let (s, g) := g.addSlot { value := v, ensured }
    (true, g.setEntry n name (.property s))

def writeIndex (g : Graph) (n : NodeId) (keys : List Value) (v : Value) : Graph :=
  let nd := g.node n
  let replaced := (nd.indexers.filter (·.args.isLiteral keys)).filterMap (·.value.asMock?)
  let kept := nd.indexers.filter fun ie => !ie.args.isLiteral keys
  let segment := "[" ++ literalList keys ++ "]"
  g.modifyNode n fun nd =>
    { nd with
      indexers := kept ++ [⟨ArgsPattern.literal keys, v⟩]
      displaced := nd.displaced ++ replaced.map fun m => (segment, m) }

end Graph

namespace Receiver

def setProperty (r : Receiver) (name : String) (v : Value) : Act DispatchFault CallResult := do
  if ← onGraph (·.writeProperty r.node name v) then pure .void
  else liftExcept (r.unmatched name [{ value := v }])

def firstIndexEntry (c : Catalog) (u : UserCode) (args : List CallArg) :
    List IndexEntry → Probing (Option Value)
  | [] => pure none
  | ie :: rest => do
    if ← ie.args.accepts c u args then pure (some ie.value) else firstIndexEntry c u args rest

def getIndex (r : Receiver) (args : List CallArg) : Act DispatchFault CallResult := do
  let s ← get
  match ← probe (firstIndexEntry s.catalog s.code args (s.graph.node r.node).indexers.reverse) with
  | some v => pure (.value v)
  | none => liftExcept (r.unmatched "this[]" args)

def setIndex {ε : Type} (r : Receiver) (args : List CallArg) (v : Value) : Act ε CallResult := do
  changeGraph (·.writeIndex r.node (args.map (·.value)) v)
  pure .void

def subscribe {ε : Type} (r : Receiver) (event : String) (cb : Callback) : Act ε UInt64 :=
  r.node.subscribe event cb

def unsubscribe {ε : Type} (r : Receiver) (event : String) (id : UInt64) : Act ε Bool :=
  r.node.unsubscribe event id

/-- Raises an event: `false` without handlers; else every handler is checked, then each runs in
subscription order until one fails. -/
def raise (r : Receiver) (event : String) (args : List CallArg) : Act DispatchFault Bool := do
  let s ← get
  let hs := (s.graph.handlers r.node event).map (·.2)
  if hs.isEmpty then return false
  let vs := args.map (·.value)
  liftExcept (checkAll s.catalog event vs hs)
  invokeAll event vs hs
  pure true

end Receiver

end Understudy
