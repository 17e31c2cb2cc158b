import Understudy.Mock.Receiver

set_option autoImplicit false

/-!
# Stand-ins

A stand-in (proxy) is what code under test is handed in place of a real instance. It looks every
operation up in the member surface of its type:

* an intercepted member goes to the receiver of the mock node; a fall-through answer is treated
  like a member that is not intercepted;
* a member that is declared but not intercepted runs the base behaviour, if one is installed,
  and yields its value or else the default of the member's type (nothing for `Void`);
* settable properties and fields live in slots local to the stand-in, seeded when it is built
  from the values arranged on the node (a child seeds its mock). Seeding is not a read: a slot
  seeded from an ensured value keeps a link to that value's slot, and reads through the link
  count for verification;
* anything else is an unknown member.

Arranged results are checked against the member's declared type. Declared members are looked up
along the class chain, most derived first, then the implemented interfaces.
-/

namespace Understudy

/-- A slot local to a stand-in. -/
structure LocalSlot where
  value : Value
  type : TypeId
  /-- The ensured arrangement the slot was seeded from; reads count for it. -/
  ensured : Option SlotId := none

/-- A stand-in built over a surface and the receiver of a node. -/
structure Proxy where
  surface : Surface
  receiver : Receiver
  base : Option BaseId
  fields : List (String × LocalSlot)

def LocalSlot.seed (g : Graph) (n : NodeId) (name : String) (ty : TypeId) : LocalSlot :=
  match g.memberAt? n name with
  | some (.property s) =>
    let sl := g.slot s
    { value := sl.value, type := ty, ensured := if sl.ensured then some s else none }
  | some (.child m) => { value := .mock m, type := ty }
  | _ => { value := Value.defaultFor ty, type := ty }

def buildProxy (n : NodeId) (t : TypeId) (base : Option BaseId) : Act MockFault Proxy := do
  let surf ← (surfaceOf t).adaptExcept MockFault.surface
  liftExcept (surf.checkProxyable.mapError MockFault.synthesis)
  let r ← receiverFor n
  let g ← graph
  let settable := surf.settableProperties.map (fun p => (p.name, p.type)) ++
    surf.settableFields.map fun f => (f.name, f.type)
  let fields := settable.foldl (fun acc (name, ty) =>
    if acc.any (·.1 == name) then acc else acc ++ [(name, LocalSlot.seed g n name ty)]) []
  pure ⟨surf, r, base, fields⟩

def typedArgs (params : List Param) (vs : List Value) : List CallArg :=
  (params.zip vs).map fun (p, v) => { value := v, declared := some p.type, name := some p.name }

def paramsAccept (c : Catalog) (params : List Param) (vs : List Value) : Bool :=
  params.length == vs.length && (params.zip vs).all fun (p, v) => p.isOut || v.conformsTo c p.type

def checkAssignable (c : Catalog) (member : String) (v : Value) (ty : TypeId) :
    Except DispatchFault Unit :=
  if v.conformsTo c ty then .ok () else .error (.returnMismatch member (c.nameOf ty) (v.typeName c))

def checkReturn (c : Catalog) (member : String) (v : Value) (ty : TypeId) :
    Except DispatchFault CallResult :=
  if ty == TypeId.void then .ok .void
  else do
    checkAssignable c member v ty
    pure (.value v)

namespace Proxy

def typeId (p : Proxy) : TypeId := p.surface.baseType

def isInstanceOf (c : Catalog) (p : Proxy) (t : TypeId) : Bool := c.isAssignable t p.surface.baseType

/-- An unknown member of the stand-in's type. -/
def unknown (p : Proxy) (member : String) : DispatchFault := .unknownMember p.surface.typeName member

/-- The first declared instance member `pick` accepts: class chain most derived first, then the
implemented interfaces. -/
def declared {α : Type} (c : Catalog) (p : Proxy) (pick : Member → Option α) : Option α :=
  let base := p.surface.baseType
  let chain := if c.kind? base == some .interfaceType then [] else
    match c.chain base with
    | .ok ts => ts
    | .error _ => []
  (chain.reverse ++ p.surface.implemented).findSome? fun t =>
    (c.get? t).bind fun d => (d.members.filter fun m => !m.isStatic).findSome? pick

def declaredReturn? (c : Catalog) (p : Proxy) (name : String) (generics : List TypeId)
    (args : List Value) : Option TypeId :=
  p.declared c fun m => match m.shape with
    | .method n ps r none =>
      if m.name == name && n == generics.length && paramsAccept c ps args then some r else none
    | _ => none

def declaredReadable? (c : Catalog) (p : Proxy) (name : String) : Option TypeId :=
  p.declared c fun m => match m.shape with
    | .property ty true _ => if m.name == name then some ty else none
    | .field ty => if m.name == name then some ty else none
    | _ => none

def fallBack {ε : Type} (p : Proxy) (member : String) (args : List Value) (ty : TypeId) :
    Act ε CallResult := do
  let u := (← get).code
  let v? ← match p.base with
    | some b => some <$> probe (u.runBase b member args)
    | none => pure none
  if ty == TypeId.void then pure .void else pure (.value (v?.getD (Value.defaultFor ty)))

/-- A method call; answers the result and the arguments after out writes. -/
def invoke (p : Proxy) (name : String) (generics : List TypeId) (args : List Value) :
    Act DispatchFault (CallResult × List Value) := do
  let c ← catalog
  let hit := (p.surface.methodsNamed name).find? fun m =>
    m.genericArity == generics.length && paramsAccept c m.params args
  match hit with
  | some m =>
    let (res, written) ← p.receiver.invoke name generics (typedArgs m.params args)
    let res ← liftExcept res
    let args := (args.zip (written.map (·.value))).map (·.2) ++ args.drop written.length
    match res with
    | .value v => pure (← liftExcept (checkReturn c name v m.returns), args)
    | .void => pure (.void, args)
    | .fallThrough => pure (← p.fallBack name args m.returns, args)
  | none =>
    match p.declaredReturn? c name generics args with
    | some r => pure (← p.fallBack name args r, args)
    | none => throw (p.unknown name)

def getProperty (p : Proxy) (name : String) : Act DispatchFault CallResult := do
  let c ← catalog
  match (p.surface.findProperty? name).filter (·.readable) with
  | some prop =>
    match ← p.receiver.getProperty name with
    | .value v => liftExcept (checkReturn c name v prop.type)
    | _ => p.fallBack name [] prop.type
  | none =>
    match findKey? p.fields name with
    | some sl =>
      match sl.ensured with
      | some s => changeGraph (·.modifySlot s fun x => { x with reads := x.reads + 1 })
      | none => pure ()
      pure (.value sl.value)
    | none =>
      match p.declaredReadable? c name with
      | some ty => p.fallBack name [] ty
      | none => throw (p.unknown name)

/-- A property or field write; answers the stand-in with its local slots updated. -/
def setProperty (p : Proxy) (name : String) (v : Value) : Act DispatchFault Proxy := do
  let c ← catalog
  match (p.surface.findProperty? name).filter (·.writable) with
  | some prop =>
    liftExcept (checkAssignable c name v prop.type)
    let _ ← p.receiver.setProperty name v
    pure p
  | none =>
    match findKey? p.fields name with
    | some sl =>
      liftExcept (checkAssignable c name v sl.type)
      pure { p with fields := insertOrdered p.fields name { sl with value := v } }
    | none =>
      let found := p.declared c fun m => match m.shape with
        | .property _ _ true => if m.name == name then some () else none
        | _ => none
      match found with
      | some () =>
        let u := (← get).code
        match p.base with
        | some b => let _ ← probe (u.runBase b name [v])
        | none => pure ()
        pure p
      | none => throw (p.unknown name)

/-- An indexer read through the first readable indexer accepting the keys. -/
def getIndex (p : Proxy) (args : List Value) : Act DispatchFault CallResult := do
  let c ← catalog
  match p.surface.allIndexers.find? (fun ix => ix.readable && paramsAccept c ix.params args) with
  | none => throw (p.unknown indexerName)
  | some ix =>
    match ← p.receiver.getIndex (typedArgs ix.params args) with
    | .value v => liftExcept (checkReturn c indexerName v ix.type)
    | _ => p.fallBack indexerName args ix.type

/-- An indexer write through the first writable indexer accepting the keys. -/
def setIndex (p : Proxy) (args : List Value) (v : Value) : Act DispatchFault Unit := do
  let c ← catalog
  match p.surface.allIndexers.find? (fun ix => ix.writable && paramsAccept c ix.params args) with
  | none => throw (p.unknown indexerName)
  | some ix =>
    let _ ← p.receiver.setIndex (typedArgs ix.params args) v
    pure ()

/-- The intercepted event of this name. -/
def event (p : Proxy) (name : String) : Except DispatchFault EventEntry :=
  match p.surface.findEvent? name with
  | some e => .ok e
  | none => .error (p.unknown name)

/-- Adds a handler of an intercepted event. -/
def subscribe (p : Proxy) (name : String) (cb : Callback) : Act DispatchFault UInt64 := do
  let _ ← liftExcept (p.event name)
  p.receiver.subscribe name cb

def unsubscribe (p : Proxy) (name : String) (id : UInt64) : Act DispatchFault Bool := do
  let _ ← liftExcept (p.event name)
  p.receiver.unsubscribe name id

/-- Raises an intercepted event; arguments are typed by the handler parameters they meet. -/
def raise (p : Proxy) (name : String) (args : List Value) : Act DispatchFault Bool := do
  let e ← liftExcept (p.event name)
  let typed := (e.handlerParams.zip args).map fun (t, v) => { value := v, declared := some t }
  p.receiver.raise name (typed ++ CallArg.plain (args.drop e.handlerParams.length))

end Proxy

end Understudy
