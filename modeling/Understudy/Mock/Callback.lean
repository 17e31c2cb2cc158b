import Understudy.Mock.Pattern
import Understudy.Mock.Fault
import Understudy.Value.Kind

set_option autoImplicit false

/-!
# Callbacks

A callback is user code run when an arranged call matches or an event is raised. It declares its
parameter types up front, so that a call can be checked against every callback before any of them
runs. Code written against typed parameters also requires each value to be readable as its kind
(text refuses null, for instance). A callback without parameters ignores the arguments and is
given none.
-/

namespace Understudy

/-- A declared callback parameter. -/
structure ParamCheck where
  type : TypeId
  /-- For typed code, the kind the value must also be readable as. -/
  kind : Option ArgKind := none
  deriving DecidableEq, Repr

def ParamCheck.admits (c : Catalog) (p : ParamCheck) (v : Value) : Bool :=
  v.conformsTo c p.type && match p.kind with
    | some k => k.accepts v
    | none => true

/-- A callback: declared parameters and registered code. -/
structure Callback where
  params : List ParamCheck
  body : BodyId
  deriving DecidableEq, Repr

namespace Callback

def untyped (params : List TypeId) (body : BodyId) : Callback :=
  ⟨params.map fun t => { type := t }, body⟩

def typedCode (kinds : List ArgKind) (vs : List Value) : Except String Unit :=
  kinds.zipIdx.foldlM (fun _ (k, i) =>
    if ((vs[i]?).bind k.read?).isSome then .ok () else .error s!"argument {i} cannot be converted") ()

/-- A callback written against typed parameters. -/
def typed (kinds : List ArgKind) (body : BodyId) : Callback :=
  ⟨kinds.map fun k => ⟨k.declared, some k⟩, body⟩

/-- The number of declared parameters. -/
def arity (cb : Callback) : Nat := cb.params.length

def paramTypes (cb : Callback) : List TypeId := cb.params.map (·.type)

/-- Checks that the values can be passed: the arity, then each position in order. -/
def check (c : Catalog) (cb : Callback) (member : String) (args : List Value) :
    Except DispatchFault Unit :=
  if cb.params.isEmpty then .ok ()
  else if cb.params.length != args.length then
    .error (.callbackArity member cb.params.length args.length)
  else
    match ((cb.params.zip args).zipIdx).find? (fun ((p, a), _) => !p.admits c a) with
    | some ((p, a), i) => .error (.callbackMismatch member i (c.nameOf p.type) (a.typeName c))
    | none => .ok ()

/-- Runs the code; a callback without parameters is given no arguments. -/
def invoke (u : UserCode) (cb : Callback) (member : String) (args : List Value) :
    Probing (Except DispatchFault Unit) := do
  let given := if cb.params.isEmpty then [] else args
  match ← u.runBody cb.body given with
  | .ok () => pure (.ok ())
  | .error m => pure (.error (.callbackFailed member m))

end Callback

end Understudy
