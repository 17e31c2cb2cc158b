import Understudy.Value.Text

set_option autoImplicit false

/-!
# User code and probes

Predicates, callback bodies and base behaviours are code that the user of the engine supplies.
A session keeps every piece it is given in a registry and refers to it by index, so two
references denote the same code exactly when their indices agree: that is the identity by which
an earlier arrangement is recognised.

User code is pure here, but when and with what it runs is observable, so every run is recorded
as a probe in a journal. `Probing` is the state of that journal; running registered code through
it appends one probe per run, in the order the runs happen.
-/

namespace Understudy

/-- A registered argument predicate. -/
structure PredId where
  idx : Nat
  deriving DecidableEq, Repr

/-- A registered predicate over a whole argument list. -/
structure ListPredId where
  idx : Nat
  deriving DecidableEq, Repr

/-- A registered callback or event-handler body. -/
structure BodyId where
  idx : Nat
  deriving DecidableEq, Repr

/-- A registered base behaviour of a stand-in. -/
structure BaseId where
  idx : Nat
  deriving DecidableEq, Repr

/-- One run of user code, with what it was given and, for predicates, what it answered. -/
inductive Probe where
  | pred (p : PredId) (arg : Value) (result : Bool)
  | listPred (p : ListPredId) (args : List Value) (result : Bool)
  | body (b : BodyId) (args : List Value)
  | base (b : BaseId) (member : String) (args : List Value)

/-- The journal of probes. -/
abbrev Probing := StateM (Array Probe)

/-- Every piece of user code a session was given, in registration order. -/
structure UserCode where
  preds : Array (Value → Bool) := #[]
  listPreds : Array (List Value → Bool) := #[]
  /-- A body either completes or fails with a message. -/
  bodies : Array (List Value → Except String Unit) := #[]
  bases : Array (String → List Value → Value) := #[]

namespace UserCode

def addPred (u : UserCode) (f : Value → Bool) : PredId × UserCode :=
  (⟨u.preds.size⟩, { u with preds := u.preds.push f })

def addListPred (u : UserCode) (f : List Value → Bool) : ListPredId × UserCode :=
  (⟨u.listPreds.size⟩, { u with listPreds := u.listPreds.push f })

def addBody (u : UserCode) (f : List Value → Except String Unit) : BodyId × UserCode :=
  (⟨u.bodies.size⟩, { u with bodies := u.bodies.push f })

def addBase (u : UserCode) (f : String → List Value → Value) : BaseId × UserCode :=
  (⟨u.bases.size⟩, { u with bases := u.bases.push f })

def runPred (u : UserCode) (p : PredId) (v : Value) : Probing Bool := do
  let r := u.preds.getD p.idx (fun _ => false) v
  modify (·.push (.pred p v r))
  pure r

def runListPred (u : UserCode) (p : ListPredId) (vs : List Value) : Probing Bool := do
  let r := u.listPreds.getD p.idx (fun _ => false) vs
  modify (·.push (.listPred p vs r))
  pure r

def runBody (u : UserCode) (b : BodyId) (vs : List Value) : Probing (Except String Unit) := do
  modify (·.push (.body b vs))
  pure (u.bodies.getD b.idx (fun _ => .ok ()) vs)

def runBase (u : UserCode) (b : BaseId) (member : String) (vs : List Value) : Probing Value := do
  modify (·.push (.base b member vs))
  pure (u.bases.getD b.idx (fun _ _ => .null) member vs)

end UserCode

end Understudy
