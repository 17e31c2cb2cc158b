import Understudy.Proofs.PredicateOrder

set_option autoImplicit false

/-!
# Raising an event

Raising an event checks every live handler against the argument values before any of them runs.
Without handlers it answers `false` and runs nothing. When a check fails it answers the fault of
the first handler whose check fails, in subscription order, and runs nothing. Otherwise the
handlers run in subscription order through the first whose code fails, whose failure is the
answer; when none fails the answer is `true`.

`raiseAnswer` and `raiseBodies` say this over the handlers' callbacks alone, and
`Receiver.raise_eq` says that raising in a session answers the one and journals exactly the other,
changing nothing else.
-/

namespace Understudy

def Session.resultOf {α : Type} (s : Session) :
    Except DispatchFault α → EStateM.Result DispatchFault Session α
  | .ok a => .ok a s
  | .error f => .error f s

def Callback.bodyRun (vs : List Value) (cb : Callback) : Probe :=
  .body cb.body (if cb.params.isEmpty then [] else vs)

def ranBodies (u : UserCode) (vs : List Value) (cbs : List Callback) : List Probe :=
  (throughFirst (fun cb => !(cb.outcome u vs).isOk) cbs).map (·.bodyRun vs)

def firstCheckFault (c : Catalog) (member : String) (vs : List Value) :
    List Callback → Option DispatchFault
  | [] => none
  | cb :: rest =>
    match cb.check c member vs with
    | .ok () => firstCheckFault c member vs rest
    | .error f => some f

def raiseAnswer (c : Catalog) (u : UserCode) (event : String) (vs : List Value)
    (cbs : List Callback) : Except DispatchFault Bool :=
  if cbs.isEmpty then .ok false
  else match firstCheckFault c event vs cbs with
    | some f => .error f
    | none => (firstFailure u vs cbs).elim (.ok true) (.error ∘ .callbackFailed event)

def raiseBodies (c : Catalog) (u : UserCode) (event : String) (vs : List Value)
    (cbs : List Callback) : List Probe :=
  if (firstCheckFault c event vs cbs).isSome then [] else ranBodies u vs cbs

theorem checkAll_eq (c : Catalog) (member : String) (vs : List Value) (cbs : List Callback) :
    checkAll c member vs cbs = (firstCheckFault c member vs cbs).elim (.ok ()) .error := by
  induction cbs with
  | nil => rfl
  | cons cb rest ih =>
    simp only [checkAll, firstCheckFault]
    cases cb.check c member vs with
    | ok _ => exact ih
    | error f => rfl

theorem invokeAll_eq (member : String) (vs : List Value) (cbs : List Callback) (s : Session) :
    (invokeAll member vs cbs).run s =
      { s with journal := s.journal ++ (ranBodies s.code vs cbs).toArray }.resultOf
        ((firstFailure s.code vs cbs).elim (.ok ()) (.error ∘ .callbackFailed member)) := by
  induction cbs generalizing s with
  | nil => cases s; simp [invokeAll, ranBodies, firstFailure, Session.resultOf]
  | cons cb rest ih =>
    have hrun := probe_run DispatchFault (cb.invoke_appends s.code member vs) s
    cases hout : cb.outcome s.code vs with
    | ok _ =>
      have hrest := ih { s with journal := s.journal ++ (cb.invoke s.code member vs).log }
      simp only [invokeAll, EStateM.run_bind, EStateM.run_get, hrun, Callback.invoke_answer,
        hout, liftExcept, EStateM.run_pure]
      rw [hrest]
      simp [ranBodies, firstFailure, hout, Callback.invoke_log, Callback.bodyRun, Except.isOk,
        Except.toBool]
    | error msg =>
      simp [invokeAll, hrun, Callback.invoke_answer, hout, firstFailure, liftExcept, ranBodies,
        Callback.invoke_log, Callback.bodyRun, Session.resultOf, Except.isOk, Except.toBool]

theorem Receiver.raise_eq (r : Receiver) (event : String) (args : List CallArg) (s : Session) :
    (r.raise event args).run s =
      { s with journal := s.journal ++ (raiseBodies s.catalog s.code event (args.map CallArg.value)
          ((s.graph.handlers r.node event).map Prod.snd)).toArray }.resultOf
        (raiseAnswer s.catalog s.code event (args.map CallArg.value)
          ((s.graph.handlers r.node event).map Prod.snd)) := by
  simp only [Receiver.raise, EStateM.run_bind, EStateM.run_get]
  generalize (s.graph.handlers r.node event).map Prod.snd = cbs
  generalize args.map CallArg.value = vs
  cases cbs with
  | nil => cases s; simp [raiseBodies, raiseAnswer, firstCheckFault, ranBodies, Session.resultOf]
  | cons cb rest =>
    simp only [List.isEmpty_cons, Bool.false_eq_true, ↓reduceIte, checkAll_eq, raiseAnswer,
      raiseBodies]
    -- every handler is checked before the first runs
    cases hc : firstCheckFault s.catalog event vs (cb :: rest) with
    | some f => cases s; rfl
    | none =>
      simp only [Option.elim_none, liftExcept, EStateM.run_bind, EStateM.run_pure, invokeAll_eq,
        Option.isSome_none, Bool.false_eq_true, ↓reduceIte]
      cases firstFailure s.code vs (cb :: rest) <;> rfl

end Understudy
