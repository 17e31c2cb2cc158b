import Understudy.Proofs.Steps

set_option autoImplicit false

/-!
# Predicates run in short-circuit order

Argument predicates are user code, so which of them run, on what and in which order can be seen
from outside. This module says it without the matching code. A method call offers itself to the
member's arranged calls newest first and stops at the first that applies. An arranged call whose
generic filter refuses the call, or whose patterns are for another number of arguments, runs
nothing. Otherwise its positions are tried left to right through the first that fails, a typed
predicate running only on a value of its type; a list predicate runs once, when every value has
its declared type. An indexer read does the same over the node's entries, newest first, through
the first that matches.

`throughFirst` is the shape of every such scan: a list through its first element of which a test
holds. `Session.callPredRuns` and `Session.indexPredRuns` are the predicate runs it yields, and
`predicates_run_in_short_circuit_order` says they are exactly what the journal records, followed,
for a call, by callback bodies only.
-/

namespace Understudy

open Probing

def throughFirst {α : Type} (p : α → Bool) (l : List α) : List α :=
  l.take (l.findIdx p + 1)

@[simp] theorem throughFirst_nil {α : Type} (p : α → Bool) : throughFirst p [] = [] := rfl

@[simp] theorem throughFirst_cons {α : Type} (p : α → Bool) (a : α) (l : List α) :
    throughFirst p (a :: l) = if p a then [a] else a :: throughFirst p l := by
  cases h : p a <;> simp [throughFirst, List.findIdx_cons, h]

section Spec

variable (c : Catalog) (u : UserCode)

def ArgPattern.predRuns : ArgPattern → CallArg → List Probe
  | .predicate t q, a =>
    if a.value.conformsTo c t then [.pred q a.value (u.preds.getD q.idx (fun _ => false) a.value)]
    else []
  | _, _ => []

def ArgsPattern.predRuns (p : ArgsPattern) (args : List CallArg) : List Probe :=
  if args.length ≠ p.arity then []
  else match p with
    | .positional items =>
      (throughFirst (fun (q, a) => !(q.accepts c u a).answer) (items.zip args)).flatMap
        fun (q, a) => q.predRuns c u a
    | .predicate types q =>
      let vs := args.map (·.value)
      if ∀ ta ∈ types.zip args, ta.2.value.conformsTo c ta.1 then
        [.listPred q vs (u.listPreds.getD q.idx (fun _ => false) vs)]
      else []

def Expectation.predRuns (gs : List TypeId) (args : List CallArg) (x : Expectation) :
    List Probe :=
  if x.generics.accepts gs then x.args.predRuns c u args else []

end Spec

def Session.callPredRuns (s : Session) (n : NodeId) (member : String) (gs : List TypeId)
    (args : List CallArg) : List Probe :=
  (throughFirst (fun e => (s.graph.exp e).applies s.catalog s.code gs args)
    (s.graph.expectationsOf n member).reverse).flatMap
    fun e => (s.graph.exp e).predRuns s.catalog s.code gs args

def Session.indexPredRuns (s : Session) (n : NodeId) (args : List CallArg) : List Probe :=
  (throughFirst (fun ie => (ie.args.accepts s.catalog s.code args).answer)
    (s.graph.node n).indexers.reverse).flatMap
    fun ie => ie.args.predRuns s.catalog s.code args

section Logs

variable (c : Catalog) (u : UserCode)

@[simp] theorem UserCode.runPred_log (p : PredId) (v : Value) :
    (u.runPred p v).log = #[.pred p v (u.preds.getD p.idx (fun _ => false) v)] := rfl

@[simp] theorem UserCode.runListPred_log (p : ListPredId) (vs : List Value) :
    (u.runListPred p vs).log = #[.listPred p vs (u.listPreds.getD p.idx (fun _ => false) vs)] :=
  rfl

theorem ArgPattern.accepts_log (p : ArgPattern) (a : CallArg) :
    (p.accepts c u a).log = (p.predRuns c u a).toArray := by
  cases p with
  | value v => cases v <;> rfl
  | predicate t q =>
    by_cases h : a.value.conformsTo c t = true
    · simp [ArgPattern.accepts, ArgPattern.predRuns, h]
    · simp [ArgPattern.accepts, ArgPattern.predRuns, h]
  | any t => cases t <;> rfl

theorem matchPositions_log (ps : List ArgPattern) (args : List CallArg) :
    (matchPositions c u ps args).log =
      ((throughFirst (fun (q, a) => !(q.accepts c u a).answer) (ps.zip args)).flatMap
        fun (q, a) => q.predRuns c u a).toArray := by
  induction ps generalizing args with
  | nil => rfl
  | cons p ps ih =>
    cases args with
    | nil => rfl
    | cons a args =>
      have hlog := @log_bind Bool Bool NoBody (p.accepts c u a)
        (fun b => if b = true then matchPositions c u ps args else pure false)
        (p.accepts_appends c u a)
        (appends_ite (matchPositions_appends c u ps args) (appends_pure _))
      simp only [matchPositions] at hlog ⊢
      rw [hlog, p.accepts_log c u a]
      -- a failing position ends the list; a passing one hands on to the rest
      by_cases h : (p.accepts c u a).answer = true
      · simp [h, ih]
      · simp [h]

theorem ArgsPattern.accepts_log (p : ArgsPattern) (args : List CallArg) :
    (p.accepts c u args).log = (p.predRuns c u args).toArray := by
  unfold ArgsPattern.accepts ArgsPattern.predRuns
  by_cases hn : args.length = p.arity
  · cases p with
    | positional items => simp [hn, matchPositions_log]
    | predicate types q =>
      by_cases hc : ∀ ta ∈ types.zip args, ta.2.value.conformsTo c ta.1 = true
      · have hall : (types.zip args).all (fun ta => ta.2.value.conformsTo c ta.1) = true :=
          List.all_eq_true.mpr hc
        simp [hn, hall, if_pos hc]
      · have hall : (types.zip args).all (fun ta => ta.2.value.conformsTo c ta.1) = false := by
          simpa using hc
        simp [hn, hall, if_neg hc]
  · simp [hn]

theorem firstIndexEntry_log (args : List CallArg) (ies : List IndexEntry) :
    (Receiver.firstIndexEntry c u args ies).log =
      ((throughFirst (fun ie => (ie.args.accepts c u args).answer) ies).flatMap
        fun ie => ie.args.predRuns c u args).toArray := by
  induction ies with
  | nil => rfl
  | cons ie ies ih =>
    have hlog := @log_bind Bool (Option Value) NoBody (ie.args.accepts c u args)
      (fun b => if b = true then pure (some ie.value) else Receiver.firstIndexEntry c u args ies)
      (ie.args.accepts_appends c u args)
      (appends_ite (appends_pure _) (firstIndexEntry_appends c u args ies))
    simp only [Receiver.firstIndexEntry] at hlog ⊢
    rw [hlog, ie.args.accepts_log c u args]
    by_cases h : (ie.args.accepts c u args).answer = true
    · simp [h]
    · simp [h, ih]

theorem Callback.invoke_log (cb : Callback) (member : String) (vs : List Value) :
    (cb.invoke u member vs).log = #[.body cb.body (if cb.params.isEmpty then [] else vs)] := by
  unfold Callback.invoke
  rw [log_bind (u.runBody_appends _ _) (by split <;> exact appends_pure _)]
  generalize (u.runBody cb.body (if cb.params.isEmpty then [] else vs)).answer = r
  rcases r with _ | ⟨⟨⟩⟩ <;> rfl

end Logs

theorem invokeAll_after (member : String) (vs : List Value) (cbs : List Callback) (s : Session) :
    ∃ bodies : Array Probe, (∀ p ∈ bodies, p.isBody = true) ∧
      Act.after (invokeAll member vs cbs) s = { s with journal := s.journal ++ bodies } := by
  induction cbs generalizing s with
  | nil => exact ⟨#[], by simp, by simp [Act.after, invokeAll]⟩
  | cons cb rest ih =>
    have hrun := probe_run DispatchFault (cb.invoke_appends s.code member vs) s
    have hbody : ∀ p ∈ (cb.invoke s.code member vs).log, p.isBody = true := by
      simp [Callback.invoke_log, Probe.isBody]
    cases hout : (cb.invoke s.code member vs).answer with
    | error f =>
      refine ⟨_, hbody, ?_⟩
      simp [Act.after, invokeAll, hrun, hout, liftExcept]
    | ok _ =>
      obtain ⟨bodies, hb, hafter⟩ :=
        ih { s with journal := s.journal ++ (cb.invoke s.code member vs).log }
      refine ⟨(cb.invoke s.code member vs).log ++ bodies, fun p hp => ?_, ?_⟩
      · rcases Array.mem_append.mp hp with hp | hp
        · exact hbody p hp
        · exact hb p hp
      · simp only [Act.after, invokeAll, EStateM.run_bind, EStateM.run_get, hrun, hout, liftExcept]
        show Act.after (invokeAll member vs rest) _ = _
        rw [hafter]
        simp [Array.append_assoc]

section Dispatch

variable (gs : List TypeId) (args : List CallArg) (s : Session)

theorem tryDispatch_run_of_not_applies (e : ExpId)
    (h : (s.graph.exp e).applies s.catalog s.code gs args = false) :
    (tryDispatch e gs args).run s = .ok (.ok none, args) { s with
      journal := s.journal ++ ((s.graph.exp e).predRuns s.catalog s.code gs args).toArray } := by
  have hm := ArgsPattern.accepts_appends s.catalog s.code (s.graph.exp e).args args
  by_cases hg : (s.graph.exp e).generics.accepts gs = true
  · by_cases hp : ((s.graph.exp e).args.accepts s.catalog s.code args).answer = true
    · have hf : (s.graph.exp e).outsFit s.catalog args = false := by
        simpa [Expectation.applies, hg, hp] using h
      simp [tryDispatch, hg, probe_run _ hm, hp, hf, Expectation.predRuns,
        ArgsPattern.accepts_log]
    · simp [tryDispatch, hg, probe_run _ hm, hp, Expectation.predRuns, ArgsPattern.accepts_log]
  · simp [tryDispatch, hg, Expectation.predRuns]

theorem tryDispatch_after_of_applies (e : ExpId)
    (h : (s.graph.exp e).applies s.catalog s.code gs args = true) :
    ∃ bodies : Array Probe, (∀ p ∈ bodies, p.isBody = true) ∧
      (Act.after (tryDispatch e gs args) s).journal =
        s.journal ++ ((s.graph.exp e).predRuns s.catalog s.code gs args).toArray ++ bodies := by
  have hm := ArgsPattern.accepts_appends s.catalog s.code (s.graph.exp e).args args
  obtain ⟨hg, hp, hf⟩ := Expectation.applies_eq_true.mp h
  have hruns : (s.graph.exp e).predRuns s.catalog s.code gs args =
      (s.graph.exp e).args.predRuns s.catalog s.code args := by
    simp [Expectation.predRuns, hg]
  cases hc : checkAll s.catalog (s.graph.exp e).member ((s.graph.exp e).outValues args)
    (s.graph.exp e).callbacks with
  | error f =>
    refine ⟨#[], by simp, ?_⟩
    simp [Act.after, tryDispatch, hg, probe_run DispatchFault hm, hp, hf, hc, hruns,
      ArgsPattern.accepts_log]
  | ok _ =>
    obtain ⟨bodies, hb, hafter⟩ := invokeAll_after (s.graph.exp e).member
      ((s.graph.exp e).outValues args) (s.graph.exp e).callbacks
      { s with graph := s.graph.modifyExp e fun x => { x with calls := x.calls + 1 },
               journal := s.journal ++ ((s.graph.exp e).args.accepts s.catalog s.code args).log }
    refine ⟨bodies, hb, ?_⟩
    simp only [Act.after] at hafter
    simp [Act.after, tryDispatch, hg, probe_run DispatchFault hm, hp, hf, hc, changeGraph]
    revert hafter
    -- the callbacks' run ends the call, whether a body fails or not
    rcases (invokeAll (s.graph.exp e).member ((s.graph.exp e).outValues args)
      (s.graph.exp e).callbacks).run _ with ⟨_, s'⟩ | ⟨_, s'⟩ <;> intro hafter <;>
      simp [hafter, hruns, ArgsPattern.accepts_log, Array.append_assoc]

theorem firstApplying_after (l : List ExpId) :
    ∃ bodies : Array Probe, (∀ p ∈ bodies, p.isBody = true) ∧
      (Act.after (Receiver.firstApplying gs l args) s).journal = s.journal ++
        ((throughFirst (fun e => (s.graph.exp e).applies s.catalog s.code gs args) l).flatMap
          fun e => (s.graph.exp e).predRuns s.catalog s.code gs args).toArray ++ bodies := by
  induction l generalizing s with
  | nil => exact ⟨#[], by simp, by simp [Act.after, Receiver.firstApplying]⟩
  | cons e rest ih =>
    by_cases he : (s.graph.exp e).applies s.catalog s.code gs args = true
    case pos =>
      obtain ⟨bodies, hb, hafter⟩ := tryDispatch_after_of_applies gs args s e he
      refine ⟨bodies, hb, ?_⟩
      rw [Act.after_congr (firstApplying_cons_of_applies gs args e s rest he), hafter]
      simp [he]
    case neg =>
      let runs := ((s.graph.exp e).predRuns s.catalog s.code gs args).toArray
      have hrun :
          (tryDispatch e gs args).run s = .ok (.ok none, args) { s with journal := s.journal ++ runs } :=
        tryDispatch_run_of_not_applies gs args s e (by simpa using he)
      obtain ⟨bodies, hb, hafter⟩ := ih { s with journal := s.journal ++ runs }
      refine ⟨bodies, hb, ?_⟩
      -- past an arranged call that does not apply, the search goes on from the probed session
      have hstep : Act.after (Receiver.firstApplying gs (e :: rest) args) s =
          Act.after (Receiver.firstApplying gs rest args)
            { s with journal := s.journal ++ runs } := by
        simp only [Act.after, Receiver.firstApplying, EStateM.run_bind, hrun]
      rw [hstep, hafter]
      simp [runs, he, Array.append_assoc]

end Dispatch

theorem Receiver.invoke_after (r : Receiver) (member : String) (gs : List TypeId)
    (args : List CallArg) (s : Session) :
    Act.after (r.invoke member gs args) s =
      Act.after (Receiver.firstApplying gs (s.graph.expectationsOf r.node member).reverse args)
        s := by
  simp only [Act.after, invoke_run]
  rcases (Receiver.firstApplying gs (s.graph.expectationsOf r.node member).reverse args).run s
    with ⟨⟨_ | ⟨_ | _⟩, w⟩, s'⟩ | ⟨f, s'⟩ <;> rfl

theorem Receiver.getIndex_after (r : Receiver) (args : List CallArg) (s : Session) :
    Act.after (r.getIndex args) s = { s with journal := s.journal ++
      (firstIndexEntry s.catalog s.code args (s.graph.node r.node).indexers.reverse).log } := by
  have hm := firstIndexEntry_appends s.catalog s.code args (s.graph.node r.node).indexers.reverse
  simp only [Act.after, Receiver.getIndex, EStateM.run_bind, EStateM.run_get, probe_run _ hm]
  cases (firstIndexEntry s.catalog s.code args (s.graph.node r.node).indexers.reverse).answer
  · cases hp : r.policy <;> simp [Receiver.unmatched, hp, liftExcept]
  · rfl

/-- **Predicates run in short-circuit order.** Whatever a method call ends in (a result, a
fall-through, a fault of its callbacks), the journal gains exactly the predicate runs of
`Session.callPredRuns`, in that order, and after them callback bodies only. An indexer read gains
exactly the runs of `Session.indexPredRuns`. -/
theorem predicates_run_in_short_circuit_order (r : Receiver) (s : Session) :
    (∀ member gs args, ∃ bodies : Array Probe, (∀ p ∈ bodies, p.isBody = true) ∧
      (Act.after (r.invoke member gs args) s).journal =
        s.journal ++ (s.callPredRuns r.node member gs args).toArray ++ bodies) ∧
    ∀ args, (Act.after (r.getIndex args) s).journal =
      s.journal ++ (s.indexPredRuns r.node args).toArray := by
  refine ⟨fun member gs args => ?_, fun args => ?_⟩
  · rw [r.invoke_after]
    exact firstApplying_after gs args s _
  · rw [r.getIndex_after, firstIndexEntry_log]
    rfl

end Understudy
