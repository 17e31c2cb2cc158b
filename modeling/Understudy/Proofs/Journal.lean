import Understudy.Mock.Receiver

set_option autoImplicit false

/-!
# Runs of user code only append to the journal

User code is pure, so a journal computation made of predicate and body runs answers the same
whatever the journal already holds, and it only appends its own probes. `Probing.answer` and
`Probing.log` are that answer and those probes, read off a run on an empty journal.

Every argument pattern, list pattern, indexer search and callback run is such a computation.
Matching records predicate runs only, never the run of a callback body: that is what lets a
dispatch that stops before its callbacks leave no trace of them.
-/

namespace Understudy

def Probe.isBody : Probe → Bool
  | .body _ _ => true
  | _ => false

namespace Probing

/-- The answer of a journal computation, run on an empty journal. -/
def answer {α : Type} (m : Probing α) : α := (m.run #[]).run.1

/-- The probes a journal computation records, run on an empty journal. -/
def log {α : Type} (m : Probing α) : Array Probe := (m.run #[]).run.2

/-- A journal computation that answers the same on every journal and only appends probes of
which `P` holds. -/
def Appends {α : Type} (P : Probe → Prop) (m : Probing α) : Prop :=
  (∀ j, (m.run j).run = (m.answer, j ++ m.log)) ∧ ∀ p ∈ m.log, P p

variable {α β : Type} {P : Probe → Prop}

theorem Appends.run {m : Probing α} (h : Appends P m) (j : Array Probe) :
    (m.run j).run = (m.answer, j ++ m.log) :=
  h.1 j

theorem appends_pure (a : α) : Appends P (pure a : Probing α) := by
  refine ⟨fun j => ?_, fun p hp => ?_⟩
  · simp [answer, log]
  · simp [log] at hp

@[simp] theorem answer_pure (a : α) : (pure a : Probing α).answer = a := rfl

@[simp] theorem log_pure (a : α) : (pure a : Probing α).log = #[] := rfl

theorem run_bind_of_appends {m : Probing α} {f : α → Probing β} (hm : Appends P m)
    (j : Array Probe) : ((m >>= f).run j).run = ((f m.answer).run (j ++ m.log)).run := by
  simp [hm.run]

theorem answer_bind {m : Probing α} {f : α → Probing β} (hm : Appends P m)
    (hf : Appends P (f m.answer)) : (m >>= f).answer = (f m.answer).answer := by
  show ((m >>= f).run #[]).run.1 = _
  rw [run_bind_of_appends hm, hf.run]

theorem log_bind {m : Probing α} {f : α → Probing β} (hm : Appends P m)
    (hf : Appends P (f m.answer)) : (m >>= f).log = m.log ++ (f m.answer).log := by
  show ((m >>= f).run #[]).run.2 = _
  rw [run_bind_of_appends hm, hf.run, Array.empty_append]

theorem appends_bind {m : Probing α} {f : α → Probing β} (hm : Appends P m)
    (hf : ∀ a, Appends P (f a)) : Appends P (m >>= f) := by
  refine ⟨fun j => ?_, fun p hp => ?_⟩
  · rw [run_bind_of_appends hm, (hf m.answer).run, answer_bind hm (hf m.answer), log_bind hm (hf m.answer),
      Array.append_assoc]
  · rw [log_bind hm (hf m.answer), Array.mem_append] at hp
    rcases hp with hp | hp
    · exact hm.2 p hp
    · exact (hf m.answer).2 p hp

theorem appends_ite {c : Prop} [Decidable c] {m n : Probing α} (hm : Appends P m)
    (hn : Appends P n) : Appends P (if c then m else n) := by
  split
  · exact hm
  · exact hn

theorem appends_record (p : Probe) (a : α) (hp : P p) :
    Appends P (do modify (·.push p); pure a : Probing α) := by
  refine ⟨fun j => ?_, fun q hq => ?_⟩
  · simp [answer, log]
  · simp [log] at hq
    exact hq ▸ hp

end Probing

open Probing

namespace UserCode

variable (u : UserCode)

theorem runPred_appends (p : PredId) (v : Value) :
    Appends (fun q => q.isBody = false) (u.runPred p v) :=
  appends_record _ _ rfl

@[simp] theorem runPred_answer (p : PredId) (v : Value) :
    (u.runPred p v).answer = u.preds.getD p.idx (fun _ => false) v := rfl

theorem runListPred_appends (p : ListPredId) (vs : List Value) :
    Appends (fun q => q.isBody = false) (u.runListPred p vs) :=
  appends_record _ _ rfl

@[simp] theorem runListPred_answer (p : ListPredId) (vs : List Value) :
    (u.runListPred p vs).answer = u.listPreds.getD p.idx (fun _ => false) vs := rfl

theorem runBody_appends (b : BodyId) (vs : List Value) :
    Appends (fun _ => True) (u.runBody b vs) :=
  appends_record _ _ trivial

@[simp] theorem runBody_answer (b : BodyId) (vs : List Value) :
    (u.runBody b vs).answer = u.bodies.getD b.idx (fun _ => .ok ()) vs := rfl

end UserCode

section Matching

variable (c : Catalog) (u : UserCode)

/-- Matching an argument records predicate runs only. -/
abbrev NoBody : Probe → Prop := fun q => q.isBody = false

theorem ArgPattern.accepts_appends (p : ArgPattern) (arg : CallArg) :
    Appends NoBody (p.accepts c u arg) := by
  unfold ArgPattern.accepts
  split
  · exact appends_pure _
  · exact appends_pure _
  · exact appends_ite (u.runPred_appends _ _) (appends_pure _)
  · exact appends_pure _
  · exact appends_pure _

theorem matchPositions_appends (ps : List ArgPattern) (args : List CallArg) :
    Appends NoBody (matchPositions c u ps args) := by
  induction ps generalizing args with
  | nil => exact appends_pure _
  | cons p ps ih =>
    cases args with
    | nil => exact appends_pure _
    | cons a args =>
      exact appends_bind (p.accepts_appends c u a) fun _ => appends_ite (ih args) (appends_pure _)

theorem matchPositions_answer (ps : List ArgPattern) (args : List CallArg) :
    (matchPositions c u ps args).answer =
      (ps.zip args).all fun (p, a) => (p.accepts c u a).answer := by
  induction ps generalizing args with
  | nil => rfl
  | cons p ps ih =>
    cases args with
    | nil => rfl
    | cons a args =>
      have hstep := @answer_bind Bool Bool NoBody (p.accepts c u a)
        (fun b => if b = true then matchPositions c u ps args else pure false)
        (p.accepts_appends c u a) (appends_ite (matchPositions_appends c u ps args) (appends_pure _))
      simp only [matchPositions] at hstep ⊢
      rw [hstep]
      by_cases h : (p.accepts c u a).answer = true
      · simp [h, ih]
      · simp [h]

theorem ArgsPattern.accepts_appends (p : ArgsPattern) (args : List CallArg) :
    Appends NoBody (p.accepts c u args) := by
  unfold ArgsPattern.accepts
  split
  · exact appends_pure _
  · split
    · exact matchPositions_appends c u _ _
    · exact appends_ite (u.runListPred_appends _ _) (appends_pure _)

theorem firstIndexEntry_appends (args : List CallArg) (ies : List IndexEntry) :
    Appends NoBody (Receiver.firstIndexEntry c u args ies) := by
  induction ies with
  | nil => exact appends_pure _
  | cons ie ies ih =>
    exact appends_bind (ie.args.accepts_appends c u args) fun _ => appends_ite (appends_pure _) ih

end Matching

theorem Callback.invoke_appends (u : UserCode) (cb : Callback) (member : String)
    (vs : List Value) : Appends (fun _ => True) (cb.invoke u member vs) := by
  refine appends_bind (u.runBody_appends _ _) fun r => ?_
  split
  · exact appends_pure _
  · exact appends_pure _

@[simp] theorem EStateM.run_map_result {ε σ α β : Type} (f : α → β) (x : EStateM ε σ α) (s : σ) :
    (f <$> x).run s = match x.run s with
      | .ok a s' => .ok (f a) s'
      | .error e s' => .error e s' := rfl

@[simp] theorem EStateM.run_throw_result {ε σ α : Type} (e : ε) (s : σ) :
    (throw e : EStateM ε σ α).run s = .error e s := rfl

@[simp] theorem attempt_run {ε ε' α : Type} (m : Act ε α) (s : Session) :
    (attempt m : Act ε' (Except ε α)).run s = match m.run s with
      | .ok a s' => .ok (.ok a) s'
      | .error e s' => .ok (.error e) s' := rfl

theorem probe_run (ε : Type) {α : Type} {P : Probe → Prop} {m : Probing α} (hm : Appends P m)
    (s : Session) :
    (probe m : Act ε α).run s = .ok m.answer { s with journal := s.journal ++ m.log } := by
  have h := hm.run s.journal
  simp only [probe, EStateM.run]
  rw [show m.run s.journal = (m.answer, s.journal ++ m.log) from h]

end Understudy
