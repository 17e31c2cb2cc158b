import Understudy.Proofs.Journal

set_option autoImplicit false

/-!
# Method dispatch: the newest applying arranged call wins

A call of a member is offered to its arranged calls newest first. The first that applies (its
generic filter, its argument patterns, and the fit of every out value it would write) takes the
call: its callbacks are checked against the argument values after the out writes, and only when
all accept are the values written back, the call counted and the callbacks run. An arranged call
that does not apply leaves nothing behind but the predicate runs of its patterns.

The main results are `invoke_takes_newest_applying`, what a call does in every case where the
callbacks accept it, and `invoke_callback_fault_atomic`, that a callback check failure changes
nothing and that a failing body is the only fault that can follow a counted call.
-/

namespace Understudy

open Probing

namespace Expectation

/-- Whether an arranged call applies to a call: the generic filter and the argument patterns
accept it, and every out value fits the argument it would be written into. -/
def applies (c : Catalog) (u : UserCode) (generics : List TypeId) (args : List CallArg)
    (x : Expectation) : Bool :=
  x.generics.accepts generics && (x.args.accepts c u args).answer && x.outsFit c args

theorem applies_eq_true {c : Catalog} {u : UserCode} {generics : List TypeId}
    {args : List CallArg} {x : Expectation} :
    x.applies c u generics args = true ↔ x.generics.accepts generics = true ∧
      (x.args.accepts c u args).answer = true ∧ x.outsFit c args = true := by
  simp [applies, and_assoc]

def outFor (x : Expectation) (j : Nat) (a : CallArg) : Value :=
  match a.name.bind fun n => x.outsByName.reverse.lookup n with
  | some v => v
  | none => (x.outsByIndex.reverse.lookup j).getD a.value

def writeOuts (x : Expectation) (args : List CallArg) : List CallArg :=
  args.mapIdx fun j a => { a with value := x.outFor j a }

end Expectation

section OutValues

theorem foldl_set_getElem? (L : List (Nat × Value)) (ws : List Value) (j : Nat) :
    (L.foldl (fun vs (i, v) => vs.set i v) ws)[j]? =
      ws[j]?.map fun w => (L.reverse.lookup j).getD w := by
  induction L generalizing ws with
  | nil => simp
  | cons p L ih =>
    obtain ⟨i, v⟩ := p
    rw [List.foldl_cons, ih, List.getElem?_set, List.reverse_cons, List.lookup_append]
    by_cases hij : i = j
    · subst hij
      cases hw : ws[i]? with
      | none => simp [Nat.not_lt.mpr (List.getElem?_eq_none_iff.mp hw)]
      | some w =>
        have hi : i < ws.length := (List.getElem?_eq_some_iff.mp hw).1
        cases L.reverse.lookup i <;> simp [hi]
    · have hji : (j == i) = false := by simpa using Ne.symm hij
      cases L.reverse.lookup j <;> simp [hij, List.lookup_cons, hji]

theorem length_foldl_name (args : List CallArg) (L : List (String × Value)) (ws : List Value)
    (hw : ws.length = args.length) :
    (L.foldl (fun vs (n, v) =>
      (vs.zip args).map fun (w, a) => if a.name == some n then v else w) ws).length =
      args.length := by
  induction L generalizing ws with
  | nil => exact hw
  | cons p L ih =>
    rw [List.foldl_cons]
    exact ih _ (by simp [hw])

theorem foldl_name_getElem? (args : List CallArg) (L : List (String × Value)) (ws : List Value)
    (hw : ws.length = args.length) (j : Nat) (hj : j < args.length) :
    (L.foldl (fun vs (n, v) =>
      (vs.zip args).map fun (w, a) => if a.name == some n then v else w) ws)[j]? =
      ws[j]?.map fun w => (args[j].name.bind fun n => L.reverse.lookup n).getD w := by
  have hwj : j < ws.length := hw ▸ hj
  induction L generalizing ws with
  | nil => simp
  | cons p L ih =>
    obtain ⟨n, v⟩ := p
    rw [List.foldl_cons, ih _ (by simp [hw]) (by simp [hw, hj]), List.getElem?_eq_getElem hwj,
      List.getElem?_eq_getElem (by simp [hw, hj])]
    simp only [List.getElem_map, List.getElem_zip, List.reverse_cons, List.lookup_append,
      Option.map_some]
    cases hname : args[j].name with
    | none => simp
    | some n' =>
      by_cases hn : n' = n
      · subst hn
        cases L.reverse.lookup n' <;> simp [List.lookup_cons]
      · have hne : (n' == n) = false := by simpa using hn
        cases L.reverse.lookup n' <;> simp [List.lookup_cons, hne]

theorem length_foldl_set (L : List (Nat × Value)) (ws : List Value) :
    (L.foldl (fun vs (i, v) => vs.set i v) ws).length = ws.length := by
  induction L generalizing ws with
  | nil => rfl
  | cons p L ih => rw [List.foldl_cons, ih, List.length_set]

theorem outValues_eq (x : Expectation) (args : List CallArg) :
    x.outValues args = args.mapIdx x.outFor := by
  apply List.ext_getElem?
  intro j
  rw [List.getElem?_mapIdx]
  dsimp only [Expectation.outValues]
  have hlen : (x.outsByIndex.foldl (fun vs (i, v) => vs.set i v)
      (args.map (·.value))).length = args.length := by
    rw [length_foldl_set, List.length_map]
  by_cases hj : j < args.length
  · have hidx := foldl_set_getElem? x.outsByIndex (args.map (·.value)) j
    rw [List.getElem?_eq_getElem (hlen ▸ hj), List.getElem?_map,
      List.getElem?_eq_getElem hj] at hidx
    rw [foldl_name_getElem? args _ _ hlen j hj, List.getElem?_eq_getElem hj,
      List.getElem?_eq_getElem (hlen ▸ hj)]
    simp only [Option.map_some, Option.some.injEq] at hidx ⊢
    rw [hidx, Expectation.outFor]
    cases args[j].name.bind fun n => x.outsByName.reverse.lookup n <;> rfl
  · rw [List.getElem?_eq_none (show args.length ≤ j by omega), Option.map_none]
    apply List.getElem?_eq_none
    rw [length_foldl_name args _ _ hlen]
    omega

theorem writeOuts_values (x : Expectation) (args : List CallArg) :
    (x.writeOuts args).map (·.value) = x.outValues args := by
  rw [outValues_eq]
  apply List.ext_getElem?
  intro j
  simp only [Expectation.writeOuts, List.getElem?_map, List.getElem?_mapIdx, Option.map_map]
  cases args[j]? <;> rfl

end OutValues

/-- `s'` is `s` after matching only: predicate runs were appended to the journal and nothing
else changed, so every node, arranged call and counter is as it was and no callback body ran. -/
def Session.ProbedTo (s s' : Session) : Prop :=
  ∃ log : Array Probe, (∀ p ∈ log, p.isBody = false) ∧ s' = { s with journal := s.journal ++ log }

namespace Session.ProbedTo

theorem refl (s : Session) : s.ProbedTo s :=
  ⟨#[], by simp, by cases s; simp⟩

theorem trans {s₁ s₂ s₃ : Session} (h₁ : s₁.ProbedTo s₂) (h₂ : s₂.ProbedTo s₃) :
    s₁.ProbedTo s₃ := by
  obtain ⟨l₁, hl₁, rfl⟩ := h₁
  obtain ⟨l₂, hl₂, rfl⟩ := h₂
  refine ⟨l₁ ++ l₂, fun p hp => ?_, by simp [Array.append_assoc]⟩
  rcases Array.mem_append.mp hp with hp | hp
  · exact hl₁ p hp
  · exact hl₂ p hp

theorem graph {s s' : Session} (h : s.ProbedTo s') : s'.graph = s.graph := by
  obtain ⟨_, _, rfl⟩ := h
  rfl

theorem catalog {s s' : Session} (h : s.ProbedTo s') : s'.catalog = s.catalog := by
  obtain ⟨_, _, rfl⟩ := h
  rfl

theorem code {s s' : Session} (h : s.ProbedTo s') : s'.code = s.code := by
  obtain ⟨_, _, rfl⟩ := h
  rfl

theorem of_appends {α : Type} {m : Probing α} (hm : Appends NoBody m) (s : Session) :
    s.ProbedTo { s with journal := s.journal ++ m.log } :=
  ⟨m.log, hm.2, rfl⟩

end Session.ProbedTo

section Callbacks

/-- What a callback's code answers on the argument values of a call; code without parameters is
given no arguments. -/
def Callback.outcome (u : UserCode) (cb : Callback) (vs : List Value) : Except String Unit :=
  u.bodies.getD cb.body.idx (fun _ => .ok ()) (if cb.params.isEmpty then [] else vs)

def firstFailure (u : UserCode) (vs : List Value) : List Callback → Option String
  | [] => none
  | cb :: rest =>
    match cb.outcome u vs with
    | .ok () => firstFailure u vs rest
    | .error msg => some msg

theorem Callback.invoke_answer (u : UserCode) (cb : Callback) (member : String)
    (vs : List Value) :
    (cb.invoke u member vs).answer = match cb.outcome u vs with
      | .ok () => .ok ()
      | .error msg => .error (.callbackFailed member msg) := by
  unfold Callback.invoke
  rw [answer_bind (u.runBody_appends _ _) (by split <;> exact appends_pure _),
    UserCode.runBody_answer]
  split
  · rename_i h
    rw [Callback.outcome, h]
    rfl
  · rename_i msg h
    rw [Callback.outcome, h]
    rfl

theorem invokeAll_run (member : String) (vs : List Value) (cbs : List Callback) (s : Session) :
    ∃ log : Array Probe, (invokeAll member vs cbs).run s =
      match firstFailure s.code vs cbs with
      | none => .ok () { s with journal := s.journal ++ log }
      | some msg => .error (.callbackFailed member msg) { s with journal := s.journal ++ log } := by
  induction cbs generalizing s with
  | nil => exact ⟨#[], by cases s; simp [invokeAll, firstFailure]⟩
  | cons cb rest ih =>
    have hrun := probe_run DispatchFault (cb.invoke_appends s.code member vs) s
    cases hout : cb.outcome s.code vs with
    | ok _ =>
      obtain ⟨log, hlog⟩ := ih { s with journal := s.journal ++ (cb.invoke s.code member vs).log }
      refine ⟨(cb.invoke s.code member vs).log ++ log, ?_⟩
      simp only [invokeAll, EStateM.run_bind, EStateM.run_get, hrun, Callback.invoke_answer,
        hout, firstFailure, liftExcept]
      simpa [Array.append_assoc] using hlog
    | error msg =>
      refine ⟨(cb.invoke s.code member vs).log, ?_⟩
      simp [invokeAll, hrun, Callback.invoke_answer, hout, firstFailure, liftExcept]

theorem checkAll_eq_ok (c : Catalog) (member : String) (vs : List Value) (cbs : List Callback) :
    checkAll c member vs cbs = .ok () ↔ ∀ cb ∈ cbs, cb.check c member vs = .ok () := by
  induction cbs with
  | nil => simp [checkAll]
  | cons cb rest ih =>
    simp only [checkAll, List.mem_cons, forall_eq_or_imp, ← ih]
    cases cb.check c member vs <;> simp [bind, Except.bind]

theorem firstFailure_eq_some (u : UserCode) (vs : List Value) (cbs : List Callback) (msg : String)
    (h : firstFailure u vs cbs = some msg) : ∃ cb ∈ cbs, cb.outcome u vs = .error msg := by
  induction cbs with
  | nil => simp [firstFailure] at h
  | cons cb rest ih =>
    cases hcb : cb.outcome u vs with
    | error m =>
      simp only [firstFailure, hcb, Option.some.injEq] at h
      exact ⟨cb, List.mem_cons_self, h ▸ hcb⟩
    | ok _ =>
      simp only [firstFailure, hcb] at h
      obtain ⟨cb', hmem, hcb'⟩ := ih h
      exact ⟨cb', List.mem_cons_of_mem _ hmem, hcb'⟩

theorem foldlM_except_ok {α ε : Type} (l : List α) (f : Unit → α → Except ε Unit)
    (h : ∀ x ∈ l, f () x = .ok ()) : l.foldlM f () = .ok () := by
  induction l with
  | nil => rfl
  | cons x l ih =>
    rw [List.foldlM_cons, h x List.mem_cons_self]
    exact ih fun y hy => h y (List.mem_cons_of_mem _ hy)

theorem Callback.read_of_check_typed (c : Catalog) (member : String) (ks : List ArgKind)
    (b : BodyId) (vs : List Value) (h : (Callback.typed ks b).check c member vs = .ok ())
    (i : Nat) (hi : i < ks.length) : ((vs[i]?).bind ks[i].read?).isSome := by
  have hne : ks ≠ [] := List.ne_nil_of_length_pos (by omega)
  simp only [Callback.check, Callback.typed, List.isEmpty_map, List.isEmpty_iff, hne,
    ↓reduceIte, List.length_map] at h
  by_cases hlen : ks.length = vs.length
  · simp only [hlen, bne_self_eq_false, Bool.false_eq_true, ↓reduceIte] at h
    split at h
    · cases h
    · rename_i hfind
      have hiv : i < vs.length := hlen ▸ hi
      have hmem : (((⟨ks[i].declared, some ks[i]⟩ : ParamCheck), vs[i]), i) ∈
          ((ks.map fun k => (⟨k.declared, some k⟩ : ParamCheck)).zip vs).zipIdx := by
        rw [List.mem_zipIdx_iff_getElem?, List.getElem?_zip_eq_some]
        simp
      have hadmit := List.find?_eq_none.mp hfind _ hmem
      simp only [Bool.not_eq_true', ParamCheck.admits, ArgKind.accepts] at hadmit
      rw [List.getElem?_eq_getElem hiv]
      simp only [Option.bind_some]
      cases hread : (ks[i].read? vs[i]).isSome <;> simp_all
  · simp [hlen] at h

theorem Callback.typedCode_of_check (c : Catalog) (member : String) (ks : List ArgKind)
    (b : BodyId) (vs : List Value) (h : (Callback.typed ks b).check c member vs = .ok ()) :
    Callback.typedCode ks vs = .ok () := by
  apply foldlM_except_ok
  intro ⟨k, i⟩ hki
  have hget := List.mem_zipIdx_iff_getElem?.mp hki
  obtain ⟨hi, hk⟩ := List.getElem?_eq_some_iff.mp hget
  have hread := Callback.read_of_check_typed c member ks b vs h i hi
  rw [hk] at hread
  simp [hread]

/-- A callback over typed parameters whose registered code is the typed code for them. -/
def Callback.TypedCode (u : UserCode) (cb : Callback) : Prop :=
  ∃ ks, cb = Callback.typed ks cb.body ∧ u.bodies[cb.body.idx]? = some (Callback.typedCode ks)

theorem Callback.outcome_of_typedCode (c : Catalog) (u : UserCode) (cb : Callback)
    (member : String) (vs : List Value) (ht : cb.TypedCode u) (hc : cb.check c member vs = .ok ()) :
    cb.outcome u vs = .ok () := by
  obtain ⟨ks, hcb, hbody⟩ := ht
  rw [hcb] at hc
  rw [Callback.outcome, Array.getD_eq_getD_getElem?, hbody, Option.getD_some]
  by_cases hks : ks = []
  · subst hks
    rfl
  · have hne : cb.params.isEmpty = false := by
      rw [hcb]
      simp [Callback.typed, hks]
    rw [hne]
    exact Callback.typedCode_of_check c member ks cb.body vs hc

end Callbacks

section Dispatch

variable (gs : List TypeId) (args : List CallArg)

theorem zip_outValues (x : Expectation) :
    (args.zip (x.outValues args)).map (fun (a, v) => { a with value := v }) =
      x.writeOuts args := by
  rw [outValues_eq]
  apply List.ext_getElem (by simp [Expectation.writeOuts])
  intro j _ _
  simp [Expectation.writeOuts]

/-- The session after a counted call of `e`, with probes `log` appended. -/
abbrev Session.counted (s : Session) (e : ExpId) (log : Array Probe) : Session :=
  { s with graph := s.graph.modifyExp e fun x => { x with calls := x.calls + 1 },
           journal := s.journal ++ log }

theorem Session.ProbedTo.applies {s s' : Session} (h : s.ProbedTo s') (e : ExpId) :
    (s'.graph.exp e).applies s'.catalog s'.code gs args =
      (s.graph.exp e).applies s.catalog s.code gs args := by
  rw [h.graph, h.catalog, h.code]

theorem Session.ProbedTo.checkAll {s s' : Session} (h : s.ProbedTo s') (e : ExpId) :
    checkAll s'.catalog (s'.graph.exp e).member ((s'.graph.exp e).outValues args)
        (s'.graph.exp e).callbacks =
      checkAll s.catalog (s.graph.exp e).member ((s.graph.exp e).outValues args)
        (s.graph.exp e).callbacks := by
  rw [h.graph, h.catalog]

variable (e : ExpId) (s : Session)

theorem tryDispatch_of_not_applies
    (h : (s.graph.exp e).applies s.catalog s.code gs args = false) :
    ∃ s', s.ProbedTo s' ∧ (tryDispatch e gs args).run s = .ok (.ok none, args) s' := by
  have hm := ArgsPattern.accepts_appends s.catalog s.code (s.graph.exp e).args args
  by_cases hg : (s.graph.exp e).generics.accepts gs = true
  · refine ⟨_, Session.ProbedTo.of_appends hm s, ?_⟩
    by_cases hp : ((s.graph.exp e).args.accepts s.catalog s.code args).answer = true
    · have hf : (s.graph.exp e).outsFit s.catalog args = false := by
        simpa [Expectation.applies, hg, hp] using h
      simp [tryDispatch, hg, probe_run _ hm, hp, hf]
    · simp [tryDispatch, hg, probe_run _ hm, hp]
  · exact ⟨s, .refl s, by simp [tryDispatch, hg]⟩

theorem tryDispatch_of_check_error
    (h : (s.graph.exp e).applies s.catalog s.code gs args = true) (f : DispatchFault)
    (hc : checkAll s.catalog (s.graph.exp e).member ((s.graph.exp e).outValues args)
      (s.graph.exp e).callbacks = .error f) :
    ∃ s', s.ProbedTo s' ∧ (tryDispatch e gs args).run s = .ok (.error f, args) s' := by
  have hm := ArgsPattern.accepts_appends s.catalog s.code (s.graph.exp e).args args
  obtain ⟨hg, hp, hf⟩ := Expectation.applies_eq_true.mp h
  refine ⟨_, Session.ProbedTo.of_appends hm s, ?_⟩
  simp [tryDispatch, hg, probe_run DispatchFault hm, hp, hf, hc]

theorem tryDispatch_of_check_ok
    (h : (s.graph.exp e).applies s.catalog s.code gs args = true)
    (hc : checkAll s.catalog (s.graph.exp e).member ((s.graph.exp e).outValues args)
      (s.graph.exp e).callbacks = .ok ()) :
    ∃ s', s.ProbedTo s' ∧ ∃ log : Array Probe,
      (tryDispatch e gs args).run s =
        .ok (match firstFailure s.code ((s.graph.exp e).outValues args) (s.graph.exp e).callbacks with
            | none => .ok (some (s.graph.exp e).outcome.result)
            | some msg => .error (.callbackFailed (s.graph.exp e).member msg),
          (s.graph.exp e).writeOuts args) (s'.counted e log) := by
  have hm := ArgsPattern.accepts_appends s.catalog s.code (s.graph.exp e).args args
  obtain ⟨hg, hp, hf⟩ := Expectation.applies_eq_true.mp h
  refine ⟨_, Session.ProbedTo.of_appends hm s, ?_⟩
  obtain ⟨log, hlog⟩ := invokeAll_run (s.graph.exp e).member ((s.graph.exp e).outValues args)
    (s.graph.exp e).callbacks
    { s with graph := s.graph.modifyExp e fun x => { x with calls := x.calls + 1 },
             journal := s.journal ++ ((s.graph.exp e).args.accepts s.catalog s.code args).log }
  dsimp only at hlog
  refine ⟨log, ?_⟩
  simp [tryDispatch, hg, probe_run DispatchFault hm, hp, hf, hc, changeGraph]
  rw [hlog]
  cases firstFailure s.code ((s.graph.exp e).outValues args) (s.graph.exp e).callbacks <;>
    simp [zip_outValues, Array.append_assoc, Except.map]

theorem firstApplying_cons_of_applies (rest : List ExpId)
    (h : (s.graph.exp e).applies s.catalog s.code gs args = true) :
    (Receiver.firstApplying gs (e :: rest) args).run s = (tryDispatch e gs args).run s := by
  simp only [Receiver.firstApplying, EStateM.run_bind]
  cases hc : checkAll s.catalog (s.graph.exp e).member ((s.graph.exp e).outValues args)
    (s.graph.exp e).callbacks with
  | error f =>
    obtain ⟨s', -, hrun⟩ := tryDispatch_of_check_error gs args e s h f hc
    rw [hrun]
    rfl
  | ok _ =>
    obtain ⟨s', -, log, hrun⟩ := tryDispatch_of_check_ok gs args e s h hc
    rw [hrun]
    cases firstFailure s.code ((s.graph.exp e).outValues args) (s.graph.exp e).callbacks <;> rfl

end Dispatch

section Search

variable (gs : List TypeId) (args : List CallArg)

theorem firstApplying_of_none_applies (l : List ExpId) (s : Session)
    (h : ∀ e ∈ l, (s.graph.exp e).applies s.catalog s.code gs args = false) :
    ∃ s', s.ProbedTo s' ∧ (Receiver.firstApplying gs l args).run s = .ok (.ok none, args) s' := by
  induction l generalizing s with
  | nil => exact ⟨s, .refl s, rfl⟩
  | cons e rest ih =>
    obtain ⟨s₁, h₁, hrun⟩ := tryDispatch_of_not_applies gs args e s (h e List.mem_cons_self)
    obtain ⟨s₂, h₂, hrun₂⟩ :=
      ih s₁ fun e' he' => (h₁.applies gs args e').trans (h e' (List.mem_cons_of_mem _ he'))
    refine ⟨s₂, h₁.trans h₂, ?_⟩
    simp only [Receiver.firstApplying, EStateM.run_bind, hrun]
    exact hrun₂

theorem firstApplying_of_first (pre : List ExpId) (e : ExpId) (post : List ExpId) (s : Session)
    (hpre : ∀ e' ∈ pre, (s.graph.exp e').applies s.catalog s.code gs args = false)
    (he : (s.graph.exp e).applies s.catalog s.code gs args = true) :
    ∃ s', s.ProbedTo s' ∧
      (Receiver.firstApplying gs (pre ++ e :: post) args).run s = (tryDispatch e gs args).run s' := by
  induction pre generalizing s with
  | nil => exact ⟨s, .refl s, firstApplying_cons_of_applies gs args e s post he⟩
  | cons e₀ pre ih =>
    obtain ⟨s₁, h₁, hrun⟩ := tryDispatch_of_not_applies gs args e₀ s (hpre e₀ List.mem_cons_self)
    obtain ⟨s₂, h₂, hrun₂⟩ :=
      ih s₁ (fun e' he' => (h₁.applies gs args e').trans (hpre e' (List.mem_cons_of_mem _ he')))
        ((h₁.applies gs args e).trans he)
    refine ⟨s₂, h₁.trans h₂, ?_⟩
    simp only [List.cons_append, Receiver.firstApplying, EStateM.run_bind, hrun]
    exact hrun₂

end Search

section Invoke

variable (r : Receiver) (member : String) (gs : List TypeId) (args : List CallArg)

theorem invoke_run (s : Session) :
    (r.invoke member gs args).run s =
      match (Receiver.firstApplying gs (s.graph.expectationsOf r.node member).reverse args).run s with
      | .ok (.ok (some v), w) s' => .ok (.ok (.value v), w) s'
      | .ok (.ok none, w) s' => .ok (r.unmatched member w, w) s'
      | .ok (.error f, w) s' => .ok (.error f, w) s'
      | .error f s' => .error f s' := by
  simp only [Receiver.invoke, Understudy.graph, EStateM.run_bind, EStateM.run_get,
    EStateM.run_pure]
  rcases (Receiver.firstApplying gs (s.graph.expectationsOf r.node member).reverse args).run s
    with ⟨⟨_ | ⟨_ | _⟩, w⟩, s'⟩ | ⟨f, s'⟩ <;> rfl

theorem invoke_of_none_applies (s : Session)
    (h : ∀ e ∈ s.graph.expectationsOf r.node member,
      (s.graph.exp e).applies s.catalog s.code gs args = false) :
    ∃ s', s.ProbedTo s' ∧ (r.invoke member gs args).run s = .ok (match r.policy with
      | .fail => .error (.unanticipated member (literalList (args.map (·.value))))
      | .fallThrough => .ok .fallThrough, args) s' := by
  obtain ⟨s', h', hrun⟩ := firstApplying_of_none_applies gs args _ s
    fun e he => h e (List.mem_reverse.mp he)
  exact ⟨s', h', by rw [invoke_run, hrun]; rfl⟩

theorem firstApplying_reverse_of_newest (s : Session) (older newer : List ExpId) (e : ExpId)
    (hexps : s.graph.expectationsOf r.node member = older ++ e :: newer)
    (he : (s.graph.exp e).applies s.catalog s.code gs args = true)
    (hnewer : ∀ e' ∈ newer, (s.graph.exp e').applies s.catalog s.code gs args = false) :
    ∃ s', s.ProbedTo s' ∧
      (Receiver.firstApplying gs (s.graph.expectationsOf r.node member).reverse args).run s =
        (tryDispatch e gs args).run s' := by
  have hrev : (s.graph.expectationsOf r.node member).reverse =
      newer.reverse ++ e :: older.reverse := by
    simp [hexps]
  rw [hrev]
  exact firstApplying_of_first gs args _ e _ s (fun e' he' => hnewer e' (List.mem_reverse.mp he')) he

theorem invoke_of_check_error (s : Session) (older newer : List ExpId) (e : ExpId)
    (hexps : s.graph.expectationsOf r.node member = older ++ e :: newer)
    (he : (s.graph.exp e).applies s.catalog s.code gs args = true)
    (hnewer : ∀ e' ∈ newer, (s.graph.exp e').applies s.catalog s.code gs args = false)
    (f : DispatchFault)
    (hc : checkAll s.catalog (s.graph.exp e).member ((s.graph.exp e).outValues args)
      (s.graph.exp e).callbacks = .error f) :
    ∃ s', s.ProbedTo s' ∧ (r.invoke member gs args).run s = .ok (.error f, args) s' := by
  obtain ⟨s₁, h₁, hsearch⟩ := firstApplying_reverse_of_newest r member gs args s older newer e
    hexps he hnewer
  obtain ⟨s₂, h₂, hrun⟩ := tryDispatch_of_check_error gs args e s₁
    ((h₁.applies gs args e).trans he) f ((h₁.checkAll args e).trans hc)
  exact ⟨s₂, h₁.trans h₂, by rw [invoke_run, hsearch, hrun]⟩

theorem invoke_of_check_ok (s : Session) (older newer : List ExpId) (e : ExpId)
    (hexps : s.graph.expectationsOf r.node member = older ++ e :: newer)
    (he : (s.graph.exp e).applies s.catalog s.code gs args = true)
    (hnewer : ∀ e' ∈ newer, (s.graph.exp e').applies s.catalog s.code gs args = false)
    (hc : checkAll s.catalog (s.graph.exp e).member ((s.graph.exp e).outValues args)
      (s.graph.exp e).callbacks = .ok ()) :
    ∃ log : Array Probe, (∀ p ∈ log, p.isBody = false) ∧ ∃ log' : Array Probe,
      (r.invoke member gs args).run s =
        .ok (match firstFailure s.code ((s.graph.exp e).outValues args) (s.graph.exp e).callbacks with
            | none => .ok (.value (s.graph.exp e).outcome.result)
            | some msg => .error (.callbackFailed (s.graph.exp e).member msg),
          (s.graph.exp e).writeOuts args) (s.counted e (log ++ log')) := by
  obtain ⟨s₁, h₁, hsearch⟩ := firstApplying_reverse_of_newest r member gs args s older newer e
    hexps he hnewer
  obtain ⟨s₂, h₂, log', hrun⟩ := tryDispatch_of_check_ok gs args e s₁
    ((h₁.applies gs args e).trans he) ((h₁.checkAll args e).trans hc)
  rw [h₁.code, h₁.graph] at hrun
  obtain ⟨log, hlog, rfl⟩ := h₁.trans h₂
  refine ⟨log, hlog, log', ?_⟩
  rw [invoke_run, hsearch, hrun]
  cases firstFailure s.code ((s.graph.exp e).outValues args) (s.graph.exp e).callbacks <;>
    simp [Array.append_assoc]

/-- **Newest applying arranged call wins.** A method call goes to the newest arranged call of
the member that applies. When none applies, only predicate runs are recorded, the arguments stay
as they came, and the policy decides: a fault naming the member and the argument literals, or a
fall-through. When one applies and all its callbacks accept the values after the out writes, the
session changes only by that call's counter going up by one and the journal, and each argument
takes its out value (by name, else by position, else its own). The call answers the arranged
result, or the fault of the first callback body that fails; the arguments stay written either
way. -/
theorem invoke_takes_newest_applying (s : Session) :
    ((∀ e ∈ s.graph.expectationsOf r.node member,
        (s.graph.exp e).applies s.catalog s.code gs args = false) →
      ∃ s', s.ProbedTo s' ∧ (r.invoke member gs args).run s = .ok (match r.policy with
        | .fail => .error (.unanticipated member (literalList (args.map (·.value))))
        | .fallThrough => .ok .fallThrough, args) s') ∧
    (∀ older e newer, s.graph.expectationsOf r.node member = older ++ e :: newer →
      (s.graph.exp e).applies s.catalog s.code gs args = true →
      (∀ e' ∈ newer, (s.graph.exp e').applies s.catalog s.code gs args = false) →
      (∀ cb ∈ (s.graph.exp e).callbacks, cb.check s.catalog (s.graph.exp e).member
        (((s.graph.exp e).writeOuts args).map (·.value)) = .ok ()) →
      ∃ log : Array Probe,
        (r.invoke member gs args).run s =
          .ok (match firstFailure s.code (((s.graph.exp e).writeOuts args).map (·.value))
                (s.graph.exp e).callbacks with
              | none => .ok (.value (s.graph.exp e).outcome.result)
              | some msg => .error (.callbackFailed (s.graph.exp e).member msg),
            (s.graph.exp e).writeOuts args) (s.counted e log)) := by
  refine ⟨invoke_of_none_applies r member gs args s, ?_⟩
  intro older e newer hexps he hnewer hcbs
  rw [writeOuts_values] at hcbs ⊢
  obtain ⟨log, -, log', hrun⟩ := invoke_of_check_ok r member gs args s older newer e hexps he
    hnewer ((checkAll_eq_ok _ _ _ _).mpr hcbs)
  exact ⟨log ++ log', hrun⟩

end Invoke

def outValueSession : Session :=
  { Session.standard with
    graph := { nodes := #[{ verbs := VerbNames.standard, members := [("F", .methods [⟨0⟩])] }],
               exps := #[{ member := "F", args := .positional [.any none], generics := .none,
                           outcome := .value (.int 7), outsByIndex := [(0, .int 5)],
                           callbacks := [Callback.typed [.int] ⟨0⟩] }] },
    code := { bodies := #[Callback.typedCode [.int]] } }

/-- Calling `F` with 1: the arranged call applies, its callback accepts the written 5, and the
call answers 7 with the argument written and the call counted. -/
theorem out_value_written_and_counted :
    (outValueSession.graph.exp ⟨0⟩).applies outValueSession.catalog outValueSession.code []
        [{ value := .int 1 }] = true ∧
      (∀ cb ∈ (outValueSession.graph.exp ⟨0⟩).callbacks, cb.check outValueSession.catalog "F"
        (((outValueSession.graph.exp ⟨0⟩).writeOuts [{ value := .int 1 }]).map (·.value)) = .ok ()) ∧
      ∃ log : Array Probe,
        (Receiver.invoke ⟨⟨0⟩, .fail⟩ "F" [] [{ value := .int 1 }]).run outValueSession =
          .ok (.ok (.value (.int 7)), [{ value := .int 5 }]) (outValueSession.counted ⟨0⟩ log) := by
  have happ : (outValueSession.graph.exp ⟨0⟩).applies outValueSession.catalog outValueSession.code
      [] [{ value := .int 1 }] = true := by decide
  have hcbs : ∀ cb ∈ (outValueSession.graph.exp ⟨0⟩).callbacks, cb.check outValueSession.catalog
      "F" (((outValueSession.graph.exp ⟨0⟩).writeOuts [{ value := .int 1 }]).map (·.value)) =
        .ok () :=
    (checkAll_eq_ok _ _ _ _).mp rfl
  obtain ⟨log, hrun⟩ := (invoke_takes_newest_applying ⟨⟨0⟩, .fail⟩ "F" [] [{ value := .int 1 }]
    outValueSession).2 [] ⟨0⟩ [] rfl happ (by simp) hcbs
  exact ⟨happ, hcbs, log, hrun⟩

section Faults

variable (r : Receiver) (member : String) (gs : List TypeId) (args : List CallArg)

def DispatchFault.refusesValues : DispatchFault → Bool
  | .callbackMismatch .. | .callbackArity .. => true
  | _ => false

theorem none_or_newest (l : List ExpId) (p : ExpId → Bool) :
    (∀ e ∈ l, p e = false) ∨
      ∃ older e newer, l = older ++ e :: newer ∧ p e = true ∧ ∀ e' ∈ newer, p e' = false := by
  cases h : l.reverse.find? p with
  | none =>
    left
    intro e he
    simpa using List.find?_eq_none.mp h e (List.mem_reverse.mpr he)
  | some e =>
    right
    obtain ⟨he, newer, older, hsplit, hnewer⟩ := List.find?_eq_some_iff_append.mp h
    refine ⟨older.reverse, e, newer.reverse, ?_, he, fun e' he' => ?_⟩
    · rw [← List.reverse_reverse l, hsplit]
      simp
    · simpa using hnewer e' (List.mem_reverse.mp he')

theorem invoke_error_cases (s s' : Session) (f : DispatchFault) (args' : List CallArg)
    (h : (r.invoke member gs args).run s = .ok (.error f, args') s') :
    (s.ProbedTo s' ∧ args' = args ∧ f = .unanticipated member (literalList (args.map (·.value)))) ∨
    ∃ older e newer, s.graph.expectationsOf r.node member = older ++ e :: newer ∧
      (s.graph.exp e).applies s.catalog s.code gs args = true ∧
      (∀ e' ∈ newer, (s.graph.exp e').applies s.catalog s.code gs args = false) ∧
      ((s.ProbedTo s' ∧ args' = args ∧ checkAll s.catalog (s.graph.exp e).member
          ((s.graph.exp e).outValues args) (s.graph.exp e).callbacks = .error f) ∨
       (checkAll s.catalog (s.graph.exp e).member ((s.graph.exp e).outValues args)
          (s.graph.exp e).callbacks = .ok () ∧
        ∃ msg, firstFailure s.code ((s.graph.exp e).outValues args) (s.graph.exp e).callbacks =
          some msg ∧ f = .callbackFailed (s.graph.exp e).member msg ∧
          args' = (s.graph.exp e).writeOuts args ∧ ∃ log, s' = s.counted e log)) := by
  rcases none_or_newest (s.graph.expectationsOf r.node member)
      (fun e => (s.graph.exp e).applies s.catalog s.code gs args) with
    hnone | ⟨older, e, newer, hexps, he, hnewer⟩
  case inl =>
    obtain ⟨s₁, h₁, hrun⟩ := invoke_of_none_applies r member gs args s hnone
    rw [hrun] at h
    cases hp : r.policy <;> simp only [hp, EStateM.Result.ok.injEq, Prod.mk.injEq,
      reduceCtorEq, false_and] at h
    obtain ⟨⟨hf, rfl⟩, rfl⟩ := h
    cases hf
    exact .inl ⟨h₁, rfl, rfl⟩
  case inr =>
    refine .inr ⟨older, e, newer, hexps, he, hnewer, ?_⟩
    cases hc : checkAll s.catalog (s.graph.exp e).member ((s.graph.exp e).outValues args)
      (s.graph.exp e).callbacks with
    | error f' =>
      obtain ⟨s₁, h₁, hrun⟩ := invoke_of_check_error r member gs args s older newer e hexps he
        hnewer f' hc
      rw [hrun] at h
      simp only [EStateM.Result.ok.injEq, Prod.mk.injEq, Except.error.injEq] at h
      obtain ⟨⟨rfl, rfl⟩, rfl⟩ := h
      exact .inl ⟨h₁, rfl, rfl⟩
    | ok _ =>
      obtain ⟨log, -, log', hrun⟩ := invoke_of_check_ok r member gs args s older newer e hexps he
        hnewer hc
      rw [hrun] at h
      cases hf : firstFailure s.code ((s.graph.exp e).outValues args) (s.graph.exp e).callbacks with
      | none => simp [hf] at h
      | some msg =>
        simp only [hf, EStateM.Result.ok.injEq, Prod.mk.injEq, Except.error.injEq] at h
        obtain ⟨⟨rfl, rfl⟩, rfl⟩ := h
        exact .inr ⟨rfl, msg, rfl, rfl, rfl, log ++ log', rfl⟩

/-- **Callback faults are atomic.** A call refused by a callback check leaves the caller's
arguments as they came and changes nothing but the journal of predicate runs, and the refusal
comes from the newest applying arranged call. The only fault that can follow a counted call is a
failing body, from a callback whose check accepted the values and whose code is not the typed
code for its parameters; by then the out values are written into the arguments. Typed code
converts every value its check accepts. -/
theorem invoke_callback_fault_atomic (s s' : Session) (f : DispatchFault) (args' : List CallArg)
    (h : (r.invoke member gs args).run s = .ok (.error f, args') s') :
    (f.refusesValues = true →
      args' = args ∧ s.ProbedTo s' ∧
        ∃ older e newer, s.graph.expectationsOf r.node member = older ++ e :: newer ∧
          (s.graph.exp e).applies s.catalog s.code gs args = true ∧
          (∀ e' ∈ newer, (s.graph.exp e').applies s.catalog s.code gs args = false) ∧
          checkAll s.catalog (s.graph.exp e).member ((s.graph.exp e).outValues args)
            (s.graph.exp e).callbacks = .error f) ∧
    ((args' = args ∧ s'.graph = s.graph) ∨
      ∃ e ∈ s.graph.expectationsOf r.node member, ∃ msg,
        f = .callbackFailed (s.graph.exp e).member msg ∧
        args' = (s.graph.exp e).writeOuts args ∧
        s'.graph = s.graph.modifyExp e (fun x => { x with calls := x.calls + 1 }) ∧
        ∃ cb ∈ (s.graph.exp e).callbacks,
          cb.check s.catalog (s.graph.exp e).member ((s.graph.exp e).outValues args) = .ok () ∧
          cb.outcome s.code ((s.graph.exp e).outValues args) = .error msg ∧
          ¬ cb.TypedCode s.code) ∧
    (∀ ks b vs, (Callback.typed ks b).check s.catalog member vs = .ok () →
      Callback.typedCode ks vs = .ok ()) := by
  refine ⟨fun hf => ?_, ?_, fun ks b vs => Callback.typedCode_of_check s.catalog member ks b vs⟩
  · rcases invoke_error_cases r member gs args s s' f args' h with
      ⟨-, -, rfl⟩ | ⟨older, e, newer, hexps, he, hnewer, ⟨h₁, hargs, hc⟩ | ⟨-, msg, -, rfl, -⟩⟩
    · simp [DispatchFault.refusesValues] at hf
    · exact ⟨hargs, h₁, older, e, newer, hexps, he, hnewer, hc⟩
    · simp [DispatchFault.refusesValues] at hf
  · rcases invoke_error_cases r member gs args s s' f args' h with
      ⟨h₁, hargs, -⟩ |
        ⟨older, e, newer, hexps, -, -, ⟨h₁, hargs, -⟩ | ⟨hc, msg, hf, rfl, hargs, log, rfl⟩⟩
    · exact .inl ⟨hargs, h₁.graph⟩
    · exact .inl ⟨hargs, h₁.graph⟩
    · obtain ⟨cb, hcb, hout⟩ := firstFailure_eq_some _ _ _ _ hf
      have hcheck := (checkAll_eq_ok _ _ _ _).mp hc cb hcb
      refine .inr ⟨e, by simp [hexps], msg, rfl, hargs, rfl, cb, hcb, hcheck, hout, fun ht => ?_⟩
      rw [Callback.outcome_of_typedCode _ _ cb _ _ ht hcheck] at hout
      cases hout

end Faults

def intCallbackSession : Session :=
  { Session.standard with
    graph := { nodes := #[{ verbs := VerbNames.standard, members := [("F", .methods [⟨0⟩])] }],
               exps := #[{ member := "F", args := .positional [.any none], generics := .none,
                           outcome := .value .null, callbacks := [Callback.typed [.int] ⟨0⟩] }] },
    code := { bodies := #[Callback.typedCode [.int]] } }

/-- Calling `F` with text is refused by the integer callback, and nothing changes. -/
theorem text_refused_by_int_callback :
    (Receiver.invoke ⟨⟨0⟩, .fail⟩ "F" [] [{ value := .str "x" }]).run intCallbackSession =
      .ok (.error (.callbackMismatch "F" 0 (Catalog.standard.nameOf .int)
        ((Value.str "x").typeName Catalog.standard)), [{ value := .str "x" }]) intCallbackSession ∧
    intCallbackSession.ProbedTo intCallbackSession :=
  have h : (Receiver.invoke ⟨⟨0⟩, .fail⟩ "F" [] [{ value := .str "x" }]).run intCallbackSession =
      .ok (.error (.callbackMismatch "F" 0 (Catalog.standard.nameOf .int)
        ((Value.str "x").typeName Catalog.standard)), [{ value := .str "x" }]) intCallbackSession :=
    rfl
  ⟨h, ((invoke_callback_fault_atomic _ _ _ _ _ _ _ _ h).1 rfl).2.1⟩

end Understudy
