import Understudy.Proofs.Sharing

set_option autoImplicit false

/-!
# Handles the session hands out

`Step.ValidAlong` asks of a run that each call is made on a node of the graph, each configuring
step goes through a valid handle, and each call on a result finds its node. Nodes are numbered as
they are made, so a node of the graph is one the session made. The rest follows from where
handles come from: every handle an arrangement answers is valid in the graph it leaves
(`Step.handles_valid`) and stays valid as the graph grows, and every call's result is a node of
the graph (`Graph.ResultsInside`) as long as each value set as a result is one. So a run that
names only handles handed out before is valid along (`Step.validAlong_of_issued`).
-/

namespace Understudy

def Act.answer? {ε α : Type} (m : Act ε α) (s : Session) : Option α :=
  match m.run s with
  | .ok a _ => some a
  | .error _ _ => none

theorem Act.run_of_answer? {ε α : Type} {m : Act ε α} {s : Session} {a : α}
    (h : Act.answer? m s = some a) : m.run s = .ok a (Act.after m s) := by
  unfold Act.answer? at h
  unfold Act.after
  cases hr : m.run s with
  | ok a' s' =>
    rw [hr] at h
    cases h
    rfl
  | error f s' =>
    rw [hr] at h
    cases h

theorem Act.answer?_congr {ε α : Type} {m m' : Act ε α} {s : Session} (h : m.run s = m'.run s) :
    Act.answer? m s = Act.answer? m' s := by
  simp only [Act.answer?, h]

/-- A mock value names a node of the graph. -/
def Value.InGraph (g : Graph) (v : Value) : Prop :=
  ∀ m, v.asMock? = some m → m.idx < g.nodes.size

theorem Value.InGraph.mono {g g' : Graph} {v : Value} (h : v.InGraph g)
    (hn : g.nodes.size ≤ g'.nodes.size) : v.InGraph g' :=
  fun m hm => lt_of_lt_of_le (h m hm) hn

/-- The result a configuring step sets names a node of the graph. -/
def Config.ResultInGraph (g : Graph) : Config → Prop
  | .returns v => v.InGraph g
  | _ => True

namespace Graph

/-- Every call's result node is a node of the graph. -/
def ResultsInside (g : Graph) : Prop :=
  ∀ e m, e.idx < g.exps.size → (g.exp e).outcome.node? = some m → m.idx < g.nodes.size

namespace ResultsInside

variable {g g' : Graph}

theorem of_outcomes (h : g.ResultsInside) (hn : g.nodes.size ≤ g'.nodes.size)
    (he : ∀ e, e.idx < g'.exps.size →
      (e.idx < g.exps.size ∧ (g'.exp e).outcome = (g.exp e).outcome) ∨
        ∀ m, (g'.exp e).outcome.node? = some m → m.idx < g'.nodes.size) :
    g'.ResultsInside := by
  intro e m hlt hm
  rcases he e hlt with ⟨hlt', hout⟩ | hnew
  · rw [hout] at hm
    exact lt_of_lt_of_le (h e m hlt' hm) hn
  · exact hnew m hm

theorem of_exps_eq (h : g.ResultsInside) (hx : g'.exps = g.exps)
    (hn : g.nodes.size ≤ g'.nodes.size) : g'.ResultsInside :=
  h.of_outcomes hn fun e he => .inl ⟨hx ▸ he, by simp only [Graph.exp, hx]⟩

theorem modifyExp (h : g.ResultsInside) (e : ExpId) (f : Expectation → Expectation)
    (hf : ∀ x, (f x).outcome = x.outcome) : (g.modifyExp e f).ResultsInside := by
  refine h.of_outcomes le_rfl fun e' he' => .inl ⟨by simpa [Graph.modifyExp] using he', ?_⟩
  rcases g.exp_modifyExp e f e' with h' | h' <;> rw [h']
  exact hf _

theorem addExp (h : g.ResultsInside) (x : Expectation)
    (hx : ∀ m, x.outcome.node? = some m → m.idx < g.nodes.size) : (g.addExp x).2.ResultsInside := by
  refine h.of_outcomes le_rfl fun e he => ?_
  by_cases hnew : e = ⟨g.exps.size⟩
  · subst hnew
    exact .inr fun m hm => hx m (by rwa [← exp_addExp_self g x])
  · have hlt : e.idx < g.exps.size := by
      have hsize : (g.addExp x).2.exps.size = g.exps.size + 1 := by simp [Graph.addExp]
      have hne : e.idx ≠ g.exps.size := fun hi => hnew (by cases e; simp_all)
      omega
    exact .inl ⟨hlt, by rw [exp_addExp_of_ne g x hnew]⟩

theorem spawn (h : g.ResultsInside) (v : VerbNames) : (g.spawn v).2.ResultsInside :=
  h.of_exps_eq rfl (by simp [Graph.spawn])

theorem setEntry (h : g.ResultsInside) (n : NodeId) (name : String) (e : Entry) :
    (g.setEntry n name e).ResultsInside :=
  h.of_exps_eq rfl (by simp [Graph.setEntry, Graph.modifyNode])

theorem modifyNode (h : g.ResultsInside) (n : NodeId) (f : Node → Node) :
    (g.modifyNode n f).ResultsInside :=
  h.of_exps_eq rfl (by simp [Graph.modifyNode])

theorem addSlot (h : g.ResultsInside) (sl : Slot) : (g.addSlot sl).2.ResultsInside :=
  h.of_exps_eq rfl le_rfl

theorem appendCall (h : g.ResultsInside) (n : NodeId) (name : String) (es : List ExpId)
    (args : ArgsPattern) (gen : GenericsFilter) : (g.appendCall n name es args gen).ResultsInside := by
  -- the new call yields the node spawned for it
  refine ((h.spawn _).addExp _ fun m hm => ?_).setEntry _ _ _
  cases hm
  simp [Graph.spawn]

theorem copyChain (h : g.ResultsInside) (o : NodeId) (src : ExpId) (hsrc : src.idx < g.exps.size)
    (filter : GenericsFilter) :
    (g.copyChain o (g.exp src) filter).1.idx < (g.copyChain o (g.exp src) filter).2.nodes.size ∧
      (g.copyChain o (g.exp src) filter).2.ResultsInside := by
  unfold Graph.copyChain
  rcases hx : (g.exp src).outcome with m | v
  · dsimp only
    split
    · exact ⟨h src m hsrc (by rw [hx]; rfl), h⟩
    · exact ⟨by simp [Graph.spawn], h.spawn _⟩
  · exact ⟨by simp [Graph.spawn], h.spawn _⟩

theorem fork (h : g.ResultsInside) (o : NodeId) (src : ExpId) (hsrc : src.idx < g.exps.size)
    (gen : Option GenericsFilter) : (g.fork o src gen).2.ResultsInside := by
  obtain ⟨hchain, h₁⟩ := h.copyChain o src hsrc (gen.getD (g.exp src).generics)
  have h₂ := h₁.addExp (Expectation.fresh (g.exp src).member (g.exp src).args
    (gen.getD (g.exp src).generics) (g.copyChain o (g.exp src) (gen.getD (g.exp src).generics)).1)
    fun m hm => by cases hm; exact hchain
  simp only [Graph.fork]
  unfold Graph.fileCall
  split
  · exact h₂.setEntry _ _ _
  · exact h₂

theorem configure (h : g.ResultsInside) {hd : Handle} (hv : hd.Valid g)
    (gen : Option GenericsFilter) : (g.configure hd gen).2.ResultsInside := by
  unfold Graph.configure
  cases hd.owner with
  | some o => exact h.fork o hd.exp hv.1 gen
  | none =>
    cases gen with
    | some f => exact h.modifyExp _ _ fun _ => rfl
    | none => exact h

theorem commit (h : g.ResultsInside) (e : ExpId) (cfg : Config) (hc : cfg.ResultInGraph g) :
    (Config.commit g e cfg).ResultsInside := by
  unfold Config.commit
  split
  · exact h
  · cases cfg with
    | returns v =>
      refine h.of_outcomes le_rfl fun e' he' => ?_
      rcases g.exp_modifyExp e (Config.edit (.returns v)) e' with h' | h'
      · exact .inl ⟨by simpa [Graph.modifyExp] using he', by rw [h']⟩
      · exact .inr fun m hm => by rw [h'] at hm; exact hc m hm
    | _ => exact h.modifyExp _ _ fun _ => rfl

end ResultsInside

theorem Received.resultsInside {g g' : Graph} (hrec : g.Received g') (h : g.ResultsInside) :
    g'.ResultsInside := by
  cases hrec with
  | same => exact h
  | count e => exact h.modifyExp e _ fun _ => rfl
  | read sl => exact h.of_exps_eq rfl le_rfl
  | writeProperty n name v =>
    rcases g.writeProperty_cases n name v with hw | ⟨en, rep, -, hw⟩ <;> rw [hw]
    · exact h
    · rcases g.replaceEntry_cases n name v en rep with hr | ⟨m, hr⟩ <;> rw [hr]
      · exact (h.addSlot _).setEntry _ _ _
      · exact ((h.modifyNode _ _).addSlot _).setEntry _ _ _
  | writeIndex n keys v => exact h.modifyNode _ _
  | handlers n f hf => exact h.modifyNode n f

end Graph

/-! ## Arrangement operations keep every result in the graph -/

def Arrangement.ResultsInGraph (g : Graph) : Arrangement → Prop
  | .configure _ cfg => cfg.ResultInGraph g
  | .apply _ _ args => ∀ v, VerbArg.value v ∈ args → v.InGraph g
  | _ => True

section Operations

variable (s : Session) (hr : s.graph.ResultsInside)
include hr

theorem child_resultsInside (n : NodeId) (name : String) :
    (Act.after (n.child name) s).graph.ResultsInside := by
  rw [Act.after, child_run]
  rcases s.graph.memberAt? n name with _ | ⟨m | es | sl⟩
  · exact (hr.spawn _).setEntry _ _ _
  · exact hr
  · exact hr
  · dsimp only
    cases (s.graph.slot sl).value <;> exact hr

theorem callWith_resultsInside (n : NodeId) (name : String) (args : ArgsPattern)
    (gen : GenericsFilter) : (Act.after (n.callWith name args gen) s).graph.ResultsInside := by
  rw [Act.after, callWith_run]
  rcases s.graph.memberAt? n name with _ | ⟨m | es | sl⟩
  · exact (hr.setEntry _ _ _).appendCall _ _ _ _ _
  · exact hr
  · dsimp only
    rcases es.reverse.find? fun e => (s.graph.exp e).sameCall args gen with _ | e
    · exact hr.appendCall _ _ _ _ _
    · dsimp only
      cases (s.graph.exp e).returnsSet
      · exact hr
      · exact hr.appendCall _ _ _ _ _
  · exact hr

theorem storeProperty_resultsInside (n : NodeId) (name : String) (v : Value) (en : Bool) :
    (Act.after (n.storeProperty name v en) s).graph.ResultsInside := by
  rw [Act.after, storeProperty_run]
  rcases s.graph.memberAt? n name with _ | ⟨m | es | sl⟩
  · exact (hr.addSlot _).setEntry _ _ _
  · exact (hr.addSlot _).setEntry _ _ _
  · exact hr
  · exact (hr.addSlot _).setEntry _ _ _

theorem Config.run_resultsInside {h : Handle} (hv : h.Valid s.graph) {cfg : Config}
    (hc : cfg.ResultInGraph s.graph) : (Act.after (cfg.run h) s).graph.ResultsInside := by
  have hconf := hr.configure hv cfg.filter?
  rw [Act.after, Config.run_eq]
  rcases cfg.fault? ((s.graph.configure h cfg.filter?).2.exp (s.graph.configure h cfg.filter?).1)
    with _ | f
  · -- the result is set on the configured call, in a graph with the nodes it had and more
    refine hconf.commit _ cfg ?_
    cases cfg with
    | returns v => exact Value.InGraph.mono hc (Graph.Grows.configure _ _ _).nodes
    | _ => trivial
  · exact hconf

theorem onResult_resultsInside {α : Type} (h : Handle) {k : NodeId → Act ArrangeFault α}
    (hk : ∀ m, (Act.after (k m) s).graph.ResultsInside) :
    (Act.after (do k (← h.resultNode)) s).graph.ResultsInside := by
  rw [Act.after, run_onResult]
  rcases (s.graph.exp h.exp).outcome.node? with _ | m
  · exact hr
  · exact hk m

theorem apply_resultsInside (h : Handle) (name : String) (args : List VerbArg)
    (hv : h.Valid s.graph) (hargs : ∀ v, VerbArg.value v ∈ args → v.InGraph s.graph) :
    (Act.after (h.apply name args) s).graph.ResultsInside := by
  rcases apply_cases s h name args with ⟨f, hf⟩ | ⟨cfg, hcfg, hrun⟩ | ⟨ps, hps⟩
  · rw [Act.after, hf]
    exact hr
  · rw [Act.after_congr hrun]
    refine Config.run_resultsInside s hr hv ?_
    cases cfg with
    | returns v => exact hargs v (hcfg v rfl)
    | _ => trivial
  · rw [Act.after_congr hps]
    exact onResult_resultsInside s hr h fun m => callWith_resultsInside s hr m name _ _

end Operations

theorem Arrangement.after_resultsInside (op : Arrangement) (s : Session)
    (hr : s.graph.ResultsInside) (hv : op.Valid s.graph) (hres : op.ResultsInGraph s.graph) :
    (Act.after op.act s).graph.ResultsInside := by
  cases op with
  | mock name =>
    rw [Arrangement.act, Act.after_map, Act.after, rootMock_run]
    cases findKey? s.roots name
    · exact hr.spawn _
    · exact hr
  | child n name =>
    rw [Arrangement.act, Act.after_map]
    exact child_resultsInside s hr n name
  | callWith n name args gen =>
    rw [Arrangement.act, Act.after_map]
    exact callWith_resultsInside s hr n name args gen
  | storeProperty n name v en => exact storeProperty_resultsInside s hr n name v en
  | setIndex n args v => exact hr.modifyNode _ _
  | subscribe n event cb =>
    rw [Arrangement.act, Act.after_map]
    exact hr.modifyNode _ _
  | configure h cfg =>
    rw [Arrangement.act, Act.after_map]
    exact Config.run_resultsInside s hr hv hres
  | resultNode h =>
    rw [Arrangement.act, Act.after_map, Act.after, resultNode_run]
    cases (s.graph.exp h.exp).outcome.node? <;> exact hr
  | childOf h name =>
    rw [Arrangement.act, Act.after_map]
    exact onResult_resultsInside s hr h fun m => child_resultsInside s hr m name
  | callOn h name args =>
    rw [Arrangement.act, Act.after_map]
    exact onResult_resultsInside s hr h fun m => callWith_resultsInside s hr m name args _
  | setPropertyOn h name v =>
    exact onResult_resultsInside s hr h fun m => storeProperty_resultsInside s hr m name v false
  | apply h name args =>
    rw [Arrangement.act, Act.after_map]
    exact apply_resultsInside s hr h name args hv.1 hres


/-! ## Handles an arrangement answers -/

namespace Graph

theorem fork_exps_size (g : Graph) (o : NodeId) (src : ExpId) (gen : Option GenericsFilter) :
    (g.fork o src gen).2.exps.size = g.exps.size + 1 := by
  have hkeep := (g.copyChain_keeps o (g.exp src) (gen.getD (g.exp src).generics)).1
  simp only [Graph.fork]
  unfold Graph.fileCall
  split <;> simp [Graph.setEntry, Graph.modifyNode, Graph.addExp, hkeep]

theorem configure_fst_lt (g : Graph) {hd : Handle} (hv : hd.Valid g) (gen : Option GenericsFilter) :
    (g.configure hd gen).1.idx < (g.configure hd gen).2.exps.size := by
  unfold Graph.configure
  cases hd.owner with
  | some o =>
    rw [fork_fst, fork_exps_size]
    exact Nat.lt_succ_self _
  | none =>
    cases gen with
    | some f => simpa [Graph.modifyExp] using hv.1
    | none => exact hv.1

theorem appendCall_handle_valid (g : Graph) (n : NodeId) (name : String) (es : List ExpId)
    (args : ArgsPattern) (gen : GenericsFilter) (verbs : VerbNames) :
    (⟨⟨g.exps.size⟩, verbs, none⟩ : Handle).Valid (g.appendCall n name es args gen) :=
  ⟨by simp [Graph.appendCall, Graph.setEntry, Graph.modifyNode, Graph.addExp, Graph.spawn],
    fun o ho => by cases ho⟩

end Graph

section Answers

variable (s : Session)

theorem callWith_handle_valid (hf : s.graph.Filed) (n : NodeId) (name : String)
    (args : ArgsPattern) (gen : GenericsFilter) {hd : Handle}
    (ha : Act.answer? (n.callWith name args gen) s = some hd) :
    hd.Valid (Act.after (n.callWith name args gen) s).graph := by
  have hrun := Act.run_of_answer? ha
  rw [callWith_run] at hrun
  rcases hat : s.graph.memberAt? n name with _ | ⟨m | es | sl⟩ <;> rw [hat] at hrun
  · simp only [EStateM.Result.ok.injEq] at hrun
    obtain ⟨rfl, hs⟩ := hrun
    rw [← hs]
    exact Graph.appendCall_handle_valid (s.graph.setEntry n name (.methods [])) _ _ _ _ _ _
  · cases hrun
  · dsimp only at hrun
    rcases hfind : es.reverse.find? (fun e => (s.graph.exp e).sameCall args gen) with _ | e <;>
      rw [hfind] at hrun
    · simp only [EStateM.Result.ok.injEq] at hrun
      obtain ⟨rfl, hs⟩ := hrun
      rw [← hs]
      exact Graph.appendCall_handle_valid _ _ _ _ _ _ _
    · dsimp only at hrun
      cases hset : (s.graph.exp e).returnsSet <;> rw [hset] at hrun <;>
        simp only [EStateM.Result.ok.injEq, Bool.false_eq_true, ↓reduceIte] at hrun <;>
        obtain ⟨rfl, hs⟩ := hrun <;> rw [← hs]
      · -- the shared call, filed under the name on the node
        have hmem : e ∈ s.graph.expectationsOf n name := by
          rw [Graph.expectationsOf, hat]
          exact List.mem_reverse.mp (List.mem_of_find?_eq_some hfind)
        obtain ⟨hlt, hmember⟩ := hf.listed n name e hmem
        exact ⟨hlt, fun o ho => by cases ho; rw [hmember]; exact hmem⟩
      · exact Graph.appendCall_handle_valid _ _ _ _ _ _ _
  · cases hrun

theorem Config.run_handle_valid {h : Handle} (hv : h.Valid s.graph) (cfg : Config) {hd : Handle}
    (ha : Act.answer? (cfg.run h) s = some hd) : hd.Valid (Act.after (cfg.run h) s).graph := by
  have hrun := Act.run_of_answer? ha
  rw [Config.run_eq] at hrun
  split at hrun
  · cases hrun
  · simp only [EStateM.Result.ok.injEq] at hrun
    obtain ⟨rfl, hs⟩ := hrun
    rw [← hs]
    refine ⟨?_, fun o ho => by cases ho⟩
    rw [Graph.exps_size_commit]
    exact s.graph.configure_fst_lt hv _

theorem Handle.call_run (h : Handle) (name : String) (args : ArgsPattern) :
    (h.call name args).run s = match (s.graph.exp h.exp).outcome.node? with
      | some m => (m.call name args).run s
      | none => .error (.notChainable (s.graph.exp h.exp).member) s :=
  run_onResult s h fun m => m.call name args

theorem Handle.call_handle_valid (hf : s.graph.Filed) (h : Handle) (name : String)
    (args : ArgsPattern) {hd : Handle} (ha : Act.answer? (h.call name args) s = some hd) :
    hd.Valid (Act.after (h.call name args) s).graph := by
  have hrun := Handle.call_run s h name args
  cases hm : (s.graph.exp h.exp).outcome.node? with
  | none =>
    rw [hm] at hrun
    rw [Act.answer?_congr hrun] at ha
    cases ha
  | some m =>
    rw [hm] at hrun
    rw [Act.after_congr hrun]
    rw [Act.answer?_congr hrun] at ha
    exact callWith_handle_valid s hf m name args _ ha

theorem apply_handle_valid (hf : s.graph.Filed) {h : Handle} (hv : h.Valid s.graph) (name : String)
    (args : List VerbArg) {hd : Handle} (ha : Act.answer? (h.apply name args) s = some hd) :
    hd.Valid (Act.after (h.apply name args) s).graph := by
  rcases apply_cases s h name args with ⟨f, hrun⟩ | ⟨cfg, -, hrun⟩ | ⟨ps, hrun⟩ <;>
    rw [Act.answer?_congr hrun] at ha
  · cases ha
  · rw [Act.after_congr hrun]
    exact Config.run_handle_valid s hv cfg ha
  · rw [Act.after_congr hrun]
    exact Handle.call_handle_valid s hf h name _ ha

end Answers

/-! ## Runs that name only what was handed out -/

namespace Step

def handles : Step → Session → List Handle
  | .arrange (.callWith n name args gen), s => (Act.answer? (n.callWith name args gen) s).toList
  | .arrange (.configure h cfg), s => (Act.answer? (cfg.run h) s).toList
  | .arrange (.callOn h name args), s => (Act.answer? (h.call name args) s).toList
  | .arrange (.apply h name args), s => (Act.answer? (h.apply name args) s).toList
  | _, _ => []

def NamesIssued (g : Graph) (hs : List Handle) : Step → Prop
  | .arrange (.callWith n _ _ _) => n.idx < g.nodes.size
  | .arrange (.configure h cfg) => h ∈ hs ∧ cfg.ResultInGraph g
  | .arrange (.resultNode h) | .arrange (.childOf h _) | .arrange (.callOn h _ _)
  | .arrange (.setPropertyOn h _ _) => h ∈ hs
  | .arrange (.apply h _ args) => h ∈ hs ∧ ∀ v, VerbArg.value v ∈ args → v.InGraph g
  | _ => True

def IssuedAlong : List Step → Session → List Handle → Prop
  | [], _, _ => True
  | st :: rest, s, hs => st.NamesIssued s.graph hs ∧ IssuedAlong rest (st.after s) (hs ++ st.handles s)

variable {g : Graph} {hs : List Handle}

theorem valid_of_issued (hr : g.ResultsInside) (hhs : ∀ h ∈ hs, h.Valid g) (st : Step)
    (hn : st.NamesIssued g hs) : st.Valid g := by
  cases st with
  | receive r op => trivial
  | arrange op =>
    cases op
    case callWith n name args gen => exact hn
    case configure h cfg => exact hhs h hn.1
    case callOn h name args => exact fun m hm => hr h.exp m (hhs h hn).1 hm
    case apply h name args => exact ⟨hhs h hn.1, fun m hm => hr h.exp m (hhs h hn.1).1 hm⟩
    all_goals trivial

theorem after_resultsInside (st : Step) (s : Session) (hr : s.graph.ResultsInside)
    (hv : st.Valid s.graph) (hn : st.NamesIssued s.graph hs) : (st.after s).graph.ResultsInside := by
  cases st with
  | arrange op =>
    refine op.after_resultsInside s hr hv ?_
    cases op
    case configure h cfg => exact hn.2
    case apply h name args => exact hn.2
    all_goals trivial
  | receive r op => exact (op.after_received r s).resultsInside hr

theorem handles_valid (st : Step) (s : Session) (hf : s.graph.Filed) (hv : st.Valid s.graph) :
    ∀ hd ∈ st.handles s, hd.Valid (st.after s).graph := by
  intro hd hmem
  cases st with
  | receive r op => cases hmem
  | arrange op =>
    cases op
    case callWith n name args gen =>
      show hd.Valid (Act.after ((fun _ => ()) <$> n.callWith name args gen) s).graph
      rw [Act.after_map]
      exact callWith_handle_valid s hf n name args gen (Option.mem_toList.mp hmem)
    case configure h cfg =>
      show hd.Valid (Act.after ((fun _ => ()) <$> cfg.run h) s).graph
      rw [Act.after_map]
      exact Config.run_handle_valid s hv cfg (Option.mem_toList.mp hmem)
    case callOn h name args =>
      show hd.Valid (Act.after ((fun _ => ()) <$> h.call name args) s).graph
      rw [Act.after_map]
      exact Handle.call_handle_valid s hf h name args (Option.mem_toList.mp hmem)
    case apply h name args =>
      show hd.Valid (Act.after ((fun _ => ()) <$> h.apply name args) s).graph
      rw [Act.after_map]
      exact apply_handle_valid s hf hv.1 name args (Option.mem_toList.mp hmem)
    all_goals cases hmem

end Step

theorem Session.standard_resultsInside : Session.standard.graph.ResultsInside := by
  intro e m he
  exact absurd he (by simp [Session.standard, Session.build])

/-- **A run that names only what the session handed out is valid along.** Take a run from a
session whose calls are filed and whose results are nodes of the graph, with handles `hs` valid
there. When each step calls only on nodes of the graph, goes only through handles in `hs` or
handed out by an earlier step, and sets only results that name nodes of the graph, every step has
what it needs of the graph (`Step.ValidAlong`). -/
theorem Step.validAlong_of_issued (steps : List Step) (s : Session) (hs : List Handle)
    (hf : s.graph.Filed) (hr : s.graph.ResultsInside) (hhs : ∀ h ∈ hs, h.Valid s.graph)
    (hi : Step.IssuedAlong steps s hs) : Step.ValidAlong steps s := by
  -- induction on the run: the filed graph, the results in the graph and the handles handed out
  -- so far are carried across each step
  induction steps generalizing s hs with
  | nil => trivial
  | cons st rest ih =>
    obtain ⟨hn, hrest⟩ := hi
    have hv := st.valid_of_issued hr hhs hn
    obtain ⟨hgrow, hfiled⟩ := st.after_keeps s hf hv
    refine ⟨hv, ih (st.after s) (hs ++ st.handles s) hfiled (st.after_resultsInside s hr hv hn)
      (fun h hh => ?_) hrest⟩
    rcases List.mem_append.mp hh with hh | hh
    · exact (hhs h hh).grows hgrow
    · exact st.handles_valid s hf hv h hh

theorem Step.validAlong_of_fresh (steps : List Step) (hi : Step.IssuedAlong steps Session.standard []) :
    Step.ValidAlong steps Session.standard :=
  Step.validAlong_of_issued steps _ [] Session.standard_filed Session.standard_resultsInside
    (fun _ h => by cases h) hi

end Understudy
