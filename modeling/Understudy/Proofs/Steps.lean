import Understudy.Proofs.Growth

set_option autoImplicit false

/-!
# Runs of a session

`Graph.Arranged` lists what one arrangement operation can do to the graph, as
`Graph.Received` does for an operation of code under test, and `Arrangement.after_arranged`
shows that every operation is one of them, whether it succeeds or faults. With the growth and
filing lemmas of each change this gives `tree_only_grows`: over any run of steps the graph
only grows, and every arranged call stays filed in exactly one list.
-/

namespace Understudy

/-- What an arrangement operation does to the graph, when the node or handle it names is one
the graph has: nothing, a new root, a new child, a new call filed on an existing node, a new
property slot, a change of a node's indexers or handlers, or a configuring step. -/
inductive Graph.Arranged (g : Graph) : Graph → Prop
  | same : Arranged g g
  | root (v : VerbNames) : Arranged g (g.spawn v).2
  | child (n : NodeId) (name : String) (hat : g.memberAt? n name = none) :
      Arranged g ((g.spawn (g.node n).verbs).2.setEntry n name (.child ⟨g.nodes.size⟩))
  | firstCall (n : NodeId) (name : String) (args : ArgsPattern) (gen : GenericsFilter)
      (hn : n.idx < g.nodes.size) (hat : g.memberAt? n name = none) :
      Arranged g ((g.setEntry n name (.methods [])).appendCall n name [] args gen)
  | call (n : NodeId) (name : String) (es : List ExpId) (args : ArgsPattern) (gen : GenericsFilter)
      (hn : n.idx < g.nodes.size) (hat : g.memberAt? n name = some (.methods es)) :
      Arranged g (g.appendCall n name es args gen)
  | property (n : NodeId) (name : String) (sl : Slot)
      (hat : ∀ es, g.memberAt? n name ≠ some (.methods es)) :
      Arranged g ((g.addSlot sl).2.setEntry n name (.property ⟨g.slots.size⟩))
  | node (n : NodeId) (f : Node → Node)
      (hf : ∀ nd, (f nd).members = nd.members ∧ (f nd).displaced = nd.displaced) :
      Arranged g (g.modifyNode n f)
  | configure (h : Handle) (cfg : Config) (hv : h.Valid g) :
      Arranged g (Config.commit (g.configure h cfg.filter?).2 (g.configure h cfg.filter?).1 cfg)

namespace Graph.Arranged

variable {g g' : Graph}

theorem grows (h : g.Arranged g') : g.Grows g' := by
  cases h with
  | same => exact .refl g
  | root v => exact .spawn g v
  | child n name hat =>
    refine (Grows.spawn g _).trans (Grows.setEntry _ _ _ _ fun old hold => ?_)
    rw [memberAt?_spawn, hat] at hold
    cases hold
  | firstCall n name args gen hn hat =>
    refine (Grows.setEntry g _ _ _ fun old hold => ?_).trans
      (Grows.appendCall _ _ _ _ _ _ fun old hold => ?_)
    · rw [hat] at hold
      cases hold
    · rw [memberAt?_setEntry_self g _ _ hn] at hold
      cases hold
      exact List.nil_prefix
  | call n name es args gen hn hat =>
    refine Grows.appendCall g _ _ _ _ _ fun old hold => ?_
    rw [hat] at hold
    cases hold
    exact List.prefix_append _ _
  | property n name sl hat =>
    refine (Grows.addSlot g sl).trans (Grows.setEntry _ _ _ _ fun old hold => ?_)
    rw [memberAt?_addSlot] at hold
    cases old with
    | methods es => exact absurd hold (hat es)
    | child _ => trivial
    | property _ => trivial
  | node n f hf => exact .modifyNode g n f (fun nd => (hf nd).1) fun nd => by rw [(hf nd).2]
  | configure h cfg hv => exact (Grows.configure g h _).trans (Grows.commit _ _ cfg)

theorem filed (h : g.Arranged g') (hf : g.Filed) : g'.Filed := by
  cases h with
  | same => exact hf
  | root v => exact hf.spawn v
  | child n name hat =>
    refine (hf.spawn _).setEntry_of_nil ?_ fun es h => by cases h
    rw [expectationsOf_spawn, expectationsOf, hat]
  | firstCall n name args gen hn hat =>
    refine (hf.setEntry_of_nil (by rw [expectationsOf, hat]) fun es h => ?_).appendCall args gen
      (by simpa [Graph.setEntry, Graph.modifyNode] using hn) (memberAt?_setEntry_self g _ _ hn)
    cases h
    rfl
  | call n name es args gen hn hat => exact hf.appendCall args gen hn hat
  | property n name sl hat =>
    exact (hf.addSlot sl).setEntry_of_nil (expectationsOf_eq_nil hat) fun es h => by cases h
  | node n f hfn => exact hf.modifyNode n f fun nd => (hfn nd).1
  | configure h cfg hv => exact (hf.configure hv _).commit _ cfg

end Graph.Arranged

theorem Act.after_map {ε α β : Type} (f : α → β) (m : Act ε α) (s : Session) :
    Act.after (f <$> m) s = Act.after m s := by
  simp only [Act.after, EStateM.run_map_result]
  cases m.run s <;> rfl

theorem Act.after_congr {ε α : Type} {m m' : Act ε α} {s : Session} (h : m.run s = m'.run s) :
    Act.after m s = Act.after m' s := by
  simp only [Act.after, h]

def Arrangement.Valid (g : Graph) : Arrangement → Prop
  | .callWith n _ _ _ => n.idx < g.nodes.size
  | .configure h _ => h.Valid g
  | .callOn h _ _ => ∀ m, (g.exp h.exp).outcome.node? = some m → m.idx < g.nodes.size
  | .apply h _ _ => h.Valid g ∧ ∀ m, (g.exp h.exp).outcome.node? = some m → m.idx < g.nodes.size
  | _ => True

section Inversion

variable (s : Session)

theorem child_arranged (n : NodeId) (name : String) :
    s.graph.Arranged (Act.after (n.child name) s).graph := by
  rw [Act.after, child_run]
  rcases hat : s.graph.memberAt? n name with _ | ⟨m | es | sl⟩
  · exact .child n name hat
  · exact .same
  · exact .same
  · dsimp only
    cases (s.graph.slot sl).value <;> exact .same

theorem callWith_arranged (n : NodeId) (name : String) (args : ArgsPattern) (gen : GenericsFilter)
    (hn : n.idx < s.graph.nodes.size) :
    s.graph.Arranged (Act.after (n.callWith name args gen) s).graph := by
  rw [Act.after, callWith_run]
  rcases hat : s.graph.memberAt? n name with _ | ⟨m | es | sl⟩
  · exact .firstCall n name args gen hn hat
  · exact .same
  · dsimp only
    rcases es.reverse.find? fun e => (s.graph.exp e).sameCall args gen with _ | e
    · exact .call n name es args gen hn hat
    · -- a shared call is handed out only while its result is unset
      dsimp only
      cases (s.graph.exp e).returnsSet
      · exact .same
      · exact .call n name es args gen hn hat
  · exact .same

theorem storeProperty_arranged (n : NodeId) (name : String) (v : Value) (en : Bool) :
    s.graph.Arranged (Act.after (n.storeProperty name v en) s).graph := by
  rw [Act.after, storeProperty_run]
  rcases hat : s.graph.memberAt? n name with _ | ⟨m | es | sl⟩
  · exact .property n name _ (by simp [hat])
  · exact .property n name _ (by simp [hat])
  · exact .same
  · exact .property n name _ (by simp [hat])

theorem Config.run_arranged (h : Handle) (cfg : Config) (hv : h.Valid s.graph) :
    s.graph.Arranged (Act.after (cfg.run h) s).graph := by
  rw [Act.after, Config.run_eq]
  rcases hf : cfg.fault? ((s.graph.configure h cfg.filter?).2.exp
    (s.graph.configure h cfg.filter?).1) with _ | f
  · exact .configure h cfg hv
  · -- a fault is raised before anything is configured
    dsimp only
    rw [s.graph.configure_of_fault h cfg hf]
    exact .same

theorem onResult_arranged {α : Type} (h : Handle) {k : NodeId → Act ArrangeFault α}
    (hk : ∀ m, (s.graph.exp h.exp).outcome.node? = some m →
      s.graph.Arranged (Act.after (k m) s).graph) :
    s.graph.Arranged (Act.after (do k (← h.resultNode)) s).graph := by
  rw [Act.after, run_onResult]
  rcases hm : (s.graph.exp h.exp).outcome.node? with _ | m
  · exact .same
  · exact hk m hm

theorem apply_arranged (h : Handle) (name : String) (args : List VerbArg)
    (hv : (Arrangement.apply h name args).Valid s.graph) :
    s.graph.Arranged (Act.after (h.apply name args) s).graph := by
  rcases apply_cases s h name args with ⟨f, hf⟩ | ⟨cfg, -, hcfg⟩ | ⟨ps, hps⟩
  · rw [Act.after, hf]
    exact .same
  · rw [Act.after_congr hcfg]
    exact Config.run_arranged s h cfg hv.1
  · rw [Act.after_congr hps]
    exact onResult_arranged s h fun m hm => callWith_arranged s m name _ _ (hv.2 m hm)

end Inversion

theorem Arrangement.after_arranged (op : Arrangement) (s : Session) (hv : op.Valid s.graph) :
    s.graph.Arranged (Act.after op.act s).graph := by
  cases op with
  | mock name =>
    rw [Arrangement.act, Act.after_map, Act.after, rootMock_run]
    cases findKey? s.roots name
    · exact .root _
    · exact .same
  | child n name => rw [Arrangement.act, Act.after_map]; exact child_arranged s n name
  | callWith n name args gen =>
    rw [Arrangement.act, Act.after_map]
    exact callWith_arranged s n name args gen hv
  | storeProperty n name v en => exact storeProperty_arranged s n name v en
  | setIndex n args v => exact .node n _ fun _ => ⟨rfl, rfl⟩
  | subscribe n event cb =>
    rw [Arrangement.act, Act.after_map]
    exact .node n _ fun _ => ⟨rfl, rfl⟩
  | configure h cfg =>
    rw [Arrangement.act, Act.after_map]
    exact Config.run_arranged s h cfg hv
  | resultNode h =>
    rw [Arrangement.act, Act.after_map, Act.after, resultNode_run]
    cases (s.graph.exp h.exp).outcome.node? <;> exact .same
  | childOf h name =>
    rw [Arrangement.act, Act.after_map]
    exact onResult_arranged s h fun m _ => child_arranged s m name
  | callOn h name args =>
    rw [Arrangement.act, Act.after_map]
    exact onResult_arranged s h fun m hm => callWith_arranged s m name args _ (hv m hm)
  | setPropertyOn h name v =>
    exact onResult_arranged s h fun m _ => storeProperty_arranged s m name v false
  | apply h name args =>
    rw [Arrangement.act, Act.after_map]
    exact apply_arranged s h name args hv

/-- One step of a session: an arrangement, or an operation code under test performs through a
receiver. -/
inductive Step where
  | arrange (op : Arrangement)
  | receive (r : Receiver) (op : Inbound)

namespace Step

/-- The session left after the step, whether it succeeds or faults. -/
def after : Step → Session → Session
  | .arrange op, s => Act.after op.act s
  | .receive r op, s => op.after r s

def Valid (g : Graph) : Step → Prop
  | .arrange op => op.Valid g
  | .receive _ _ => True

def runAll : List Step → Session → Session
  | [], s => s
  | st :: rest, s => runAll rest (st.after s)

def ValidAlong : List Step → Session → Prop
  | [], _ => True
  | st :: rest, s => st.Valid s.graph ∧ ValidAlong rest (st.after s)

theorem after_keeps (st : Step) (s : Session) (hf : s.graph.Filed) (hv : st.Valid s.graph) :
    s.graph.Grows (st.after s).graph ∧ (st.after s).graph.Filed := by
  cases st with
  | arrange op =>
    have h := op.after_arranged s hv
    exact ⟨h.grows, h.filed hf⟩
  | receive r op =>
    have h := op.after_received r s
    exact ⟨h.grows, h.filed hf⟩

end Step

/-- **The mock tree is append-only.** Over any run of arrangement steps and operations of code
under test, each with what it needs of the graph, the graph only grows: at every node member
names keep their places, calls are only appended to a name's list, a property never turns back
into a child or calls, and displaced subtrees are only appended. Every arranged call stays filed
in exactly one list. -/
theorem tree_only_grows (steps : List Step) (s : Session) (hf : s.graph.Filed)
    (hv : Step.ValidAlong steps s) :
    s.graph.Grows (Step.runAll steps s).graph ∧ (Step.runAll steps s).graph.Filed := by
  -- induction on the steps; `Step.after_keeps` carries both facts across one step
  induction steps generalizing s with
  | nil => exact ⟨.refl _, hf⟩
  | cons st rest ih =>
    obtain ⟨hst, hrest⟩ := hv
    obtain ⟨hgrow, hfiled⟩ := st.after_keeps s hf hst
    obtain ⟨hgrow', hfiled'⟩ := ih (st.after s) hfiled hrest
    exact ⟨hgrow.trans hgrow', hfiled'⟩

theorem Session.standard_filed : Session.standard.graph.Filed :=
  .of_no_calls (fun _ _ => by simp [Graph.expectationsOf, Graph.memberAt?, Graph.node, findKey?,
    Session.standard, Session.build]) rfl

def rootCallSteps : List Step :=
  [.arrange (.mock "m"), .arrange (.callWith ⟨0⟩ "F" (.positional []) .none)]

/-- From a fresh session, making a root and a call on it grows the graph and files the call. -/
theorem root_call_grows :
    Session.standard.graph.Filed ∧ Step.ValidAlong rootCallSteps Session.standard ∧
      Session.standard.graph.Grows (Step.runAll rootCallSteps Session.standard).graph ∧
      (Step.runAll rootCallSteps Session.standard).graph.Filed := by
  have hv : Step.ValidAlong rootCallSteps Session.standard := ⟨trivial, Nat.zero_lt_one, trivial⟩
  exact ⟨Session.standard_filed, hv, tree_only_grows _ _ Session.standard_filed hv⟩

end Understudy
