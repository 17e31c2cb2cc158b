import Understudy.Proofs.Visibility
import Understudy.Mock.Verbs

set_option autoImplicit false

/-!
# What arranging does

Run equations for the arrangement operations. Each gives a run's answer and the session it
leaves through a few steps on the graph: `Graph.appendCall` (a new call, with a chain node
spawned for it), `Graph.fork` (the copy of a shared call a configuring step appends),
`Graph.configure` and `Config.commit` (the call a configuring step applies to, and what it
records there). `Arrangement` lists the operations a test arranges with.

Main result: `arrangement_fault_changes_nothing`. An arrangement operation that fails leaves the
session exactly as it found it: every check comes before the first change, and the copy a
shared handle makes for a configuring step is fresh, so no check after it can fail.
-/

namespace Understudy

namespace Graph

def appendCall (g : Graph) (n : NodeId) (name : String) (es : List ExpId) (args : ArgsPattern)
    (generics : GenericsFilter) : Graph :=
  let g₁ := (g.spawn (g.node n).verbs).2
  let g₂ := (g₁.addExp (Expectation.fresh name args generics ⟨g.nodes.size⟩)).2
  g₂.setEntry n name (.methods (es ++ [⟨g.exps.size⟩]))

def copyChain (g : Graph) (owner : NodeId) (x : Expectation) (filter : GenericsFilter) :
    NodeId × Graph :=
  match x.outcome with
  | .chain m => if filter == x.generics then (m, g) else g.spawn (g.node owner).verbs
  | .value _ => g.spawn (g.node owner).verbs

def fileCall (g : Graph) (n : NodeId) (name : String) (e : ExpId) : Graph :=
  match g.memberAt? n name with
  | some (.methods es) => g.setEntry n name (.methods (es ++ [e]))
  | _ => g

def fork (g : Graph) (owner : NodeId) (src : ExpId) (generics : Option GenericsFilter) :
    ExpId × Graph :=
  let x := g.exp src
  let filter := generics.getD x.generics
  let g₁ := (g.copyChain owner x filter).2
  let g₂ := (g₁.addExp (Expectation.fresh x.member x.args filter (g.copyChain owner x filter).1)).2
  (⟨g₁.exps.size⟩, g₂.fileCall owner x.member ⟨g₁.exps.size⟩)

def configure (g : Graph) (h : Handle) (generics : Option GenericsFilter) : ExpId × Graph :=
  match h.owner with
  | some o => g.fork o h.exp generics
  | none => (h.exp, match generics with
    | some f => g.modifyExp h.exp fun x => { x with generics := f }
    | none => g)

theorem fileCall_of_methods {g : Graph} {n : NodeId} {name : String} {es : List ExpId} (e : ExpId)
    (h : g.memberAt? n name = some (.methods es)) :
    g.fileCall n name e = g.setEntry n name (.methods (es ++ [e])) := by
  simp only [fileCall, h]

end Graph

/-- A step that configures an arranged call through its handle: a verb, or a generic filter. -/
inductive Config where
  | returns (v : Value)
  | ensure
  | onCall (cb : Callback)
  | outIndex (i : Nat) (v : Value)
  | outName (name : String) (v : Value)
  | generics (types : List TypeId)
  | anyGenerics

namespace Config

/-- The step, applied to a handle. -/
def run (h : Handle) : Config → Act ArrangeFault Handle
  | .returns v => h.returns v
  | .ensure => h.ensure
  | .onCall cb => h.onCall cb
  | .outIndex i v => h.outIndex i v
  | .outName name v => h.outName name v
  | .generics types => h.generics types
  | .anyGenerics => h.anyGenerics

def filter? : Config → Option GenericsFilter
  | .generics types => some (.exact types)
  | .anyGenerics => some .any
  | _ => none

def fault? (x : Expectation) : Config → Option ArrangeFault
  | .returns _ => if x.returnsSet then some (.returnsAlreadySet x.member) else none
  | .outIndex i _ =>
    if x.outsByIndex.any (·.1 == i) then some (.duplicateOut x.member (.index i)) else none
  | .outName n _ =>
    if x.outsByName.any (·.1 == n) then some (.duplicateOut x.member (.name n)) else none
  | _ => none

def edit : Config → Expectation → Expectation
  | .returns v, x => { x with outcome := .value v, returnsSet := true }
  | .ensure, x => { x with mustBeCalled := true }
  | .onCall cb, x => { x with callbacks := x.callbacks ++ [cb] }
  | .outIndex i v, x => { x with outsByIndex := x.outsByIndex ++ [(i, v)] }
  | .outName n v, x => { x with outsByName := x.outsByName ++ [(n, v)] }
  | .generics _, x | .anyGenerics, x => x

def commit (g : Graph) (e : ExpId) (cfg : Config) : Graph :=
  match cfg.filter? with
  | some _ => g
  | none => g.modifyExp e cfg.edit

theorem fault?_fresh (cfg : Config) (member : String) (args : ArgsPattern) (gen : GenericsFilter)
    (chain : NodeId) : cfg.fault? (Expectation.fresh member args gen chain) = none := by
  cases cfg <;> rfl

end Config

def Expectation.sameCall (x : Expectation) (args : ArgsPattern) (generics : GenericsFilter) :
    Bool :=
  x.generics == generics && x.args.sameAs args

section Runs

variable {ε : Type} (s : Session)

@[simp] theorem graph_run : (graph : Act ε Graph).run s = .ok s.graph s := rfl

@[simp] theorem onGraph_run {α : Type} (f : Graph → α × Graph) :
    (onGraph f : Act ε α).run s = .ok (f s.graph).1 { s with graph := (f s.graph).2 } := rfl

@[simp] theorem changeGraph_run (f : Graph → Graph) :
    (changeGraph f : Act ε Unit).run s = .ok () { s with graph := f s.graph } := rfl

theorem spawnFrom_run (n : NodeId) :
    (spawnFrom n : Act ε NodeId).run s =
      .ok ⟨s.graph.nodes.size⟩ { s with graph := (s.graph.spawn (s.graph.node n).verbs).2 } := rfl

theorem rootMock_run (name : String) :
    (rootMock name : Act ε NodeId).run s = match findKey? s.roots name with
      | some n => .ok n s
      | none => .ok ⟨s.graph.nodes.size⟩ { s with
          graph := (s.graph.spawn s.settings.verbs).2,
          roots := s.roots ++ [(name, ⟨s.graph.nodes.size⟩)] } := by
  simp only [rootMock, EStateM.run_bind, EStateM.run_get]
  cases findKey? s.roots name <;> rfl

theorem child_run (n : NodeId) (name : String) :
    (n.child name).run s = match s.graph.memberAt? n name with
      | some (.child m) => .ok m s
      | some (.property sl) => match (s.graph.slot sl).value with
        | .mock m => .ok m s
        | _ => .error (.memberKindConflict name .property .child) s
      | some (.methods _) => .error (.memberKindConflict name .methods .child) s
      | none => .ok ⟨s.graph.nodes.size⟩
          { s with graph := ((s.graph.spawn (s.graph.node n).verbs).2.setEntry n name
              (.child ⟨s.graph.nodes.size⟩)) } := by
  simp only [NodeId.child, Understudy.graph, EStateM.run_bind, EStateM.run_get, EStateM.run_pure]
  rcases s.graph.memberAt? n name with _ | ⟨m | es | sl⟩
  · rfl
  · rfl
  · rfl
  · dsimp only
    cases (s.graph.slot sl).value <;> rfl

theorem callWith_run (n : NodeId) (name : String) (args : ArgsPattern) (gen : GenericsFilter) :
    (n.callWith name args gen).run s = match s.graph.memberAt? n name with
      | none => .ok ⟨⟨s.graph.exps.size⟩, (s.graph.node n).verbs, none⟩
          { s with graph := (s.graph.setEntry n name (.methods [])).appendCall n name [] args gen }
      | some (.methods es) =>
        match es.reverse.find? fun e => (s.graph.exp e).sameCall args gen with
        | some e =>
          if (s.graph.exp e).returnsSet then
            .ok ⟨⟨s.graph.exps.size⟩, (s.graph.node n).verbs, none⟩
              { s with graph := s.graph.appendCall n name es args gen }
          else .ok ⟨e, (s.graph.node n).verbs, some n⟩ s
        | none => .ok ⟨⟨s.graph.exps.size⟩, (s.graph.node n).verbs, none⟩
              { s with graph := s.graph.appendCall n name es args gen }
      | some other => .error (.memberKindConflict name other.kind .methods) s := by
  simp only [NodeId.callWith, Understudy.graph, EStateM.run_bind, EStateM.run_get, EStateM.run_pure]
  rcases s.graph.memberAt? n name with _ | ⟨m | es | sl⟩
  · rfl
  · rfl
  · simp only [Expectation.sameCall, EStateM.run_bind, EStateM.run_pure]
    cases (es.reverse.find? fun e =>
        (s.graph.exp e).generics == gen && (s.graph.exp e).args.sameAs args) with
    | none => rfl
    | some e =>
      dsimp only
      cases (s.graph.exp e).returnsSet
      · simp only [Bool.not_false, ↓reduceIte, Bool.false_eq_true]
        rfl
      · rfl
  · rfl

theorem fork_run (o : NodeId) (src : ExpId) (gen : Option GenericsFilter) :
    (o.fork src gen : Act ε ExpId).run s =
      .ok (s.graph.fork o src gen).1 { s with graph := (s.graph.fork o src gen).2 } := by
  simp only [NodeId.fork, Graph.fork, Graph.copyChain, graph_run, EStateM.run_bind]
  -- the chain node is kept or spawned, the copy added, and then the copy is filed: the filing
  -- tests the member on both sides, so the two tests are split together
  cases (s.graph.exp src).outcome with
  | chain m =>
    dsimp only
    split
    · simp only [EStateM.run_pure, onGraph_run, EStateM.run_bind, graph_run]
      split
      all_goals
        unfold Graph.fileCall
        split <;> simp_all [Graph.addExp]
    · simp only [spawnFrom_run, onGraph_run, EStateM.run_bind, graph_run]
      split
      all_goals
        unfold Graph.fileCall
        split <;> simp_all [Graph.addExp, Graph.spawn]
  | value v =>
    simp only [spawnFrom_run, onGraph_run, EStateM.run_bind, graph_run]
    split
    all_goals
      unfold Graph.fileCall
      split <;> simp_all [Graph.addExp, Graph.spawn]

theorem configurable_run (h : Handle) (gen : Option GenericsFilter) :
    (h.configurable gen : Act ε Handle).run s =
      .ok ⟨(s.graph.configure h gen).1, h.verbs, none⟩
        { s with graph := (s.graph.configure h gen).2 } := by
  simp only [Handle.configurable, Graph.configure]
  rcases h with ⟨e, verbs, _ | o⟩
  · cases gen <;> rfl
  · simp only [EStateM.run_bind, fork_run]
    rfl

theorem Config.run_eq (h : Handle) (cfg : Config) :
    (cfg.run h).run s =
      match cfg.fault? ((s.graph.configure h cfg.filter?).2.exp (s.graph.configure h cfg.filter?).1)
      with
      | some f => .error f { s with graph := (s.graph.configure h cfg.filter?).2 }
      | none => .ok ⟨(s.graph.configure h cfg.filter?).1, h.verbs, none⟩
          { s with graph := (Config.commit (s.graph.configure h cfg.filter?).2
              (s.graph.configure h cfg.filter?).1 cfg) } := by
  cases cfg with
  | returns v =>
    simp only [Config.run, Handle.returns, EStateM.run_bind, configurable_run, graph_run,
      Config.fault?, Config.filter?, Config.commit]
    split <;> simp only [*, ↓reduceIte, Bool.false_eq_true] <;> rfl
  | ensure =>
    simp only [Config.run, Handle.ensure, EStateM.run_bind, configurable_run]
    rfl
  | onCall cb =>
    simp only [Config.run, Handle.onCall, EStateM.run_bind, configurable_run]
    rfl
  | outIndex i v =>
    simp only [Config.run, Handle.outIndex, EStateM.run_bind, configurable_run, graph_run,
      Config.fault?, Config.filter?, Config.commit]
    split <;> simp only [*, ↓reduceIte, Bool.false_eq_true] <;> rfl
  | outName n v =>
    simp only [Config.run, Handle.outName, EStateM.run_bind, configurable_run, graph_run,
      Config.fault?, Config.filter?, Config.commit]
    split <;> simp only [*, ↓reduceIte, Bool.false_eq_true] <;> rfl
  | generics types => exact configurable_run s h _
  | anyGenerics => exact configurable_run s h _

theorem storeProperty_run (n : NodeId) (name : String) (v : Value) (en : Bool) :
    (n.storeProperty name v en).run s = match s.graph.memberAt? n name with
      | some (.methods _) => .error (.memberKindConflict name .methods .property) s
      | _ => .ok () { s with graph := ((s.graph.addSlot { value := v, ensured := en }).2.setEntry
          n name (.property ⟨s.graph.slots.size⟩)) } := by
  simp only [NodeId.storeProperty, EStateM.run_bind, graph_run]
  rcases s.graph.memberAt? n name with _ | ⟨m | es | sl⟩ <;> rfl

theorem resultNode_run (h : Handle) :
    h.resultNode.run s = match (s.graph.exp h.exp).outcome.node? with
      | some m => .ok m s
      | none => .error (.notChainable (s.graph.exp h.exp).member) s := by
  simp only [Handle.resultNode, EStateM.run_bind, graph_run]
  cases (s.graph.exp h.exp).outcome.node? <;> rfl

theorem run_onResult {α : Type} (h : Handle) (k : NodeId → Act ArrangeFault α) :
    (do k (← h.resultNode)).run s = match (s.graph.exp h.exp).outcome.node? with
      | some m => (k m).run s
      | none => .error (.notChainable (s.graph.exp h.exp).member) s := by
  simp only [EStateM.run_bind, resultNode_run]
  cases (s.graph.exp h.exp).outcome.node? <;> rfl

theorem apply_cases (h : Handle) (name : String) (args : List VerbArg) :
    (∃ f, (h.apply name args).run s = .error f s) ∨
    (∃ cfg : Config, (∀ v, cfg = .returns v → VerbArg.value v ∈ args) ∧
      (h.apply name args).run s = (cfg.run h).run s) ∨
    ∃ ps, (h.apply name args).run s = (h.call name (.positional ps)).run s := by
  unfold Handle.apply
  split
  · -- not a verb: the arguments become patterns, a callback among them is refused
    cases args.mapM (VerbArg.toPattern name) with
    | error f => exact .inl ⟨f, by simp [liftExcept]⟩
    | ok ps => exact .inr (.inr ⟨ps, by simp [liftExcept]⟩)
  · split
    · exact .inr (.inl ⟨.returns _, fun _ hv => by cases hv; simp, rfl⟩)
    · exact .inl ⟨_, rfl⟩
  · split
    · exact .inr (.inl ⟨.ensure, fun _ hv => Config.noConfusion hv, rfl⟩)
    · exact .inl ⟨_, rfl⟩
  · split
    · exact .inr (.inl ⟨.onCall _, fun _ hv => Config.noConfusion hv, rfl⟩)
    · exact .inl ⟨_, rfl⟩
  · split
    · split
      · exact .inl ⟨_, rfl⟩
      · exact .inr (.inl ⟨.outIndex _ _, fun _ hv => Config.noConfusion hv, rfl⟩)
    · exact .inr (.inl ⟨.outName _ _, fun _ hv => Config.noConfusion hv, rfl⟩)
    · exact .inl ⟨_, rfl⟩

end Runs

namespace Graph

theorem exp_addExp_self (g : Graph) (x : Expectation) : (g.addExp x).2.exp (g.addExp x).1 = x := by
  simp [exp, addExp, Array.getD_eq_getD_getElem?]

theorem exp_fileCall (g : Graph) (n : NodeId) (name : String) (e e' : ExpId) :
    (g.fileCall n name e).exp e' = g.exp e' := by
  unfold fileCall
  split <;> rfl

theorem exp_fork_self (g : Graph) (o : NodeId) (src : ExpId) (gen : Option GenericsFilter) :
    (g.fork o src gen).2.exp (g.fork o src gen).1 =
      Expectation.fresh (g.exp src).member (g.exp src).args (gen.getD (g.exp src).generics)
        (g.copyChain o (g.exp src) (gen.getD (g.exp src).generics)).1 := by
  simp only [fork, exp_fileCall]
  exact exp_addExp_self _ _

theorem configure_of_fault (g : Graph) (h : Handle) (cfg : Config) {f : ArrangeFault}
    (hf : cfg.fault? ((g.configure h cfg.filter?).2.exp (g.configure h cfg.filter?).1) = some f) :
    (g.configure h cfg.filter?).2 = g := by
  rcases h with ⟨e, verbs, _ | o⟩
  · cases cfg with
    | generics _ | anyGenerics => cases hf
    | _ => rfl
  · simp only [configure, exp_fork_self, Config.fault?_fresh] at hf
    cases hf

end Graph

/-- An operation a test performs while arranging mocks. -/
inductive Arrangement where
  | mock (name : String)
  | child (n : NodeId) (name : String)
  | callWith (n : NodeId) (name : String) (args : ArgsPattern) (generics : GenericsFilter)
  | storeProperty (n : NodeId) (name : String) (v : Value) (ensured : Bool)
  | setIndex (n : NodeId) (args : ArgsPattern) (v : Value)
  | subscribe (n : NodeId) (event : String) (cb : Callback)
  | configure (h : Handle) (cfg : Config)
  | resultNode (h : Handle)
  | childOf (h : Handle) (name : String)
  | callOn (h : Handle) (name : String) (args : ArgsPattern)
  | setPropertyOn (h : Handle) (name : String) (v : Value)
  | apply (h : Handle) (name : String) (args : List VerbArg)

/-- The operation, its answer dropped. -/
def Arrangement.act : Arrangement → Act ArrangeFault Unit
  | .mock name => (fun _ => ()) <$> (rootMock name : Act ArrangeFault NodeId)
  | .child n name => (fun _ => ()) <$> n.child name
  | .callWith n name args generics => (fun _ => ()) <$> n.callWith name args generics
  | .storeProperty n name v ensured => n.storeProperty name v ensured
  | .setIndex n args v => n.setIndex args v
  | .subscribe n event cb => (fun _ => ()) <$> (n.subscribe event cb : Act ArrangeFault UInt64)
  | .configure h cfg => (fun _ => ()) <$> cfg.run h
  | .resultNode h => (fun _ => ()) <$> h.resultNode
  | .childOf h name => (fun _ => ()) <$> h.child name
  | .callOn h name args => (fun _ => ()) <$> h.call name args
  | .setPropertyOn h name v => h.setProperty name v
  | .apply h name args => (fun _ => ()) <$> h.apply name args

section Faults

/-- A run that fails leaves the session as it found it. -/
def Act.KeepsOnFault {ε α : Type} (m : Act ε α) : Prop := ∀ s f s', m.run s = .error f s' → s' = s

theorem Act.KeepsOnFault.map {ε α β : Type} {m : Act ε α} (hm : Act.KeepsOnFault m) (g : α → β) :
    Act.KeepsOnFault (g <$> m) := by
  intro s f s' h
  simp only [EStateM.run_map_result] at h
  split at h
  · cases h
  · cases h
    exact hm _ _ _ (by assumption)

theorem Act.keepsOnFault_of_ok {ε α : Type} {m : Act ε α} (hm : ∀ s, ∃ a s', m.run s = .ok a s') :
    Act.KeepsOnFault m := by
  intro s f s' h
  obtain ⟨a, s'', hok⟩ := hm s
  rw [hok] at h
  cases h

theorem child_keepsOnFault (n : NodeId) (name : String) : Act.KeepsOnFault (n.child name) := by
  intro s f s' h
  rw [child_run] at h
  repeat' split at h
  all_goals cases h <;> rfl

theorem callWith_keepsOnFault (n : NodeId) (name : String) (args : ArgsPattern)
    (gen : GenericsFilter) : Act.KeepsOnFault (n.callWith name args gen) := by
  intro s f s' h
  rw [callWith_run] at h
  repeat' split at h
  all_goals cases h <;> rfl

theorem storeProperty_keepsOnFault (n : NodeId) (name : String) (v : Value) (en : Bool) :
    Act.KeepsOnFault (n.storeProperty name v en) := by
  intro s f s' h
  rw [storeProperty_run] at h
  split at h
  · cases h
    rfl
  · cases h

theorem Config.run_keepsOnFault (h : Handle) (cfg : Config) : Act.KeepsOnFault (cfg.run h) := by
  intro s f s' hrun
  rw [Config.run_eq] at hrun
  split at hrun
  · rename_i hf
    cases hrun
    rw [s.graph.configure_of_fault h cfg hf]
  · cases hrun

theorem resultNode_keepsOnFault (h : Handle) : Act.KeepsOnFault h.resultNode := by
  intro s f s' hrun
  rw [resultNode_run] at hrun
  split at hrun
  · cases hrun
  · cases hrun
    rfl

theorem onResult_keepsOnFault {α : Type} (h : Handle) {k : NodeId → Act ArrangeFault α}
    (hk : ∀ m, Act.KeepsOnFault (k m)) : Act.KeepsOnFault (do k (← h.resultNode)) := by
  intro s f s' hrun
  rw [run_onResult] at hrun
  split at hrun
  · exact hk _ _ _ _ hrun
  · cases hrun
    rfl

theorem apply_keepsOnFault (h : Handle) (name : String) (args : List VerbArg) :
    Act.KeepsOnFault (h.apply name args) := by
  intro s f s' hrun
  rcases apply_cases s h name args with ⟨f', hf⟩ | ⟨cfg, -, hcfg⟩ | ⟨ps, hps⟩
  · rw [hf] at hrun
    cases hrun
    rfl
  · rw [hcfg] at hrun
    exact Config.run_keepsOnFault h cfg _ _ _ hrun
  · rw [hps] at hrun
    exact onResult_keepsOnFault h (fun m => callWith_keepsOnFault m name _ _) _ _ _ hrun

end Faults

/-- **Arrangement faults change nothing.** Whenever an arrangement operation fails (a member
used as another kind, a result or out value set twice, chaining through a plain value, bad verb
arguments, a callback as an argument matcher), the session is exactly as it was. -/
theorem arrangement_fault_changes_nothing (op : Arrangement) (s s' : Session) (f : ArrangeFault)
    (hrun : op.act.run s = .error f s') : s' = s := by
  have hkeep : Act.KeepsOnFault op.act := by
    cases op with
    | mock name =>
      refine (Act.keepsOnFault_of_ok fun s => ?_).map _
      rw [rootMock_run]
      split
      · exact ⟨_, _, rfl⟩
      · exact ⟨_, _, rfl⟩
    | child n name => exact (child_keepsOnFault n name).map _
    | callWith n name args gen => exact (callWith_keepsOnFault n name args gen).map _
    | storeProperty n name v en => exact storeProperty_keepsOnFault n name v en
    | setIndex n args v => exact Act.keepsOnFault_of_ok fun s => ⟨_, _, rfl⟩
    | subscribe n event cb => exact (Act.keepsOnFault_of_ok fun s => ⟨_, _, rfl⟩).map _
    | configure h cfg => exact (Config.run_keepsOnFault h cfg).map _
    | resultNode h => exact (resultNode_keepsOnFault h).map _
    | childOf h name => exact (onResult_keepsOnFault h fun m => child_keepsOnFault m name).map _
    | callOn h name args =>
      exact (onResult_keepsOnFault h fun m => callWith_keepsOnFault m name args _).map _
    | setPropertyOn h name v =>
      exact onResult_keepsOnFault h fun m => storeProperty_keepsOnFault m name v false
    | apply h name args => exact (apply_keepsOnFault h name args).map _
  exact hkeep s f s' hrun

def outSetSession : Session :=
  { Session.standard with
    graph := { nodes := #[{ verbs := VerbNames.standard, members := [("F", .methods [⟨0⟩])] }],
               exps := #[{ member := "F", args := .empty, generics := .none, outcome := .chain ⟨0⟩,
                           outsByIndex := [(0, .null)] }] } }

/-- A second out value for position 0 through the call's own handle is refused, and the session
stays as it was. -/
theorem second_out_value_refused :
    ∃ s', (Arrangement.configure ⟨⟨0⟩, VerbNames.standard, none⟩ (.outIndex 0 .null)).act.run
        outSetSession = .error (.duplicateOut "F" (.index 0)) s' ∧ s' = outSetSession :=
  have h : (Arrangement.configure ⟨⟨0⟩, VerbNames.standard, none⟩ (.outIndex 0 .null)).act.run
      outSetSession = .error (.duplicateOut "F" (.index 0)) outSetSession := rfl
  ⟨outSetSession, h, arrangement_fault_changes_nothing _ _ _ _ h⟩

end Understudy
