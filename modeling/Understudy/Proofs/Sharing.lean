import Understudy.Proofs.Steps

set_option autoImplicit false

/-!
# Shared calls

An access `n.name(args)` with a filter hands out the newest call of the same filter and
structurally the same patterns again while that call's result is unset, so that statements
chaining on the result build on one node. A handle obtained that way is configured by copy:
the step forks the shared call, files the copy last in its list and records the step on the
copy, leaving every earlier call as it was (`Graph.Forked`).

The sharing lasts only while the shared call keeps its filter: a filter set in place through
the call's own handle makes it stop matching, and the next access arranges a new call on a new
node (`filter_change_ends_sharing`).
-/

namespace Understudy

theorem Handle.Valid.grows {g g' : Graph} {h : Handle} (hv : h.Valid g) (hg : g.Grows g') :
    h.Valid g' := by
  refine ⟨lt_of_lt_of_le hv.1 hg.exps, fun o ho => ?_⟩
  obtain ⟨es, hat, hmem⟩ := Graph.memberAt?_of_mem_expectationsOf (hv.2 o ho)
  obtain ⟨e', hat', hgrow⟩ := hg.entries o _ _ hat
  rw [(hg.call h.exp hv.1).1]
  cases e' with
  | methods es' =>
    simp only [Graph.expectationsOf, hat']
    exact hgrow.subset hmem
  | child _ => exact absurd hgrow id
  | property _ => exact absurd hgrow id

namespace Graph

theorem copyChain_shared (g : Graph) (o : NodeId) (x : Expectation) (filter : GenericsFilter) :
    (∃ c, x.outcome = .chain c ∧ filter = x.generics ∧ g.copyChain o x filter = (c, g)) ∨
      ((∀ c, x.outcome = .chain c → filter ≠ x.generics) ∧
        g.copyChain o x filter = g.spawn (g.node o).verbs) := by
  unfold copyChain
  rcases hx : x.outcome with c | v
  · dsimp only
    by_cases hf : filter = x.generics
    · exact .inl ⟨c, rfl, hf, by simp [hf]⟩
    · refine .inr ⟨fun c' hc' => ?_, by simp [hf]⟩
      cases hc'
      exact hf
  · exact .inr ⟨fun c hc => (by cases hc), rfl⟩

theorem copyChain_keeps (g : Graph) (o : NodeId) (x : Expectation) (filter : GenericsFilter) :
    (g.copyChain o x filter).2.exps = g.exps ∧
      ∀ n name, (g.copyChain o x filter).2.memberAt? n name = g.memberAt? n name := by
  rcases g.copyChain_cases o x filter with h | h <;> rw [h]
  · exact ⟨rfl, fun _ _ => rfl⟩
  · exact ⟨rfl, memberAt?_spawn g _⟩

theorem exps_size_commit (g : Graph) (k : ExpId) (cfg : Config) :
    (Config.commit g k cfg).exps.size = g.exps.size := by
  unfold Config.commit
  split
  · rfl
  · simp [modifyExp]

theorem exp_commit_of_ne (g : Graph) {k e : ExpId} (cfg : Config) (he : e ≠ k) :
    (Config.commit g k cfg).exp e = g.exp e := by
  unfold Config.commit
  split
  · rfl
  · rcases g.exp_modifyExp k cfg.edit e with h | h
    · exact h
    · -- an edit of `k` reaches only `k`
      have hi : ¬k.idx = e.idx := fun h => he (by cases e; cases k; simp_all)
      simp [exp, modifyExp, Array.getD_eq_getD_getElem?, Array.getElem?_modify, hi]

theorem exp_commit_self (g : Graph) {k : ExpId} (cfg : Config) (hk : k.idx < g.exps.size) :
    (Config.commit g k cfg).exp k = cfg.edit (g.exp k) := by
  unfold Config.commit
  split
  · rename_i types hcfg
    cases cfg <;> first | rfl | cases hcfg
  · simp [exp, modifyExp, Array.getD_eq_getD_getElem?, Array.getElem?_modify,
      Array.getElem?_eq_getElem hk]

theorem nodes_commit (g : Graph) (k : ExpId) (cfg : Config) :
    (Config.commit g k cfg).nodes = g.nodes := by
  unfold Config.commit
  split <;> rfl

theorem expectationsOf_commit (g : Graph) (k : ExpId) (cfg : Config) (n : NodeId) (name : String) :
    (Config.commit g k cfg).expectationsOf n name = g.expectationsOf n name := by
  unfold Config.commit
  split <;> rfl

theorem exp_of_exps_eq {g g' : Graph} (h : g'.exps = g.exps) (e : ExpId) : g'.exp e = g.exp e := by
  simp only [exp, h]

theorem expectationsOf_of_memberAt?_eq {g g' : Graph}
    (h : ∀ n name, g'.memberAt? n name = g.memberAt? n name) (n : NodeId) (name : String) :
    g'.expectationsOf n name = g.expectationsOf n name := by
  simp only [expectationsOf, h]

theorem fork_eq_push {g : Graph} {o : NodeId} {src : ExpId} {es : List ExpId}
    (hat : g.memberAt? o (g.exp src).member = some (.methods es)) (gen : Option GenericsFilter) :
    (g.fork o src gen).2 =
      let filter := gen.getD (g.exp src).generics
      let g₁ := (g.copyChain o (g.exp src) filter).2
      ((g₁.addExp (Expectation.fresh (g.exp src).member (g.exp src).args filter
        (g.copyChain o (g.exp src) filter).1)).2.setEntry o (g.exp src).member
          (.methods (es ++ [⟨g₁.exps.size⟩]))) := by
  obtain ⟨-, hmem⟩ := g.copyChain_keeps o (g.exp src) (gen.getD (g.exp src).generics)
  simp only [fork]
  exact fileCall_of_methods _ (by rw [memberAt?_addExp, hmem]; exact hat)

theorem fork_fst (g : Graph) (o : NodeId) (src : ExpId) (gen : Option GenericsFilter) :
    (g.fork o src gen).1 = ⟨g.exps.size⟩ := by
  simp only [fork, (g.copyChain_keeps o (g.exp src) (gen.getD (g.exp src).generics)).1]

end Graph

/-- `g'` is `g` after configuring step `cfg` through a handle sharing call `e` of node `n`: one
new call, a copy of `e` with the step applied, is filed last in `e`'s list on `n`, and every
other call and list is as it was. -/
structure Graph.Forked (g g' : Graph) (n : NodeId) (e : ExpId) (cfg : Config) : Prop where
  size : g'.exps.size = g.exps.size + 1
  kept : ∀ e', e'.idx < g.exps.size → g'.exp e' = g.exp e'
  lists : ∀ n' name, g'.expectationsOf n' name =
    if n' = n ∧ name = (g.exp e).member then g.expectationsOf n' name ++ [⟨g.exps.size⟩]
    else g.expectationsOf n' name
  copy : ∃ chain, g'.exp ⟨g.exps.size⟩ = cfg.edit (Expectation.fresh (g.exp e).member
      (g.exp e).args (cfg.filter?.getD (g.exp e).generics) chain) ∧
    ((∃ c, (g.exp e).outcome = .chain c ∧
        cfg.filter?.getD (g.exp e).generics = (g.exp e).generics ∧ chain = c) ∨
      ((∀ c, (g.exp e).outcome = .chain c →
          cfg.filter?.getD (g.exp e).generics ≠ (g.exp e).generics) ∧
        chain = ⟨g.nodes.size⟩ ∧ g'.nodes.size = g.nodes.size + 1))

namespace Graph

theorem forked_of_push {g g₁ : Graph} {n : NodeId} {e : ExpId} {cfg : Config} {es : List ExpId}
    {chain : NodeId} (hexps : g₁.exps = g.exps)
    (hmem : ∀ n name, g₁.memberAt? n name = g.memberAt? n name) (hn : n.idx < g₁.nodes.size)
    (hat : g.memberAt? n (g.exp e).member = some (.methods es))
    (hchain : (∃ c, (g.exp e).outcome = .chain c ∧
        cfg.filter?.getD (g.exp e).generics = (g.exp e).generics ∧ chain = c) ∨
      ((∀ c, (g.exp e).outcome = .chain c →
          cfg.filter?.getD (g.exp e).generics ≠ (g.exp e).generics) ∧
        chain = ⟨g.nodes.size⟩ ∧ g₁.nodes.size = g.nodes.size + 1)) :
    g.Forked (Config.commit ((g₁.addExp (Expectation.fresh (g.exp e).member (g.exp e).args
      (cfg.filter?.getD (g.exp e).generics) chain)).2.setEntry n (g.exp e).member
        (.methods (es ++ [⟨g₁.exps.size⟩]))) ⟨g.exps.size⟩ cfg) n e cfg := by
  have hsize : g₁.exps.size = g.exps.size := congrArg Array.size hexps
  have hPsize : ((g₁.addExp (Expectation.fresh (g.exp e).member (g.exp e).args
      (cfg.filter?.getD (g.exp e).generics) chain)).2.setEntry n (g.exp e).member
        (.methods (es ++ [⟨g₁.exps.size⟩]))).exps.size = g.exps.size + 1 := by
    simp [setEntry, modifyNode, addExp, hsize]
  refine ⟨?size, ?kept, ?lists, ?copy⟩
  case size => rw [exps_size_commit, hPsize]
  case kept =>
    intro e' he'
    have hne : e' ≠ ⟨g.exps.size⟩ := fun h => by subst h; exact lt_irrefl _ he'
    rw [exp_commit_of_ne _ cfg hne]
    show (g₁.addExp _).2.exp e' = g.exp e'
    rw [g₁.exp_addExp_of_ne _ (by rw [hsize]; exact hne), exp_of_exps_eq hexps]
  case lists =>
    intro n' name
    rw [expectationsOf_commit, expectationsOf_push _ hn (by rw [hmem]; exact hat)]
    split_ifs with h
    · obtain ⟨rfl, rfl⟩ := h
      rw [expectationsOf, hat, hsize]
    · exact expectationsOf_of_memberAt?_eq hmem n' name
  case copy =>
    refine ⟨chain, ?_, ?_⟩
    · rw [exp_commit_self]
      · show cfg.edit ((g₁.addExp _).2.exp ⟨g.exps.size⟩) = _
        rw [← hsize]
        exact congrArg cfg.edit (g₁.exp_addExp_self _)
      · rw [hPsize]
        exact Nat.lt_succ_self _
    · rcases hchain with hshared | ⟨hnot, hc, hnodes⟩
      · exact .inl hshared
      · refine .inr ⟨hnot, hc, ?_⟩
        rw [nodes_commit]
        simp [setEntry, modifyNode, addExp, hnodes]

theorem forked_of_valid (g : Graph) (e : ExpId) (verbs : VerbNames) (n : NodeId) (cfg : Config)
    (hv : (⟨e, verbs, some n⟩ : Handle).Valid g) :
    g.Forked (Config.commit (g.fork n e cfg.filter?).2 ⟨g.exps.size⟩ cfg) n e cfg := by
  obtain ⟨es, hat, -⟩ := memberAt?_of_mem_expectationsOf (hv.2 n rfl)
  have hn := idx_lt_of_memberAt? hat
  obtain ⟨hexps, hmem⟩ := g.copyChain_keeps n (g.exp e) (cfg.filter?.getD (g.exp e).generics)
  rw [fork_eq_push hat]
  -- the chain node: the shared one, or a node spawned for the copy
  rcases g.copyChain_shared n (g.exp e) (cfg.filter?.getD (g.exp e).generics) with
    ⟨c, hc, hf, h⟩ | ⟨hnot, h⟩
  · exact forked_of_push hexps hmem (by rw [h]; exact hn) hat (.inl ⟨c, hc, hf, by rw [h]⟩)
  · refine forked_of_push hexps hmem ?_ hat (.inr ⟨hnot, by rw [h]; rfl, ?_⟩)
    · rw [h]
      simp only [spawn, Array.size_push]
      omega
    · rw [h]
      simp [spawn]

end Graph

section Sharing

variable (s : Session)

theorem callWith_of_shared {n : NodeId} {name : String} {args : ArgsPattern} {gen : GenericsFilter}
    {es : List ExpId} {e : ExpId} (hat : s.graph.memberAt? n name = some (.methods es))
    (hnewest : es.reverse.find? (fun e => (s.graph.exp e).sameCall args gen) = some e)
    (hunset : (s.graph.exp e).returnsSet = false) :
    (n.callWith name args gen).run s = .ok ⟨e, (s.graph.node n).verbs, some n⟩ s := by
  rw [callWith_run, hat]
  dsimp only
  rw [hnewest]
  simp [hunset]

theorem Config.run_reused (e : ExpId) (verbs : VerbNames) (n : NodeId) (cfg : Config) :
    (cfg.run ⟨e, verbs, some n⟩).run s = .ok ⟨⟨s.graph.exps.size⟩, verbs, none⟩
      { s with
        graph := Config.commit (s.graph.fork n e cfg.filter?).2 ⟨s.graph.exps.size⟩ cfg } := by
  rw [Config.run_eq]
  simp only [Graph.configure]
  rw [Graph.exp_fork_self, Config.fault?_fresh, Graph.fork_fst]

end Sharing

/-- **A shared call is handed out again, and configured by copy.** When the newest call of
`name` on `n` with filter `gen` and structurally the same patterns `args` has no result set, an
access `n.name(args)` arranges nothing and hands that call out again, with its result node.
Configuring the handle it gives, then or in any later state the graph grew into, appends one
copy of the call with the step applied, filed last in its list, and leaves every other call
and list as it was; the copy keeps the shared result node exactly when its filter is the
shared call's and that call still yields a node (`Graph.Forked`). -/
theorem shared_call_reused_then_copied (s : Session) (n : NodeId) (name : String)
    (args : ArgsPattern) (gen : GenericsFilter) (es : List ExpId) (e : ExpId) (hf : s.graph.Filed)
    (hat : s.graph.memberAt? n name = some (.methods es))
    (hnewest : es.reverse.find? (fun e => (s.graph.exp e).sameCall args gen) = some e)
    (hunset : (s.graph.exp e).returnsSet = false) :
    (n.callWith name args gen).run s = .ok ⟨e, (s.graph.node n).verbs, some n⟩ s ∧
    (∀ c, (s.graph.exp e).outcome = .chain c →
      (Handle.resultNode ⟨e, (s.graph.node n).verbs, some n⟩).run s = .ok c s) ∧
    ∀ (t : Session) (cfg : Config), s.graph.Grows t.graph →
      ∃ g', (cfg.run ⟨e, (s.graph.node n).verbs, some n⟩).run t =
          .ok ⟨⟨t.graph.exps.size⟩, (s.graph.node n).verbs, none⟩ { t with graph := g' } ∧
        t.graph.Forked g' n e cfg := by
  -- the shared call is filed in the list the access searched, so its handle is valid, and it
  -- stays valid in every graph this one grows into
  have hmem : e ∈ s.graph.expectationsOf n name := by
    rw [Graph.expectationsOf, hat]
    exact List.mem_reverse.mp (List.mem_of_find?_eq_some hnewest)
  have hv : Handle.Valid s.graph ⟨e, (s.graph.node n).verbs, some n⟩ := by
    obtain ⟨hlt, hname⟩ := hf.listed n name e hmem
    refine ⟨hlt, fun o ho => ?_⟩
    cases ho
    rw [hname]
    exact hmem
  refine ⟨callWith_of_shared s hat hnewest hunset, fun c hc => ?_, fun t cfg hgrow => ?_⟩
  · rw [resultNode_run]
    simp [hc, Outcome.node?]
  · exact ⟨_, Config.run_reused t e _ n cfg,
      t.graph.forked_of_valid e _ n cfg (hv.grows hgrow)⟩

/-- After a root mock and a call `F()` on it, a second access `F()` hands out the same call. -/
theorem second_access_shares_call :
    ((⟨0⟩ : NodeId).callWith "F" (.positional []) .none).run
        (Step.runAll rootCallSteps Session.standard) =
      .ok ⟨⟨0⟩, VerbNames.standard, some ⟨0⟩⟩ (Step.runAll rootCallSteps Session.standard) := by
  have h₁ := Step.after_keeps (.arrange (.mock "m")) Session.standard Session.standard_filed trivial
  have hf := (Step.after_keeps (.arrange (.callWith ⟨0⟩ "F" (.positional []) .none)) _ h₁.2
    Nat.zero_lt_one).2
  exact (shared_call_reused_then_copied _ ⟨0⟩ "F" (.positional []) .none [⟨0⟩] ⟨0⟩ hf rfl rfl
    rfl).1

def filterBetweenAccesses : Act ArrangeFault (NodeId × NodeId) := do
  let m ← rootMock "m"
  let first ← m.call "Foo" (.positional [])
  let r₁ ← (← m.call "Foo" (.positional [])).resultNode
  let _ ← first.generics [TypeId.int]
  let r₂ ← (← m.call "Foo" (.positional [])).resultNode
  pure (r₁, r₂)

/-- With no result set in between, two accesses `Foo()` still arrange on different nodes: the
filter set in place makes the shared call no longer match, and the third access makes a new
call. -/
theorem filter_change_ends_sharing :
    ∃ r₁ r₂ s, filterBetweenAccesses.run Session.standard = .ok (r₁, r₂) s ∧ r₁ ≠ r₂ :=
  ⟨⟨1⟩, ⟨2⟩, _, rfl, by decide⟩

end Understudy
