import Mathlib.Data.Finset.Card
import Mathlib.Logic.Relation
import Understudy.Mock.Verify

set_option autoImplicit false

/-!
# What verification reports

At each node the walk meets, in order, the node's unmet marks (an arranged call that must be
called and never was, an ensured property never read) and its edges (a child, a property holding
a mock, a call yielding a node, an indexer value holding a mock, a displaced subtree). A mark is
reported under the path the node was reached by; an edge is walked one level deeper.

Every graph: the walk reports, up to order, exactly the marks of the nodes it walks, each node
once, each under a path of at most `verifyDepthLimit` segments that leads to it from the root.
When few enough nodes are reachable for no path to pass the limit, it walks every reachable node.
It need not otherwise: a node is marked visited before the depth check, so a node first met too
deep is never walked, even when a short path leads to it as well (`walk_chain`).
-/

namespace Understudy

/-- What the walk meets at a node: a mark reported under the segment, or an edge walked under
it. -/
inductive Sight where
  | mark (seg : String)
  | enter (seg : String) (m : NodeId)

def Sight.mark? : Sight → Option String
  | .mark seg => some seg
  | .enter .. => none

namespace Graph

variable (g : Graph) (c : Catalog)

def memberSights : String × Entry → List Sight
  | (name, .child m) => [.enter name m]
  | (name, .property s) =>
    (if (g.slot s).ensured && (g.slot s).reads == 0 then [.mark name] else []) ++
    match (g.slot s).value with
    | .mock m => [.enter name m]
    | _ => []
  | (_, .methods es) => es.flatMap fun e =>
    (if (g.exp e).mustBeCalled && (g.exp e).calls == 0 then [.mark ((g.exp e).describe c)]
      else []) ++
    match (g.exp e).outcome.node? with
    | some m => [.enter ((g.exp e).describe c) m]
    | none => []

def indexerSights (ie : IndexEntry) : List Sight :=
  match ie.value with
  | .mock m => [.enter ("[" ++ ie.args.text c ++ "]") m]
  | _ => []

def sights (n : NodeId) : List Sight :=
  (g.node n).members.flatMap (g.memberSights c) ++
  (g.node n).indexers.flatMap (indexerSights c) ++
  (g.node n).displaced.map fun (seg, m) => .enter seg m

def marks (n : NodeId) : List String := (g.sights c n).filterMap Sight.mark?

/-- An edge the walk follows. -/
def Edge (n m : NodeId) : Prop := ∃ seg, Sight.enter seg m ∈ g.sights c n

/-- A set of nodes that every edge from it stays in. -/
def Closed (U : Finset NodeId) : Prop := ∀ x ∈ U, ∀ m, g.Edge c x m → m ∈ U

/-- Reachability along the edges the walk follows. -/
def Reach : NodeId → NodeId → Prop := Relation.ReflTransGen (g.Edge c)

/-- A path of segments from one node to another along edges. -/
inductive PathTo : NodeId → List String → NodeId → Prop
  | nil (n : NodeId) : PathTo n [] n
  | cons {n m k : NodeId} {seg : String} {labels : List String} :
      Sight.enter seg m ∈ g.sights c n → PathTo m labels k → PathTo n (seg :: labels) k

def reports (log : List (NodeId × List String)) : List String :=
  log.flatMap fun x => (g.marks c x.1).map fun seg => renderPath (x.2 ++ [seg])

@[simp] theorem reports_nil : g.reports c [] = [] := rfl

@[simp] theorem reports_append (log₁ log₂ : List (NodeId × List String)) :
    g.reports c (log₁ ++ log₂) = g.reports c log₁ ++ g.reports c log₂ :=
  List.flatMap_append

@[simp] theorem reports_cons (x : NodeId × List String) (log : List (NodeId × List String)) :
    g.reports c (x :: log) = (g.marks c x.1).map (fun seg => renderPath (x.2 ++ [seg])) ++
      g.reports c log :=
  List.flatMap_cons

end Graph

def Walk.see (g : Graph) (c : Catalog) (room : Nat) (path : List String) (w : Walk) :
    Sight → Walk
  | .mark seg => w.report (path ++ [seg])
  | .enter seg m => walk g c room m (path ++ [seg]) w

section Unfold

variable (g : Graph) (c : Catalog)

theorem walk_zero (n : NodeId) (path : List String) (w : Walk) :
    walk g c 0 n path w = if w.visited.contains n then w else { w with visited := n :: w.visited } := by
  rw [walk]

theorem walk_succ (room : Nat) (n : NodeId) (path : List String) (w : Walk) :
    walk g c (room + 1) n path w =
      if w.visited.contains n then w
      else (g.sights c n).foldl (Walk.see g c room path) { w with visited := n :: w.visited } := by
  rw [walk]
  split
  · rfl
  · simp only [Graph.sights, List.foldl_append, List.foldl_flatMap, List.foldl_map]
    -- the indexer and displaced folds agree by unfolding; the member fold needs a case split
    congr 2
    · funext w ie
      simp only [Graph.indexerSights]
      split <;> simp_all [Walk.see]
    · apply List.foldl_ext
      rintro w ⟨name, e⟩ _
      cases e with
      | child m => rfl
      | property s =>
        simp only [Graph.memberSights]
        split <;> split <;> simp_all [Walk.see]
      | methods es =>
        simp only [Graph.memberSights, List.foldl_flatMap]
        apply List.foldl_ext
        intro w e _
        split <;> split <;> simp_all [Walk.see]

end Unfold

/-- What a stretch of the walk did, from `w` to `w'`: it walked the nodes of `log`, each with the
path it was reached by, marked the nodes of `skipped` visited without walking them, and reported
`own` besides the marks of the nodes it walked. -/
structure Stretch (g : Graph) (c : Catalog) (w w' : Walk) (own : List String)
    (log : List (NodeId × List String)) (skipped : List NodeId) : Prop where
  visited : w'.visited.Perm (log.map (·.1) ++ skipped ++ w.visited)
  nodup : w.visited.Nodup → w'.visited.Nodup
  unmet : ∃ r, w'.unmet = w.unmet ++ r ∧ r.Perm (own ++ g.reports c log)
  closed : ∀ x ∈ log, ∀ m, g.Edge c x.1 m → m ∈ w'.visited

namespace Stretch

variable {g : Graph} {c : Catalog}

theorem refl (w : Walk) : Stretch g c w w [] [] [] where
  visited := by simp
  nodup := id
  unmet := ⟨[], by simp, by simp⟩
  closed := by simp

theorem mem_visited {w w' : Walk} {own log skipped} (h : Stretch g c w w' own log skipped)
    {m : NodeId} (hm : m ∈ w.visited) : m ∈ w'.visited :=
  h.visited.symm.subset (List.mem_append_right _ hm)

theorem trans {w w₁ w₂ : Walk} {own₁ own₂ log₁ log₂ skipped₁ skipped₂}
    (h₁ : Stretch g c w w₁ own₁ log₁ skipped₁) (h₂ : Stretch g c w₁ w₂ own₂ log₂ skipped₂) :
    Stretch g c w w₂ (own₁ ++ own₂) (log₁ ++ log₂) (skipped₁ ++ skipped₂) where
  visited := by
    refine (h₂.visited.trans (List.Perm.append_left _ h₁.visited)).trans ?_
    rw [List.perm_iff_count]
    intro a
    simp only [List.map_append, List.count_append]
    omega
  nodup := fun h => h₂.nodup (h₁.nodup h)
  unmet := by
    obtain ⟨r₁, hw₁, hr₁⟩ := h₁.unmet
    obtain ⟨r₂, hw₂, hr₂⟩ := h₂.unmet
    refine ⟨r₁ ++ r₂, by rw [hw₂, hw₁, List.append_assoc], ?_⟩
    refine (List.Perm.append hr₁ hr₂).trans ?_
    rw [Graph.reports_append, List.perm_iff_count]
    intro a
    simp only [List.count_append]
    omega
  closed := by
    intro x hx m hm
    rcases List.mem_append.mp hx with hx | hx
    · exact h₂.mem_visited (h₁.closed x hx m hm)
    · exact h₂.closed x hx m hm

theorem report (w : Walk) (p : List String) :
    Stretch g c w (w.report p) [renderPath p] [] [] where
  visited := by simp [Walk.report]
  nodup := id
  unmet := ⟨[renderPath p], rfl, by simp⟩
  closed := by simp

end Stretch

section Walked

variable (g : Graph) (c : Catalog)

/-- What walking `n`, reached by `path` with `room` levels left, did from `w` to `w'`: a stretch
that visited `n`, walked each node of `log` under a path leading to it from `n` within the room,
and skipped nothing when the room covers every unvisited node of a closed set holding `n`. -/
structure Walked (room : Nat) (n : NodeId) (path : List String) (w w' : Walk)
    (log : List (NodeId × List String)) (skipped : List NodeId) : Prop where
  stretch : Stretch g c w w' [] log skipped
  started : n ∈ w'.visited
  paths : ∀ x ∈ log, ∃ labels, x.2 = path ++ labels ∧ g.PathTo c n labels x.1 ∧
    labels.length < room
  full : ∀ U : Finset NodeId, g.Closed c U → n ∈ U →
    (U.filter (· ∉ w.visited)).card ≤ room → skipped = []

/-- What a fold of the walk over some sights of a node reached by `path` did, with `room`
levels left below the node. -/
structure Folded (room : Nat) (path : List String) (ss : List Sight) (w w' : Walk)
    (log : List (NodeId × List String)) (skipped : List NodeId) : Prop where
  stretch : Stretch g c w w' ((ss.filterMap Sight.mark?).map fun seg => renderPath (path ++ [seg]))
    log skipped
  entered : ∀ seg m, Sight.enter seg m ∈ ss → m ∈ w'.visited
  paths : ∀ x ∈ log, ∃ seg m labels, Sight.enter seg m ∈ ss ∧ x.2 = path ++ seg :: labels ∧
    g.PathTo c m labels x.1 ∧ labels.length < room
  full : ∀ U : Finset NodeId, g.Closed c U → (∀ seg m, Sight.enter seg m ∈ ss → m ∈ U) →
    (U.filter (· ∉ w.visited)).card ≤ room → skipped = []

theorem card_unvisited_le (U : Finset NodeId) {V V' : List NodeId} (h : ∀ m ∈ V, m ∈ V') :
    (U.filter (· ∉ V')).card ≤ (U.filter (· ∉ V)).card :=
  Finset.card_le_card fun x hx => by
    simp only [Finset.mem_filter] at hx ⊢
    exact ⟨hx.1, fun hV => hx.2 (h x hV)⟩

theorem walked_zero (n : NodeId) (path : List String) (w : Walk) :
    ∃ log skipped, Walked g c 0 n path w (walk g c 0 n path w) log skipped := by
  rw [walk_zero]
  by_cases hn : n ∈ w.visited
  · rw [if_pos (by simpa using hn)]
    exact ⟨[], [], ⟨Stretch.refl w, hn, by simp, fun _ _ _ _ => rfl⟩⟩
  · rw [if_neg (by simpa using hn)]
    have hstretch : Stretch g c w { w with visited := n :: w.visited } [] [] [n] :=
      { visited := by simp
        nodup := fun h => List.nodup_cons.mpr ⟨hn, h⟩
        unmet := ⟨[], by simp, by simp⟩
        closed := by simp }
    refine ⟨[], [n], ⟨hstretch, List.mem_cons_self, by simp, ?_⟩⟩
    -- with no room left, `n` itself is an unvisited node the room would have to cover
    intro U _ hnU hcard
    have hpos : 0 < (U.filter (· ∉ w.visited)).card :=
      Finset.card_pos.mpr ⟨n, Finset.mem_filter.mpr ⟨hnU, hn⟩⟩
    omega

namespace Folded

variable {g c} {room : Nat} {path : List String}

theorem nil (w : Walk) : Folded g c room path [] w w [] [] :=
  ⟨Stretch.refl w, by simp, by simp, fun _ _ _ _ => rfl⟩

theorem mark {seg : String} {ss : List Sight} {w w' : Walk} {log : List (NodeId × List String)}
    {skipped : List NodeId} (hf : Folded g c room path ss (w.report (path ++ [seg])) w' log skipped) :
    Folded g c room path (.mark seg :: ss) w w' log skipped where
  stretch := by simpa [Sight.mark?] using (Stretch.report w (path ++ [seg])).trans hf.stretch
  entered seg' m hm := hf.entered seg' m (by simpa using hm)
  paths x hx := by
    obtain ⟨seg', m, labels, hm, hx2, hpath, hlen⟩ := hf.paths x hx
    exact ⟨seg', m, labels, List.mem_cons_of_mem _ hm, hx2, hpath, hlen⟩
  full U hU hss hcard :=
    hf.full U hU (fun seg' m hm => hss seg' m (List.mem_cons_of_mem _ hm)) hcard

theorem enter {seg : String} {m : NodeId} {ss : List Sight} {w w₁ w' : Walk}
    {log₁ log₂ : List (NodeId × List String)} {skipped₁ skipped₂ : List NodeId}
    (hw : Walked g c room m (path ++ [seg]) w w₁ log₁ skipped₁)
    (hf : Folded g c room path ss w₁ w' log₂ skipped₂) :
    Folded g c room path (.enter seg m :: ss) w w' (log₁ ++ log₂) (skipped₁ ++ skipped₂) where
  stretch := by
    rw [show (Sight.enter seg m :: ss).filterMap Sight.mark? = ss.filterMap Sight.mark? from rfl]
    exact hw.stretch.trans hf.stretch
  entered seg' m' hm := by
    rcases List.mem_cons.mp hm with hm | hm
    · cases hm
      exact hf.stretch.mem_visited hw.started
    · exact hf.entered seg' m' hm
  paths x hx := by
    rcases List.mem_append.mp hx with hx | hx
    · obtain ⟨labels, hx2, hpath, hlen⟩ := hw.paths x hx
      exact ⟨seg, m, labels, List.mem_cons_self, by simp [hx2], hpath, hlen⟩
    · obtain ⟨seg', m', labels, hm, hx2, hpath, hlen⟩ := hf.paths x hx
      exact ⟨seg', m', labels, List.mem_cons_of_mem _ hm, hx2, hpath, hlen⟩
  full U hU hss hcard := by
    -- the walk below only visits more, so fewer nodes of `U` are left for the rest
    have h₁ : skipped₁ = [] := hw.full U hU (hss seg m List.mem_cons_self) hcard
    have h₂ : skipped₂ = [] :=
      hf.full U hU (fun seg' m' hm => hss seg' m' (List.mem_cons_of_mem _ hm))
        ((card_unvisited_le U fun x hx => hw.stretch.mem_visited hx).trans hcard)
    rw [h₁, h₂]
    rfl

end Folded

theorem folded_of_walked (room : Nat) (path : List String)
    (ih : ∀ m p w, ∃ log skipped, Walked g c room m p w (walk g c room m p w) log skipped)
    (ss : List Sight) (w : Walk) :
    ∃ log skipped, Folded g c room path ss w (ss.foldl (Walk.see g c room path) w) log skipped := by
  induction ss generalizing w with
  | nil => exact ⟨[], [], Folded.nil w⟩
  | cons s ss ihs =>
    rw [List.foldl_cons]
    cases s with
    | mark seg =>
      obtain ⟨log, skipped, hf⟩ := ihs (w.report (path ++ [seg]))
      exact ⟨log, skipped, hf.mark⟩
    | enter seg m =>
      obtain ⟨log₁, skipped₁, hw⟩ := ih m (path ++ [seg]) w
      obtain ⟨log₂, skipped₂, hf⟩ := ihs (walk g c room m (path ++ [seg]) w)
      exact ⟨log₁ ++ log₂, skipped₁ ++ skipped₂, hf.enter hw⟩

theorem walked_succ (room : Nat)
    (ih : ∀ m p w, ∃ log skipped, Walked g c room m p w (walk g c room m p w) log skipped)
    (n : NodeId) (path : List String) (w : Walk) :
    ∃ log skipped, Walked g c (room + 1) n path w (walk g c (room + 1) n path w) log skipped := by
  rw [walk_succ]
  by_cases hn : n ∈ w.visited
  · rw [if_pos (by simpa using hn)]
    exact ⟨[], [], ⟨Stretch.refl w, hn, by simp, fun _ _ _ _ => rfl⟩⟩
  rw [if_neg (by simpa using hn)]
  set w₀ : Walk := { w with visited := n :: w.visited }
  obtain ⟨log, skipped, hf⟩ := folded_of_walked g c room path ih (g.sights c n) w₀
  have hstretch : Stretch g c w ((g.sights c n).foldl (Walk.see g c room path) w₀) []
      ((n, path) :: log) skipped :=
    { visited := by
        refine hf.stretch.visited.trans ?_
        rw [List.perm_iff_count]
        intro a
        simp only [w₀, List.map_cons, List.count_append, List.count_cons]
        omega
      nodup := fun h => hf.stretch.nodup (List.nodup_cons.mpr ⟨hn, h⟩)
      unmet := by
        obtain ⟨r, hr, hperm⟩ := hf.stretch.unmet
        exact ⟨r, hr, by simpa [Graph.marks] using hperm⟩
      closed := by
        intro x hx m hm
        rcases List.mem_cons.mp hx with rfl | hx
        · obtain ⟨seg, hseg⟩ := hm
          exact hf.entered seg m hseg
        · exact hf.stretch.closed x hx m hm }
  refine ⟨(n, path) :: log, skipped, ⟨hstretch, hf.stretch.mem_visited List.mem_cons_self, ?_, ?_⟩⟩
  · intro x hx
    rcases List.mem_cons.mp hx with rfl | hx
    · exact ⟨[], by simp, .nil n, Nat.succ_pos room⟩
    · obtain ⟨seg, m, labels, hm, hx2, hpath, hlen⟩ := hf.paths x hx
      exact ⟨seg :: labels, hx2, .cons hm hpath, by simp only [List.length_cons]; omega⟩
  · intro U hU hnU hcard
    refine hf.full U hU (fun seg m hm => hU n hnU m ⟨seg, hm⟩) ?_
    -- `n` was an unvisited node of `U` and now is visited, so the room below it suffices
    have hsub : U.filter (· ∉ w₀.visited) ⊆ U.filter (· ∉ w.visited) := fun x hx => by
      simp only [w₀, Finset.mem_filter, List.mem_cons, not_or] at hx ⊢
      exact ⟨hx.1, hx.2.2⟩
    have hlt := Finset.card_lt_card ((Finset.ssubset_iff_of_subset hsub).mpr
      ⟨n, by simp [hnU, hn], by simp [w₀]⟩)
    omega

theorem walk_walked (room : Nat) :
    ∀ n path w, ∃ log skipped, Walked g c room n path w (walk g c room n path w) log skipped := by
  induction room with
  | zero => exact walked_zero g c
  | succ room ih => exact walked_succ g c room ih

end Walked

section Report

variable (g : Graph) (c : Catalog)

theorem Graph.Reach.mem_of_closed {root n : NodeId} {V : List NodeId} (hroot : root ∈ V)
    (hV : ∀ x ∈ V, ∀ m, g.Edge c x m → m ∈ V) (h : g.Reach c root n) : n ∈ V := by
  induction h with
  | refl => exact hroot
  | tail _ hedge ih => exact hV _ ih _ hedge

/-- **What verification reports.** On every graph the reported paths are, up to order, the
marks of a list of distinct nodes, each under a path of at most `verifyDepthLimit` segments that
leads to it from the root; when at most `verifyDepthLimit + 1` nodes (less one for a prefix) are
reachable, that list holds every reachable node. -/
theorem unmetPaths_reports_walked (root : NodeId) (pre : String) :
    ∃ log : List (NodeId × List String),
      (log.map (·.1)).Nodup ∧
      (∀ x ∈ log, ∃ labels, x.2 = (if pre.isEmpty then [] else [pre]) ++ labels ∧
        g.PathTo c root labels x.1 ∧ x.2.length ≤ verifyDepthLimit) ∧
      (unmetPaths g c root pre).Perm (g.reports c log) ∧
      ∀ U : Finset NodeId, (∀ n, g.Reach c root n → n ∈ U) →
        U.card + (if pre.isEmpty then [] else [pre]).length ≤ verifyDepthLimit + 1 →
        ∀ n, g.Reach c root n → n ∈ log.map (·.1) := by
  classical
  set path : List String := if pre.isEmpty then [] else [pre] with hpath
  have hshort : path.length ≤ 1 := by
    rw [hpath]
    split <;> simp
  obtain ⟨log, skipped, hw⟩ :=
    walk_walked g c (verifyDepthLimit + 1 - path.length) root path {}
  have hvisited := hw.stretch.visited
  simp only [List.append_nil] at hvisited
  refine ⟨log, ?_, ?_, ?_, ?_⟩
  · have hnodup := hvisited.nodup_iff.mp (hw.stretch.nodup List.nodup_nil)
    exact (List.nodup_append.mp hnodup).1
  · intro x hx
    obtain ⟨labels, hx2, hto, hlen⟩ := hw.paths x hx
    refine ⟨labels, hx2, hto, ?_⟩
    rw [hx2, List.length_append]
    omega
  · obtain ⟨r, hr, hperm⟩ := hw.stretch.unmet
    simp only [unmetPaths, ← hpath, hr]
    simpa using hperm
  · intro U hU hcard n hn
    -- the reachable nodes of `U` are closed under edges and the room covers them all
    have hclosed : g.Closed c (U.filter (g.Reach c root)) := by
      intro x hx m hm
      have hxr := (Finset.mem_filter.mp hx).2
      exact Finset.mem_filter.mpr ⟨hU m (hxr.tail hm), hxr.tail hm⟩
    have hskipped : skipped = [] := by
      refine hw.full _ hclosed (Finset.mem_filter.mpr ⟨hU root .refl, .refl⟩) ?_
      calc ((U.filter (g.Reach c root)).filter (· ∉ ([] : List NodeId))).card
          ≤ U.card := (Finset.card_filter_le _ _).trans (Finset.card_filter_le _ _)
        _ ≤ verifyDepthLimit + 1 - path.length := by omega
    rw [hskipped, List.append_nil] at hvisited
    have hclosedV : ∀ x ∈ (walk g c (verifyDepthLimit + 1 - path.length) root path {}).visited,
        ∀ m, g.Edge c x m → m ∈ (walk g c (verifyDepthLimit + 1 - path.length) root path {}).visited := by
      intro x hx m hm
      obtain ⟨y, hy, rfl⟩ := List.mem_map.mp (hvisited.subset hx)
      exact hw.stretch.closed y hy m hm
    exact hvisited.subset (Graph.Reach.mem_of_closed g c hw.started hclosedV hn)

end Report

section Chain

def chainNode (k i : Nat) : Node :=
  if i < k then
    { verbs := VerbNames.standard
      members := ("a", .child ⟨i + 1⟩) :: if i = 0 then [("b", .property ⟨0⟩)] else [] }
  else { verbs := VerbNames.standard, members := [("F", .methods [⟨0⟩])] }

def chainGraph (k : Nat) : Graph where
  nodes := Array.ofFn fun (i : Fin (k + 1)) => chainNode k i
  exps := #[{ member := "F", args := .empty, generics := .none, outcome := .value .null,
              mustBeCalled := true }]
  slots := #[{ value := .mock ⟨k⟩, ensured := false }]

variable (c : Catalog)

theorem chainGraph_node {k i : Nat} (hi : i ≤ k) : (chainGraph k).node ⟨i⟩ = chainNode k i := by
  simp [Graph.node, chainGraph, Array.getD, show i < k + 1 by omega]

theorem chainGraph_sights_link {k i : Nat} (hi : i < k) (h0 : i ≠ 0) :
    (chainGraph k).sights c ⟨i⟩ = [.enter "a" ⟨i + 1⟩] := by
  simp [Graph.sights, chainGraph_node hi.le, chainNode, hi, h0, Graph.memberSights]

theorem unmetPaths_of_empty_pre (g : Graph) (root : NodeId) :
    unmetPaths g c root "" = (walk g c (verifyDepthLimit + 1) root [] {}).unmet := by
  simp [unmetPaths]

theorem walk_chain {k : Nat} (room : Nat) :
    ∀ i path (w : Walk), i ≠ 0 → i + room = k → (∀ j, i ≤ j → j ≤ k → ⟨j⟩ ∉ w.visited) →
      (walk (chainGraph k) c room ⟨i⟩ path w).unmet = w.unmet ∧
        ⟨k⟩ ∈ (walk (chainGraph k) c room ⟨i⟩ path w).visited := by
  induction room with
  | zero =>
    intro i path w _ hk hfresh
    have hi : ⟨i⟩ ∉ w.visited := hfresh i le_rfl (by omega)
    rw [walk_zero, if_neg (by simpa using hi)]
    exact ⟨rfl, by simp [← hk]⟩
  | succ room ih =>
    intro i path w h0 hk hfresh
    have hi : ⟨i⟩ ∉ w.visited := hfresh i le_rfl (by omega)
    rw [walk_succ, if_neg (by simpa using hi), chainGraph_sights_link c (by omega) h0]
    -- the one link leads on to node `i + 1`, which is still unvisited
    refine ih (i + 1) (path ++ ["a"]) { w with visited := ⟨i⟩ :: w.visited } (by omega) (by omega) ?_
    intro j hij hjk hj
    rcases List.mem_cons.mp hj with hj | hj
    · cases hj
      omega
    · exact hfresh j (by omega) hjk hj

/-- **Verification misses a call reachable in one step.** Node `257` has an unmet call `F()`
and node `0` reaches it through `b`, yet nothing is reported: the walk first meets node `257`
at the end of the chain, 257 segments deep, marks it visited and does not walk it. -/
theorem deep_first_visit_hides_unmet_call :
    (chainGraph 257).Edge Catalog.standard ⟨0⟩ ⟨257⟩ ∧
      (chainGraph 257).marks Catalog.standard ⟨257⟩ = ["F()"] ∧
      unmetPaths (chainGraph 257) Catalog.standard ⟨0⟩ "" = [] := by
  have hsights : (chainGraph 257).sights Catalog.standard ⟨0⟩ =
      [.enter "a" ⟨1⟩, .enter "b" ⟨257⟩] := by
    rw [Graph.sights, chainGraph_node (Nat.zero_le _)]
    simp [chainNode, Graph.memberSights, Graph.slot, chainGraph]
  refine ⟨⟨"b", by simp [hsights]⟩, ?_, ?_⟩
  · rw [Graph.marks, Graph.sights, chainGraph_node le_rfl]
    simp [chainNode, Graph.memberSights, Graph.exp, chainGraph, Sight.mark?, Outcome.node?,
      Value.asMock?]
    rfl
  · obtain ⟨hunmet, hvisited⟩ := @walk_chain Catalog.standard 257 256 1 ["a"]
      { ({} : Walk) with visited := ⟨0⟩ :: ({} : Walk).visited } one_ne_zero rfl
      fun j hj _ hmem => by
        simp only [List.mem_singleton, NodeId.mk.injEq] at hmem
        omega
    -- explicit rewrites keep the kernel from unfolding the 257-level walk
    rw [unmetPaths_of_empty_pre, show verifyDepthLimit = 256 from rfl, walk_succ, if_neg (by simp),
      hsights, List.foldl_cons, List.foldl_cons, List.foldl_nil, Walk.see, Walk.see, List.nil_append,
      List.nil_append, walk_succ, if_pos (by simpa using hvisited)]
    exact hunmet

end Chain

end Understudy
