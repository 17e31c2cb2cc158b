import Understudy.Proofs.Dispatch
import Understudy.Proofs.Verification

set_option autoImplicit false

/-!
# Writes from code under test never hide an unmet arranged call

Code under test reaches the mock graph only through a receiver: method calls, property and
indexer reads and writes, event subscriptions and raised events. None of them removes an edge the
verification walk follows: a property write keeps the node it replaces as displaced (unless the
new value is that node), an indexer write keeps the mocks of the entries it replaces the same
way, and everything else leaves the nodes alone. So an arranged call reachable from a root stays
reachable, and an ensured property that was never read is read, or replaced under its name by
a slot that is again ensured and unread.

Member names are unique within a node in every session (every write goes through
`insertOrdered`); the results assume it of the graph before and prove it of the graph after.
-/

namespace Understudy

section OrderedMaps

variable {α : Type} (kvs : List (String × α)) (k : String) (v : α)

theorem keys_insertOrdered :
    (insertOrdered kvs k v).map (·.1) =
      if kvs.any (·.1 == k) then kvs.map (·.1) else kvs.map (·.1) ++ [k] := by
  unfold insertOrdered
  split
  · simp only [List.map_map]
    congr 1
    funext x
    simp only [Function.comp_apply]
    split <;> rfl
  · simp

theorem nodup_keys_insertOrdered (h : (kvs.map (·.1)).Nodup) :
    ((insertOrdered kvs k v).map (·.1)).Nodup := by
  rw [keys_insertOrdered]
  split
  · exact h
  · rename_i hk
    refine List.nodup_append.mpr ⟨h, List.nodup_singleton k, ?_⟩
    intro a ha b hb
    simp only [List.mem_singleton] at hb
    subst hb
    obtain ⟨x, hx, rfl⟩ := List.mem_map.mp ha
    exact fun hxk => hk (List.any_eq_true.mpr ⟨x, hx, by simp [hxk]⟩)

theorem mem_insertOrdered_of_ne {x : String × α} (hx : x ∈ kvs) (hk : x.1 ≠ k) :
    x ∈ insertOrdered kvs k v := by
  unfold insertOrdered
  split
  · refine List.mem_map.mpr ⟨x, hx, ?_⟩
    simp [hk]
  · exact List.mem_append_left _ hx

theorem mem_insertOrdered_self : (k, v) ∈ insertOrdered kvs k v := by
  unfold insertOrdered
  split
  · rename_i hk
    obtain ⟨x, hx, hxk⟩ := List.any_eq_true.mp hk
    refine List.mem_map.mpr ⟨x, hx, ?_⟩
    simp only [beq_iff_eq] at hxk
    simp [hxk]
  · simp

theorem mem_of_mem_insertOrdered {x : String × α} (hx : x ∈ insertOrdered kvs k v) :
    x ∈ kvs ∨ x = (k, v) := by
  unfold insertOrdered at hx
  split at hx
  · obtain ⟨⟨k', v'⟩, hmem, rfl⟩ := List.mem_map.mp hx
    by_cases hk : k' = k
    · subst hk
      simp
    · simpa [hk] using hmem
  · rcases List.mem_append.mp hx with hx | hx
    · exact .inl hx
    · exact .inr (List.mem_singleton.mp hx)

theorem findKey?_insertOrdered_ne {k' : String} (h : k' ≠ k) :
    findKey? (insertOrdered kvs k v) k' = findKey? kvs k' := by
  unfold insertOrdered findKey?
  split
  · rw [List.find?_map]
    have hp : ((fun x : String × α => x.1 == k') ∘ fun x : String × α =>
        if x.1 == k then (x.1, v) else (x.1, x.2)) = fun x => x.1 == k' := by
      funext x
      simp only [Function.comp_apply]
      split <;> rfl
    rw [hp]
    cases hfind : kvs.find? (·.1 == k') with
    | none => rfl
    | some x =>
      have hx : x.1 = k' := by simpa using List.find?_some hfind
      simp [hx, h]
  · rw [List.find?_append]
    cases kvs.find? (·.1 == k') with
    | none => simp [Ne.symm h]
    | some x => rfl

theorem findKey?_of_mem (hnd : (kvs.map (·.1)).Nodup) (hx : (k, v) ∈ kvs) :
    findKey? kvs k = some v := by
  induction kvs with
  | nil => simp at hx
  | cons y kvs ih =>
    simp only [List.map_cons, List.nodup_cons, List.mem_map] at hnd
    rcases List.mem_cons.mp hx with rfl | hx
    · simp [findKey?]
    · have hyk : (y.1 == k) = false := by
        simpa using fun hyk => hnd.1 ⟨(k, v), hx, hyk.symm⟩
      simp only [findKey?, List.find?_cons, hyk] at ih ⊢
      exact ih hnd.2 hx

theorem findKey?_insertOrdered_self (hnd : (kvs.map (·.1)).Nodup) :
    findKey? (insertOrdered kvs k v) k = some v :=
  findKey?_of_mem _ _ _ (nodup_keys_insertOrdered kvs k v hnd) (mem_insertOrdered_self kvs k v)

end OrderedMaps

namespace Graph

variable (g : Graph)

/-- Every node names each member once. -/
def KeysUnique : Prop := ∀ n, ((g.node n).members.map (·.1)).Nodup

/-- Node `n` holds arranged call `e` under one of its members. -/
def HoldsExp (n : NodeId) (e : ExpId) : Prop :=
  ∃ name es, (name, Entry.methods es) ∈ (g.node n).members ∧ e ∈ es

/-- An arranged call held by a node reachable from `root`. -/
def ExpReach (c : Catalog) (root : NodeId) (e : ExpId) : Prop :=
  ∃ n, g.Reach c root n ∧ g.HoldsExp n e

def EntryEdge : Entry → NodeId → Prop
  | .child m', m => m = m'
  | .property s, m => (g.slot s).value = .mock m
  | .methods es, m => ∃ e ∈ es, (g.exp e).outcome.node? = some m

theorem enter_memberSights_iff (c : Catalog) (x : String × Entry) (m : NodeId) :
    (∃ seg, Sight.enter seg m ∈ g.memberSights c x) ↔ g.EntryEdge x.2 m := by
  obtain ⟨name, e⟩ := x
  cases e with
  | child m' => simp [memberSights, EntryEdge, eq_comm]
  | property s =>
    simp only [memberSights, EntryEdge, List.mem_append]
    cases (g.slot s).value <;> split <;> simp [@eq_comm NodeId m]
  | methods es =>
    simp only [memberSights, EntryEdge, List.mem_flatMap, List.mem_append]
    constructor
    · rintro ⟨seg, e, he, hmem⟩
      refine ⟨e, he, ?_⟩
      split at hmem <;> split at hmem <;> simp_all
    · rintro ⟨e, he, hnode⟩
      exact ⟨(g.exp e).describe c, e, he, by simp [hnode]⟩

theorem enter_indexerSights_iff (c : Catalog) (ie : IndexEntry) (m : NodeId) :
    (∃ seg, Sight.enter seg m ∈ indexerSights c ie) ↔ ie.value = .mock m := by
  simp only [indexerSights]
  split <;> simp_all [eq_comm]

theorem edge_iff (c : Catalog) (n m : NodeId) :
    g.Edge c n m ↔ (∃ x ∈ (g.node n).members, g.EntryEdge x.2 m) ∨
      (∃ ie ∈ (g.node n).indexers, ie.value = .mock m) ∨
      ∃ seg, (seg, m) ∈ (g.node n).displaced := by
  simp only [Edge, sights, List.mem_append, List.mem_flatMap, List.mem_map]
  constructor
  · rintro ⟨seg, (⟨x, hx, hseg⟩ | ⟨ie, hie, hseg⟩) | ⟨⟨seg', m'⟩, hd, heq⟩⟩
    · exact .inl ⟨x, hx, (g.enter_memberSights_iff c x m).mp ⟨seg, hseg⟩⟩
    · exact .inr (.inl ⟨ie, hie, (enter_indexerSights_iff c ie m).mp ⟨seg, hseg⟩⟩)
    · cases heq
      exact .inr (.inr ⟨seg', hd⟩)
  · rintro (⟨x, hx, hedge⟩ | ⟨ie, hie, hval⟩ | ⟨seg, hd⟩)
    · obtain ⟨seg, hseg⟩ := (g.enter_memberSights_iff c x m).mpr hedge
      exact ⟨seg, .inl (.inl ⟨x, hx, hseg⟩)⟩
    · obtain ⟨seg, hseg⟩ := (enter_indexerSights_iff c ie m).mpr hval
      exact ⟨seg, .inl (.inr ⟨ie, hie, hseg⟩)⟩
    · exact ⟨seg, .inr ⟨(seg, m), hd, rfl⟩⟩

theorem exp_modifyExp (e : ExpId) (f : Expectation → Expectation) (e' : ExpId) :
    (g.modifyExp e f).exp e' = g.exp e' ∨ (g.modifyExp e f).exp e' = f (g.exp e') := by
  simp only [exp, modifyExp, Array.getD_eq_getD_getElem?, Array.getElem?_modify]
  split
  · cases g.exps[e'.idx]? <;> simp
  · exact .inl rfl

theorem slot_modifySlot (s : SlotId) (f : Slot → Slot) (s' : SlotId) :
    (g.modifySlot s f).slot s' = g.slot s' ∨ (g.modifySlot s f).slot s' = f (g.slot s') := by
  simp only [slot, modifySlot, Array.getD_eq_getD_getElem?, Array.getElem?_modify]
  split
  · cases g.slots[s'.idx]? <;> simp
  · exact .inl rfl

theorem node_modifyNode (n : NodeId) (f : Node → Node) (n' : NodeId) :
    (g.modifyNode n f).node n' = g.node n' ∨ n = n' ∧ (g.modifyNode n f).node n' = f (g.node n') := by
  simp only [node, modifyNode, Array.getD_eq_getD_getElem?, Array.getElem?_modify]
  split
  · rename_i h
    have hn : n = n' := by
      cases n
      cases n'
      simp_all
    cases g.nodes[n'.idx]? <;> simp [hn]
  · exact .inl rfl

theorem slot_addSlot (sl : Slot) (s : SlotId) :
    (g.addSlot sl).2.slot s = if s = (g.addSlot sl).1 then sl else g.slot s := by
  by_cases h : s = (g.addSlot sl).1
  · subst h
    simp [slot, addSlot, Array.getD_eq_getD_getElem?]
  · have hne : s ≠ ⟨g.slots.size⟩ := h
    have hidx : s.idx ≠ g.slots.size := fun h' => hne (by cases s; simp_all)
    simp [slot, addSlot, Array.getD_eq_getD_getElem?, Array.getElem?_push, hidx, hne]

theorem slot_fresh : g.slot ⟨g.slots.size⟩ = default := by
  simp [slot, Array.getD]

theorem lt_size_of_memberAt? {n : NodeId} {name : String} {e : Entry}
    (h : g.memberAt? n name = some e) : n.idx < g.nodes.size := by
  by_contra hlt
  simp [memberAt?, node, Array.getD, hlt, findKey?] at h

def replaceEntry (n : NodeId) (name : String) (v : Value) (ensured : Bool)
    (replaced : Option NodeId) : Graph :=
  let g := match replaced with
    | some m =>
      if v.asMock? == some m then g
      else g.modifyNode n fun nd => { nd with displaced := nd.displaced ++ [(name, m)] }
    | none => g
  let (s, g) := g.addSlot { value := v, ensured }
  g.setEntry n name (.property s)

section ReplaceEntry

variable (n : NodeId) (name : String) (v : Value) (en : Bool) (rep : Option NodeId)

def displacedBy : List (String × NodeId) :=
  match rep with
  | some m => if v.asMock? == some m then [] else [(name, m)]
  | none => []

theorem node_replaceEntry (n' : NodeId) :
    (g.replaceEntry n name v en rep).node n' =
      if n = n' ∧ n.idx < g.nodes.size then
        { g.node n' with
          members := insertOrdered (g.node n').members name (.property ⟨g.slots.size⟩)
          displaced := (g.node n').displaced ++ displacedBy name v rep }
      else g.node n' := by
  have hn : n = n' ↔ n.idx = n'.idx := by
    cases n
    cases n'
    simp
  cases rep with
  | none =>
    simp only [replaceEntry, displacedBy, addSlot, setEntry, modifyNode, node,
      Array.getD_eq_getD_getElem?, Array.getElem?_modify, List.append_nil]
    by_cases h : n.idx = n'.idx <;> by_cases hs : n.idx < g.nodes.size <;>
      simp_all
  | some m =>
    simp only [replaceEntry, displacedBy]
    split
    · simp only [addSlot, setEntry, modifyNode, node, Array.getD_eq_getD_getElem?,
        Array.getElem?_modify, List.append_nil]
      by_cases h : n.idx = n'.idx <;> by_cases hs : n.idx < g.nodes.size <;>
        simp_all
    · simp only [addSlot, setEntry, modifyNode, node, Array.getD_eq_getD_getElem?,
        Array.getElem?_modify]
      by_cases h : n.idx = n'.idx <;> by_cases hs : n.idx < g.nodes.size <;>
        simp_all

theorem slot_replaceEntry (s : SlotId) :
    (g.replaceEntry n name v en rep).slot s =
      if s = ⟨g.slots.size⟩ then { value := v, ensured := en } else g.slot s := by
  -- the displacement keeps the slots and the entry change touches nodes only: what is left is
  -- the new slot
  have hadd : ∀ g' : Graph, g'.slots = g.slots →
      (g'.addSlot { value := v, ensured := en }).2.slot s =
        if s = ⟨g.slots.size⟩ then { value := v, ensured := en } else g.slot s := by
    intro g' hg'
    rw [slot_addSlot]
    simp only [addSlot, hg', slot]
  cases rep with
  | none => exact hadd g rfl
  | some m =>
    simp only [replaceEntry]
    split
    · exact hadd g rfl
    · exact hadd _ rfl

theorem exp_replaceEntry (e : ExpId) : (g.replaceEntry n name v en rep).exp e = g.exp e := by
  cases rep with
  | none => rfl
  | some m =>
    simp only [replaceEntry]
    split <;> rfl

end ReplaceEntry

theorem EntryEdge.replaceEntry {g : Graph} {n : NodeId} {name : String} {v : Value} {en : Bool}
    {rep : Option NodeId} {e : Entry} {m : NodeId} (h : g.EntryEdge e m) :
    (g.replaceEntry n name v en rep).EntryEdge e m := by
  cases e with
  | child m' => exact h
  | property s =>
    have hs : s ≠ ⟨g.slots.size⟩ := by
      rintro rfl
      rw [EntryEdge, slot_fresh] at h
      cases h
    show ((g.replaceEntry n name v en rep).slot s).value = _
    rw [slot_replaceEntry, if_neg hs]
    exact h
  | methods es =>
    obtain ⟨x, hx, hnode⟩ := h
    exact ⟨x, hx, by rw [exp_replaceEntry]; exact hnode⟩

end Graph

/-- What a write from code under test keeps of the graph: the keys stay unique, every edge the
verification walk follows and every arranged call of a node stays, calls stay arranged as they
were, and an ensured slot never read is read, or its name holds a slot that is again ensured and
unread. -/
structure Retains (c : Catalog) (g g' : Graph) : Prop where
  keys : g'.KeysUnique
  edge : ∀ n m, g.Edge c n m → g'.Edge c n m
  holds : ∀ n e, g.HoldsExp n e → g'.HoldsExp n e
  must : ∀ e, (g'.exp e).mustBeCalled = (g.exp e).mustBeCalled
  slots : ∀ n name s, g.memberAt? n name = some (.property s) → (g.slot s).ensured = true →
    (g.slot s).reads = 0 → 0 < (g'.slot s).reads ∨ ∃ s', g'.memberAt? n name = some (.property s') ∧
      (g'.slot s').ensured = true ∧ (g'.slot s').reads = 0

namespace Retains

variable {c : Catalog} {g g' : Graph}

theorem reach (h : Retains c g g') {root n : NodeId} (hr : g.Reach c root n) :
    g'.Reach c root n := by
  induction hr with
  | refl => exact .refl
  | tail _ hedge ih => exact ih.tail (h.edge _ _ hedge)

theorem expReach (h : Retains c g g') {root : NodeId} {e : ExpId} (hr : g.ExpReach c root e) :
    g'.ExpReach c root e := by
  obtain ⟨n, hn, he⟩ := hr
  exact ⟨n, h.reach hn, h.holds n e he⟩

theorem of_members (hkeys : g.KeysUnique)
    (hmem : ∀ n, (g'.node n).members = (g.node n).members)
    (hslot : ∀ s, ((g.slot s).ensured = true → (g'.slot s).ensured = true) ∧
      ∀ m, (g.slot s).value = .mock m → (g'.slot s).value = .mock m)
    (hexp : ∀ e, (g'.exp e).outcome = (g.exp e).outcome ∧
      (g'.exp e).mustBeCalled = (g.exp e).mustBeCalled)
    (hextra : ∀ n m, ((∃ ie ∈ (g.node n).indexers, ie.value = .mock m) ∨
        ∃ seg, (seg, m) ∈ (g.node n).displaced) →
      (∃ ie ∈ (g'.node n).indexers, ie.value = .mock m) ∨
        ∃ seg, (seg, m) ∈ (g'.node n).displaced) :
    Retains c g g' where
  keys n := by
    rw [hmem]
    exact hkeys n
  edge n m hedge := by
    rw [Graph.edge_iff] at hedge ⊢
    rcases hedge with ⟨⟨name, e⟩, hx, hentry⟩ | hrest
    · refine .inl ⟨(name, e), by rw [hmem]; exact hx, ?_⟩
      cases e with
      | child m' => exact hentry
      | property s => exact (hslot s).2 m hentry
      | methods es =>
        obtain ⟨x, hx, hnode⟩ := hentry
        exact ⟨x, hx, by rw [(hexp x).1]; exact hnode⟩
    · exact .inr (hextra n m hrest)
  holds n e := by
    rintro ⟨name, es, hx, he⟩
    exact ⟨name, es, by rw [hmem]; exact hx, he⟩
  must e := (hexp e).2
  slots n name s hs hens hreads := by
    by_cases hread : (g'.slot s).reads = 0
    · refine .inr ⟨s, ?_, (hslot s).1 hens, hread⟩
      rw [Graph.memberAt?, hmem]
      exact hs
    · exact .inl (by grind)

theorem refl (hkeys : g.KeysUnique) : Retains c g g :=
  of_members hkeys (fun _ => rfl) (fun _ => ⟨id, fun _ => id⟩) (fun _ => ⟨rfl, rfl⟩)
    (fun _ _ => id)

theorem count (hkeys : g.KeysUnique) (e : ExpId) :
    Retains c g (g.modifyExp e fun x => { x with calls := x.calls + 1 }) := by
  refine of_members hkeys (fun _ => rfl) (fun _ => ⟨id, fun _ => id⟩) (fun e' => ?_)
    (fun _ _ => id)
  rcases g.exp_modifyExp e _ e' with h | h <;> rw [h] <;> exact ⟨rfl, rfl⟩

theorem read (hkeys : g.KeysUnique) (s : SlotId) :
    Retains c g (g.modifySlot s fun sl => { sl with reads := sl.reads + 1 }) := by
  refine of_members hkeys (fun _ => rfl) (fun s' => ?_) (fun _ => ⟨rfl, rfl⟩) (fun _ _ => id)
  rcases g.slot_modifySlot s _ s' with h | h <;> rw [h] <;> exact ⟨id, fun _ => id⟩

theorem of_node (hkeys : g.KeysUnique) (n : NodeId) (f : Node → Node)
    (hf : ∀ nd, (f nd).members = nd.members ∧ (f nd).indexers = nd.indexers ∧
      (f nd).displaced = nd.displaced) :
    Retains c g (g.modifyNode n f) := by
  refine of_members hkeys (fun n' => ?_) (fun _ => ⟨id, fun _ => id⟩)
    (fun _ => ⟨rfl, rfl⟩) (fun n' m h => ?_)
  · rcases g.node_modifyNode n f n' with hn | ⟨-, hn⟩ <;> rw [hn]
    exact (hf _).1
  · rcases g.node_modifyNode n f n' with hn | ⟨-, hn⟩ <;> rw [hn]
    · exact h
    · rw [(hf _).2.1, (hf _).2.2]
      exact h

theorem writeIndex (hkeys : g.KeysUnique) (n : NodeId) (keys : List Value) (v : Value) :
    Retains c g (g.writeIndex n keys v) := by
  refine of_members hkeys (fun n' => ?_) (fun _ => ⟨id, fun _ => id⟩)
    (fun _ => ⟨rfl, rfl⟩) (fun n' m h => ?_)
  · rcases g.node_modifyNode n _ n' with hn | ⟨-, hn⟩ <;> rw [Graph.writeIndex, hn]
  · rcases g.node_modifyNode n _ n' with hn | ⟨rfl, hn⟩ <;> rw [Graph.writeIndex, hn]
    · exact h
    · rcases h with ⟨ie, hie, hval⟩ | ⟨seg, hd⟩
      · by_cases hlit : ie.args.isLiteral keys = true
        · -- a replaced entry: its mock is displaced under the keys
          refine .inr ⟨"[" ++ literalList keys ++ "]", List.mem_append_right _ ?_⟩
          refine List.mem_map.mpr ⟨m, List.mem_filterMap.mpr ⟨ie, ?_, by simp [hval, Value.asMock?]⟩, rfl⟩
          exact List.mem_filter.mpr ⟨hie, hlit⟩
        · exact .inl ⟨ie, List.mem_append_left _ (List.mem_filter.mpr ⟨hie, by simpa using hlit⟩),
            hval⟩
      · exact .inr ⟨seg, List.mem_append_left _ hd⟩

theorem edge_replaceEntry (hkeys : g.KeysUnique) {n : NodeId} {name : String} {v : Value}
    {en : Bool} {rep : Option NodeId}
    (hrep : ∀ e m, g.memberAt? n name = some e → g.EntryEdge e m → rep = some m)
    {n₀ m : NodeId} (hedge : g.Edge c n₀ m) : (g.replaceEntry n name v en rep).Edge c n₀ m := by
  rw [Graph.edge_iff] at hedge ⊢
  rw [Graph.node_replaceEntry]
  split
  · rename_i hn
    obtain ⟨rfl, -⟩ := hn
    rcases hedge with ⟨⟨name₀, e⟩, hx, hedge⟩ | hidx | ⟨seg, hd⟩
    · by_cases hname : name₀ = name
      · subst hname
        obtain rfl := hrep e m (findKey?_of_mem _ _ _ (hkeys n) hx) hedge
        by_cases hsame : v.asMock? = some m
        · refine .inl ⟨(name₀, .property ⟨g.slots.size⟩), mem_insertOrdered_self _ _ _, ?_⟩
          show ((g.replaceEntry n name₀ v en (some m)).slot _).value = _
          rw [Graph.slot_replaceEntry, if_pos rfl]
          cases v <;> simp_all [Value.asMock?]
        · refine .inr (.inr ⟨name₀, List.mem_append_right _ ?_⟩)
          simp [Graph.displacedBy, hsame]
      · exact .inl ⟨(name₀, e), mem_insertOrdered_of_ne _ _ _ hx hname, hedge.replaceEntry⟩
    · exact .inr (.inl hidx)
    · exact .inr (.inr ⟨seg, List.mem_append_left _ hd⟩)
  · rcases hedge with ⟨x, hx, hedge⟩ | hrest
    · exact .inl ⟨x, hx, hedge.replaceEntry⟩
    · exact .inr hrest

theorem slots_replaceEntry (hkeys : g.KeysUnique) {n : NodeId} {name : String} {v : Value}
    {en : Bool} {rep : Option NodeId}
    (hen : ∀ s, g.memberAt? n name = some (.property s) → (g.slot s).ensured = true →
      (g.slot s).reads = 0 → en = true)
    {n₀ : NodeId} {name₀ : String} {s : SlotId} (hs : g.memberAt? n₀ name₀ = some (.property s))
    (hens : (g.slot s).ensured = true) (hreads : (g.slot s).reads = 0) :
    ∃ s', (g.replaceEntry n name v en rep).memberAt? n₀ name₀ = some (.property s') ∧
      ((g.replaceEntry n name v en rep).slot s').ensured = true ∧
      ((g.replaceEntry n name v en rep).slot s').reads = 0 := by
  have hsfresh : s ≠ ⟨g.slots.size⟩ := by
    rintro rfl
    rw [g.slot_fresh] at hens
    cases hens
  by_cases hat : n₀ = n ∧ name₀ = name
  · obtain ⟨rfl, rfl⟩ := hat
    refine ⟨⟨g.slots.size⟩, ?_, ?_, ?_⟩
    · rw [Graph.memberAt?, Graph.node_replaceEntry, if_pos ⟨rfl, g.lt_size_of_memberAt? hs⟩]
      exact findKey?_insertOrdered_self _ _ _ (hkeys n₀)
    · rw [Graph.slot_replaceEntry, if_pos rfl]
      exact hen s hs hens hreads
    · rw [Graph.slot_replaceEntry, if_pos rfl]
  · refine ⟨s, ?_, ?_, ?_⟩
    · rw [Graph.memberAt?, Graph.node_replaceEntry]
      split
      · rename_i hn
        obtain ⟨rfl, -⟩ := hn
        rw [findKey?_insertOrdered_ne _ _ _ fun h => hat ⟨rfl, h⟩]
        exact hs
      · exact hs
    · rw [Graph.slot_replaceEntry, if_neg hsfresh]
      exact hens
    · rw [Graph.slot_replaceEntry, if_neg hsfresh]
      exact hreads

theorem replaceEntry (hkeys : g.KeysUnique) (n : NodeId) (name : String) (v : Value) (en : Bool)
    (rep : Option NodeId)
    (hrep : ∀ e m, g.memberAt? n name = some e → g.EntryEdge e m → rep = some m)
    (hmeth : ∀ es, g.memberAt? n name ≠ some (.methods es))
    (hen : ∀ s, g.memberAt? n name = some (.property s) → (g.slot s).ensured = true →
      (g.slot s).reads = 0 → en = true) :
    Retains c g (g.replaceEntry n name v en rep) where
  keys n' := by
    rw [Graph.node_replaceEntry]
    split
    · exact nodup_keys_insertOrdered _ _ _ (hkeys n')
    · exact hkeys n'
  edge _ _ := edge_replaceEntry hkeys hrep
  holds n₀ e := by
    rintro ⟨name₀, es, hx, he⟩
    refine ⟨name₀, es, ?_, he⟩
    rw [Graph.node_replaceEntry]
    split
    · rename_i hn
      obtain ⟨rfl, -⟩ := hn
      refine mem_insertOrdered_of_ne _ _ _ hx ?_
      -- the written name held no arranged calls, so the entry is not the one replaced
      rintro (rfl : name₀ = name)
      exact hmeth es (findKey?_of_mem _ _ _ (hkeys n) hx)
    · exact hx
  must e := by rw [Graph.exp_replaceEntry]
  slots _ _ _ hs hens hreads := .inr (slots_replaceEntry hkeys hen hs hens hreads)

theorem writeProperty (hkeys : g.KeysUnique) (n : NodeId) (name : String) (v : Value) :
    Retains c g (g.writeProperty n name v).2 := by
  unfold Graph.writeProperty
  cases hat : g.memberAt? n name with
  | none =>
    exact replaceEntry hkeys n name v false none (by simp [hat]) (by simp [hat]) (by simp [hat])
  | some e =>
    cases e with
    | methods es => exact refl hkeys
    | child m =>
      refine replaceEntry hkeys n name v false (some m) ?_ (by simp [hat]) (by simp [hat])
      intro e m' he hedge
      rw [hat] at he
      cases he
      exact congrArg some (Eq.symm hedge)
    | property s =>
      refine replaceEntry hkeys n name v ((g.slot s).ensured && (g.slot s).reads == 0)
        (g.slot s).value.asMock? ?_ (by simp [hat]) ?_
      · intro e m' he hedge
        rw [hat] at he
        cases he
        simp only [Graph.EntryEdge] at hedge
        simp [hedge, Value.asMock?]
      · intro s' hs' hens hreads
        rw [hat] at hs'
        cases hs'
        simp [hens, hreads]

end Retains

/-- The session an operation leaves, whether it answers or fails. -/
def Act.after {ε α : Type} (m : Act ε α) (s : Session) : Session :=
  match m.run s with
  | .ok _ s' => s'
  | .error _ s' => s'

/-- An operation code under test performs on a node through its receiver. -/
inductive Inbound where
  | invoke (member : String) (generics : List TypeId) (args : List CallArg)
  | getProperty (name : String)
  | setProperty (name : String) (v : Value)
  | getIndex (args : List CallArg)
  | setIndex (args : List CallArg) (v : Value)
  | subscribe (event : String) (cb : Callback)
  | unsubscribe (event : String) (id : UInt64)
  | raise (event : String) (args : List CallArg)

/-- The session left after a receiver performs an operation. -/
def Inbound.after (r : Receiver) (s : Session) : Inbound → Session
  | .invoke member gs args => Act.after (r.invoke member gs args) s
  | .getProperty name => Act.after (r.getProperty name) s
  | .setProperty name v => Act.after (r.setProperty name v) s
  | .getIndex args => Act.after (r.getIndex args) s
  | .setIndex args v => Act.after (r.setIndex args v : Act DispatchFault CallResult) s
  | .subscribe event cb => Act.after (r.subscribe event cb : Act DispatchFault UInt64) s
  | .unsubscribe event id => Act.after (r.unsubscribe event id : Act DispatchFault Bool) s
  | .raise event args => Act.after (r.raise event args) s

/-- What a receiver operation does to the graph: nothing, count a call, read a slot, write a
property or an indexer entry, or change a node's handlers. -/
inductive Graph.Received (g : Graph) : Graph → Prop
  | same : Received g g
  | count (e : ExpId) : Received g (g.modifyExp e fun x => { x with calls := x.calls + 1 })
  | read (sl : SlotId) :
      Received g (g.modifySlot sl fun sl => { sl with reads := sl.reads + 1 })
  | writeProperty (n : NodeId) (name : String) (v : Value) :
      Received g (g.writeProperty n name v).2
  | writeIndex (n : NodeId) (keys : List Value) (v : Value) : Received g (g.writeIndex n keys v)
  | handlers (n : NodeId) (f : Node → Node)
      (hf : ∀ nd, (f nd).members = nd.members ∧ (f nd).indexers = nd.indexers ∧
        (f nd).displaced = nd.displaced) :
      Received g (g.modifyNode n f)

section Operations

variable (r : Receiver) (s : Session)

theorem invoke_received (member : String) (gs : List TypeId) (args : List CallArg) :
    s.graph.Received (Act.after (r.invoke member gs args) s).graph := by
  rcases none_or_newest (s.graph.expectationsOf r.node member)
      (fun e => (s.graph.exp e).applies s.catalog s.code gs args) with
    hnone | ⟨older, e, newer, hexps, he, hnewer⟩
  · obtain ⟨s', h', hrun⟩ := invoke_of_none_applies r member gs args s hnone
    rw [Act.after, hrun]
    cases r.policy <;> (dsimp only; rw [h'.graph]; exact .same)
  · cases hc : checkAll s.catalog (s.graph.exp e).member ((s.graph.exp e).outValues args)
      (s.graph.exp e).callbacks with
    | error f =>
      obtain ⟨s', h', hrun⟩ := invoke_of_check_error r member gs args s older newer e hexps he
        hnewer f hc
      rw [Act.after, hrun, h'.graph]
      exact .same
    | ok _ =>
      obtain ⟨log, -, log', hrun⟩ := invoke_of_check_ok r member gs args s older newer e hexps he
        hnewer hc
      rw [Act.after, hrun]
      cases firstFailure s.code ((s.graph.exp e).outValues args) (s.graph.exp e).callbacks <;>
        exact .count e

theorem getProperty_received (name : String) :
    s.graph.Received (Act.after (r.getProperty name) s).graph := by
  simp only [Act.after, Receiver.getProperty, Understudy.graph, EStateM.run_bind, EStateM.run_get,
    EStateM.run_pure]
  cases s.graph.memberAt? r.node name with
  | none =>
    simp only [Receiver.unmatched]
    cases r.policy <;> exact .same
  | some e =>
    cases e with
    | child m => exact .same
    | property sl => exact .read sl
    | methods es =>
      simp only [Receiver.unmatched]
      cases r.policy <;> exact .same

theorem setProperty_received (name : String) (v : Value) :
    s.graph.Received (Act.after (r.setProperty name v) s).graph := by
  have hrun : (onGraph (·.writeProperty r.node name v) : Act DispatchFault Bool).run s =
      .ok (s.graph.writeProperty r.node name v).1
        { s with graph := (s.graph.writeProperty r.node name v).2 } := rfl
  simp only [Act.after, Receiver.setProperty, EStateM.run_bind, hrun]
  cases (s.graph.writeProperty r.node name v).1
  · simp only [Receiver.unmatched]
    cases r.policy <;> exact .writeProperty r.node name v
  · exact .writeProperty r.node name v

theorem getIndex_received (args : List CallArg) :
    s.graph.Received (Act.after (r.getIndex args) s).graph := by
  have hm := firstIndexEntry_appends s.catalog s.code args (s.graph.node r.node).indexers.reverse
  simp only [Act.after, Receiver.getIndex, EStateM.run_bind, EStateM.run_get,
    probe_run DispatchFault hm]
  cases (Receiver.firstIndexEntry s.catalog s.code args (s.graph.node r.node).indexers.reverse).answer
  · simp only [Receiver.unmatched]
    cases r.policy <;> exact .same
  · exact .same

theorem setIndex_received (args : List CallArg) (v : Value) :
    s.graph.Received (Act.after (r.setIndex args v : Act DispatchFault CallResult) s).graph :=
  .writeIndex r.node (args.map (·.value)) v

theorem subscribe_received (event : String) (cb : Callback) :
    s.graph.Received (Act.after (r.subscribe event cb : Act DispatchFault UInt64) s).graph :=
  .handlers r.node _ fun _ => ⟨rfl, rfl, rfl⟩

theorem unsubscribe_received (event : String) (id : UInt64) :
    s.graph.Received (Act.after (r.unsubscribe event id : Act DispatchFault Bool) s).graph := by
  simp only [Act.after, Receiver.unsubscribe, NodeId.unsubscribe, Understudy.graph, EStateM.run_bind,
    EStateM.run_get, EStateM.run_pure]
  cases findKey? (s.graph.node r.node).events event with
  | none => exact .same
  | some hs => exact .handlers r.node _ fun _ => ⟨rfl, rfl, rfl⟩

theorem raise_received (event : String) (args : List CallArg) :
    s.graph.Received (Act.after (r.raise event args) s).graph := by
  simp only [Act.after, Receiver.raise, EStateM.run_bind, EStateM.run_get]
  -- handlers are checked, then run: only the journal changes
  obtain ⟨log, hlog⟩ := invokeAll_run event (args.map (·.value))
    ((s.graph.handlers r.node event).map (·.2)) s
  cases ((s.graph.handlers r.node event).map (·.2)).isEmpty
  · cases checkAll s.catalog event (args.map (·.value)) ((s.graph.handlers r.node event).map (·.2))
      with
    | error f => exact .same
    | ok _ =>
      simp only [Bool.false_eq_true, ↓reduceIte, Understudy.liftExcept, EStateM.run_bind,
        EStateM.run_pure, hlog]
      cases firstFailure s.code (args.map (·.value)) ((s.graph.handlers r.node event).map (·.2)) <;>
        exact .same
  · exact .same

end Operations

theorem Inbound.after_received (r : Receiver) (s : Session) :
    ∀ op : Inbound, s.graph.Received (op.after r s).graph
  | .invoke member gs args => invoke_received r s member gs args
  | .getProperty name => getProperty_received r s name
  | .setProperty name v => setProperty_received r s name v
  | .getIndex args => getIndex_received r s args
  | .setIndex args v => setIndex_received r s args v
  | .subscribe event cb => subscribe_received r s event cb
  | .unsubscribe event id => unsubscribe_received r s event id
  | .raise event args => raise_received r s event args

theorem Retains.of_received {c : Catalog} {g g' : Graph} (hkeys : g.KeysUnique)
    (h : g.Received g') : Retains c g g' := by
  cases h with
  | same => exact .refl hkeys
  | count e => exact .count hkeys e
  | read sl => exact .read hkeys sl
  | writeProperty n name v => exact .writeProperty hkeys n name v
  | writeIndex n keys v => exact .writeIndex hkeys n keys v
  | handlers n f hf => exact .of_node hkeys n f hf

theorem Inbound.after_retains (r : Receiver) (s : Session) (hkeys : s.graph.KeysUnique)
    (op : Inbound) : Retains s.catalog s.graph (op.after r s).graph :=
  .of_received hkeys (op.after_received r s)

/-- **Writes from code under test never hide an unmet arranged call.** Whatever a receiver is
asked to do, member names stay unique, every arranged call reachable from a root before is
reachable after and must still be called, and an ensured property never read is read, or its
name holds a slot that is again ensured and unread. -/
theorem inbound_keeps_unmet_visible (r : Receiver) (op : Inbound) (s : Session)
    (hkeys : s.graph.KeysUnique) :
    (op.after r s).graph.KeysUnique ∧
    (∀ root e, (s.graph.exp e).mustBeCalled = true → s.graph.ExpReach s.catalog root e →
      (op.after r s).graph.ExpReach s.catalog root e ∧
        ((op.after r s).graph.exp e).mustBeCalled = true) ∧
    (∀ n name sl, s.graph.memberAt? n name = some (.property sl) →
      (s.graph.slot sl).ensured = true → (s.graph.slot sl).reads = 0 →
      0 < ((op.after r s).graph.slot sl).reads ∨
        ∃ sl', (op.after r s).graph.memberAt? n name = some (.property sl') ∧
          ((op.after r s).graph.slot sl').ensured = true ∧
          ((op.after r s).graph.slot sl').reads = 0) := by
  have h := Inbound.after_retains r s hkeys op
  refine ⟨h.keys, fun root e hmust hreach => ⟨h.expReach hreach, ?_⟩, h.slots⟩
  rw [h.must]
  exact hmust

def childCallSession : Session :=
  { Session.standard with
    graph := { nodes := #[{ verbs := VerbNames.standard, members := [("c", .child ⟨1⟩)] },
                          { verbs := VerbNames.standard, members := [("F", .methods [⟨0⟩])] }],
               exps := #[{ member := "F", args := .empty, generics := .none, outcome := .value .null,
                           mustBeCalled := true }] } }

/-- Code under test overwrites `c` with null: the call on the former child stays reachable,
through the displaced subtree. -/
theorem overwritten_child_keeps_call_reachable :
    childCallSession.graph.KeysUnique ∧
      ((Inbound.setProperty "c" .null).after ⟨⟨0⟩, .fail⟩ childCallSession).graph.ExpReach
        childCallSession.catalog ⟨0⟩ ⟨0⟩ := by
  have hkeys : childCallSession.graph.KeysUnique := by
    rintro ⟨i⟩
    rcases i with _ | _ | i
    · simp [childCallSession, Graph.node, Array.getD]
    · simp [childCallSession, Graph.node, Array.getD]
    · simp [childCallSession, Graph.node, Array.getD, show ¬i + 1 + 1 < 2 by omega]
  have hreach : childCallSession.graph.ExpReach childCallSession.catalog ⟨0⟩ ⟨0⟩ := by
    refine ⟨⟨1⟩, .single ?_, "F", [⟨0⟩], by simp [childCallSession, Graph.node], by simp⟩
    rw [Graph.edge_iff]
    exact .inl ⟨("c", .child ⟨1⟩), by simp [childCallSession, Graph.node], rfl⟩
  exact ⟨hkeys, ((inbound_keeps_unmet_visible _ _ _ hkeys).2.1 ⟨0⟩ ⟨0⟩ rfl hreach).1⟩

end Understudy
