import Understudy.Proofs.Arranging

set_option autoImplicit false

/-!
# The mock tree only grows

Arrangement and code under test change the graph through a handful of primitive changes: a new
node, a new call or slot, an edit of a call or slot in place, an entry set under a name, a change
of one node's indexers, handlers or displaced subtrees. `Graph.Grows g g'` says what all of them
keep: the arenas only gain entries, and at every node the member names keep their places and
what each name holds only grows (`Entry.Grows`), calls being only ever appended to a list.

`Graph.Filed` is the filing invariant: every arranged call sits in exactly one list, that of
its own member on one node. New calls are filed as they are made (`Filed.push`), so arranging
keeps it whenever a call is made on a node of the graph and a shared call is configured through
a handle the graph issued (`Handle.Valid`).

Both are proved here for every primitive and composite change; `Understudy.Proofs.Steps` lifts
them to whole runs.
-/

namespace Understudy

def Entry.Grows : Entry → Entry → Prop
  | .methods es, .methods es' => es <+: es'
  | .property _, .property _ => True
  | .child m, .child m' => m = m'
  | .child _, .property _ => True
  | _, _ => False

namespace Entry.Grows

theorem refl : ∀ e : Entry, e.Grows e
  | .methods es => List.prefix_refl es
  | .property _ => trivial
  | .child _ => rfl

theorem trans : ∀ {a b c : Entry}, a.Grows b → b.Grows c → a.Grows c
  | .methods _, .methods _, .methods _, h₁, h₂ => List.IsPrefix.trans h₁ h₂
  | .property _, .property _, .property _, _, _ => trivial
  | .child _, .child _, .child _, h₁, h₂ => Eq.trans h₁ h₂
  | .child _, .child _, .property _, _, _ => trivial
  | .child _, .property _, .property _, _, _ => trivial

end Entry.Grows

theorem findKey?_insertOrdered_same {α : Type} (kvs : List (String × α)) (k : String) (v : α) :
    findKey? (insertOrdered kvs k v) k = some v := by
  unfold insertOrdered findKey?
  split
  · rename_i hk
    rw [List.find?_map]
    obtain ⟨x, hx, hxk⟩ := List.any_eq_true.mp hk
    have hp : ((fun x : String × α => x.1 == k) ∘ fun x : String × α =>
        if x.1 == k then (x.1, v) else (x.1, x.2)) = fun x => x.1 == k := by
      funext x
      simp only [Function.comp_apply]
      split <;> rfl
    rw [hp]
    cases hfind : kvs.find? (·.1 == k) with
    | none => exact absurd hxk (by simpa using List.find?_eq_none.mp hfind x hx)
    | some y =>
      have hy : y.1 = k := by simpa using List.find?_some hfind
      simp [hy]
  · rename_i hk
    rw [List.find?_append]
    have hnone : kvs.find? (·.1 == k) = none :=
      List.find?_eq_none.mpr fun x hx hxk => hk (List.any_eq_true.mpr ⟨x, hx, hxk⟩)
    simp [hnone]

/-- A handle the graph issued: its call exists, and a shared call is still filed on its owner. -/
def Handle.Valid (g : Graph) (h : Handle) : Prop :=
  h.exp.idx < g.exps.size ∧ ∀ o, h.owner = some o → h.exp ∈ g.expectationsOf o (g.exp h.exp).member

theorem Config.edit_call (cfg : Config) (x : Expectation) :
    (cfg.edit x).member = x.member ∧ (cfg.edit x).args = x.args := by
  cases cfg <;> exact ⟨rfl, rfl⟩

namespace Graph

/-! ### What each primitive change does to the entries -/

theorem node_of_size_le (g : Graph) {n : NodeId} (h : g.nodes.size ≤ n.idx) :
    g.node n = { verbs := VerbNames.standard } := by
  simp [node, Array.getD, Nat.not_lt.mpr h]

theorem node_spawn (g : Graph) (v : VerbNames) (n : NodeId) :
    (g.spawn v).2.node n = if n.idx = g.nodes.size then { verbs := v } else g.node n := by
  simp only [node, spawn, Array.getD_eq_getD_getElem?, Array.getElem?_push]
  split <;> rfl

theorem members_spawn (g : Graph) (v : VerbNames) (n : NodeId) :
    ((g.spawn v).2.node n).members = (g.node n).members := by
  rw [node_spawn]
  split
  · rw [g.node_of_size_le (by omega)]
  · rfl

theorem displaced_spawn (g : Graph) (v : VerbNames) (n : NodeId) :
    ((g.spawn v).2.node n).displaced = (g.node n).displaced := by
  rw [node_spawn]
  split
  · rw [g.node_of_size_le (by omega)]
  · rfl

theorem memberAt?_spawn (g : Graph) (v : VerbNames) (n : NodeId) (name : String) :
    (g.spawn v).2.memberAt? n name = g.memberAt? n name := by
  simp only [memberAt?, members_spawn]

theorem memberAt?_addExp (g : Graph) (x : Expectation) (n : NodeId) (name : String) :
    (g.addExp x).2.memberAt? n name = g.memberAt? n name := rfl

theorem memberAt?_addSlot (g : Graph) (sl : Slot) (n : NodeId) (name : String) :
    (g.addSlot sl).2.memberAt? n name = g.memberAt? n name := rfl

theorem memberAt?_modifyNode (g : Graph) (n : NodeId) (f : Node → Node)
    (hmem : ∀ nd, (f nd).members = nd.members) (n' : NodeId) (name : String) :
    (g.modifyNode n f).memberAt? n' name = g.memberAt? n' name := by
  rcases g.node_modifyNode n f n' with h | ⟨-, h⟩ <;> simp only [memberAt?, h, hmem]

theorem node_modifyNode_self (g : Graph) {n : NodeId} (f : Node → Node)
    (hn : n.idx < g.nodes.size) : (g.modifyNode n f).node n = f (g.node n) := by
  simp [modifyNode, node, Array.getD_eq_getD_getElem?, Array.getElem_modify, hn]

theorem memberAt?_setEntry_self (g : Graph) {n : NodeId} (name : String) (e : Entry)
    (hn : n.idx < g.nodes.size) : (g.setEntry n name e).memberAt? n name = some e := by
  rw [setEntry, memberAt?, g.node_modifyNode_self _ hn]
  exact findKey?_insertOrdered_same _ _ _

theorem memberAt?_setEntry_cases (g : Graph) (n : NodeId) (name : String) (e : Entry)
    (n' : NodeId) (name' : String) :
    (g.setEntry n name e).memberAt? n' name' = g.memberAt? n' name' ∨
      n' = n ∧ name' = name ∧ (g.setEntry n name e).memberAt? n' name' = some e := by
  rcases g.node_modifyNode n _ n' with h | ⟨rfl, h⟩
  · exact .inl (by rw [setEntry, memberAt?, h]; rfl)
  · by_cases hname : name' = name
    · subst hname
      exact .inr ⟨rfl, rfl, by rw [setEntry, memberAt?, h]; exact findKey?_insertOrdered_same _ _ _⟩
    · exact .inl (by rw [setEntry, memberAt?, h]; exact findKey?_insertOrdered_ne _ _ _ hname)

theorem idx_lt_of_memberAt? {g : Graph} {n : NodeId} {name : String} {e : Entry}
    (h : g.memberAt? n name = some e) : n.idx < g.nodes.size := by
  by_contra hn
  rw [memberAt?, g.node_of_size_le (by omega)] at h
  cases h

theorem memberAt?_of_mem_expectationsOf {g : Graph} {n : NodeId} {name : String} {e : ExpId}
    (h : e ∈ g.expectationsOf n name) : ∃ es, g.memberAt? n name = some (.methods es) ∧ e ∈ es := by
  unfold expectationsOf at h
  split at h
  · exact ⟨_, by assumption, h⟩
  · cases h

theorem expectationsOf_eq_nil {g : Graph} {n : NodeId} {name : String}
    (hnot : ∀ es, g.memberAt? n name ≠ some (.methods es)) : g.expectationsOf n name = [] := by
  unfold expectationsOf
  split
  · exact absurd (by assumption) (hnot _)
  · rfl

theorem exp_addExp_of_ne (g : Graph) (x : Expectation) {e : ExpId} (he : e ≠ ⟨g.exps.size⟩) :
    (g.addExp x).2.exp e = g.exp e := by
  have hi : e.idx ≠ g.exps.size := fun h => he (by cases e; simp_all)
  simp [exp, addExp, Array.getD_eq_getD_getElem?, Array.getElem?_push, hi]

theorem expectationsOf_spawn (g : Graph) (v : VerbNames) (n : NodeId) (name : String) :
    (g.spawn v).2.expectationsOf n name = g.expectationsOf n name := by
  simp only [expectationsOf, memberAt?_spawn]

theorem expectationsOf_modifyNode (g : Graph) (n : NodeId) (f : Node → Node)
    (hmem : ∀ nd, (f nd).members = nd.members) (n' : NodeId) (name : String) :
    (g.modifyNode n f).expectationsOf n' name = g.expectationsOf n' name := by
  simp only [expectationsOf, memberAt?_modifyNode g n f hmem]

theorem expectationsOf_setEntry_of_nil {g : Graph} {n : NodeId} {name : String} {e : Entry}
    (hold : g.expectationsOf n name = []) (hnew : ∀ es, e = .methods es → es = [])
    (n' : NodeId) (name' : String) :
    (g.setEntry n name e).expectationsOf n' name' = g.expectationsOf n' name' := by
  rcases g.memberAt?_setEntry_cases n name e n' name' with h | ⟨rfl, rfl, h⟩
  · simp only [expectationsOf, h]
  · rw [hold, expectationsOf, h]
    cases e with
    | methods es => exact hnew es rfl
    | child _ => rfl
    | property _ => rfl

theorem expectationsOf_push {g : Graph} (x : Expectation) {n : NodeId} {name : String}
    {es : List ExpId} (hn : n.idx < g.nodes.size) (hat : g.memberAt? n name = some (.methods es))
    (n' : NodeId) (name' : String) :
    ((g.addExp x).2.setEntry n name (.methods (es ++ [⟨g.exps.size⟩]))).expectationsOf n' name' =
      if n' = n ∧ name' = name then es ++ [⟨g.exps.size⟩] else g.expectationsOf n' name' := by
  split
  · rename_i h
    obtain ⟨rfl, rfl⟩ := h
    rw [expectationsOf, memberAt?_setEntry_self (g.addExp x).2 _ _ hn]
  · rename_i h
    rcases (g.addExp x).2.memberAt?_setEntry_cases n name
      (.methods (es ++ [⟨g.exps.size⟩])) n' name' with h' | ⟨h₁, h₂, -⟩
    · simp only [expectationsOf, h', memberAt?_addExp]
    · exact absurd ⟨h₁, h₂⟩ h

theorem mem_expectationsOf_push {g : Graph} (x : Expectation) {n : NodeId} {name : String}
    {es : List ExpId} (hn : n.idx < g.nodes.size) (hat : g.memberAt? n name = some (.methods es))
    (n' : NodeId) (name' : String) (e : ExpId) :
    e ∈ ((g.addExp x).2.setEntry n name (.methods (es ++ [⟨g.exps.size⟩]))).expectationsOf
        n' name' ↔
      e ∈ g.expectationsOf n' name' ∨ (e = ⟨g.exps.size⟩ ∧ n' = n ∧ name' = name) := by
  rw [expectationsOf_push x hn hat]
  split
  · rename_i h
    obtain ⟨rfl, rfl⟩ := h
    rw [expectationsOf, hat, List.mem_append, List.mem_singleton]
    simp only [and_self, and_true]
  · rename_i h
    simp [h]

/-! ### What the composite changes are made of -/

theorem copyChain_cases (g : Graph) (o : NodeId) (x : Expectation) (filter : GenericsFilter) :
    (g.copyChain o x filter).2 = g ∨ g.copyChain o x filter = g.spawn (g.node o).verbs := by
  unfold copyChain
  rcases x.outcome with m | v
  · dsimp only
    split
    · exact .inl rfl
    · exact .inr rfl
  · exact .inr rfl

theorem replaceEntry_cases (g : Graph) (n : NodeId) (name : String) (v : Value) (en : Bool)
    (rep : Option NodeId) :
    g.replaceEntry n name v en rep = (g.addSlot { value := v, ensured := en }).2.setEntry n name
        (.property ⟨g.slots.size⟩) ∨
      ∃ m, g.replaceEntry n name v en rep =
        ((g.modifyNode n fun nd => { nd with displaced := nd.displaced ++ [(name, m)] }).addSlot
          { value := v, ensured := en }).2.setEntry n name (.property ⟨g.slots.size⟩) := by
  cases rep with
  | none => exact .inl rfl
  | some m =>
    simp only [replaceEntry]
    split
    · exact .inl rfl
    · exact .inr ⟨m, rfl⟩

theorem writeProperty_cases (g : Graph) (n : NodeId) (name : String) (v : Value) :
    (g.writeProperty n name v).2 = g ∨ ∃ en rep, (∀ es, g.memberAt? n name ≠ some (.methods es)) ∧
      (g.writeProperty n name v).2 = g.replaceEntry n name v en rep := by
  unfold writeProperty
  cases hat : g.memberAt? n name with
  | none => exact .inr ⟨false, none, by simp, rfl⟩
  | some e =>
    cases e with
    | methods es => exact .inl rfl
    | child m => exact .inr ⟨false, some m, by simp, rfl⟩
    | property sl => exact .inr ⟨_, _, by simp, rfl⟩

/-! ### Growth -/

/-- `g'` extends `g`. -/
structure Grows (g g' : Graph) : Prop where
  nodes : g.nodes.size ≤ g'.nodes.size
  exps : g.exps.size ≤ g'.exps.size
  call : ∀ e, e.idx < g.exps.size →
    (g'.exp e).member = (g.exp e).member ∧ (g'.exp e).args = (g.exp e).args
  names : ∀ n, (g.node n).members.map (·.1) <+: (g'.node n).members.map (·.1)
  entries : ∀ n name e, g.memberAt? n name = some e →
    ∃ e', g'.memberAt? n name = some e' ∧ e.Grows e'
  displaced : ∀ n, (g.node n).displaced <+: (g'.node n).displaced

namespace Grows

theorem refl (g : Graph) : g.Grows g where
  nodes := le_rfl
  exps := le_rfl
  call _ _ := ⟨rfl, rfl⟩
  names _ := List.prefix_refl _
  entries _ _ e h := ⟨e, h, Entry.Grows.refl e⟩
  displaced _ := List.prefix_refl _

theorem trans {g₁ g₂ g₃ : Graph} (h₁ : g₁.Grows g₂) (h₂ : g₂.Grows g₃) : g₁.Grows g₃ where
  nodes := h₁.nodes.trans h₂.nodes
  exps := h₁.exps.trans h₂.exps
  call e he := by
    obtain ⟨hm₁, ha₁⟩ := h₁.call e he
    obtain ⟨hm₂, ha₂⟩ := h₂.call e (lt_of_lt_of_le he h₁.exps)
    exact ⟨hm₂.trans hm₁, ha₂.trans ha₁⟩
  names n := (h₁.names n).trans (h₂.names n)
  entries n name e h := by
    obtain ⟨e₂, h₂', hg₂⟩ := h₁.entries n name e h
    obtain ⟨e₃, h₃', hg₃⟩ := h₂.entries n name e₂ h₂'
    exact ⟨e₃, h₃', hg₂.trans hg₃⟩
  displaced n := (h₁.displaced n).trans (h₂.displaced n)

theorem of_nodes {g g' : Graph} (hn : g'.nodes = g.nodes) (hs : g.exps.size ≤ g'.exps.size)
    (hc : ∀ e, e.idx < g.exps.size →
      (g'.exp e).member = (g.exp e).member ∧ (g'.exp e).args = (g.exp e).args) : g.Grows g' where
  nodes := by rw [hn]
  exps := hs
  call := hc
  names n := by simp only [node, hn]; exact List.prefix_refl _
  entries n name e h := ⟨e, by simpa only [memberAt?, node, hn] using h, Entry.Grows.refl e⟩
  displaced n := by simp only [node, hn]; exact List.prefix_refl _

theorem spawn (g : Graph) (v : VerbNames) : g.Grows (g.spawn v).2 where
  nodes := by simp [Graph.spawn]
  exps := le_rfl
  call _ _ := ⟨rfl, rfl⟩
  names n := by rw [members_spawn]
  entries n name e h := ⟨e, by rw [memberAt?_spawn]; exact h, Entry.Grows.refl e⟩
  displaced n := by rw [displaced_spawn]

theorem addExp (g : Graph) (x : Expectation) : g.Grows (g.addExp x).2 :=
  of_nodes rfl (by simp [Graph.addExp]) fun e he => by
    rw [g.exp_addExp_of_ne x fun h => by subst h; exact lt_irrefl _ he]
    exact ⟨rfl, rfl⟩

theorem addSlot (g : Graph) (sl : Slot) : g.Grows (g.addSlot sl).2 :=
  of_nodes rfl le_rfl fun _ _ => ⟨rfl, rfl⟩

theorem modifyExp (g : Graph) (e : ExpId) (f : Expectation → Expectation)
    (hf : ∀ x, (f x).member = x.member ∧ (f x).args = x.args) : g.Grows (g.modifyExp e f) :=
  of_nodes rfl (by simp [Graph.modifyExp]) fun e' _ => by
    rcases g.exp_modifyExp e f e' with h | h <;> rw [h]
    · exact ⟨rfl, rfl⟩
    · exact hf _

theorem modifySlot (g : Graph) (sl : SlotId) (f : Slot → Slot) : g.Grows (g.modifySlot sl f) :=
  of_nodes rfl le_rfl fun _ _ => ⟨rfl, rfl⟩

theorem modifyNode (g : Graph) (n : NodeId) (f : Node → Node)
    (hmem : ∀ nd, (f nd).members = nd.members) (hdisp : ∀ nd, nd.displaced <+: (f nd).displaced) :
    g.Grows (g.modifyNode n f) where
  nodes := by simp [Graph.modifyNode]
  exps := le_rfl
  call _ _ := ⟨rfl, rfl⟩
  names n' := by
    rcases g.node_modifyNode n f n' with h | ⟨-, h⟩
    · rw [h]
    · rw [h, hmem]
  entries n' name e h := ⟨e, by rw [memberAt?_modifyNode g n f hmem]; exact h, Entry.Grows.refl e⟩
  displaced n' := by
    rcases g.node_modifyNode n f n' with h | ⟨-, h⟩
    · rw [h]
    · rw [h]
      exact hdisp _

theorem setEntry (g : Graph) (n : NodeId) (name : String) (e : Entry)
    (he : ∀ old, g.memberAt? n name = some old → old.Grows e) : g.Grows (g.setEntry n name e) where
  nodes := by simp [Graph.setEntry, Graph.modifyNode]
  exps := le_rfl
  call _ _ := ⟨rfl, rfl⟩
  names n' := by
    rcases g.node_modifyNode n _ n' with h | ⟨-, h⟩
    · rw [Graph.setEntry, h]
    · rw [Graph.setEntry, h, keys_insertOrdered]
      split
      · exact List.prefix_refl _
      · exact List.prefix_append _ _
  entries n' name' old h := by
    rcases g.memberAt?_setEntry_cases n name e n' name' with h' | ⟨rfl, rfl, h'⟩
    · exact ⟨old, by rw [h']; exact h, Entry.Grows.refl old⟩
    · exact ⟨e, h', he old h⟩
  displaced n' := by
    rcases g.node_modifyNode n _ n' with h | ⟨-, h⟩ <;> rw [Graph.setEntry, h]

theorem appendCall (g : Graph) (n : NodeId) (name : String) (es : List ExpId) (args : ArgsPattern)
    (gen : GenericsFilter)
    (h : ∀ old, g.memberAt? n name = some old → old.Grows (.methods (es ++ [⟨g.exps.size⟩]))) :
    g.Grows (g.appendCall n name es args gen) := by
  refine ((spawn g _).trans (addExp _ _)).trans (setEntry _ _ _ _ fun old hold => h old ?_)
  rwa [memberAt?_addExp, memberAt?_spawn] at hold

theorem fileCall (g : Graph) (n : NodeId) (name : String) (e : ExpId) :
    g.Grows (g.fileCall n name e) := by
  unfold Graph.fileCall
  split
  · rename_i es hat
    refine setEntry _ _ _ _ fun old hold => ?_
    rw [hat] at hold
    cases hold
    exact List.prefix_append _ _
  · exact refl g

theorem copyChain (g : Graph) (o : NodeId) (x : Expectation) (filter : GenericsFilter) :
    g.Grows (g.copyChain o x filter).2 := by
  rcases g.copyChain_cases o x filter with h | h <;> rw [h]
  · exact refl g
  · exact spawn g _

theorem fork (g : Graph) (o : NodeId) (src : ExpId) (gen : Option GenericsFilter) :
    g.Grows (g.fork o src gen).2 :=
  ((copyChain g o _ _).trans (addExp _ _)).trans (fileCall _ _ _ _)

theorem configure (g : Graph) (h : Handle) (gen : Option GenericsFilter) :
    g.Grows (g.configure h gen).2 := by
  unfold Graph.configure
  split
  · exact fork g _ _ _
  · split
    · exact modifyExp g _ _ fun _ => ⟨rfl, rfl⟩
    · exact refl g

theorem commit (g : Graph) (e : ExpId) (cfg : Config) : g.Grows (Config.commit g e cfg) := by
  unfold Config.commit
  split
  · exact refl g
  · exact modifyExp g e _ cfg.edit_call

theorem replaceEntry (g : Graph) (n : NodeId) (name : String) (v : Value) (en : Bool)
    (rep : Option NodeId) (hnot : ∀ es, g.memberAt? n name ≠ some (.methods es)) :
    g.Grows (g.replaceEntry n name v en rep) := by
  -- the displacement keeps the members, so the new slot meets the entry the graph had
  have hslot : ∀ g' : Graph, g'.memberAt? n name = g.memberAt? n name → g.Grows g' →
      ∀ sl, g.Grows ((g'.addSlot { value := v, ensured := en }).2.setEntry n name
        (.property sl)) := by
    intro g' hat hg' sl
    refine (hg'.trans (addSlot _ _)).trans (setEntry _ _ _ _ fun old hold => ?_)
    rw [memberAt?_addSlot, hat] at hold
    cases old with
    | child _ => trivial
    | property _ => trivial
    | methods es => exact absurd hold (hnot es)
  rcases g.replaceEntry_cases n name v en rep with h | ⟨m, h⟩ <;> rw [h]
  · exact hslot g rfl (refl g) _
  · let f : Node → Node := fun nd => { nd with displaced := nd.displaced ++ [(name, m)] }
    exact hslot (g.modifyNode n f) (memberAt?_modifyNode g n f (fun _ => rfl) n name)
      (modifyNode g n f (fun _ => rfl) fun _ => List.prefix_append _ _) _

theorem writeProperty (g : Graph) (n : NodeId) (name : String) (v : Value) :
    g.Grows (g.writeProperty n name v).2 := by
  rcases g.writeProperty_cases n name v with h | ⟨en, rep, hnot, h⟩ <;> rw [h]
  · exact refl g
  · exact replaceEntry g n name v en rep hnot

theorem writeIndex (g : Graph) (n : NodeId) (keys : List Value) (v : Value) :
    g.Grows (g.writeIndex n keys v) :=
  modifyNode _ _ _ (fun _ => rfl) fun _ => List.prefix_append _ _

end Grows

/-! ### Filing -/

/-- Every arranged call is filed in exactly one list: a list holds existing calls of its own
member, each once, no call is in the lists of two nodes, and every call is in one. -/
structure Filed (g : Graph) : Prop where
  listed : ∀ n name e, e ∈ g.expectationsOf n name → e.idx < g.exps.size ∧ (g.exp e).member = name
  nodup : ∀ n name, (g.expectationsOf n name).Nodup
  owner : ∀ n n' e, e ∈ g.expectationsOf n (g.exp e).member →
    e ∈ g.expectationsOf n' (g.exp e).member → n = n'
  every : ∀ e, e.idx < g.exps.size → ∃ n, e ∈ g.expectationsOf n (g.exp e).member

namespace Filed

theorem of_lists {g g' : Graph} (hf : g.Filed)
    (hlists : ∀ n name, g'.expectationsOf n name = g.expectationsOf n name)
    (hsize : g'.exps.size = g.exps.size) (hmember : ∀ e, (g'.exp e).member = (g.exp e).member) :
    g'.Filed where
  listed n name e he := by
    rw [hlists] at he
    rw [hsize, hmember]
    exact hf.listed n name e he
  nodup n name := by
    rw [hlists]
    exact hf.nodup n name
  owner n n' e h₁ h₂ := by
    rw [hmember, hlists] at h₁ h₂
    exact hf.owner n n' e h₁ h₂
  every e he := by
    obtain ⟨n, hn⟩ := hf.every e (hsize ▸ he)
    exact ⟨n, by rw [hmember, hlists]; exact hn⟩

theorem of_no_calls {g : Graph} (hl : ∀ n name, g.expectationsOf n name = [])
    (he : g.exps.size = 0) : g.Filed where
  listed n name e h := by
    rw [hl] at h
    cases h
  nodup n name := by
    rw [hl]
    exact List.nodup_nil
  owner n _ e h := by
    rw [hl] at h
    cases h
  every e h := by omega

theorem spawn {g : Graph} (hf : g.Filed) (v : VerbNames) : (g.spawn v).2.Filed :=
  hf.of_lists (g.expectationsOf_spawn v) rfl fun _ => rfl

theorem addSlot {g : Graph} (hf : g.Filed) (sl : Slot) : (g.addSlot sl).2.Filed :=
  hf.of_lists (fun _ _ => rfl) rfl fun _ => rfl

theorem modifyExp {g : Graph} (hf : g.Filed) (e : ExpId) (f : Expectation → Expectation)
    (hmember : ∀ x, (f x).member = x.member) : (g.modifyExp e f).Filed := by
  refine hf.of_lists (fun _ _ => rfl) (by simp [Graph.modifyExp]) fun e' => ?_
  rcases g.exp_modifyExp e f e' with h | h <;> rw [h]
  exact hmember _

theorem modifyNode {g : Graph} (hf : g.Filed) (n : NodeId) (f : Node → Node)
    (hmem : ∀ nd, (f nd).members = nd.members) : (g.modifyNode n f).Filed :=
  hf.of_lists (g.expectationsOf_modifyNode n f hmem) rfl fun _ => rfl

theorem setEntry_of_nil {g : Graph} (hf : g.Filed) {n : NodeId} {name : String} {e : Entry}
    (hold : g.expectationsOf n name = []) (hnew : ∀ es, e = .methods es → es = []) :
    (g.setEntry n name e).Filed :=
  hf.of_lists (expectationsOf_setEntry_of_nil hold hnew) rfl fun _ => rfl

theorem push {g : Graph} (hf : g.Filed) (x : Expectation) {n : NodeId} {es : List ExpId}
    (hn : n.idx < g.nodes.size) (hat : g.memberAt? n x.member = some (.methods es)) :
    ((g.addExp x).2.setEntry n x.member (.methods (es ++ [⟨g.exps.size⟩]))).Filed := by
  -- the new call is the last one, filed only in its member's list on `n`; every other call
  -- keeps its lists and its member
  have hmem := mem_expectationsOf_push x hn hat
  have hold : ∀ n' name' e, e ∈ g.expectationsOf n' name' → e ≠ ⟨g.exps.size⟩ := by
    rintro n' name' e he rfl
    exact absurd (hf.listed n' name' _ he).1 (lt_irrefl _)
  have hes : g.expectationsOf n x.member = es := by rw [expectationsOf, hat]
  have hsize : ((g.addExp x).2.setEntry n x.member
      (.methods (es ++ [⟨g.exps.size⟩]))).exps.size = g.exps.size + 1 := by
    simp [Graph.setEntry, Graph.modifyNode, Graph.addExp]
  refine ⟨?listed, ?nodup, ?owner, ?every⟩
  case listed =>
    intro n' name' e he
    rw [hsize]
    rcases (hmem n' name' e).mp he with he | ⟨rfl, -, rfl⟩
    · obtain ⟨hlt, hm⟩ := hf.listed n' name' e he
      refine ⟨Nat.lt_succ_of_lt hlt, ?_⟩
      show ((g.addExp x).2.exp e).member = name'
      rw [g.exp_addExp_of_ne x (hold _ _ _ he), hm]
    · exact ⟨Nat.lt_succ_self _, congrArg (·.member) (g.exp_addExp_self x)⟩
  case nodup =>
    intro n' name'
    rw [expectationsOf_push x hn hat]
    split
    · rename_i h
      obtain ⟨rfl, rfl⟩ := h
      have hd := hf.nodup n' x.member
      rw [hes] at hd
      refine List.nodup_append.mpr ⟨hd, List.nodup_singleton _, fun a ha b hb => ?_⟩
      rw [List.mem_singleton.mp hb]
      exact hold n' x.member a (hes ▸ ha)
    · exact hf.nodup n' name'
  case owner =>
    intro n₁ n₂ e h₁ h₂
    by_cases hne : e = ⟨g.exps.size⟩
    · rcases (hmem _ _ e).mp h₁ with h | ⟨-, rfl, -⟩
      · exact absurd hne (hold _ _ _ h)
      rcases (hmem _ _ e).mp h₂ with h | ⟨-, rfl, -⟩
      · exact absurd hne (hold _ _ _ h)
      rfl
    · have hm : ((g.addExp x).2.exp e).member = (g.exp e).member := by
        rw [g.exp_addExp_of_ne x hne]
      rcases (hmem _ _ e).mp h₁ with h₁ | ⟨h, -⟩
      · rcases (hmem _ _ e).mp h₂ with h₂ | ⟨h, -⟩
        · exact hf.owner n₁ n₂ e (hm ▸ h₁) (hm ▸ h₂)
        · exact absurd h hne
      · exact absurd h hne
  case every =>
    intro e he
    rw [hsize] at he
    by_cases hne : e = ⟨g.exps.size⟩
    · subst hne
      exact ⟨n, (hmem _ _ _).mpr (.inr ⟨rfl, rfl, congrArg (·.member) (g.exp_addExp_self x)⟩)⟩
    · have hlt : e.idx < g.exps.size := by
        refine lt_of_le_of_ne (Nat.le_of_lt_succ he) fun h => hne ?_
        cases e
        simp only at h
        rw [h]
      obtain ⟨n', hn'⟩ := hf.every e hlt
      refine ⟨n', (hmem _ _ _).mpr (.inl ?_)⟩
      show e ∈ g.expectationsOf n' ((g.addExp x).2.exp e).member
      rw [g.exp_addExp_of_ne x hne]
      exact hn'

theorem appendCall {g : Graph} (hf : g.Filed) {n : NodeId} {name : String} {es : List ExpId}
    (args : ArgsPattern) (gen : GenericsFilter) (hn : n.idx < g.nodes.size)
    (hat : g.memberAt? n name = some (.methods es)) : (g.appendCall n name es args gen).Filed :=
  (hf.spawn _).push (Expectation.fresh name args gen ⟨g.nodes.size⟩)
    (by simp only [Graph.spawn, Array.size_push]; omega) (by rw [memberAt?_spawn]; exact hat)

theorem fork {g : Graph} (hf : g.Filed) {o : NodeId} {src : ExpId}
    (hv : src ∈ g.expectationsOf o (g.exp src).member) (gen : Option GenericsFilter) :
    (g.fork o src gen).2.Filed := by
  obtain ⟨es, hat, -⟩ := memberAt?_of_mem_expectationsOf hv
  have hn := idx_lt_of_memberAt? hat
  -- the chain node is the copied call's own or a new node: either way the lists stay
  have hcopy : ∀ filter, (g.copyChain o (g.exp src) filter).2.Filed ∧
      (g.copyChain o (g.exp src) filter).2.memberAt? o (g.exp src).member = some (.methods es) ∧
      o.idx < (g.copyChain o (g.exp src) filter).2.nodes.size := by
    intro filter
    rcases g.copyChain_cases o (g.exp src) filter with h | h <;> rw [h]
    · exact ⟨hf, hat, hn⟩
    · exact ⟨hf.spawn _, by rw [memberAt?_spawn]; exact hat,
        by simp only [Graph.spawn, Array.size_push]; omega⟩
  obtain ⟨hf₁, hat₁, hn₁⟩ := hcopy (gen.getD (g.exp src).generics)
  simp only [Graph.fork]
  rw [fileCall_of_methods _ (by rw [memberAt?_addExp]; exact hat₁)]
  exact hf₁.push (Expectation.fresh (g.exp src).member _ _ _) hn₁ hat₁

theorem configure {g : Graph} (hf : g.Filed) {h : Handle} (hv : h.Valid g)
    (gen : Option GenericsFilter) : (g.configure h gen).2.Filed := by
  rcases h with ⟨e, verbs, _ | o⟩
  · cases gen with
    | none => exact hf
    | some f => exact hf.modifyExp e _ fun _ => rfl
  · exact hf.fork (hv.2 o rfl) gen

theorem commit {g : Graph} (hf : g.Filed) (e : ExpId) (cfg : Config) :
    (Config.commit g e cfg).Filed := by
  unfold Config.commit
  split
  · exact hf
  · exact hf.modifyExp e _ fun x => (cfg.edit_call x).1

theorem replaceEntry {g : Graph} (hf : g.Filed) {n : NodeId} {name : String} (v : Value)
    (en : Bool) (rep : Option NodeId) (hnot : ∀ es, g.memberAt? n name ≠ some (.methods es)) :
    (g.replaceEntry n name v en rep).Filed := by
  have hprop : ∀ es, Entry.property ⟨g.slots.size⟩ = .methods es → es = [] := by
    intro es h
    cases h
  rcases g.replaceEntry_cases n name v en rep with h | ⟨m, h⟩ <;> rw [h]
  · exact (hf.addSlot _).setEntry_of_nil (expectationsOf_eq_nil hnot) hprop
  · -- the displacement is recorded first; it keeps the members
    let f : Node → Node := fun nd => { nd with displaced := nd.displaced ++ [(name, m)] }
    have hnil : (g.modifyNode n f).expectationsOf n name = [] := by
      rw [expectationsOf_modifyNode g n f fun _ => rfl]
      exact expectationsOf_eq_nil hnot
    exact ((hf.modifyNode n f fun _ => rfl).addSlot _).setEntry_of_nil hnil hprop

theorem writeProperty {g : Graph} (hf : g.Filed) (n : NodeId) (name : String) (v : Value) :
    (g.writeProperty n name v).2.Filed := by
  rcases g.writeProperty_cases n name v with h | ⟨en, rep, hnot, h⟩ <;> rw [h]
  · exact hf
  · exact hf.replaceEntry v en rep hnot

end Filed

/-! ### Operations of code under test -/

namespace Received

variable {g g' : Graph}

theorem grows (h : g.Received g') : g.Grows g' := by
  cases h with
  | same => exact .refl g
  | count e => exact .modifyExp g e _ fun _ => ⟨rfl, rfl⟩
  | read sl => exact .modifySlot g sl _
  | writeProperty n name v => exact .writeProperty g n name v
  | writeIndex n keys v => exact .writeIndex g n keys v
  | handlers n f hf => exact .modifyNode g n f (fun nd => (hf nd).1) fun nd => by rw [(hf nd).2.2]

theorem filed (h : g.Received g') (hf : g.Filed) : g'.Filed := by
  cases h with
  | same => exact hf
  | count e => exact hf.modifyExp e _ fun _ => rfl
  | read sl => exact hf.of_lists (fun _ _ => rfl) rfl fun _ => rfl
  | writeProperty n name v => exact hf.writeProperty n name v
  | writeIndex n keys v => exact hf.modifyNode n _ fun _ => rfl
  | handlers n f hfn => exact hf.modifyNode n f fun nd => (hfn nd).1

end Received

end Graph

end Understudy
