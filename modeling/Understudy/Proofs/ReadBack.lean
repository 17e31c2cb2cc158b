import Understudy.Proofs.Growth

set_option autoImplicit false

/-!
# Writes from code under test read back

A property write from code under test puts a fresh slot under the name, holding the value and
never read, so the next read of the name yields the value and counts exactly one read.

An indexer write keeps the entries whose patterns are not exactly the literal keys and appends
one literal entry for them. A read tries the entries newest first, so it meets that entry first,
and the entry's literal patterns accept the keys again when each key equals itself and no null
key is declared with a value type. When each key equals itself, a repeated write with the same
keys replaces that entry, so the list keeps the length the first write gave it.

Value equality compares doubles as IEEE numbers, so a NaN key equals nothing: its entry is never
read back, and every write with it adds one more entry (`nan_key_never_reads_back`).

The results are about a receiver whose node is in the graph, as every node a stand-in or a test
reaches is.
-/

namespace Understudy

namespace Graph

variable (g : Graph)

theorem slot_modifySlot_self (s : SlotId) (f : Slot → Slot) (hs : s.idx < g.slots.size) :
    (g.modifySlot s f).slot s = f (g.slot s) := by
  simp [modifySlot, slot, Array.getD_eq_getD_getElem?, Array.getElem_modify, hs]

theorem slots_size_replaceEntry (n : NodeId) (name : String) (v : Value) (en : Bool)
    (rep : Option NodeId) : (g.replaceEntry n name v en rep).slots.size = g.slots.size + 1 := by
  rcases g.replaceEntry_cases n name v en rep with h | ⟨m, h⟩ <;>
    simp [h, setEntry, modifyNode, addSlot]

theorem memberAt?_replaceEntry_self {n : NodeId} (name : String) (v : Value) (en : Bool)
    (rep : Option NodeId) (hn : n.idx < g.nodes.size) :
    (g.replaceEntry n name v en rep).memberAt? n name = some (.property ⟨g.slots.size⟩) := by
  rcases g.replaceEntry_cases n name v en rep with h | ⟨m, h⟩ <;> rw [h]
  · exact memberAt?_setEntry_self _ _ _ hn
  · exact memberAt?_setEntry_self _ _ _ (by simpa [modifyNode, addSlot] using hn)

theorem writeProperty_of_taken {n : NodeId} {name : String} {v : Value}
    (h : (g.writeProperty n name v).1 = true) :
    ∃ en rep, (g.writeProperty n name v).2 = g.replaceEntry n name v en rep := by
  unfold writeProperty at h ⊢
  cases hat : g.memberAt? n name with
  | none => exact ⟨false, none, rfl⟩
  | some e =>
    cases e with
    | methods es => simp [hat] at h
    | child m => exact ⟨false, some m, rfl⟩
    | property sl => exact ⟨_, _, rfl⟩

theorem nodes_size_writeIndex (n : NodeId) (keys : List Value) (v : Value) :
    (g.writeIndex n keys v).nodes.size = g.nodes.size := by
  simp [writeIndex, modifyNode]

theorem indexers_writeIndex {n : NodeId} (keys : List Value) (v : Value)
    (hn : n.idx < g.nodes.size) :
    ((g.writeIndex n keys v).node n).indexers =
      (g.node n).indexers.filter (fun ie => !ie.args.isLiteral keys) ++
        [⟨ArgsPattern.literal keys, v⟩] := by
  rw [writeIndex, node_modifyNode_self _ _ hn]

theorem isLiteral_literal {keys : List Value} (hrefl : ∀ k ∈ keys, (k == k) = true) :
    (ArgsPattern.literal keys).isLiteral keys = true := by
  simp only [ArgsPattern.literal, ArgsPattern.isLiteral, List.length_map, beq_self_eq_true,
    Bool.true_and, List.all_eq_true]
  intro ⟨p, k⟩ hpk
  obtain ⟨i, hi, hget⟩ := List.getElem_of_mem hpk
  simp only [List.getElem_zip, List.getElem_map, Prod.mk.injEq] at hget
  obtain ⟨rfl, rfl⟩ := hget
  exact hrefl _ (List.getElem_mem _)

theorem indexers_writes {n : NodeId} {keys : List Value} (hrefl : ∀ k ∈ keys, (k == k) = true)
    (vs : List Value) (v : Value) (hn : n.idx < g.nodes.size) :
    (((v :: vs).foldl (fun g w => g.writeIndex n keys w) g).node n).indexers =
      (g.node n).indexers.filter (fun ie => !ie.args.isLiteral keys) ++
        [⟨ArgsPattern.literal keys, (v :: vs).getLast (List.cons_ne_nil v vs)⟩] := by
  -- each write finds the previous literal entry and the kept entries, of which it keeps the
  -- kept ones
  induction vs generalizing g v with
  | nil => exact g.indexers_writeIndex keys v hn
  | cons w vs ih =>
    rw [List.foldl_cons, ih (g.writeIndex n keys v) w (by rwa [nodes_size_writeIndex]),
      indexers_writeIndex _ _ _ hn, List.filter_append, List.filter_filter]
    simp [isLiteral_literal hrefl]

end Graph

section Matching

variable (c : Catalog) (u : UserCode)

theorem ArgPattern.accepts_own_value (a : CallArg) (hrefl : (a.value == a.value) = true)
    (hnull : a.value.isNull = true → ∀ t, a.declared = some t → c.isValueKind t = false) :
    (ArgPattern.value a.value).accepts c u a = pure true := by
  cases hv : a.value
  case null =>
    cases hd : a.declared with
    | none => simp [ArgPattern.accepts, hv, hd, Value.isNull]
    | some t => simp [ArgPattern.accepts, hv, hd, Value.isNull, hnull (by rw [hv]; rfl) t hd]
  all_goals
    simp only [ArgPattern.accepts, hv]
    rw [hv] at hrefl
    rw [hrefl]

theorem matchPositions_own_values (args : List CallArg)
    (h : ∀ a ∈ args, (ArgPattern.value a.value).accepts c u a = pure true) :
    matchPositions c u (args.map fun a => .value a.value) args = pure true := by
  induction args with
  | nil => rfl
  | cons a args ih =>
    simp only [List.map_cons, matchPositions, h a List.mem_cons_self, pure_bind, if_true]
    exact ih fun b hb => h b (List.mem_cons_of_mem _ hb)

theorem ArgsPattern.accepts_literal (args : List CallArg)
    (h : ∀ a ∈ args, (ArgPattern.value a.value).accepts c u a = pure true) :
    (ArgsPattern.literal (args.map (·.value))).accepts c u args = pure true := by
  simp only [ArgsPattern.accepts, ArgsPattern.arity, ArgsPattern.literal, List.length_map,
    bne_self_eq_false, Bool.false_eq_true, if_false, List.map_map]
  exact matchPositions_own_values c u args h

end Matching

@[simp] theorem probe_pure_run {ε α : Type} (a : α) (s : Session) :
    (probe (pure a) : Act ε α).run s = .ok a s := rfl

namespace Receiver

variable (r : Receiver) (s : Session)

theorem setProperty_void {name : String} {v : Value} {s₁ : Session}
    (h : (r.setProperty name v).run s = .ok .void s₁) :
    (s.graph.writeProperty r.node name v).1 = true ∧
      s₁ = { s with graph := (s.graph.writeProperty r.node name v).2 } := by
  simp only [setProperty, EStateM.run_bind, onGraph_run] at h
  cases hw : (s.graph.writeProperty r.node name v).1 with
  | true =>
    simp only [hw, if_true, EStateM.run_pure, EStateM.Result.ok.injEq] at h
    exact ⟨rfl, h.2.symm⟩
  | false =>
    simp only [hw, Bool.false_eq_true, if_false, unmatched] at h
    cases hp : r.policy <;> simp [hp, liftExcept] at h

theorem getProperty_of_slot {name : String} {sl : SlotId}
    (h : s.graph.memberAt? r.node name = some (.property sl)) :
    (r.getProperty name).run s = .ok (.value (s.graph.slot sl).value)
      { s with graph := s.graph.modifySlot sl fun x => { x with reads := x.reads + 1 } } := by
  simp [getProperty, h, changeGraph]

theorem setIndex_run (args : List CallArg) (v : Value) :
    (r.setIndex args v : Act DispatchFault CallResult).run s =
      .ok .void { s with graph := s.graph.writeIndex r.node (args.map (·.value)) v } := rfl

theorem getIndex_of_newest (args : List CallArg) {older : List IndexEntry} {ie : IndexEntry}
    (hies : (s.graph.node r.node).indexers = older ++ [ie])
    (hacc : ie.args.accepts s.catalog s.code args = pure true) :
    (r.getIndex args).run s = .ok (.value ie.value) s := by
  simp [getIndex, hies, firstIndexEntry, hacc, probe_pure_run]

theorem after_setIndex_foldl (args : List CallArg) (vs : List Value) :
    (vs.foldl (fun s w => Act.after (r.setIndex args w : Act DispatchFault CallResult) s) s) =
      { s with graph := vs.foldl (fun g w => g.writeIndex r.node (args.map (·.value)) w) s.graph } := by
  induction vs generalizing s with
  | nil => rfl
  | cons w vs ih =>
    rw [List.foldl_cons, List.foldl_cons, Act.after, setIndex_run]
    exact ih _

end Receiver

namespace Receiver

variable (r : Receiver) (s : Session)

theorem setProperty_reads_back (hn : r.node.idx < s.graph.nodes.size) {name : String} {v : Value}
    {s₁ : Session} (hset : (r.setProperty name v).run s = .ok .void s₁) :
    ∃ sl, (s₁.graph.slot sl).reads = 0 ∧
      (r.getProperty name).run s₁ = .ok (.value v)
        { s₁ with graph := s₁.graph.modifySlot sl fun x => { x with reads := x.reads + 1 } } ∧
      ((s₁.graph.modifySlot sl fun x => { x with reads := x.reads + 1 }).slot sl).reads = 1 := by
  obtain ⟨htaken, rfl⟩ := r.setProperty_void s hset
  obtain ⟨en, rep, hw⟩ := s.graph.writeProperty_of_taken htaken
  have hslot : (s.graph.replaceEntry r.node name v en rep).slot ⟨s.graph.slots.size⟩ =
      { value := v, ensured := en } := by
    rw [Graph.slot_replaceEntry, if_pos rfl]
  have hsize : s.graph.slots.size < (s.graph.replaceEntry r.node name v en rep).slots.size := by
    rw [Graph.slots_size_replaceEntry]
    omega
  refine ⟨⟨s.graph.slots.size⟩, ?_, ?_, ?_⟩
  · simp only [hw, hslot]
  · simp only [hw]
    have hat := s.graph.memberAt?_replaceEntry_self name v en rep hn
    rw [getProperty_of_slot r { s with graph := s.graph.replaceEntry r.node name v en rep } hat,
      hslot]
  · simp only [hw]
    rw [Graph.slot_modifySlot_self _ ⟨s.graph.slots.size⟩ _ hsize, hslot]
    rfl

theorem setIndex_writes_read_back (hn : r.node.idx < s.graph.nodes.size) (args : List CallArg)
    (v : Value) (vs : List Value) (hrefl : ∀ a ∈ args, (a.value == a.value) = true) :
    let after := (v :: vs).foldl
      (fun s w => Act.after (r.setIndex args w : Act DispatchFault CallResult) s) s
    ((after.graph.node r.node).indexers.filter (·.args.isLiteral (args.map (·.value)))).length = 1 ∧
      (after.graph.node r.node).indexers.length =
        ((Act.after (r.setIndex args v : Act DispatchFault CallResult) s).graph.node
          r.node).indexers.length ∧
      ((∀ a ∈ args, a.value.isNull = true → ∀ t, a.declared = some t →
          s.catalog.isValueKind t = false) →
        (r.getIndex args).run after = .ok (.value ((v :: vs).getLast (List.cons_ne_nil v vs))) after) := by
  intro after
  have hkeys : ∀ k ∈ args.map (·.value), (k == k) = true := by
    simpa using hrefl
  have hafter : after = { s with
      graph := (v :: vs).foldl (fun g w => g.writeIndex r.node (args.map (·.value)) w) s.graph } :=
    after_setIndex_foldl r s args (v :: vs)
  -- the read goes to the session the writes leave, described by its graph alone
  clear_value after
  subst hafter
  have hfirst := after_setIndex_foldl r s args [v]
  have hidx := s.graph.indexers_writes hkeys vs v hn
  have hidx₁ := s.graph.indexers_writes hkeys [] v hn
  simp only [List.foldl_cons, List.foldl_nil] at hfirst hidx₁
  refine ⟨?_, ?_, fun hnull => ?_⟩
  · simp only [hidx, List.filter_append, List.filter_filter]
    simp [Graph.isLiteral_literal hkeys]
  · rw [hfirst]
    simp only [hidx, hidx₁, List.length_append, List.length_singleton]
  · have hacc := ArgsPattern.accepts_literal s.catalog s.code args fun a ha =>
      ArgPattern.accepts_own_value s.catalog s.code a (hrefl a ha) (hnull a ha)
    exact getIndex_of_newest r { s with graph := _ } args hidx hacc

end Receiver

/-- Read-your-writes through a receiver. A taken property write is read back by the next read of
the name, which counts exactly one read of the fresh slot. Writes with keys that each equal
themselves leave one literal entry for the keys and the entry list at the length the first write
gave it; when also no null key is declared with a value type, the next read with the same
arguments yields the last value written. -/
theorem writes_read_back (r : Receiver) (s : Session) (hn : r.node.idx < s.graph.nodes.size) :
    (∀ name v s₁, (r.setProperty name v).run s = .ok .void s₁ →
      ∃ sl, (s₁.graph.slot sl).reads = 0 ∧
        (r.getProperty name).run s₁ = .ok (.value v)
          { s₁ with graph := s₁.graph.modifySlot sl fun x => { x with reads := x.reads + 1 } } ∧
        ((s₁.graph.modifySlot sl fun x => { x with reads := x.reads + 1 }).slot sl).reads = 1) ∧
    ∀ (args : List CallArg) (v : Value) (vs : List Value), (∀ a ∈ args, (a.value == a.value) = true) →
      let after := (v :: vs).foldl
        (fun s w => Act.after (r.setIndex args w : Act DispatchFault CallResult) s) s
      (((after.graph.node r.node).indexers.filter (·.args.isLiteral (args.map (·.value)))).length = 1 ∧
        (after.graph.node r.node).indexers.length =
          ((Act.after (r.setIndex args v : Act DispatchFault CallResult) s).graph.node
            r.node).indexers.length ∧
        ((∀ a ∈ args, a.value.isNull = true → ∀ t, a.declared = some t →
            s.catalog.isValueKind t = false) →
          (r.getIndex args).run after = .ok (.value ((v :: vs).getLast (List.cons_ne_nil v vs))) after)) :=
  ⟨fun _ _ _ hset => r.setProperty_reads_back s hn hset,
    fun args v vs hrefl => r.setIndex_writes_read_back s hn args v vs hrefl⟩

def oneNodeSession : Session :=
  { Session.standard with graph := (Session.standard.graph.spawn VerbNames.standard).2 }

theorem int_key_reads_back :
    let r : Receiver := ⟨⟨0⟩, .fail⟩
    let keys : List CallArg := [{ value := .int 7 }]
    let after := [Value.int 1, .int 2].foldl
      (fun s w => Act.after (r.setIndex keys w : Act DispatchFault CallResult) s) oneNodeSession
    r.node.idx < oneNodeSession.graph.nodes.size ∧
      (r.getIndex keys).run after = .ok (.value (.int 2)) after :=
  ⟨by decide,
    ((writes_read_back ⟨⟨0⟩, .fail⟩ oneNodeSession (by decide)).2 [{ value := .int 7 }] (.int 1)
      [.int 2] (by decide)).2.2 (by simp [Value.isNull])⟩

/-- A NaN key, the quiet NaN of the decimal reader: the entry a write leaves is not read back,
and writing again adds a second entry. -/
theorem nan_key_never_reads_back :
    let r : Receiver := ⟨⟨0⟩, .fail⟩
    let keys : List CallArg := [{ value := .float (Float.ofBits 0x7FF8000000000000) }]
    ∃ s₁ s₂, (r.setIndex keys (.int 1) : Act DispatchFault CallResult).run oneNodeSession =
        .ok .void s₁ ∧
      (r.getIndex keys).run s₁ =
        .error (.unanticipated "this[]" (literalList (keys.map (·.value)))) s₁ ∧
      (r.setIndex keys (.int 1) : Act DispatchFault CallResult).run s₁ = .ok .void s₂ ∧
      (s₁.graph.node r.node).indexers.length = 1 ∧ (s₂.graph.node r.node).indexers.length = 2 :=
  ⟨_, _, rfl, rfl, rfl, rfl, rfl⟩

end Understudy
