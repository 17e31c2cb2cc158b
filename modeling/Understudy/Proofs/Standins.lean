import Understudy.Mock.Proxy
import Understudy.Proofs.ReadBack

set_option autoImplicit false

/-!
# What a stand-in does to the mock tree

A stand-in hands the receiver of its node only the operations its surface intercepts. Building
one reads the node's arranged values to seed its local slots, and changes nothing but the surface
cache. Every other operation ends at the stand-in: a local slot, the base behaviour, the default
of the declared type, or an unknown-member fault. None of these counts a call, runs a callback or
touches a node; the one trace they leave in the graph is the read a local slot seeded from an
ensured value passes on to that value's slot, which is what lets the ensured value be met by a
read of the stand-in.

`ProxyOp` lists the operations, `Proxy.Intercepts` says which of them the surface intercepts, and
`Proxy.readLink?` the ensured slot an operation reads through.
-/

namespace Understudy

def Probe.isBase : Probe → Bool
  | .base _ _ _ => true
  | _ => false

theorem UserCode.runBase_appends (u : UserCode) (b : BaseId) (member : String) (vs : List Value) :
    Probing.Appends (fun q => q.isBase = true) (u.runBase b member vs) :=
  Probing.appends_record _ _ rfl

/-- An operation code under test performs on a stand-in. -/
inductive ProxyOp where
  | invoke (name : String) (generics : List TypeId) (args : List Value)
  | getProperty (name : String)
  | setProperty (name : String) (v : Value)
  | getIndex (args : List Value)
  | setIndex (args : List Value) (v : Value)
  | subscribe (event : String) (cb : Callback)
  | unsubscribe (event : String) (id : UInt64)
  | raise (event : String) (args : List Value)

/-- The session left after a stand-in performs an operation. -/
def ProxyOp.after (p : Proxy) (s : Session) : ProxyOp → Session
  | .invoke name gs args => Act.after (p.invoke name gs args) s
  | .getProperty name => Act.after (p.getProperty name) s
  | .setProperty name v => Act.after (p.setProperty name v) s
  | .getIndex args => Act.after (p.getIndex args) s
  | .setIndex args v => Act.after (p.setIndex args v) s
  | .subscribe event cb => Act.after (p.subscribe event cb) s
  | .unsubscribe event id => Act.after (p.unsubscribe event id) s
  | .raise event args => Act.after (p.raise event args) s

namespace Proxy

def Intercepts (c : Catalog) (p : Proxy) : ProxyOp → Bool
  | .invoke name gs args => ((p.surface.methodsNamed name).find? fun m =>
      m.genericArity == gs.length && paramsAccept c m.params args).isSome
  | .getProperty name => ((p.surface.findProperty? name).filter (·.readable)).isSome
  | .setProperty name _ => ((p.surface.findProperty? name).filter (·.writable)).isSome
  | .getIndex args =>
    (p.surface.allIndexers.find? fun ix => ix.readable && paramsAccept c ix.params args).isSome
  | .setIndex args _ =>
    (p.surface.allIndexers.find? fun ix => ix.writable && paramsAccept c ix.params args).isSome
  | .subscribe event _ | .unsubscribe event _ | .raise event _ =>
    (p.surface.findEvent? event).isSome

def readLink? (p : Proxy) : ProxyOp → Option SlotId
  | .getProperty name => (findKey? p.fields name).bind (·.ensured)
  | _ => none

def links (p : Proxy) : List (String × Option SlotId) := p.fields.map fun (n, sl) => (n, sl.ensured)

end Proxy

def Session.readThrough (s : Session) : Option SlotId → Session
  | some sl => { s with graph := s.graph.modifySlot sl fun x => { x with reads := x.reads + 1 } }
  | none => s

/-- `s'` is `s` with runs of base behaviour appended to the journal, and nothing else changed. -/
def Session.BaseRan (s s' : Session) : Prop :=
  ∃ log : Array Probe, (∀ q ∈ log, q.isBase = true) ∧ s' = { s with journal := s.journal ++ log }

theorem Session.BaseRan.refl (s : Session) : s.BaseRan s :=
  ⟨#[], by simp, by cases s; simp⟩

section Runs

variable (p : Proxy) (s : Session)

@[simp] theorem catalog_run {ε : Type} : (catalog : Act ε Catalog).run s = .ok s.catalog s := rfl

@[simp] theorem liftExcept_error_run {ε α : Type} (e : ε) :
    (liftExcept (.error e) : Act ε α).run s = .error e s := rfl

@[simp] theorem liftExcept_ok_run {ε α : Type} (a : α) :
    (liftExcept (.ok a) : Act ε α).run s = .ok a s := rfl

def fallBackResult (ty : TypeId) (v? : Option Value) : CallResult :=
  if ty == TypeId.void then .void else .value (v?.getD (Value.defaultFor ty))

theorem Proxy.fallBack_run_none {ε : Type} (hb : p.base = none) (member : String)
    (args : List Value) (ty : TypeId) :
    (p.fallBack member args ty : Act ε CallResult).run s = .ok (fallBackResult ty none) s := by
  simp only [Proxy.fallBack, hb, EStateM.run_bind, EStateM.run_get, EStateM.run_pure, fallBackResult]
  split <;> rfl

theorem Proxy.fallBack_run_some {ε : Type} {b : BaseId} (hb : p.base = some b) (member : String)
    (args : List Value) (ty : TypeId) :
    (p.fallBack member args ty : Act ε CallResult).run s =
      .ok (fallBackResult ty (some (s.code.runBase b member args).answer))
        { s with journal := s.journal ++ (s.code.runBase b member args).log } := by
  have happ := s.code.runBase_appends b member args
  simp only [Proxy.fallBack, hb, EStateM.run_bind, EStateM.run_get, EStateM.run_map_result,
    probe_run ε happ, fallBackResult]
  split <;> rfl

theorem Proxy.fallBack_baseRan {ε : Type} (member : String) (args : List Value) (ty : TypeId) :
    s.BaseRan (Act.after (p.fallBack member args ty : Act ε CallResult) s) := by
  cases hb : p.base with
  | none =>
    rw [Act.after, p.fallBack_run_none s hb]
    exact .refl s
  | some b =>
    rw [Act.after, p.fallBack_run_some s hb]
    exact ⟨_, (s.code.runBase_appends b member args).2, rfl⟩

theorem Act.after_bind_pure {ε α β : Type} (m : Act ε α) (f : α → β) :
    Act.after (do let x ← m; pure (f x)) s = Act.after m s := by
  simp only [Act.after, EStateM.run_bind]
  cases m.run s <;> rfl

theorem Proxy.invoke_baseRan (name : String) (gs : List TypeId) (args : List Value)
    (h : p.Intercepts s.catalog (.invoke name gs args) = false) :
    s.BaseRan (Act.after (p.invoke name gs args) s) := by
  simp only [Proxy.Intercepts, Option.isSome_eq_false_iff, Option.isNone_iff_eq_none] at h
  simp only [Act.after, Proxy.invoke, EStateM.run_bind, catalog_run, h]
  -- a method found along the chain falls back; none found is an unknown member
  generalize p.declaredReturn? s.catalog name gs args = found
  cases found with
  | none => exact .refl s
  | some r =>
    rw [← Act.after, Act.after_bind_pure]
    exact p.fallBack_baseRan s name args r

theorem Proxy.getProperty_baseRan (name : String)
    (h : p.Intercepts s.catalog (.getProperty name) = false) :
    (s.readThrough (p.readLink? (.getProperty name))).BaseRan (Act.after (p.getProperty name) s) := by
  simp only [Proxy.Intercepts, Option.isSome_eq_false_iff, Option.isNone_iff_eq_none] at h
  simp only [Act.after, Proxy.getProperty, EStateM.run_bind, catalog_run, h, Proxy.readLink?]
  cases hf : findKey? p.fields name with
  | some sl =>
    cases he : sl.ensured with
    | none =>
      simp only [he, Option.bind_some, Session.readThrough, EStateM.run_pure]
      exact .refl s
    | some link =>
      simp only [he, Option.bind_some, Session.readThrough, EStateM.run_bind, changeGraph_run,
        EStateM.run_pure]
      exact .refl _
  | none =>
    simp only [Option.bind_none, Session.readThrough]
    generalize p.declaredReadable? s.catalog name = found
    cases found with
    | none => exact .refl s
    | some ty =>
      rw [← Act.after]
      exact p.fallBack_baseRan s name [] ty

theorem Proxy.setProperty_baseRan (name : String) (v : Value)
    (h : p.Intercepts s.catalog (.setProperty name v) = false) :
    s.BaseRan (Act.after (p.setProperty name v) s) := by
  simp only [Proxy.Intercepts, Option.isSome_eq_false_iff, Option.isNone_iff_eq_none] at h
  simp only [Act.after, Proxy.setProperty, EStateM.run_bind, catalog_run, h]
  cases hf : findKey? p.fields name with
  | some sl =>
    cases hc : checkAssignable s.catalog name v sl.type with
    | error f =>
      simp only [EStateM.run_bind, hc, liftExcept_error_run]
      exact .refl s
    | ok _ =>
      simp only [EStateM.run_bind, hc, liftExcept, EStateM.run_pure]
      exact .refl s
  | none =>
    dsimp only
    generalize Proxy.declared s.catalog p _ = found
    cases found with
    | none => exact .refl s
    | some u =>
      cases u
      cases hb : p.base with
      | none => exact .refl s
      | some b =>
        have happ := s.code.runBase_appends b name [v]
        simp only [EStateM.run_bind, EStateM.run_get, probe_run DispatchFault happ, EStateM.run_pure]
        exact ⟨_, happ.2, rfl⟩

theorem Proxy.getIndex_baseRan (args : List Value)
    (h : p.Intercepts s.catalog (.getIndex args) = false) :
    s.BaseRan (Act.after (p.getIndex args) s) := by
  simp only [Proxy.Intercepts, Option.isSome_eq_false_iff, Option.isNone_iff_eq_none] at h
  simp only [Act.after, Proxy.getIndex, EStateM.run_bind, catalog_run, h]
  exact .refl s

theorem Proxy.setIndex_baseRan (args : List Value) (v : Value)
    (h : p.Intercepts s.catalog (.setIndex args v) = false) :
    s.BaseRan (Act.after (p.setIndex args v) s) := by
  simp only [Proxy.Intercepts, Option.isSome_eq_false_iff, Option.isNone_iff_eq_none] at h
  simp only [Act.after, Proxy.setIndex, EStateM.run_bind, catalog_run, h]
  exact .refl s

theorem Proxy.event_of_absent {name : String} (h : (p.surface.findEvent? name).isSome = false) :
    p.event name = .error (p.unknown name) := by
  simp only [Option.isSome_eq_false_iff, Option.isNone_iff_eq_none] at h
  simp [Proxy.event, h]

end Runs

theorem ProxyOp.after_baseRan (p : Proxy) (s : Session) :
    ∀ op : ProxyOp, p.Intercepts s.catalog op = false →
      (s.readThrough (p.readLink? op)).BaseRan (op.after p s)
  | .invoke name gs args, h => p.invoke_baseRan s name gs args h
  | .getProperty name, h => p.getProperty_baseRan s name h
  | .setProperty name v, h => p.setProperty_baseRan s name v h
  | .getIndex args, h => p.getIndex_baseRan s args h
  | .setIndex args v, h => p.setIndex_baseRan s args v h
  | .subscribe event cb, h => by
    simp only [ProxyOp.after, Proxy.subscribe, Act.after, EStateM.run_bind,
      p.event_of_absent h, liftExcept_error_run]
    exact .refl s
  | .unsubscribe event id, h => by
    simp only [ProxyOp.after, Proxy.unsubscribe, Act.after, EStateM.run_bind,
      p.event_of_absent h, liftExcept_error_run]
    exact .refl s
  | .raise event args, h => by
    simp only [ProxyOp.after, Proxy.raise, Act.after, EStateM.run_bind,
      p.event_of_absent h, liftExcept_error_run]
    exact .refl s


section Building

variable (g : Graph) (n : NodeId)

theorem LocalSlot.seed_ensured {name : String} {ty : TypeId} {sl : SlotId}
    (h : (LocalSlot.seed g n name ty).ensured = some sl) :
    g.memberAt? n name = some (.property sl) ∧ (g.slot sl).ensured = true := by
  unfold LocalSlot.seed at h
  split at h
  · rename_i s hat
    by_cases hen : (g.slot s).ensured = true
    · simp only [hen, if_true, Option.some.injEq] at h
      exact ⟨h ▸ hat, h ▸ hen⟩
    · simp [hen] at h
  · cases h
  · cases h

theorem seeds_foldl (settable : List (String × TypeId)) (acc : List (String × LocalSlot))
    (hacc : ∀ x ∈ acc, ∃ ty, x.2 = LocalSlot.seed g n x.1 ty) :
    ∀ x ∈ settable.foldl (fun acc e =>
      if acc.any (·.1 == e.1) then acc else acc ++ [(e.1, LocalSlot.seed g n e.1 e.2)]) acc,
      ∃ ty, x.2 = LocalSlot.seed g n x.1 ty := by
  induction settable generalizing acc with
  | nil => exact hacc
  | cons e settable ih =>
    obtain ⟨name, ty⟩ := e
    apply ih
    dsimp only
    split
    · exact hacc
    · intro x hx
      rcases List.mem_append.mp hx with hx | hx
      · exact hacc x hx
      · simp only [List.mem_singleton] at hx
        exact ⟨ty, by rw [hx]⟩

theorem surfaceOf_run (t : TypeId) (s : Session) :
    (surfaceOf t).run s = match s.cache.get s.catalog t with
      | (.ok surf, k) => .ok surf { s with cache := k }
      | (.error e, k) => .error e { s with cache := k } := rfl

theorem buildProxy_after (t : TypeId) (base : Option BaseId) (s : Session) :
    Act.after (buildProxy n t base) s = { s with cache := (s.cache.get s.catalog t).2 } := by
  simp only [Act.after, buildProxy, EStateM.run_bind, EStateM.run_adaptExcept, surfaceOf_run]
  rcases s.cache.get s.catalog t with ⟨_ | surf, k⟩
  · rfl
  · dsimp only
    cases surf.checkProxyable <;> rfl

theorem buildProxy_fields {t : TypeId} {base : Option BaseId} {s s' : Session} {p : Proxy}
    (h : (buildProxy n t base).run s = .ok p s') :
    p.receiver.node = n ∧ p.base = base ∧
      ∀ e ∈ p.fields, e.2 = LocalSlot.seed s.graph n e.1 e.2.type := by
  simp only [buildProxy, EStateM.run_bind, EStateM.run_adaptExcept, surfaceOf_run] at h
  rcases hget : s.cache.get s.catalog t with ⟨_ | surf, k⟩ <;> rw [hget] at h
  · cases h
  · dsimp only at h
    cases hc : surf.checkProxyable with
    | error f => simp [hc, Except.mapError] at h
    | ok u =>
      simp only [hc, Except.mapError, liftExcept, EStateM.run_pure, receiverFor, graph,
        EStateM.run_bind, EStateM.run_get, EStateM.Result.ok.injEq] at h
      obtain ⟨rfl, -⟩ := h
      refine ⟨rfl, rfl, fun e he => ?_⟩
      obtain ⟨ty, hseed⟩ := seeds_foldl s.graph n _ [] (by simp) e he
      -- a seed has the type it was seeded at
      have hty : e.2.type = ty := by
        rw [hseed]
        unfold LocalSlot.seed
        split <;> rfl
      rw [hty]
      exact hseed

theorem buildProxy_links {t : TypeId} {base : Option BaseId} {s s' : Session} {p : Proxy}
    (h : (buildProxy n t base).run s = .ok p s') :
    p.receiver.node = n ∧ p.base = base ∧
      ∀ name sl, (name, some sl) ∈ p.links →
        s.graph.memberAt? n name = some (.property sl) ∧ (s.graph.slot sl).ensured = true := by
  obtain ⟨hnode, hbase, hseed⟩ := buildProxy_fields n h
  refine ⟨hnode, hbase, fun name sl hmem => ?_⟩
  obtain ⟨⟨name', ls⟩, hls, hx⟩ := List.mem_map.mp hmem
  simp only [Prod.mk.injEq] at hx
  obtain ⟨rfl, hlink⟩ := hx
  have hls' : ls = LocalSlot.seed s.graph n name' ls.type := hseed _ hls
  rw [hls'] at hlink
  exact LocalSlot.seed_ensured s.graph n hlink

theorem mem_of_findKey? {α : Type} {kvs : List (String × α)} {k : String} {v : α}
    (h : findKey? kvs k = some v) : (k, v) ∈ kvs := by
  obtain ⟨x, hx, rfl⟩ := Option.map_eq_some_iff.mp h
  have hk : x.1 = k := by simpa using List.find?_some hx
  rw [← hk]
  exact List.mem_of_find?_eq_some hx

theorem links_insertOrdered {fields : List (String × LocalSlot)} {name : String} {sl : LocalSlot}
    (hf : findKey? fields name = some sl) (v : Value) :
    ∀ x ∈ (insertOrdered fields name { sl with value := v }).map (fun e => (e.1, e.2.ensured)),
      x ∈ fields.map fun e => (e.1, e.2.ensured) := by
  intro x hx
  obtain ⟨e, he, rfl⟩ := List.mem_map.mp hx
  rcases mem_of_mem_insertOrdered _ _ _ he with he | rfl
  · exact List.mem_map_of_mem he
  -- the rewritten slot keeps the link of the slot it replaces
  · exact List.mem_map.mpr ⟨(name, sl), mem_of_findKey? hf, rfl⟩

theorem Act.answer_of_pure {ε α : Type} {a b : α} {s s' : Session}
    (h : (pure a : Act ε α).run s = .ok b s') : b = a := by
  cases h
  rfl

theorem Act.ok_of_bind {ε α β : Type} {m : Act ε α} {f : α → Act ε β} {s s' : Session} {b : β}
    (h : (m >>= f).run s = .ok b s') : ∃ a s₁, m.run s = .ok a s₁ ∧ (f a).run s₁ = .ok b s' := by
  simp only [EStateM.run_bind] at h
  cases hm : m.run s with
  | ok a s₁ =>
    rw [hm] at h
    exact ⟨a, s₁, rfl, h⟩
  | error e s₁ =>
    rw [hm] at h
    cases h

theorem Act.answer_of_bind {ε α β : Type} {m : Act ε α} {f : α → Act ε β} {P : β → Prop}
    {s s' : Session} {b : β} (h : (m >>= f).run s = .ok b s')
    (hf : ∀ y s₁ b' s₂, (f y).run s₁ = .ok b' s₂ → P b') : P b := by
  obtain ⟨a, s₁, -, h⟩ := Act.ok_of_bind h
  exact hf a s₁ b s' h

theorem Proxy.setProperty_ok_cases (p : Proxy) (s : Session) {name : String} {v : Value}
    {p' : Proxy} {s' : Session} (h : (p.setProperty name v).run s = .ok p' s') :
    p' = p ∨ ∃ sl, findKey? p.fields name = some sl ∧ v.conformsTo s.catalog sl.type = true ∧
      p' = { p with fields := insertOrdered p.fields name { sl with value := v } } := by
  simp only [Proxy.setProperty, EStateM.run_bind, catalog_run] at h
  cases hprop : (p.surface.findProperty? name).filter (·.writable) with
  | some prop =>
    -- an intercepted write goes to the node
    rw [hprop] at h
    exact .inl (Act.answer_of_bind (P := fun q => q = p) h fun _ _ _ _ h =>
      Act.answer_of_bind (P := fun q => q = p) h fun _ _ _ _ h => Act.answer_of_pure h)
  | none =>
    rw [hprop] at h
    cases hf : findKey? p.fields name with
    | some sl =>
      rw [hf] at h
      dsimp only at h
      cases hc : checkAssignable s.catalog name v sl.type with
      | error f =>
        simp only [hc, liftExcept, EStateM.run_bind] at h
        cases h
      | ok u =>
        simp only [hc, liftExcept, EStateM.run_bind] at h
        refine .inr ⟨sl, rfl, ?_, (Act.answer_of_pure h)⟩
        unfold checkAssignable at hc
        split at hc
        · assumption
        · cases hc
    | none =>
      -- a declared writable property goes to the base behaviour, if any
      rw [hf] at h
      dsimp only at h
      generalize Proxy.declared s.catalog p _ = found at h
      cases found with
      | none => cases h
      | some u =>
        cases u
        dsimp only at h
        refine .inl (Act.answer_of_bind (P := fun q => q = p) h fun _ _ _ _ h => ?_)
        split at h
        · exact Act.answer_of_bind (P := fun q => q = p) h fun _ _ _ _ h => Act.answer_of_pure h
        · exact Act.answer_of_pure h

theorem Proxy.setProperty_links (p : Proxy) {name : String} {v : Value} {s s' : Session}
    {p' : Proxy} (h : (p.setProperty name v).run s = .ok p' s') : ∀ x ∈ p'.links, x ∈ p.links := by
  rcases p.setProperty_ok_cases s h with rfl | ⟨sl, hf, -, rfl⟩
  · exact fun x hx => hx
  · exact links_insertOrdered hf v

end Building

/-- Stand-ins leave the mock tree alone outside what they intercept. Building one changes only
the surface cache, and links each local slot only to an ensured slot that its node holds under
the slot's name; a write through a stand-in keeps those links; and an operation the surface does
not intercept appends only runs of the base behaviour to the journal (no predicate, no callback)
and changes the graph only by one more read of the ensured slot it reads through, if any. -/
theorem standins_leave_tree_alone :
    (∀ n t base s, Act.after (buildProxy n t base) s = { s with cache := (s.cache.get s.catalog t).2 } ∧
      ∀ p s', (buildProxy n t base).run s = .ok p s' → p.receiver.node = n ∧
        ∀ name sl, (name, some sl) ∈ p.links →
          s.graph.memberAt? n name = some (.property sl) ∧ (s.graph.slot sl).ensured = true) ∧
    (∀ (p : Proxy) (s : Session) name v p' s', (p.setProperty name v).run s = .ok p' s' →
      ∀ x ∈ p'.links, x ∈ p.links) ∧
    ∀ (p : Proxy) (s : Session) (op : ProxyOp), p.Intercepts s.catalog op = false →
      (s.readThrough (p.readLink? op)).BaseRan (op.after p s) := by
  refine ⟨fun n t base s => ⟨buildProxy_after n t base s, fun p s' h => ?_⟩,
    fun p _ _ _ _ _ h => p.setProperty_links h, fun p s op h => ProxyOp.after_baseRan p s op h⟩
  obtain ⟨hnode, -, hlinks⟩ := buildProxy_links n h
  exact ⟨hnode, hlinks⟩

def ensuredLabelSession : Session :=
  Act.after (do
    let _ ← registerType { TypeDesc.classType "Service" with
      members := [Member.property "Label" .string] }
    let n ← rootMock "m"
    n.storeProperty "Label" (.str "x") true : Act ArrangeFault Unit) Session.standard

theorem label_read_passes_through :
    ∃ p s₁, (buildProxy ⟨0⟩ ⟨16⟩ none).run ensuredLabelSession = .ok p s₁ ∧
      ("Label", some ⟨0⟩) ∈ p.links ∧
      (ensuredLabelSession.graph.memberAt? ⟨0⟩ "Label" = some (.property ⟨0⟩) ∧
        (ensuredLabelSession.graph.slot ⟨0⟩).ensured = true) ∧
      p.Intercepts s₁.catalog (.getProperty "Label") = false ∧
      p.readLink? (.getProperty "Label") = some ⟨0⟩ ∧
      (s₁.readThrough (some ⟨0⟩)).BaseRan ((ProxyOp.getProperty "Label").after p s₁) := by
  refine ⟨_, _, rfl, by decide, ?_, rfl, rfl, ?_⟩
  · exact ((standins_leave_tree_alone.1 ⟨0⟩ ⟨16⟩ none ensuredLabelSession).2 _ _ rfl).2 "Label" ⟨0⟩
      (by decide)
  · exact standins_leave_tree_alone.2.2 _ _ (.getProperty "Label") rfl

end Understudy
