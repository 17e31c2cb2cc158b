import Mathlib.Logic.Relation
import Understudy.Proofs.Overriding
import Understudy.Surface.Cache

set_option autoImplicit false

/-!
# Caching surfaces

A surface is stored once and answered from then on, while types keep being registered. That is
sound because a successful computation reads only the descriptions of registered types, and a
registration under a fresh id changes none of them (`Catalog.Keeps`): a computation that
succeeded once gives the same surface on every later catalog (`compute_keeps`). Failures are never
stored, so a type whose base or interfaces arrive later is computed again.

Over every run of registrations, lookups, toggles and clears, each stored surface is the one the
current catalog computes, each answer through the cache is the direct computation, and a cache
turned off or cleared holds nothing (`cache_agrees_with_compute`).
-/

namespace Understudy

section Folds

variable {α β ε : Type} {f g : β → α → Except ε β}

theorem foldlM_ok_of_imp (hfg : ∀ a x y, f x a = .ok y → g x a = .ok y) :
    ∀ (l : List α) (b b' : β), l.foldlM f b = .ok b' → l.foldlM g b = .ok b'
  | [], _, _, h => h
  | a :: l, b, b', h => by
    rw [List.foldlM_cons] at h ⊢
    cases ha : f b a with
    | error e =>
      rw [ha] at h
      cases h
    | ok y =>
      rw [ha] at h
      rw [hfg a b y ha]
      exact foldlM_ok_of_imp hfg l y b' h

end Folds

namespace Catalog

/-- `c'` extends `c`: every registered type keeps its description, and nothing is dropped. -/
structure Keeps (c c' : Catalog) : Prop where
  registered : ∀ {t : TypeId} {d : TypeDesc}, c.get? t = some d → c'.get? t = some d
  size_le : c.size ≤ c'.size

theorem Keeps.refl (c : Catalog) : c.Keeps c := ⟨id, Nat.le_refl _⟩

theorem Keeps.trans {c₁ c₂ c₃ : Catalog} (h₁ : c₁.Keeps c₂) (h₂ : c₂.Keeps c₃) :
    c₁.Keeps c₃ :=
  ⟨h₂.registered ∘ h₁.registered, Nat.le_trans h₁.size_le h₂.size_le⟩

theorem get?_register (c : Catalog) (d : TypeDesc) (t : TypeId) :
    (c.register d).2.get? t = if t = ⟨c.next⟩ then some d else c.get? t := by
  unfold get? register
  simp only [List.reverse_append, List.reverse_cons, List.reverse_nil, List.nil_append,
    List.singleton_append, List.find?_cons]
  by_cases ht : t = ⟨c.next⟩
  · subst ht
    simp
  · have hne : (⟨c.next⟩ == t) = false := beq_false_of_ne (Ne.symm ht)
    rw [hne, if_neg ht]

theorem keeps_register {c : Catalog} (hfresh : c.get? ⟨c.next⟩ = none) (d : TypeDesc) :
    c.Keeps (c.register d).2 where
  registered {t _} h := by
    rw [get?_register]
    by_cases ht : t = ⟨c.next⟩
    · rw [ht, hfresh] at h
      cases h
    · rw [if_neg ht, h]
  size_le := by simp [register, size]

variable {c c' : Catalog}

theorem registered_of_kind? {x : TypeId} {k : TypeKind} (h : c.kind? x = some k) :
    (c.get? x).isSome := by
  unfold kind? at h
  cases hg : c.get? x <;> simp_all

/-! ## What a successful walk reads is kept -/

theorem Keeps.get?_eq (hk : c.Keeps c') {t : TypeId} (ht : (c.get? t).isSome) :
    c'.get? t = c.get? t := by
  obtain ⟨d, hd⟩ := Option.isSome_iff_exists.mp ht
  rw [hd, hk.registered hd]

theorem Keeps.baseOf (hk : c.Keeps c') {t : TypeId} {d : TypeDesc} (hd : c.get? t = some d) :
    c'.baseOf t = c.baseOf t := by
  unfold Catalog.baseOf
  rw [hd, hk.registered hd]

theorem Keeps.chainWalk (hk : c.Keeps c') {root : TypeId} :
    ∀ (fuel fuel' : Nat) (cur : TypeId) (acc r : List TypeId), fuel ≤ fuel' →
      (c.get? cur).isSome → c.chainWalk root fuel cur acc = .ok r →
        c'.chainWalk root fuel' cur acc = .ok r
  | 0, _, _, _, _, _, _, h => by cases h
  | fuel + 1, fuel', cur, acc, r, hle, hcur, h => by
    obtain ⟨fuel', rfl⟩ : ∃ f, fuel' = f + 1 := ⟨fuel' - 1, by omega⟩
    obtain ⟨dc, hdc⟩ := Option.isSome_iff_exists.mp hcur
    rw [chainWalk.eq_2, hk.baseOf hdc]
    rcases chainWalk_ok h with ⟨hb, rfl⟩ | ⟨b, bd, hb, hbd, hkind, hnotin, hrest⟩
    · rw [hb]
    · have hcontains : acc.contains b = false := by simpa using hnotin
      simp only [hb, hk.registered hbd, hkind, bne_self_eq_false, Bool.false_eq_true, ↓reduceIte,
        hcontains]
      exact hk.chainWalk fuel fuel' b (b :: acc) r (by omega) (by simp [hbd]) hrest

theorem Keeps.chain (hk : c.Keeps c') {t : TypeId} {ch : List TypeId} (h : c.chain t = .ok ch) :
    c'.chain t = .ok ch := by
  cases hd : c.get? t with
  | none =>
    rw [chain_of_unregistered hd] at h
    cases h
  | some d =>
    by_cases hkind : d.kind = .interfaceType
    · rw [chain_of_interface hd hkind] at h
      rw [chain_of_interface (hk.registered hd) hkind, h]
    · rw [chain_of_class hd hkind] at h
      rw [chain_of_class (hk.registered hd) hkind]
      exact hk.chainWalk _ _ t [t] ch (by have := hk.size_le; omega) (by simp [hd]) h

theorem Keeps.collectInterface (hk : c.Keeps c') :
    ∀ (room : Nat) (i : TypeId) (seen r : List TypeId),
      c.collectInterface room i seen = .ok r → c'.collectInterface room i seen = .ok r
  | 0, _, _, _, h => by cases h
  | room + 1, i, seen, r, h => by
    obtain ⟨d, hd, hkind, ⟨hs, rfl⟩ | ⟨hs, hfold⟩⟩ := collectInterface_ok h
    · rw [collectInterface.eq_2]
      simp [require_eq_ok.mpr (hk.registered hd), hkind, hs, bind, Except.bind, pure,
        Except.pure]
    · rw [collectInterface.eq_2]
      simp only [require_eq_ok.mpr (hk.registered hd), hkind, hs, bind, Except.bind,
        bne_self_eq_false, Bool.false_eq_true, ↓reduceIte, List.contains_iff_mem]
      exact foldlM_ok_of_imp (fun b x y hb => hk.collectInterface room b x y hb) _ _ _ hfold

theorem Keeps.interfaceWalk (hk : c.Keeps c') {root : TypeId} :
    ∀ (room : Nat) (t : Option TypeId) (seen r : List TypeId),
      c.interfaceWalk root room t seen = .ok r → c'.interfaceWalk root room t seen = .ok r
  | _, none, _, _, h => by
    rw [interfaceWalk.eq_1] at h ⊢
    exact h
  | room, some t, seen, r, h => by
    obtain ⟨d, seen', room', hd, hfold, rfl, hrest⟩ := interfaceWalk_ok h
    rw [interfaceWalk.eq_2, require_eq_ok.mpr (hk.registered hd)]
    have hfold' := foldlM_ok_of_imp
      (fun i x y hi => hk.collectInterface (hierarchyLimit + 1) i x y hi) _ _ _ hfold
    simp only [bind, Except.bind, hfold', hk.baseOf hd]
    exact hk.interfaceWalk room' _ seen' r hrest

theorem Keeps.interfaces (hk : c.Keeps c') {t : TypeId} {is : List TypeId}
    (h : c.interfaces t = .ok is) : c'.interfaces t = .ok is :=
  hk.interfaceWalk _ _ _ _ h

end Catalog

/-! ## A successful surface is kept -/

section Congruence

variable {c c' : Catalog}

theorem declarationsAlong_congr {ch : List TypeId} (h : ∀ x ∈ ch, c.get? x = c'.get? x) :
    declarationsAlong c ch = declarationsAlong c' ch := by
  unfold declarationsAlong
  exact List.flatMap_congr fun ⟨level, rank⟩ hp => by
    simp only [h level (List.fst_mem_of_mem_zipIdx hp)]

theorem chainFields_congr {ch : List TypeId} (h : ∀ x ∈ ch, c.get? x = c'.get? x) :
    chainFields c ch = chainFields c' ch := by
  unfold chainFields
  exact List.foldl_ext _ _ _ fun acc level hl => by rw [h level (List.mem_reverse.mp hl)]

theorem interfaceSet_congr {i : TypeId} (h : c.get? i = c'.get? i) (covered : List Signature) :
    interfaceSet c covered i = interfaceSet c' covered i := by
  unfold interfaceSet
  rw [h]

theorem compute_congr {t : TypeId} {d : TypeDesc} {is ch : List TypeId}
    (hd : c.get? t = some d) (hd' : c'.get? t = some d)
    (hi : c.interfaces t = .ok is) (hi' : c'.interfaces t = .ok is)
    (hch : c.chain (classTypeOf d t) = .ok ch) (hch' : c'.chain (classTypeOf d t) = .ok ch)
    (hlevels : ∀ x ∈ ch, c.get? x = c'.get? x)
    (hifaces : ∀ x ∈ t :: is, c.get? x = c'.get? x) :
    Surface.compute c t = Surface.compute c' t := by
  have hsets : ∀ (l : List TypeId), l ⊆ t :: is → ∀ covered,
      l.map (interfaceSet c covered) = l.map (interfaceSet c' covered) := fun l hl covered =>
    List.map_congr_left fun x hx => interfaceSet_congr (hifaces x (hl hx)) covered
  unfold Surface.compute
  simp only [Catalog.require_eq_ok.mpr hd, Catalog.require_eq_ok.mpr hd', hi, hi', bind,
    Except.bind, pure, Except.pure, SignatureTable.table_along]
  by_cases hk : d.kind = .interfaceType
  · have hobj : classTypeOf d t = .object := if_pos hk
    rw [hobj] at hch hch'
    simp only [hk, beq_self_eq_true, ↓reduceIte, hch, hch', declarationsAlong_congr hlevels,
      chainFields_congr hlevels, hsets (t :: is) (List.Subset.refl _)]
  · have hcls : classTypeOf d t = t := if_neg hk
    rw [hcls] at hch hch'
    have hk' : (d.kind == .interfaceType) = false := by simpa using hk
    simp only [hk', Bool.false_eq_true, ↓reduceIte, hch, hch', declarationsAlong_congr hlevels,
      chainFields_congr hlevels, hsets is (List.subset_cons_self _ _)]

theorem chain_registered {t : TypeId} {ch : List TypeId} (hobj : (c.get? .object).isSome)
    (h : c.chain t = .ok ch) : ∀ x ∈ ch, (c.get? x).isSome := by
  intro x hx
  rcases Catalog.chain_kind h x hx with rfl | rfl | hkind
  · cases hd : c.get? x with
    | none =>
      rw [Catalog.chain_of_unregistered hd] at h
      cases h
    | some d => rfl
  · exact hobj
  · exact Catalog.registered_of_kind? hkind

theorem compute_keeps {t : TypeId} {s : Surface} (hk : c.Keeps c') (hobj : (c.get? .object).isSome)
    (h : Surface.compute c t = .ok s) : Surface.compute c' t = .ok s := by
  obtain ⟨d, hd⟩ := registered_of_compute h
  obtain ⟨is, ch, -, hi, hch, -⟩ := (compute_ok_iff hd).mp ⟨s, h⟩
  -- the descriptions the stages name are registered, so the two catalogs agree on them
  have hifaces : ∀ x ∈ t :: is, c.get? x = c'.get? x := by
    intro x hx
    rcases List.mem_cons.mp hx with rfl | hx
    · exact (hk.get?_eq (by simp [hd])).symm
    · exact (hk.get?_eq (Catalog.registered_of_kind? (Catalog.interfaces_kind hi x hx))).symm
  rw [← compute_congr hd (hk.registered hd) hi (hk.interfaces hi) hch (hk.chain hch)
    (fun x hx => (hk.get?_eq (chain_registered hobj hch x hx)).symm) hifaces]
  exact h

end Congruence

/-! ## Runs of the cache -/

/-- One operation on a catalog and its cache: registering a type under a fresh id, asking the
cache for a surface, turning caching on or off, or clearing. -/
inductive CacheStep : Catalog × SurfaceCache → Catalog × SurfaceCache → Prop
  | register {c : Catalog} {k : SurfaceCache} (d : TypeDesc) :
      c.get? ⟨c.next⟩ = none → CacheStep (c, k) ((c.register d).2, k)
  | get {c : Catalog} {k : SurfaceCache} (t : TypeId) : CacheStep (c, k) (c, (k.get c t).2)
  | setEnabled {c : Catalog} {k : SurfaceCache} (on : Bool) : CacheStep (c, k) (c, k.setEnabled on)
  | clear {c : Catalog} {k : SurfaceCache} : CacheStep (c, k) (c, k.clear)

/-- The invariant of a run: `Object` is registered, every stored surface is the one the catalog
computes, and a cache that is off stores nothing. -/
structure CacheCoherent (c : Catalog) (k : SurfaceCache) : Prop where
  object : (c.get? .object).isSome
  stored : ∀ t s, (t, s) ∈ k.entries → Surface.compute c t = .ok s
  off_empty : k.enabled = false → k.entries = []

namespace SurfaceCache

theorem find?_mem {k : SurfaceCache} {t : TypeId} {s : Surface} (h : k.find? t = some s) :
    (t, s) ∈ k.entries := by
  unfold find? at h
  obtain ⟨⟨t', s'⟩, hfind, rfl⟩ := Option.map_eq_some_iff.mp h
  have ht : t' = t := by simpa using List.find?_some hfind
  subst ht
  exact List.mem_of_find?_eq_some hfind

theorem get_fst {c : Catalog} {k : SurfaceCache} (hk : CacheCoherent c k) (t : TypeId) :
    (k.get c t).1 = Surface.compute c t := by
  unfold get
  cases hen : k.enabled
  · rfl
  · cases hf : k.find? t with
    | some s => exact (hk.stored t s (find?_mem hf)).symm
    | none =>
      simp only [Bool.not_true, Bool.false_eq_true, ↓reduceIte]
      cases Surface.compute c t <;> rfl

theorem get_entries {c : Catalog} (k : SurfaceCache) (t : TypeId) :
    (k.get c t).2.entries = k.entries ∨
      ∃ s, Surface.compute c t = .ok s ∧ (k.get c t).2.entries = k.entries ++ [(t, s)] := by
  unfold get
  cases k.enabled
  · exact .inl rfl
  · cases k.find? t with
    | some s => exact .inl rfl
    | none =>
      cases hc : Surface.compute c t with
      | error e => exact .inl rfl
      | ok s => exact .inr ⟨s, rfl, rfl⟩

theorem get_enabled {c : Catalog} (k : SurfaceCache) (t : TypeId) :
    (k.get c t).2.enabled = k.enabled := by
  unfold get
  cases hen : k.enabled
  · simp [hen]
  · simp only [Bool.not_true, Bool.false_eq_true, ↓reduceIte]
    cases k.find? t with
    | some s => rfl
    | none => cases Surface.compute c t <;> rfl

end SurfaceCache

theorem CacheCoherent.fresh {c : Catalog} (hobj : (c.get? .object).isSome) (on : Bool) :
    CacheCoherent c (SurfaceCache.fresh on) :=
  ⟨hobj, fun _ _ h => absurd h List.not_mem_nil, fun _ => rfl⟩

theorem CacheCoherent.step {p q : Catalog × SurfaceCache} (hp : CacheCoherent p.1 p.2)
    (hstep : CacheStep p q) : CacheCoherent q.1 q.2 := by
  cases hstep with
  | register d hfresh =>
    have hkeeps := Catalog.keeps_register hfresh d
    exact ⟨Option.isSome_iff_exists.mpr ⟨_, hkeeps.registered (Option.get_mem hp.object)⟩,
      fun t s hs => compute_keeps hkeeps hp.object (hp.stored t s hs), hp.off_empty⟩
  | get t =>
    refine ⟨hp.object, fun t' s' hs' => ?_, fun hoff => ?_⟩
    · rcases SurfaceCache.get_entries _ t with hsame | ⟨s, hs, happ⟩
      · exact hp.stored t' s' (hsame ▸ hs')
      · rw [happ, List.mem_append, List.mem_singleton] at hs'
        rcases hs' with hs' | hs'
        · exact hp.stored t' s' hs'
        · cases hs'
          exact hs
    · -- a cache that is off is left alone
      rw [SurfaceCache.get_enabled] at hoff
      unfold SurfaceCache.get
      simp only [hoff, Bool.not_false, ↓reduceIte]
      exact hp.off_empty hoff
  | setEnabled on =>
    dsimp only at hp ⊢
    unfold SurfaceCache.setEnabled
    split
    · exact ⟨hp.object, fun _ _ h => absurd h List.not_mem_nil, fun _ => rfl⟩
    · -- the entries stay, and they can stay only while caching was on or is on again
      rename_i hne
      refine ⟨hp.object, hp.stored, fun hoff => hp.off_empty ?_⟩
      dsimp only at hoff
      subst hoff
      simpa using hne
  | clear =>
    exact ⟨hp.object, fun _ _ h => absurd h List.not_mem_nil, fun _ => rfl⟩

theorem CacheCoherent.run {p q : Catalog × SurfaceCache} (hp : CacheCoherent p.1 p.2)
    (hrun : Relation.ReflTransGen CacheStep p q) : CacheCoherent q.1 q.2 := by
  induction hrun with
  | refl => exact hp
  | tail _ hstep ih => exact ih.step hstep

/-- Over every run from an empty cache on a catalog where `Object` is registered, with each
registration under a fresh id: an answer through the cache is the surface the catalog computes at
that moment, failed computations are never stored, every stored surface is the current one, and
turning the cache off or clearing it leaves no entry. -/
theorem cache_agrees_with_compute {c₀ c : Catalog} {on : Bool} {k : SurfaceCache}
    (hobj : (c₀.get? .object).isSome)
    (hrun : Relation.ReflTransGen CacheStep (c₀, SurfaceCache.fresh on) (c, k)) :
    (∀ t, (k.get c t).1 = Surface.compute c t) ∧
    (∀ t e, Surface.compute c t = .error e → k.find? t = none) ∧
    (∀ t s, (t, s) ∈ k.entries → Surface.compute c t = .ok s) ∧
    (k.setEnabled false).entries = [] ∧ k.clear.entries = [] := by
  have hcoh : CacheCoherent c k := (CacheCoherent.fresh hobj on).run hrun
  refine ⟨SurfaceCache.get_fst hcoh, fun t e he => ?_, hcoh.stored, ?_, rfl⟩
  · cases hf : k.find? t with
    | none => rfl
    | some s =>
      rw [hcoh.stored t s (SurfaceCache.find?_mem hf)] at he
      cases he
  · unfold SurfaceCache.setEnabled
    cases hen : k.enabled
    · exact hcoh.off_empty hen
    · rfl

def forwardDerived : TypeDesc := { TypeDesc.classType "D" with base := some ⟨17⟩ }

def earlyCatalog : Catalog := (Catalog.standard.register forwardDerived).2

def lateCatalog : Catalog := (earlyCatalog.register (TypeDesc.classType "B")).2

def lateCache : SurfaceCache :=
  (((SurfaceCache.fresh true).get earlyCatalog ⟨16⟩).2.get lateCatalog ⟨16⟩).2

theorem late_base_run_agrees :
    (Catalog.standard.get? .object).isSome ∧
    Relation.ReflTransGen CacheStep (Catalog.standard, SurfaceCache.fresh true)
      (lateCatalog, lateCache) ∧
    (∀ t, (lateCache.get lateCatalog t).1 = Surface.compute lateCatalog t) ∧
    (∀ t e, Surface.compute lateCatalog t = .error e → lateCache.find? t = none) ∧
    (∀ t s, (t, s) ∈ lateCache.entries → Surface.compute lateCatalog t = .ok s) ∧
    (lateCache.setEnabled false).entries = [] ∧ lateCache.clear.entries = [] :=
  have hobj : (Catalog.standard.get? .object).isSome := by decide
  have hrun : Relation.ReflTransGen CacheStep (Catalog.standard, SurfaceCache.fresh true)
      (lateCatalog, lateCache) :=
    .tail (.tail (.tail (.tail .refl (.register forwardDerived (by decide))) (.get ⟨16⟩))
      (.register (TypeDesc.classType "B") (by decide))) (.get ⟨16⟩)
  ⟨hobj, hrun, cache_agrees_with_compute hobj hrun⟩

example : ((SurfaceCache.fresh true).get earlyCatalog ⟨16⟩).2.contains ⟨16⟩ = false ∧
    lateCache.contains ⟨16⟩ = true := by
  decide

end Understudy
