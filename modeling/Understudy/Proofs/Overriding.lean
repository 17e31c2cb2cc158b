import Mathlib.Data.List.Basic
import Understudy.Proofs.Ancestry
import Understudy.Proofs.Resolution

set_option autoImplicit false

/-!
# Faults of override resolution

Resolution compares each declaration of a signature only with the running winner. Because the
table is filled level by level, a signature's declarations arrive by rising rank, so comparing
neighbours is enough: resolution faults exactly when some level declares one signature twice
among its instance members, or two instance properties of one name along the chain have
different types (`override_faults_exact`), and the fault is always an invariant violation named
after the type.

The module also splits the surface computation into its stages (`compute_error_iff`,
`compute_ok_iff`, `implemented_of_compute`), which later statements about the surface use.
-/

namespace Understudy

/-! ## Failable maps -/

section Maps

variable {α β ε : Type} {f : α → Except ε β}

theorem mapM_error : ∀ (l : List α) (e : ε), l.mapM f = .error e → ∃ a ∈ l, f a = .error e
  | [], _, h => by cases h
  | a :: l, e, h => by
    rw [List.mapM_cons] at h
    cases ha : f a with
    | error e' =>
      simp only [ha, bind, Except.bind] at h
      cases h
      exact ⟨a, List.mem_cons_self, ha⟩
    | ok b =>
      cases hl : l.mapM f with
      | error e' =>
        simp only [ha, hl, bind, Except.bind] at h
        cases h
        obtain ⟨a', ha', hf⟩ := mapM_error l _ hl
        exact ⟨a', List.mem_cons_of_mem _ ha', hf⟩
      | ok bs => simp [ha, hl, bind, Except.bind, pure, Except.pure] at h

theorem mapM_ok_iff :
    ∀ (l : List α), (∃ r, l.mapM f = .ok r) ↔ ∀ a ∈ l, ∃ b, f a = .ok b
  | [] => by simp [pure, Except.pure]
  | a :: l => by
    rw [List.mapM_cons, List.forall_mem_cons, ← mapM_ok_iff l]
    cases ha : f a with
    | error e => simp [bind, Except.bind]
    | ok b =>
      cases hl : l.mapM f with
      | error e => simp [bind, Except.bind]
      | ok bs => simp [bind, Except.bind, pure, Except.pure]

end Maps

/-! ## Challenges between neighbours -/

theorem challenge_error {tn : String} {w cand : Candidate} {e : SurfaceFault}
    (h : challenge tn w cand = .error e) : ∃ m detail, e = .invariantViolation tn m detail := by
  unfold challenge at h
  split at h
  · cases h
    exact ⟨_, _, rfl⟩
  · split at h
    · split at h
      · cases h
        exact ⟨_, _, rfl⟩
      · cases h
    · cases h

theorem mostDerived_error {tn : String} {cs : List Candidate} {e : SurfaceFault}
    (h : mostDerived tn cs = .error e) : ∃ m detail, e = .invariantViolation tn m detail := by
  cases cs with
  | nil =>
    cases h
    exact ⟨_, _, rfl⟩
  | cons first rest =>
    obtain ⟨cand, -, w, hw⟩ := foldlM_error rest first e h
    exact challenge_error hw

theorem SignatureTable.resolve_error {t : SignatureTable} {tn : String} {e : SurfaceFault}
    (h : t.resolve tn = .error e) : ∃ m detail, e = .invariantViolation tn m detail := by
  obtain ⟨⟨s, cs⟩, -, hb⟩ := mapM_error _ e h
  cases hm : mostDerived tn cs with
  | error e' =>
    simp only [hm, bind, Except.bind] at hb
    cases hb
    exact mostDerived_error hm
  | ok w => simp [hm, bind, Except.bind, pure, Except.pure] at hb

theorem challenge_of_deeper {tn : String} {w cand : Candidate} (hlt : w.rank < cand.rank)
    (hty : cand.decl.propertyType? = w.decl.propertyType?) : challenge tn w cand = .ok cand := by
  unfold challenge
  have hne : (cand.rank == w.rank) = false := by simp; omega
  rw [if_neg (by simp [hne]), hty]
  cases w.decl.propertyType? <;> simp [hlt]

theorem challenge_fault {tn : String} {w cand : Candidate} (hle : w.rank ≤ cand.rank)
    (hsame : cand.decl.propertyType?.isSome = w.decl.propertyType?.isSome)
    (h : ¬ (w.rank < cand.rank ∧ cand.decl.propertyType? = w.decl.propertyType?)) :
    ∃ e, challenge tn w cand = .error e := by
  unfold challenge
  by_cases heq : cand.rank = w.rank
  · simp [heq]
  · have hty : cand.decl.propertyType? ≠ w.decl.propertyType? := fun hty => h ⟨by omega, hty⟩
    rw [if_neg (by simpa using heq)]
    cases ha : cand.decl.propertyType? <;> cases hb : w.decl.propertyType? <;>
      simp_all

theorem foldlM_challenge_ok_iff (tn : String) : ∀ (rest : List Candidate) (w : Candidate),
    (w :: rest).Pairwise (·.rank ≤ ·.rank) →
    (∀ x ∈ rest, x.decl.propertyType?.isSome = w.decl.propertyType?.isSome) →
    ((∃ w', rest.foldlM (challenge tn) w = .ok w') ↔
      (w :: rest).Pairwise (·.rank < ·.rank) ∧
        ∀ x ∈ rest, x.decl.propertyType? = w.decl.propertyType?)
  | [], w, _, _ => by simp [pure, Except.pure]
  | cand :: rest, w, hle, hsome => by
    obtain ⟨hw, hrest⟩ := List.pairwise_cons.mp hle
    have hsame := hsome cand List.mem_cons_self
    rw [List.foldlM_cons]
    by_cases hwin : w.rank < cand.rank ∧ cand.decl.propertyType? = w.decl.propertyType?
    · -- the challenger wins, and the rest is challenged against it
      obtain ⟨hlt, hty⟩ := hwin
      have hsome' : ∀ x ∈ rest, x.decl.propertyType?.isSome = cand.decl.propertyType?.isSome :=
        fun x hx => (hsome x (List.mem_cons_of_mem _ hx)).trans hsame.symm
      rw [challenge_of_deeper hlt hty]
      simp only [bind, Except.bind]
      rw [foldlM_challenge_ok_iff tn rest cand hrest hsome', hty]
      constructor
      · rintro ⟨hp, hx⟩
        refine ⟨List.pairwise_cons.mpr ⟨fun x hx' => ?_, hp⟩,
          List.forall_mem_cons.mpr ⟨hty, hx⟩⟩
        rcases List.mem_cons.mp hx' with rfl | hx'
        · exact hlt
        · exact Nat.lt_of_lt_of_le hlt ((List.pairwise_cons.mp hrest).1 x hx')
      · rintro ⟨hp, hx⟩
        exact ⟨(List.pairwise_cons.mp hp).2, (List.forall_mem_cons.mp hx).2⟩
    · -- a fault, and indeed the neighbours are on one level or disagree on the type
      obtain ⟨e, he⟩ : ∃ e, challenge tn w cand = .error e :=
        challenge_fault (hw cand List.mem_cons_self) hsame hwin
      simp only [he, bind, Except.bind, reduceCtorEq, exists_false, false_iff, not_and]
      intro hp hx
      exact hwin ⟨(List.pairwise_cons.mp hp).1 cand List.mem_cons_self,
        (List.forall_mem_cons.mp hx).1⟩

theorem mostDerived_ok_iff {tn : String} {cs : List Candidate} (hne : cs ≠ [])
    (hle : cs.Pairwise (·.rank ≤ ·.rank))
    (hsome : ∀ x ∈ cs, ∀ y ∈ cs,
      x.decl.propertyType?.isSome = y.decl.propertyType?.isSome) :
    (∃ w, mostDerived tn cs = .ok w) ↔ cs.Pairwise (·.rank < ·.rank) ∧
      ∀ x ∈ cs, ∀ y ∈ cs, x.decl.propertyType? = y.decl.propertyType? := by
  cases cs with
  | nil => exact absurd rfl hne
  | cons first rest =>
    rw [mostDerived, foldlM_challenge_ok_iff tn rest first hle
      (fun x hx => hsome x (List.mem_cons_of_mem _ hx) first List.mem_cons_self)]
    refine and_congr_right fun _ => ⟨fun h x hx y hy => ?_, fun h x hx => ?_⟩
    · -- every type is the first one's
      have hfirst : ∀ z ∈ first :: rest, z.decl.propertyType? = first.decl.propertyType? :=
        List.forall_mem_cons.mpr ⟨rfl, h⟩
      rw [hfirst x hx, hfirst y hy]
    · exact h x (List.mem_cons_of_mem _ hx) first List.mem_cons_self

/-! ## Declarations along a chain -/

def Catalog.membersOf (c : Catalog) (t : TypeId) : List Member :=
  (c.get? t).map (·.members) |>.getD []

def instanceSignatures (ms : List Member) : List Signature :=
  ms.filterMap fun m => if m.isStatic then none else Signature.of? m

theorem map_fst_levelDeclarations (level : TypeId) (rank : Nat) (ms : List Member) :
    (levelDeclarations level rank ms).map (·.1) = instanceSignatures ms := by
  induction ms with
  | nil => rfl
  | cons m ms ih =>
    by_cases hst : m.isStatic = true
    · simp [levelDeclarations, instanceSignatures, hst] at ih ⊢
      exact ih
    · cases hs : Signature.of? m <;>
        simp [levelDeclarations, instanceSignatures, hst, hs] at ih ⊢ <;> exact ih

theorem mem_levelDeclarations {level : TypeId} {rank : Nat} {ms : List Member}
    {d : Signature × Candidate} (hd : d ∈ levelDeclarations level rank ms) :
    d.2.decl ∈ ms ∧ Signature.of? d.2.decl = some d.1 := by
  simp only [levelDeclarations, List.mem_filterMap] at hd
  obtain ⟨m, hm, hmd⟩ := hd
  split at hmd
  · cases hmd
  · cases hs : Signature.of? m
    · simp [hs] at hmd
    · simp only [hs, Option.map_some, Option.some.injEq] at hmd
      subst hmd
      exact ⟨hm, hs⟩

theorem mem_levelDeclarations_along {c : Catalog} {chain : List TypeId}
    {d : Signature × Candidate} (hd : d ∈ declarationsAlong c chain) :
    Signature.of? d.2.decl = some d.1 := by
  simp only [declarationsAlong, List.mem_flatMap] at hd
  obtain ⟨⟨level, rank⟩, -, hd⟩ := hd
  exact (mem_levelDeclarations hd).2

theorem signature_of_mem_declarationsOf {c : Catalog} {chain : List TypeId} {k : Signature}
    {x : Candidate} (hx : x ∈ declarationsOf c chain k) : Signature.of? x.decl = some k := by
  simp only [declarationsOf, List.mem_map, List.mem_filter, beq_iff_eq] at hx
  obtain ⟨d, ⟨hd, rfl⟩, rfl⟩ := hx
  exact mem_levelDeclarations_along hd

theorem propertyType?_isSome_iff {m : Member} {k : Signature} (h : Signature.of? m = some k) :
    m.propertyType?.isSome = true ↔ ∃ n, k = .property n := by
  unfold Signature.of? at h
  unfold Member.propertyType?
  split at h <;> cases h <;> simp_all

theorem propertyType?_isSome_eq {c : Catalog} {chain : List TypeId} {k : Signature}
    {x y : Candidate} (hx : x ∈ declarationsOf c chain k) (hy : y ∈ declarationsOf c chain k) :
    x.decl.propertyType?.isSome = y.decl.propertyType?.isSome := by
  have hx' := propertyType?_isSome_iff (signature_of_mem_declarationsOf hx)
  have hy' := propertyType?_isSome_iff (signature_of_mem_declarationsOf hy)
  exact Bool.eq_iff_iff.mpr (hx'.trans hy'.symm)

theorem resolve_along_ok_iff (c : Catalog) (chain : List TypeId) (tn : String) :
    (∃ rs, (SignatureTable.ofDeclarations (declarationsAlong c chain)).resolve tn = .ok rs) ↔
      ∀ k, (declarationsOf c chain k).Pairwise (·.rank < ·.rank) ∧
        ∀ x ∈ declarationsOf c chain k, ∀ y ∈ declarationsOf c chain k,
          x.decl.propertyType? = y.decl.propertyType? := by
  have hbucket : ∀ k, (∃ w, mostDerived tn (declarationsOf c chain k) = .ok w) ↔
      k ∈ signaturesAlong c chain ∧ ((declarationsOf c chain k).Pairwise (·.rank < ·.rank) ∧
        ∀ x ∈ declarationsOf c chain k, ∀ y ∈ declarationsOf c chain k,
          x.decl.propertyType? = y.decl.propertyType?) := by
    intro k
    by_cases hk : k ∈ signaturesAlong c chain
    · rw [mostDerived_ok_iff (declarationsOf_ne_nil hk)
        (List.pairwise_map.mpr ((declarationsAlong_sorted c chain).filter _))
        (fun x hx y hy => propertyType?_isSome_eq hx hy)]
      exact ⟨fun h => ⟨hk, h⟩, fun h => h.2⟩
    · rw [declarationsOf_eq_nil hk]
      simp [mostDerived, hk]
  unfold SignatureTable.resolve
  rw [mapM_ok_iff]
  constructor
  · intro h k
    by_cases hk : k ∈ signaturesAlong c chain
    · have hb := h (k, declarationsOf c chain k) (List.mem_map_of_mem hk)
      obtain ⟨⟨s, w⟩, hw⟩ := hb
      cases hm : mostDerived tn (declarationsOf c chain k) with
      | error e => simp [hm, bind, Except.bind] at hw
      | ok w' => exact ((hbucket k).mp ⟨w', hm⟩).2
    · rw [declarationsOf_eq_nil hk]
      simp
  · intro h b hb
    obtain ⟨k, hk, rfl⟩ := List.mem_map.mp hb
    obtain ⟨w, hw⟩ := (hbucket k).mpr ⟨hk, h k⟩
    unfold declarationsOf at hw
    exact ⟨(k, w), by simp [hw, bind, Except.bind, pure, Except.pure]⟩

theorem declarationsOf_eq_flatMap (c : Catalog) (chain : List TypeId) (k : Signature) :
    declarationsOf c chain k = chain.zipIdx.flatMap fun p =>
      ((levelDeclarations p.1 p.2 (c.membersOf p.1)).filter (·.1 == k)).map (·.2) := by
  unfold declarationsOf declarationsAlong
  rw [List.filter_flatMap, List.map_flatMap]
  rfl

theorem pairwise_level_iff (level : TypeId) (rank : Nat) (ms : List Member) (k : Signature) :
    (((levelDeclarations level rank ms).filter (·.1 == k)).map (·.2)).Pairwise
        (·.rank < ·.rank) ↔ (instanceSignatures ms).count k ≤ 1 := by
  have hcount : (((levelDeclarations level rank ms).filter (·.1 == k)).map (·.2)).length =
      (instanceSignatures ms).count k := by
    rw [← map_fst_levelDeclarations level rank ms, List.count_eq_length_filter, List.filter_map,
      List.length_map, List.length_map]
    rfl
  have hrank : ∀ x ∈ ((levelDeclarations level rank ms).filter (·.1 == k)).map (·.2),
      x.rank = rank := by
    intro x hx
    obtain ⟨d, hd, rfl⟩ := List.mem_map.mp hx
    exact rank_of_mem_levelDeclarations (List.mem_filter.mp hd).1
  rw [← hcount]
  generalize ((levelDeclarations level rank ms).filter (·.1 == k)).map (·.2) = l at hrank ⊢
  match l, hrank with
  | [], _ => simp
  | [_], _ => simp
  | x :: y :: rest, hrank =>
    simp only [List.pairwise_cons, List.mem_cons, List.length_cons]
    refine iff_of_false (fun h => ?_) (by omega)
    have hxy := h.1 y (.inl rfl)
    rw [hrank x List.mem_cons_self, hrank y (List.mem_cons_of_mem _ List.mem_cons_self)] at hxy
    exact Nat.lt_irrefl _ hxy

theorem declarationsOf_strict_iff (c : Catalog) (chain : List TypeId) :
    (∀ k, (declarationsOf c chain k).Pairwise (·.rank < ·.rank)) ↔
      ∀ level ∈ chain, (instanceSignatures (c.membersOf level)).Nodup := by
  -- declarations of different levels are ordered by the levels' positions
  have hcross : ∀ k, chain.zipIdx.Pairwise fun p q =>
      ∀ x ∈ ((levelDeclarations p.1 p.2 (c.membersOf p.1)).filter (·.1 == k)).map (·.2),
      ∀ y ∈ ((levelDeclarations q.1 q.2 (c.membersOf q.1)).filter (·.1 == k)).map (·.2),
        x.rank < y.rank := by
    intro k
    have hidx : chain.zipIdx.Pairwise (·.2 < ·.2) := by
      have h : (chain.zipIdx.map Prod.snd).Pairwise (· < ·) := by
        rw [List.zipIdx_map_snd]
        exact List.pairwise_lt_range'
      exact List.pairwise_map.mp h
    refine hidx.imp fun {p q} hpq x hx y hy => ?_
    obtain ⟨dx, hdx, rfl⟩ := List.mem_map.mp hx
    obtain ⟨dy, hdy, rfl⟩ := List.mem_map.mp hy
    rw [rank_of_mem_levelDeclarations (List.mem_filter.mp hdx).1,
      rank_of_mem_levelDeclarations (List.mem_filter.mp hdy).1]
    exact hpq
  simp only [declarationsOf_eq_flatMap, List.pairwise_flatMap, pairwise_level_iff]
  constructor
  · intro h level hl
    obtain ⟨p, hp, rfl⟩ := List.mem_map.mp ((List.zipIdx_map_fst 0 chain).symm ▸ hl)
    exact List.nodup_iff_count_le_one.mpr fun k => (h k).1 p hp
  · intro h k
    exact ⟨fun p hp => List.nodup_iff_count_le_one.mp (h p.1 (List.fst_mem_of_mem_zipIdx hp)) k,
      hcross k⟩

theorem mem_declarationsOf {c : Catalog} {chain : List TypeId} {k : Signature} {x : Candidate} :
    x ∈ declarationsOf c chain k ↔ (k, x) ∈ declarationsAlong c chain := by
  simp only [declarationsOf, List.mem_map, List.mem_filter, beq_iff_eq]
  constructor
  · rintro ⟨d, ⟨hd, rfl⟩, rfl⟩
    exact hd
  · intro h
    exact ⟨(k, x), ⟨h, rfl⟩, rfl⟩

theorem signature_of_property {m : Member} {k : Signature} {a : TypeId}
    (hk : Signature.of? m = some k) (ha : m.propertyType? = some a) : k = .property m.name := by
  unfold Member.propertyType? at ha
  unfold Signature.of? at hk
  split at ha
  · rename_i hsh
    simp only [hsh, Option.some.injEq] at hk
    exact hk.symm
  · cases ha

/-- Declarations along a chain that resolution sorts together: two instance properties of one
name with different types. -/
def Catalog.RetypesAlong (c : Catalog) (chain : List TypeId) : Prop :=
  ∃ d₁ ∈ declarationsAlong c chain, ∃ d₂ ∈ declarationsAlong c chain,
    d₁.2.decl.name = d₂.2.decl.name ∧
      ∃ a b, d₁.2.decl.propertyType? = some a ∧ d₂.2.decl.propertyType? = some b ∧ a ≠ b

theorem declarationsOf_types_iff (c : Catalog) (chain : List TypeId) :
    (∀ k, ∀ x ∈ declarationsOf c chain k, ∀ y ∈ declarationsOf c chain k,
      x.decl.propertyType? = y.decl.propertyType?) ↔ ¬ c.RetypesAlong chain := by
  constructor
  · rintro h ⟨d₁, hd₁, d₂, hd₂, hname, a, b, ha, hb, hab⟩
    -- both are properties of one name, so they share the signature of that name
    have hk₁ := signature_of_property (mem_levelDeclarations_along hd₁) ha
    have hk₂ := signature_of_property (mem_levelDeclarations_along hd₂) hb
    have h₁ : d₁.2 ∈ declarationsOf c chain d₁.1 := mem_declarationsOf.mpr hd₁
    have h₂ : d₂.2 ∈ declarationsOf c chain d₁.1 := by
      rw [hk₁, hname, ← hk₂]
      exact mem_declarationsOf.mpr hd₂
    have := h _ _ h₁ _ h₂
    rw [ha, hb] at this
    exact hab (Option.some.inj this)
  · intro h k x hx y hy
    by_contra hxy
    have hsome := propertyType?_isSome_eq hx hy
    cases ha : x.decl.propertyType? with
    | none =>
      rw [ha] at hxy hsome
      cases hb : y.decl.propertyType? with
      | none => exact hxy hb.symm
      | some b => rw [hb] at hsome; cases hsome
    | some a =>
      rw [ha] at hxy hsome
      cases hb : y.decl.propertyType? with
      | none => rw [hb] at hsome; cases hsome
      | some b =>
        rw [hb] at hxy
        have hkx := signature_of_property (signature_of_mem_declarationsOf hx) ha
        have hky := signature_of_property (signature_of_mem_declarationsOf hy) hb
        refine h ⟨(k, x), mem_declarationsOf.mp hx, (k, y), mem_declarationsOf.mp hy, ?_, a, b,
          ha, hb, fun h => hxy (h ▸ rfl)⟩
        exact Signature.property.inj (hkx.symm.trans hky)

/-! ## Stages of the surface computation -/

def classTypeOf (d : TypeDesc) (t : TypeId) : TypeId :=
  if d.kind = .interfaceType then .object else t

theorem compute_of_unregistered {c : Catalog} {t : TypeId} (hd : c.get? t = none) :
    Surface.compute c t = .error (.unknownType t) := by
  unfold Surface.compute
  simp [Catalog.require, hd, bind, Except.bind]

theorem registered_of_compute {c : Catalog} {t : TypeId} {s : Surface}
    (h : Surface.compute c t = .ok s) : ∃ d, c.get? t = some d := by
  cases hd : c.get? t with
  | none =>
    rw [compute_of_unregistered hd] at h
    cases h
  | some d => exact ⟨d, rfl⟩

theorem compute_error_iff {c : Catalog} {t : TypeId} {d : TypeDesc} (hd : c.get? t = some d)
    (e : SurfaceFault) :
    Surface.compute c t = .error e ↔ c.interfaces t = .error e ∨
      ∃ is, c.interfaces t = .ok is ∧
      (c.chain (classTypeOf d t) = .error e ∨ ∃ ch, c.chain (classTypeOf d t) = .ok ch ∧
        (SignatureTable.ofDeclarations (declarationsAlong c ch)).resolve d.name = .error e) := by
  unfold Surface.compute
  by_cases hk : d.kind = .interfaceType
  · simp only [Catalog.require_eq_ok.mpr hd, classTypeOf, hk, beq_self_eq_true, ↓reduceIte, bind,
      Except.bind, pure, Except.pure, SignatureTable.table_along]
    cases c.interfaces t with
    | error e' => simp
    | ok is =>
      cases c.chain .object with
      | error e' => simp
      | ok ch =>
        cases hr : (SignatureTable.ofDeclarations (declarationsAlong c ch)).resolve d.name <;>
          simp [hr]
  · have hk' : (d.kind == .interfaceType) = false := by simpa using hk
    simp only [Catalog.require_eq_ok.mpr hd, classTypeOf, hk, hk', Bool.false_eq_true, ↓reduceIte,
      bind, Except.bind, pure, Except.pure, SignatureTable.table_along]
    cases c.interfaces t with
    | error e' => simp
    | ok is =>
      cases c.chain t with
      | error e' => simp
      | ok ch =>
        cases hr : (SignatureTable.ofDeclarations (declarationsAlong c ch)).resolve d.name <;>
          simp [hr]

theorem compute_ok_iff {c : Catalog} {t : TypeId} {d : TypeDesc} (hd : c.get? t = some d) :
    (∃ s, Surface.compute c t = .ok s) ↔ ∃ is ch rs, c.interfaces t = .ok is ∧
      c.chain (classTypeOf d t) = .ok ch ∧
      (SignatureTable.ofDeclarations (declarationsAlong c ch)).resolve d.name = .ok rs := by
  have hnot : (∃ s, Surface.compute c t = .ok s) ↔ ∀ e, Surface.compute c t ≠ .error e := by
    cases Surface.compute c t <;> simp
  rw [hnot]
  simp only [ne_eq, compute_error_iff hd]
  constructor
  · intro h
    cases hi : c.interfaces t with
    | error e => exact absurd (.inl hi) (h e)
    | ok is =>
      cases hch : c.chain (classTypeOf d t) with
      | error e => exact absurd (.inr ⟨is, hi, .inl hch⟩) (h e)
      | ok ch =>
        cases hr : (SignatureTable.ofDeclarations (declarationsAlong c ch)).resolve d.name with
        | error e => exact absurd (.inr ⟨is, hi, .inr ⟨ch, hch, hr⟩⟩) (h e)
        | ok rs => exact ⟨is, ch, rs, rfl, rfl, hr⟩
  · rintro ⟨is, ch, rs, hi, hch, hr⟩ e (he | ⟨is', hi', he | ⟨ch', hch', he⟩⟩)
    · rw [hi] at he
      cases he
    · rw [hi] at hi'
      cases hi'
      rw [hch] at he
      cases he
    · rw [hi] at hi'
      cases hi'
      rw [hch] at hch'
      cases hch'
      rw [hr] at he
      cases he

theorem implemented_of_compute {c : Catalog} {t : TypeId} {d : TypeDesc} {s : Surface}
    (hd : c.get? t = some d) (h : Surface.compute c t = .ok s) :
    ∃ is, c.interfaces t = .ok is ∧
      s.implemented = (if d.kind = .interfaceType then t :: is else is) ∧
      ∃ covered, s.interfaceSets =
        (s.implemented.map (interfaceSet c covered)).filter fun set => !set.entries.isEmpty := by
  unfold Surface.compute at h
  cases hi : c.interfaces t with
  | error e =>
    by_cases hk : d.kind = .interfaceType <;>
      simp [Catalog.require_eq_ok.mpr hd, hk, hi, bind, Except.bind] at h
  | ok is =>
    refine ⟨is, rfl, ?_⟩
    by_cases hk : d.kind = .interfaceType
    · simp only [Catalog.require_eq_ok.mpr hd, hk, hi, beq_self_eq_true, ↓reduceIte, bind,
        Except.bind, pure, Except.pure] at h
      split at h
      · cases h
      · split at h
        · cases h
        · cases h
          exact ⟨by simp [hk], _, rfl⟩
    · have hk' : (d.kind == .interfaceType) = false := by simpa using hk
      simp only [Catalog.require_eq_ok.mpr hd, hk', hi, Bool.false_eq_true, ↓reduceIte, bind,
        Except.bind, pure, Except.pure] at h
      split at h
      · cases h
      · split at h
        · cases h
        · cases h
          exact ⟨by simp [hk], _, rfl⟩

theorem interfaceSets_sublist {c : Catalog} {t : TypeId} {s : Surface}
    (h : Surface.compute c t = .ok s) : (s.interfaceSets.map (·.iface)).Sublist s.implemented := by
  obtain ⟨d, hd⟩ := registered_of_compute h
  obtain ⟨-, -, -, covered, hsets⟩ := implemented_of_compute hd h
  have hiface : ∀ l : List TypeId, (l.map (interfaceSet c covered)).map (·.iface) = l := by
    intro l
    simp [List.map_map, Function.comp_def, interfaceSet]
  rw [hsets]
  calc List.Sublist _ ((s.implemented.map (interfaceSet c covered)).map (·.iface)) :=
        List.filter_sublist.map _
    _ = s.implemented := hiface _

/-! ## Exactness of resolution faults -/

/-- A chain is misdeclared when one of its levels declares an instance signature twice, or two
instance properties of one name along it have different types. -/
def Catalog.Misdeclared (c : Catalog) (chain : List TypeId) : Prop :=
  (∃ level ∈ chain, ¬ (instanceSignatures (c.membersOf level)).Nodup) ∨ c.RetypesAlong chain

theorem resolve_along_ok_iff_not_misdeclared (c : Catalog) (chain : List TypeId) (tn : String) :
    (∃ rs, (SignatureTable.ofDeclarations (declarationsAlong c chain)).resolve tn = .ok rs) ↔
      ¬ c.Misdeclared chain := by
  rw [resolve_along_ok_iff, forall_and, declarationsOf_strict_iff, declarationsOf_types_iff,
    Catalog.Misdeclared, not_or, not_exists]
  simp only [not_and, not_not]

/-- For a class or value type whose interfaces and chain are collected, the surface computation
fails exactly when the chain is misdeclared, and then with an invariant violation named after
the type; otherwise it succeeds. -/
theorem override_faults_exact {c : Catalog} {t : TypeId} {d : TypeDesc} {is ch : List TypeId}
    (hd : c.get? t = some d) (hk : d.kind ≠ .interfaceType) (hi : c.interfaces t = .ok is)
    (hch : c.chain t = .ok ch) :
    ((∃ m detail, Surface.compute c t = .error (.invariantViolation d.name m detail)) ↔
      c.Misdeclared ch) ∧
    ((∃ s, Surface.compute c t = .ok s) ↔ ¬ c.Misdeclared ch) := by
  have hclass : classTypeOf d t = t := if_neg hk
  have hok : (∃ s, Surface.compute c t = .ok s) ↔ ¬ c.Misdeclared ch := by
    rw [compute_ok_iff hd, hclass, hi, hch, ← resolve_along_ok_iff_not_misdeclared c ch d.name]
    simp
  refine ⟨⟨?_, fun hmis => ?_⟩, hok⟩
  · rintro ⟨m, detail, he⟩
    by_contra hs
    obtain ⟨s, hs⟩ := hok.mpr hs
    rw [hs] at he
    cases he
  · -- the computation fails, and only resolution can fail once both walks have succeeded
    obtain ⟨e, he⟩ : ∃ e, Surface.compute c t = .error e := by
      cases hc : Surface.compute c t with
      | error e => exact ⟨e, rfl⟩
      | ok s => exact absurd ⟨s, hc⟩ (mt hok.mp (not_not.mpr hmis))
    rcases (compute_error_iff hd e).mp he with he' | ⟨is', hi', he' | ⟨ch', hch', hr⟩⟩
    · rw [hi] at he'
      cases he'
    · rw [hclass, hch] at he'
      cases he'
    · obtain ⟨m, detail, rfl⟩ := SignatureTable.resolve_error hr
      exact ⟨m, detail, he⟩

def retypingClass : TypeDesc :=
  { TypeDesc.classType "D" with
    base := some ⟨16⟩, members := [Member.property "Value" TypeId.int] }

def retypedCatalog : Catalog :=
  let c := Catalog.standard
  let c := (c.register { TypeDesc.classType "B" with
    members := [Member.property "Value" TypeId.string] }).2
  (c.register retypingClass).2

theorem retyped_property_faults :
    retypedCatalog.get? ⟨17⟩ = some retypingClass ∧
    retypedCatalog.interfaces ⟨17⟩ = .ok [] ∧
    retypedCatalog.chain ⟨17⟩ = .ok [.object, ⟨16⟩, ⟨17⟩] ∧
    ((∃ m detail,
        Surface.compute retypedCatalog ⟨17⟩ = .error (.invariantViolation "D" m detail)) ↔
      retypedCatalog.Misdeclared [.object, ⟨16⟩, ⟨17⟩]) ∧
    ((∃ s, Surface.compute retypedCatalog ⟨17⟩ = .ok s) ↔
      ¬ retypedCatalog.Misdeclared [.object, ⟨16⟩, ⟨17⟩]) :=
  have hd : retypedCatalog.get? ⟨17⟩ = some retypingClass := by decide
  have hi : retypedCatalog.interfaces ⟨17⟩ = .ok [] := rfl
  have hch : retypedCatalog.chain ⟨17⟩ = .ok [.object, ⟨16⟩, ⟨17⟩] := rfl
  ⟨hd, hi, hch, override_faults_exact hd (by decide) hi hch⟩

end Understudy
