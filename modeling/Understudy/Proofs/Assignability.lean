import Understudy.Proofs.Ancestry
import Understudy.Value.Basic

set_option autoImplicit false

/-!
# Assignability

A value of one type may be stored in a slot of another when the two are equal, the slot is
`Object`, or the first derives from the second: through its chain when the second is a class or a
value type, through its collected interfaces when the second is an interface. A walk that fails
counts as no derivation.

Assignability is reflexive, and transitive wherever the interfaces of the source can be
collected (`isAssignable_preorder`): a step through a class followed by a step through an
interface needs the collection to reach the interface, and it does whenever it succeeds. Where it
fails, transitivity fails with it (`transitivity_fails_through_misdeclared_interface`). The
statements assume the catalogue's `Object` is the built-in class, as registration with fresh ids
keeps it.
-/

namespace Understudy

namespace Catalog

variable {c : Catalog}

/-! ## What a type implements -/

theorem Implements.of_ancestor? : ∀ {t b y : TypeId} (k : Nat), c.ancestor? t k = some b →
    c.Implements b y → c.Implements t y
  | _, _, _, 0, hk, h => by
    cases hk
    exact h
  | t, b, y, k + 1, hk, h => by
    rw [ancestor?_succ] at hk
    cases hb : c.baseOf t with
    | none => rw [hb] at hk; cases hk
    | some b' =>
      rw [hb, Option.bind_some] at hk
      exact .inherited hb (Implements.of_ancestor? k hk h)

theorem baseOf_of_interface {t : TypeId} (hk : c.kind? t = some .interfaceType) :
    c.baseOf t = none := by
  obtain ⟨d, hd, hdk⟩ := Option.map_eq_some_iff.mp hk
  simp [baseOf, hd, hdk]

theorem Implements.trans_interface {t b a : TypeId} (htb : c.Implements t b)
    (hk : c.kind? b = some .interfaceType) (hba : c.Implements b a) : c.Implements t a := by
  induction hba with
  | declared hd hi =>
    obtain ⟨d', hd', hdk⟩ := Option.map_eq_some_iff.mp hk
    rw [hd] at hd'
    cases hd'
    exact .extended htb ⟨_, hd, hdk, hi⟩
  | inherited hb _ _ =>
    rw [baseOf_of_interface hk] at hb
    cases hb
  | extended _ hext ih => exact .extended (ih htb hk) hext

theorem not_implements_object (hobj : c.get? .object = some (.classType "Object")) (y : TypeId) :
    ¬ c.Implements .object y := by
  generalize hx : TypeId.object = x
  intro h
  induction h with
  | declared hd hi =>
    subst hx
    rw [hobj] at hd
    cases hd
    cases hi
  | inherited hb _ _ =>
    subst hx
    simp at hb
  | extended _ _ ih => exact ih hx

theorem ancestor?_of_mem_chain {t x : TypeId} {ch : List TypeId} (h : c.chain t = .ok ch)
    (hx : x ∈ ch) (hobj : x ≠ .object) : ∃ k, c.ancestor? t k = some x := by
  cases hd : c.get? t with
  | none =>
    rw [chain_of_unregistered hd] at h
    cases h
  | some d =>
    by_cases hk : d.kind = .interfaceType
    · rw [chain_of_interface hd hk] at h
      cases h
      exact absurd (List.mem_singleton.mp hx) hobj
    · exact (chain_mem h (by simp [kind?, hd, hk]) x).mp hx

/-! ## Derivation -/

theorem isDerivedFrom_of_interface {d b : TypeId} (hb : b ≠ .object)
    (hk : c.kind? b = some .interfaceType) :
    c.isDerivedFrom d b = true ↔ d ≠ b ∧ ∃ is, c.interfaces d = .ok is ∧ b ∈ is := by
  unfold isDerivedFrom
  by_cases hdb : d = b
  · simp [hdb]
  · cases hi : c.interfaces d with
    | error e => simp [hdb, hb, hk]
    | ok is => simp [hdb, hb, hk]

theorem isDerivedFrom_of_class {d b : TypeId} {k : TypeKind} (hb : b ≠ .object)
    (hk : c.kind? b = some k) (hki : k ≠ .interfaceType) :
    c.isDerivedFrom d b = true ↔ d ≠ b ∧ ∃ ch, c.chain d = .ok ch ∧ b ∈ ch := by
  unfold isDerivedFrom
  by_cases hdb : d = b
  · simp [hdb]
  · cases k with
    | interfaceType => exact absurd rfl hki
    | _ =>
      cases hch : c.chain d with
      | error e => simp [hdb, hb, hk]
      | ok ch => simp [hdb, hb, hk]

theorem isDerivedFrom_of_unregistered {d b : TypeId} (hb : b ≠ .object) (hk : c.kind? b = none) :
    c.isDerivedFrom d b = false := by
  unfold isDerivedFrom
  simp [hb, hk]

theorem isDerivedFrom_object (hobj : c.get? .object = some (.classType "Object")) {a : TypeId}
    (ha : a ≠ .object) : c.isDerivedFrom .object a = false := by
  cases hk : c.kind? a with
  | none => exact isDerivedFrom_of_unregistered ha hk
  | some k =>
    by_cases hki : k = .interfaceType
    · subst hki
      cases h : c.isDerivedFrom .object a with
      | false => rfl
      | true =>
        obtain ⟨-, is, hi, hmem⟩ := (isDerivedFrom_of_interface ha hk).mp h
        exact absurd ((interfaces_mem hi a).mp hmem) (not_implements_object hobj a)
    · cases h : c.isDerivedFrom .object a with
      | false => rfl
      | true =>
        obtain ⟨-, ch, hch, hmem⟩ := (isDerivedFrom_of_class ha hk hki).mp h
        obtain ⟨j, hj⟩ := ancestor?_of_mem_chain hch hmem ha
        -- the base walk of `Object` stops at once
        cases j with
        | zero => exact absurd (Option.some.inj hj).symm ha
        | succ j => simp [ancestor?_succ] at hj

theorem Implements.of_isDerivedFrom {t b a : TypeId} (hb : b ≠ .object)
    (htb : c.isDerivedFrom t b = true) (hba : c.Implements b a) : c.Implements t a := by
  cases hkb : c.kind? b with
  | none => rw [isDerivedFrom_of_unregistered hb hkb] at htb; cases htb
  | some kb =>
    by_cases hbi : kb = .interfaceType
    · -- through extension
      subst hbi
      obtain ⟨-, is, his, hmem⟩ := (isDerivedFrom_of_interface hb hkb).mp htb
      exact Implements.trans_interface ((interfaces_mem his b).mp hmem) hkb hba
    · -- through inheritance
      obtain ⟨-, ch, hch, hmem⟩ := (isDerivedFrom_of_class hb hkb hbi).mp htb
      obtain ⟨j, hj⟩ := ancestor?_of_mem_chain hch hmem hb
      exact Implements.of_ancestor? j hj hba

theorem isDerivedFrom_trans {a b t : TypeId} (hi : ∃ is, c.interfaces t = .ok is)
    (ha : a ≠ .object) (hb : b ≠ .object) (hta : t ≠ a)
    (hba : c.isDerivedFrom b a = true) (htb : c.isDerivedFrom t b = true) :
    c.isDerivedFrom t a = true := by
  obtain ⟨ist, hist⟩ := hi
  cases hka : c.kind? a with
  | none => rw [isDerivedFrom_of_unregistered ha hka] at hba; cases hba
  | some ka =>
    by_cases hai : ka = .interfaceType
    · subst hai
      obtain ⟨-, isb, hisb, hab⟩ := (isDerivedFrom_of_interface ha hka).mp hba
      have hta' := Implements.of_isDerivedFrom hb htb ((interfaces_mem hisb a).mp hab)
      exact (isDerivedFrom_of_interface ha hka).mpr
        ⟨hta, ist, hist, (interfaces_mem hist a).mpr hta'⟩
    · obtain ⟨-, chb, hchb, hab⟩ := (isDerivedFrom_of_class ha hka hai).mp hba
      cases hkb : c.kind? b with
      | none => rw [isDerivedFrom_of_unregistered hb hkb] at htb; cases htb
      | some kb =>
        by_cases hbi : kb = .interfaceType
        · -- an interface's chain is `Object` alone
          subst hbi
          obtain ⟨d, hd, hdk⟩ := Option.map_eq_some_iff.mp hkb
          rw [chain_of_interface hd hdk] at hchb
          cases hchb
          exact absurd (List.mem_singleton.mp hab) ha
        · obtain ⟨-, cht, hcht, hbt⟩ := (isDerivedFrom_of_class hb hkb hbi).mp htb
          obtain ⟨j, hj⟩ := ancestor?_of_mem_chain hcht hbt hb
          obtain ⟨i, hi⟩ := ancestor?_of_mem_chain hchb hab ha
          have hat : c.ancestor? t (j + i) = some a := by
            rw [ancestor?_add, hj, Option.bind_some, hi]
          have ht : c.kind? t ≠ some .interfaceType := by
            intro hkt
            obtain ⟨d, hd, hdk⟩ := Option.map_eq_some_iff.mp hkt
            rw [chain_of_interface hd hdk] at hcht
            exact hb (List.mem_singleton.mp (by cases hcht; exact hbt))
          exact (isDerivedFrom_of_class ha hka hai).mpr
            ⟨hta, cht, hcht, (chain_mem hcht ht a).mpr ⟨j + i, hat⟩⟩

/-! ## Assignability -/

theorem isAssignable_eq_true {a b : TypeId} :
    c.isAssignable a b = true ↔ a = b ∨ a = .object ∨ c.isDerivedFrom b a = true := by
  simp [isAssignable, or_assoc]

theorem isAssignable_refl (a : TypeId) : c.isAssignable a a = true :=
  isAssignable_eq_true.mpr (.inl rfl)

theorem isAssignable_trans (hobj : c.get? .object = some (.classType "Object")) {a b t : TypeId}
    (hi : ∃ is, c.interfaces t = .ok is) (hab : c.isAssignable a b = true)
    (hbt : c.isAssignable b t = true) : c.isAssignable a t = true := by
  rcases isAssignable_eq_true.mp hab with rfl | ha | hba
  · exact hbt
  · exact isAssignable_eq_true.mpr (.inr (.inl ha))
  · by_cases ha : a = .object
    · exact isAssignable_eq_true.mpr (.inr (.inl ha))
    rcases isAssignable_eq_true.mp hbt with rfl | hb | htb
    · exact hab
    · subst hb
      rw [isDerivedFrom_object hobj ha] at hba
      cases hba
    · by_cases hta : t = a
      · exact isAssignable_eq_true.mpr (.inl hta.symm)
      by_cases hb : b = .object
      · subst hb
        rw [isDerivedFrom_object hobj ha] at hba
        cases hba
      exact isAssignable_eq_true.mpr (.inr (.inr (isDerivedFrom_trans hi ha hb hta hba htb)))

theorem isValueKind_of_isAssignable (hobj : c.get? .object = some (.classType "Object"))
    {a b : TypeId} (hab : c.isAssignable a b = true) (hb : c.isValueKind b = false) :
    c.isValueKind a = false := by
  rcases isAssignable_eq_true.mp hab with rfl | rfl | hba
  · exact hb
  · simp [isValueKind, kind?, hobj, TypeDesc.classType]
  · cases hka : c.kind? a with
    | none => simp [isValueKind, hka]
    | some ka =>
      cases ka with
      | valueType =>
        -- a value type is never a base: a chain holds registered classes above its type
        have ha : a ≠ .object := by
          rintro rfl
          simp [kind?, hobj, TypeDesc.classType] at hka
        obtain ⟨hne, ch, hch, hmem⟩ :=
          (isDerivedFrom_of_class ha hka (by decide)).mp hba
        rcases chain_kind hch a hmem with h | h | h
        · exact absurd h.symm hne
        · exact absurd h ha
        · rw [hka] at h
          cases h
      | _ => simp [isValueKind, hka]

end Catalog

/-- Assignability is a preorder on the types whose interfaces can be collected: every type is
assignable to itself, assignability composes whenever the interfaces of the lowest type can be
collected, and a value that conforms to a type conforms to every type it is assignable to, when
the interfaces of its runtime type can be collected. -/
theorem isAssignable_preorder (c : Catalog) (hobj : c.get? .object = some (.classType "Object")) :
    (∀ a, c.isAssignable a a = true) ∧
    (∀ a b t, (∃ is, c.interfaces t = .ok is) → c.isAssignable a b = true →
      c.isAssignable b t = true → c.isAssignable a t = true) ∧
    (∀ (v : Value) (a b : TypeId),
      (∀ r, v.runtimeType? = some r → ∃ is, c.interfaces r = .ok is) →
      v.conformsTo c b = true → c.isAssignable a b = true → v.conformsTo c a = true) := by
  refine ⟨Catalog.isAssignable_refl, fun a b t hi => Catalog.isAssignable_trans hobj hi, ?_⟩
  intro v a b hv hvb hab
  unfold Value.conformsTo at hvb ⊢
  cases hr : v.runtimeType? with
  | some r =>
    rw [hr] at hvb
    exact Catalog.isAssignable_trans hobj (hv r hr) hab hvb
  | none =>
    rw [hr] at hvb
    simp only [Bool.not_eq_eq_eq_not, Bool.not_true] at hvb ⊢
    exact Catalog.isValueKind_of_isAssignable hobj hab hvb

def misdeclaredCatalog : Catalog :=
  let c := Catalog.standard
  let c := (c.register (TypeDesc.interfaceType "I")).2
  let c := (c.register { TypeDesc.classType "B" with interfaces := [⟨16⟩] }).2
  (c.register { TypeDesc.classType "C" with base := some ⟨17⟩, interfaces := [TypeId.int] }).2

theorem misdeclared_catalog_preorder :
    misdeclaredCatalog.get? .object = some (.classType "Object") ∧
    (∀ a, misdeclaredCatalog.isAssignable a a = true) ∧
    (∀ a b t, (∃ is, misdeclaredCatalog.interfaces t = .ok is) →
      misdeclaredCatalog.isAssignable a b = true → misdeclaredCatalog.isAssignable b t = true →
        misdeclaredCatalog.isAssignable a t = true) ∧
    (∀ (v : Value) (a b : TypeId),
      (∀ r, v.runtimeType? = some r → ∃ is, misdeclaredCatalog.interfaces r = .ok is) →
      v.conformsTo misdeclaredCatalog b = true → misdeclaredCatalog.isAssignable a b = true →
        v.conformsTo misdeclaredCatalog a = true) :=
  ⟨by decide, isAssignable_preorder misdeclaredCatalog (by decide)⟩

/-- `C` is assignable to `B` and `B` to `I`, yet `C` is not assignable to `I`: the interfaces of
`C` cannot be collected, and a failed collection counts as no derivation. -/
theorem transitivity_fails_through_misdeclared_interface :
    misdeclaredCatalog.isAssignable ⟨16⟩ ⟨17⟩ = true ∧
      misdeclaredCatalog.isAssignable ⟨17⟩ ⟨18⟩ = true ∧
      misdeclaredCatalog.isAssignable ⟨16⟩ ⟨18⟩ = false ∧
      (misdeclaredCatalog.interfaces ⟨18⟩).toOption = none := by
  decide

end Understudy
