import Mathlib.Data.List.Forall2
import Understudy.Mock.Pattern

set_option autoImplicit false

/-!
# Structurally identical patterns accept alike

An arrangement repeated with structurally the same patterns reuses the earlier arranged call
(`ArgPattern.sameAs`, `ArgsPattern.sameAs`). Reuse is sound because identical patterns accept the
same arguments, with the same predicate runs, whatever the catalogue and the user code.

Literals are compared by value equality, and for doubles that is IEEE equality: the two zeros are
equal and NaN equals nothing, not even itself. Two doubles are equal exactly when they denote the
same `DoubleValue`, so identity is not reflexive, but it is symmetric and transitive; and a null
literal is identical only to a null literal, which keeps the special treatment of null literals
out of the way.

Main result: `sameAs_sound_for_reuse`.
-/

namespace Understudy

open Float.Model

/-! ## IEEE equality of doubles -/

/-- What a double denotes to an equality test: both zeros are the same zero, an infinity is its
sign, a finite double its sign, mantissa and exponent. -/
inductive DoubleValue where
  | zero
  | infinity (s : UnpackedFloat.Sign)
  | finite (s : UnpackedFloat.Sign) (m : Nat) (e : Int)

def doubleValue? : UnpackedFloat → Option DoubleValue
  | .notANumber => none
  | .zero _ => some .zero
  | .infinity s => some (.infinity s)
  | .finite s m e _ => some (.finite s m e)

theorem unpacked_compare_eq_iff (a b : UnpackedFloat) :
    a.compare b = some .eq ↔ (doubleValue? a).isSome ∧ doubleValue? a = doubleValue? b := by
  rcases a with ⟨_ | _⟩ | _ | ⟨_ | _⟩ | ⟨_ | _, m, e, hm⟩ <;>
    rcases b with ⟨_ | _⟩ | _ | ⟨_ | _⟩ | ⟨_ | _, m', e', hm'⟩ <;>
    dsimp only [UnpackedFloat.compare, doubleValue?] <;> simp [and_comm] <;> rfl

theorem float_beq_iff (a b : Float) :
    (a == b) = true ↔ (doubleValue? a.toModel.unpack).isSome ∧
      doubleValue? a.toModel.unpack = doubleValue? b.toModel.unpack := by
  show (a.toModel.unpack.compare b.toModel.unpack == some .eq) = true ↔ _
  rw [beq_iff_eq, unpacked_compare_eq_iff]

theorem float_beq_comm (a b : Float) : (a == b) = (b == a) := by
  apply Bool.eq_iff_iff.mpr
  rw [float_beq_iff, float_beq_iff]
  constructor
  · rintro ⟨hs, he⟩
    exact ⟨he ▸ hs, he.symm⟩
  · rintro ⟨hs, he⟩
    exact ⟨he ▸ hs, he.symm⟩

theorem float_beq_trans {a b d : Float} (h₁ : (a == b) = true) (h₂ : (b == d) = true) :
    (a == d) = true := by
  rw [float_beq_iff] at h₁ h₂ ⊢
  exact ⟨h₁.1, h₁.2.trans h₂.2⟩

/-! ## Value equality -/

namespace Value

theorem equals_comm (a b : Value) : (a == b) = (b == a) := by
  show a.equals b = b.equals a
  cases a <;> cases b <;> simp only [equals, Bool.beq_comm, float_beq_comm]

theorem equals_trans {a b d : Value} (h₁ : (a == b) = true) (h₂ : (b == d) = true) :
    (a == d) = true := by
  change a.equals b = true at h₁
  change b.equals d = true at h₂
  show a.equals d = true
  cases a <;> cases b <;> cases d <;>
    simp only [equals, beq_iff_eq, reduceCtorEq] at h₁ h₂ ⊢
  case float.float.float => exact float_beq_trans h₁ h₂
  all_goals exact h₁.trans h₂

theorem equals_congr {a b : Value} (h : (a == b) = true) (x : Value) : (a == x) = (b == x) := by
  apply Bool.eq_iff_iff.mpr
  constructor
  · intro hx
    exact equals_trans (by rw [equals_comm]; exact h) hx
  · intro hx
    exact equals_trans h hx

theorem equals_null_iff (v : Value) : (v == .null) = true ↔ v = .null := by
  cases v <;> simp [BEq.beq, equals]

end Value

/-! ## One position -/

namespace ArgPattern

variable (c : Catalog) (u : UserCode) (x : CallArg)

theorem sameAs_comm (a b : ArgPattern) : a.sameAs b = b.sameAs a := by
  cases a <;> cases b <;> simp only [sameAs, Value.equals_comm, Bool.beq_comm, Bool.and_comm]

theorem sameAs_trans {a b d : ArgPattern} (h₁ : a.sameAs b = true) (h₂ : b.sameAs d = true) :
    a.sameAs d = true := by
  cases a <;> cases b <;> cases d <;>
    simp only [sameAs, reduceCtorEq, Bool.and_eq_true, beq_iff_eq] at h₁ h₂ ⊢
  case value.value.value => exact Value.equals_trans h₁ h₂
  case predicate.predicate.predicate => exact ⟨h₁.1.trans h₂.1, h₁.2.trans h₂.2⟩
  case any.any.any => exact h₁.trans h₂

theorem accepts_value {v : Value} (hv : v ≠ .null) :
    (ArgPattern.value v).accepts c u x = pure (v == x.value) := by
  cases v
  · exact absurd rfl hv
  all_goals rfl

theorem accepts_of_sameAs {a b : ArgPattern} (h : a.sameAs b = true) :
    a.accepts c u x = b.accepts c u x := by
  cases a <;> cases b <;> simp only [sameAs, reduceCtorEq, Bool.and_eq_true, beq_iff_eq] at h
  case value.value a b =>
    by_cases ha : a = .null
    · subst ha
      rw [(Value.equals_null_iff b).mp (by rw [Value.equals_comm]; exact h)]
    · have hb : b ≠ .null := fun hb => ha ((Value.equals_null_iff a).mp (hb ▸ h))
      rw [accepts_value c u x ha, accepts_value c u x hb, Value.equals_congr h]
  case predicate.predicate => rw [h.1, h.2]
  case any.any => rw [h]

end ArgPattern

/-! ## Whole argument lists -/

namespace ArgsPattern

variable (c : Catalog) (u : UserCode)

theorem sameAs_positional_iff (as bs : List ArgPattern) :
    (ArgsPattern.positional as).sameAs (.positional bs) = true ↔
      List.Forall₂ (fun a b => a.sameAs b = true) as bs := by
  simp [sameAs, List.forall₂_iff_zip]

theorem forall₂_sameAs_symm {as bs : List ArgPattern}
    (h : List.Forall₂ (fun a b => a.sameAs b = true) as bs) :
    List.Forall₂ (fun a b => a.sameAs b = true) bs as :=
  List.Forall₂.flip (h.imp fun a b hab => by rwa [ArgPattern.sameAs_comm] at hab)

theorem forall₂_sameAs_trans {as bs ds : List ArgPattern}
    (h₁ : List.Forall₂ (fun a b => a.sameAs b = true) as bs)
    (h₂ : List.Forall₂ (fun a b => a.sameAs b = true) bs ds) :
    List.Forall₂ (fun a b => a.sameAs b = true) as ds := by
  induction h₁ generalizing ds with
  | nil => exact h₂
  | cons hab _ ih =>
    cases h₂ with
    | cons hbd hrest => exact .cons (ArgPattern.sameAs_trans hab hbd) (ih hrest)

theorem matchPositions_of_forall₂ {as bs : List ArgPattern}
    (h : List.Forall₂ (fun a b => a.sameAs b = true) as bs) (args : List CallArg) :
    matchPositions c u as args = matchPositions c u bs args := by
  induction h generalizing args with
  | nil => cases args <;> rfl
  | cons hab _ ih =>
    cases args with
    | nil => rfl
    | cons x xs => simp only [matchPositions, ArgPattern.accepts_of_sameAs c u x hab, ih]

theorem sameAs_comm (p q : ArgsPattern) : p.sameAs q = q.sameAs p := by
  cases p <;> cases q
  case positional.positional as bs =>
    apply Bool.eq_iff_iff.mpr
    rw [sameAs_positional_iff, sameAs_positional_iff]
    exact ⟨forall₂_sameAs_symm, forall₂_sameAs_symm⟩
  case predicate.predicate => simp only [sameAs, Bool.beq_comm]
  all_goals rfl

theorem sameAs_trans {p q r : ArgsPattern} (h₁ : p.sameAs q = true) (h₂ : q.sameAs r = true) :
    p.sameAs r = true := by
  cases p <;> cases q <;> cases r
  case positional.positional.positional as bs ds =>
    rw [sameAs_positional_iff] at h₁ h₂ ⊢
    exact forall₂_sameAs_trans h₁ h₂
  case predicate.predicate.predicate =>
    simp only [sameAs, Bool.and_eq_true, beq_iff_eq] at h₁ h₂ ⊢
    exact ⟨h₁.1.trans h₂.1, h₁.2.trans h₂.2⟩
  all_goals simp [sameAs] at h₁ h₂

theorem accepts_of_sameAs {p q : ArgsPattern} (h : p.sameAs q = true) (args : List CallArg) :
    p.accepts c u args = q.accepts c u args := by
  cases p <;> cases q
  case positional.positional as bs =>
    have hs := (sameAs_positional_iff as bs).mp h
    have harity : (positional as).arity = (positional bs).arity := hs.length_eq
    unfold accepts
    simp only [harity, matchPositions_of_forall₂ c u hs]
  case predicate.predicate =>
    simp only [sameAs, Bool.and_eq_true, beq_iff_eq] at h
    rw [h.1, h.2]
  all_goals simp [sameAs] at h

end ArgsPattern

/-- **Identical patterns accept alike.** Structural identity of argument patterns, and of
argument-list patterns, is symmetric and transitive, and identical patterns accept every argument
(list) alike, with the same predicate runs, under every catalogue and user code. -/
theorem sameAs_sound_for_reuse :
    (∀ a b : ArgPattern, a.sameAs b = true →
      ∀ (c : Catalog) (u : UserCode) (x : CallArg), a.accepts c u x = b.accepts c u x) ∧
    (∀ a b : ArgPattern, a.sameAs b = b.sameAs a) ∧
    (∀ a b d : ArgPattern, a.sameAs b = true → b.sameAs d = true → a.sameAs d = true) ∧
    (∀ p q : ArgsPattern, p.sameAs q = true →
      ∀ (c : Catalog) (u : UserCode) (xs : List CallArg), p.accepts c u xs = q.accepts c u xs) ∧
    (∀ p q : ArgsPattern, p.sameAs q = q.sameAs p) ∧
    (∀ p q r : ArgsPattern, p.sameAs q = true → q.sameAs r = true → p.sameAs r = true) :=
  ⟨fun _ _ h c u x => ArgPattern.accepts_of_sameAs c u x h, ArgPattern.sameAs_comm,
    fun _ _ _ => ArgPattern.sameAs_trans, fun _ _ h c u xs => ArgsPattern.accepts_of_sameAs c u h xs,
    ArgsPattern.sameAs_comm, fun _ _ _ => ArgsPattern.sameAs_trans⟩

/-- The two zero literals are identical, and accept alike. -/
theorem signed_zero_literals_accept_alike :
    (ArgPattern.value (.float 0.0)).sameAs (.value (.float (-0.0))) = true ∧
    ∀ (c : Catalog) (u : UserCode) (x : CallArg),
      (ArgPattern.value (.float 0.0)).accepts c u x =
        (ArgPattern.value (.float (-0.0))).accepts c u x :=
  ⟨rfl, sameAs_sound_for_reuse.1 _ _ rfl⟩

example : (ArgPattern.value (.float (Float.ofBits 0x7FF8000000000000))).sameAs
    (.value (.float (Float.ofBits 0x7FF8000000000000))) = false := rfl

end Understudy
