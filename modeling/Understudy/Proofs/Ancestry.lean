import Mathlib.Data.List.Nodup
import Mathlib.Data.List.Perm.Subperm
import Understudy.Surface.Basic

set_option autoImplicit false

/-!
# Base walks and interface collection

A class chain follows the base of each type, and the interfaces of a type are collected depth
first through the interfaces each declared one extends. This module names what the two walks
compute: `Catalog.ancestor?` is the type `n` base steps above another, `Catalog.Implements` the
interfaces a type implements by declaration, inheritance and extension, and `Catalog.Nested`
a chain of `n` extensions.

A successful chain holds exactly the types of the base walk (`chain_mem`); a successful
interface walk holds exactly what the type implements, each once (`interfaces_mem`,
`interfaces_nodup`), and its base walk ends within `hierarchyLimit` types. A chain refuses a
base as a cycle only when the base walk really cycles (`chain_cycle`), and the interface walk
only when the base walk or a nesting of interfaces passes the limit (`interfaces_cycle`).
-/

namespace Understudy

/-! ## Folds of failable steps -/

section Folds

variable {α β ε : Type} {f : β → α → Except ε β}

theorem foldlM_rel (R : β → β → Prop) (hrefl : ∀ b, R b b)
    (htrans : ∀ a b c, R a b → R b c → R a c) :
    ∀ (l : List α) (b b' : β), (∀ a ∈ l, ∀ x y, f x a = .ok y → R x y) →
      l.foldlM f b = .ok b' → R b b'
  | [], b, b', _, h => by
    cases h
    exact hrefl b
  | a :: l, b, b', hstep, h => by
    rw [List.foldlM_cons] at h
    cases ha : f b a with
    | error e =>
      rw [ha] at h
      cases h
    | ok y =>
      rw [ha] at h
      exact htrans _ _ _ (hstep a List.mem_cons_self b y ha)
        (foldlM_rel R hrefl htrans l y b' (fun a' ha' => hstep a' (List.mem_cons_of_mem _ ha')) h)

theorem foldlM_step_of_mem (R : β → β → Prop) (hrefl : ∀ b, R b b)
    (htrans : ∀ a b c, R a b → R b c → R a c) :
    ∀ (l : List α) (b b' : β), (∀ a ∈ l, ∀ x y, f x a = .ok y → R x y) →
      l.foldlM f b = .ok b' → ∀ a ∈ l, ∃ x y, f x a = .ok y ∧ R y b'
  | [], _, _, _, _, a, ha => absurd ha List.not_mem_nil
  | a :: l, b, b', hstep, h, a', ha' => by
    rw [List.foldlM_cons] at h
    cases ha : f b a with
    | error e =>
      rw [ha] at h
      cases h
    | ok y =>
      rw [ha] at h
      have hrest : ∀ a'' ∈ l, ∀ x y, f x a'' = .ok y → R x y :=
        fun a'' h'' => hstep a'' (List.mem_cons_of_mem _ h'')
      rcases List.mem_cons.mp ha' with rfl | hmem
      · exact ⟨b, y, ha, foldlM_rel R hrefl htrans l y b' hrest h⟩
      · exact foldlM_step_of_mem R hrefl htrans l y b' hrest h a' hmem

theorem foldlM_error : ∀ (l : List α) (b : β) (e : ε),
    l.foldlM f b = .error e → ∃ a ∈ l, ∃ x, f x a = .error e
  | [], _, _, h => by cases h
  | a :: l, b, e, h => by
    rw [List.foldlM_cons] at h
    cases ha : f b a with
    | error e' =>
      rw [ha] at h
      cases h
      exact ⟨a, List.mem_cons_self, b, ha⟩
    | ok y =>
      rw [ha] at h
      obtain ⟨a', ha', x, hx⟩ := foldlM_error l y e h
      exact ⟨a', List.mem_cons_of_mem _ ha', x, hx⟩

end Folds

namespace Catalog

/-! ## The base walk -/

/-- The type `n` base steps above `t`; none once the walk has ended. -/
def ancestor? (c : Catalog) (t : TypeId) : Nat → Option TypeId
  | 0 => some t
  | n + 1 => (c.baseOf t).bind fun b => c.ancestor? b n

/-- Some type on the base walk from `t` is its own strict ancestor, so the walk never ends. -/
def BaseCycle (c : Catalog) (t : TypeId) : Prop :=
  ∃ k n x, c.ancestor? t k = some x ∧ c.ancestor? x (n + 1) = some x

/-- `i` is a registered interface that extends `j`. -/
def Extends (c : Catalog) (i j : TypeId) : Prop :=
  ∃ d, c.get? i = some d ∧ d.kind = .interfaceType ∧ j ∈ d.interfaces

/-- What a type implements: each interface declared by the type or by a type on its base walk,
and each interface one of those extends. -/
inductive Implements (c : Catalog) : TypeId → TypeId → Prop
  | declared {t i : TypeId} {d : TypeDesc} :
      c.get? t = some d → i ∈ d.interfaces → Implements c t i
  | inherited {t b i : TypeId} : c.baseOf t = some b → Implements c b i → Implements c t i
  | extended {t i j : TypeId} : Implements c t i → c.Extends i j → Implements c t j

/-- A chain of `n` extensions starts at `i`: interfaces nest `n` levels below it. -/
inductive Nested (c : Catalog) : Nat → TypeId → Prop
  | zero (i : TypeId) : Nested c 0 i
  | succ {n : Nat} {i j : TypeId} : c.Extends i j → Nested c n j → Nested c (n + 1) i

variable {c : Catalog}

@[simp] theorem ancestor?_zero (t : TypeId) : c.ancestor? t 0 = some t := rfl

theorem ancestor?_succ (t : TypeId) (n : Nat) :
    c.ancestor? t (n + 1) = (c.baseOf t).bind fun b => c.ancestor? b n := rfl

theorem ancestor?_add (t : TypeId) (m n : Nat) :
    c.ancestor? t (m + n) = (c.ancestor? t m).bind fun x => c.ancestor? x n := by
  induction m generalizing t with
  | zero => simp
  | succ m ih =>
    rw [Nat.add_right_comm, ancestor?_succ, ancestor?_succ]
    cases c.baseOf t with
    | none => rfl
    | some b => exact ih b

theorem ancestor?_one (t : TypeId) : c.ancestor? t 1 = c.baseOf t := by
  rw [ancestor?_succ]
  cases c.baseOf t <;> rfl

theorem ancestor?_succ' (t : TypeId) (n : Nat) :
    c.ancestor? t (n + 1) = (c.ancestor? t n).bind c.baseOf := by
  simp only [ancestor?_add, ancestor?_one]

theorem ancestor?_isSome_of_le {t : TypeId} {m n : Nat} (hmn : m ≤ n)
    (h : (c.ancestor? t n).isSome) : (c.ancestor? t m).isSome := by
  obtain ⟨k, rfl⟩ := Nat.exists_eq_add_of_le hmn
  rw [ancestor?_add] at h
  cases hm : c.ancestor? t m with
  | none => rw [hm] at h; cases h
  | some x => rfl

theorem registered_of_baseOf {t b : TypeId} (h : c.baseOf t = some b) : (c.get? t).isSome := by
  unfold baseOf at h
  cases hg : c.get? t with
  | none => rw [hg] at h; cases h
  | some d => rfl

@[simp] theorem baseOf_object : c.baseOf .object = none := by
  unfold baseOf
  cases c.get? .object <;> simp

theorem BaseCycle.isSome {t : TypeId} (h : c.BaseCycle t) (m : Nat) : (c.ancestor? t m).isSome := by
  obtain ⟨k, n, x, hk, hx⟩ := h
  -- going round the cycle `q` times comes back to `x`
  have hround : ∀ q, c.ancestor? x (q * (n + 1)) = some x := by
    intro q
    induction q with
    | zero => rw [Nat.zero_mul, ancestor?_zero]
    | succ q ih => rw [Nat.succ_mul, ancestor?_add, ih, Option.bind_some, hx]
  have hfar : (c.ancestor? t (k + m * (n + 1))).isSome := by
    rw [ancestor?_add, hk, Option.bind_some, hround]
    rfl
  have hle : m ≤ k + m * (n + 1) := by
    have := Nat.le_mul_of_pos_right m (show 0 < n + 1 by omega)
    omega
  exact ancestor?_isSome_of_le hle hfar

theorem registered_of_ancestor? {t x : TypeId} {n : Nat}
    (h : (c.ancestor? t (n + 1)).isSome) (hx : c.ancestor? t n = some x) : (c.get? x).isSome := by
  rw [ancestor?_succ', hx, Option.bind_some] at h
  obtain ⟨b, hb⟩ := Option.isSome_iff_exists.mp h
  exact registered_of_baseOf hb

/-! ## Interface collection -/

theorem require_eq_ok {t : TypeId} {d : TypeDesc} : c.require t = .ok d ↔ c.get? t = some d := by
  unfold require
  cases c.get? t <;> simp

theorem require_eq_error {t : TypeId} {e : SurfaceFault} (h : c.require t = .error e) :
    c.get? t = none ∧ e = .unknownType t := by
  unfold require at h
  cases hg : c.get? t <;> rw [hg] at h <;> cases h
  exact ⟨rfl, rfl⟩

theorem collectInterface_ok {room : Nat} {i : TypeId} {seen r : List TypeId}
    (h : c.collectInterface (room + 1) i seen = .ok r) :
    ∃ d, c.get? i = some d ∧ d.kind = .interfaceType ∧
      (i ∈ seen ∧ r = seen ∨
        i ∉ seen ∧ d.interfaces.foldlM (fun s b => c.collectInterface room b s) (seen ++ [i]) =
          .ok r) := by
  rw [collectInterface.eq_2] at h
  cases hd : c.require i with
  | error e => rw [hd] at h; cases h
  | ok d =>
    refine ⟨d, require_eq_ok.mp hd, ?_⟩
    by_cases hk : d.kind = .interfaceType
    · by_cases hs : i ∈ seen
      · simp [hd, hk, hs, bind, Except.bind, pure, Except.pure] at h
        exact ⟨hk, .inl ⟨hs, h.symm⟩⟩
      · simp only [hd, hk, hs, bind, Except.bind, bne_self_eq_false, Bool.false_eq_true,
          ↓reduceIte, List.contains_iff_mem] at h
        exact ⟨hk, .inr ⟨hs, h⟩⟩
    · simp [hd, hk, bind, Except.bind, throw, throwThe, MonadExceptOf.throw] at h

theorem collectInterface_cycle_step {room : Nat} {i : TypeId} {seen : List TypeId} {n : String}
    (h : c.collectInterface (room + 1) i seen = .error (.inheritanceCycle n)) :
    ∃ d, c.get? i = some d ∧ d.kind = .interfaceType ∧
      d.interfaces.foldlM (fun s b => c.collectInterface room b s) (seen ++ [i]) =
        .error (.inheritanceCycle n) := by
  rw [collectInterface.eq_2] at h
  cases hd : c.require i with
  | error e =>
    rw [hd] at h
    cases h
    cases (require_eq_error hd).2
  | ok d =>
    refine ⟨d, require_eq_ok.mp hd, ?_⟩
    by_cases hk : d.kind = .interfaceType
    · by_cases hs : i ∈ seen
      · simp [hd, hk, hs, bind, Except.bind, pure, Except.pure] at h
      · simp only [hd, hk, hs, bind, Except.bind, bne_self_eq_false, Bool.false_eq_true,
          ↓reduceIte, List.contains_iff_mem] at h
        exact ⟨hk, h⟩
    · simp [hd, hk, bind, Except.bind, throw, throwThe, MonadExceptOf.throw] at h

theorem collectInterface_zero (i : TypeId) (seen : List TypeId) :
    c.collectInterface 0 i seen = .error (.inheritanceCycle (c.nameOf i)) := rfl

theorem collectInterface_grows : ∀ (room : Nat) (i : TypeId) (seen r : List TypeId),
    c.collectInterface room i seen = .ok r → seen <+: r
  | 0, _, _, _, h => by cases h
  | room + 1, i, seen, r, h => by
    obtain ⟨d, -, -, ⟨-, rfl⟩ | ⟨-, hfold⟩⟩ := collectInterface_ok h
    · exact List.prefix_refl _
    · exact (List.prefix_append seen [i]).trans
        (foldlM_rel (· <+: ·) List.prefix_refl (fun _ _ _ => List.IsPrefix.trans) _ _ _
          (fun b _ x y hb => collectInterface_grows room b x y hb) hfold)

theorem collectInterface_mem_self {room : Nat} {i : TypeId} {seen r : List TypeId}
    (h : c.collectInterface room i seen = .ok r) : i ∈ r := by
  cases room with
  | zero => cases h
  | succ room =>
    obtain ⟨d, -, -, ⟨hi, rfl⟩ | ⟨-, hfold⟩⟩ := collectInterface_ok h
    · exact hi
    · have hpre := foldlM_rel (· <+: ·) List.prefix_refl (fun _ _ _ => List.IsPrefix.trans) _ _ _
        (fun b _ x y hb => collectInterface_grows room b x y hb) hfold
      exact hpre.subset (List.mem_append_right seen (List.mem_singleton_self i))

theorem collectInterface_nodup : ∀ (room : Nat) (i : TypeId) (seen r : List TypeId),
    c.collectInterface room i seen = .ok r → seen.Nodup → r.Nodup
  | 0, _, _, _, h, _ => by cases h
  | room + 1, i, seen, r, h, hseen => by
    obtain ⟨d, -, -, ⟨-, rfl⟩ | ⟨hi, hfold⟩⟩ := collectInterface_ok h
    · exact hseen
    · have hstart : (seen ++ [i]).Nodup :=
        List.nodup_append.mpr ⟨hseen, List.nodup_singleton i,
          fun x hx y hy => by rintro rfl; exact hi (List.mem_singleton.mp hy ▸ hx)⟩
      exact foldlM_rel (fun x y : List TypeId => x.Nodup → y.Nodup) (fun _ h => h)
        (fun _ _ _ h₁ h₂ h => h₂ (h₁ h)) _ _ _
        (fun b _ x y hb => collectInterface_nodup room b x y hb) hfold hstart

theorem collectInterface_sound (P : TypeId → Prop) (hP : ∀ x y, P x → c.Extends x y → P y) :
    ∀ (room : Nat) (i : TypeId) (seen r : List TypeId),
      c.collectInterface room i seen = .ok r → P i →
        ∀ y ∈ r, y ∈ seen ∨ P y ∧ c.kind? y = some .interfaceType
  | 0, _, _, _, h, _ => by cases h
  | room + 1, i, seen, r, h, hi => by
    obtain ⟨d, hd, hk, ⟨-, rfl⟩ | ⟨-, hfold⟩⟩ := collectInterface_ok h
    · exact fun y hy => .inl hy
    · -- what each nested collection adds comes from an interface `i` extends
      have hstep := foldlM_rel
        (fun x y : List TypeId => ∀ z ∈ y, z ∈ x ∨ P z ∧ c.kind? z = some .interfaceType)
        (fun _ z hz => .inl hz)
        (fun _ _ _ h₁ h₂ z hz => (h₂ z hz).elim (h₁ z) .inr) _ _ _
        (fun b hb x y hxy =>
          collectInterface_sound P hP room b x y hxy (hP i b hi ⟨d, hd, hk, hb⟩))
        hfold
      intro y hy
      rcases hstep y hy with hy | hy
      · rcases List.mem_append.mp hy with hy | hy
        · exact .inl hy
        · rw [List.mem_singleton.mp hy]
          exact .inr ⟨hi, by simp [kind?, hd, hk]⟩
      · exact .inr hy

/-- Every interface of `seen` that is not on `stack` has in `seen` each interface it extends. -/
def ClosedExcept (c : Catalog) (stack seen : List TypeId) : Prop :=
  ∀ x ∈ seen, x ∉ stack → ∀ y, c.Extends x y → y ∈ seen

theorem collectInterface_closed : ∀ (room : Nat) (i : TypeId) (stack seen r : List TypeId),
    c.collectInterface room i seen = .ok r → c.ClosedExcept stack seen → c.ClosedExcept stack r
  | 0, _, _, _, _, h, _ => by cases h
  | room + 1, i, stack, seen, r, h, hseen => by
    obtain ⟨d, hd, -, ⟨-, rfl⟩ | ⟨hi, hfold⟩⟩ := collectInterface_ok h
    · exact hseen
    · -- below `i`, the collection runs with `i` open
      have hstart : c.ClosedExcept (i :: stack) (seen ++ [i]) := by
        intro x hx hxs y hxy
        have hxi : x ≠ i := fun h => hxs (h ▸ List.mem_cons_self)
        have hx' : x ∈ seen := by simpa [hxi] using hx
        exact List.mem_append_left _ (hseen x hx' (fun h => hxs (List.mem_cons_of_mem _ h)) y hxy)
      have hfin := foldlM_rel
        (fun x y : List TypeId => c.ClosedExcept (i :: stack) x → c.ClosedExcept (i :: stack) y)
        (fun _ h => h) (fun _ _ _ h₁ h₂ h => h₂ (h₁ h)) _ _ _
        (fun b _ x y hxy => collectInterface_closed room b (i :: stack) x y hxy) hfold hstart
      have hext : ∀ b ∈ d.interfaces, b ∈ r := by
        intro b hb
        obtain ⟨x, y, hxy, hyr⟩ := foldlM_step_of_mem (· <+: ·) List.prefix_refl
          (fun _ _ _ => List.IsPrefix.trans) _ _ _
          (fun b _ x y hb => collectInterface_grows room b x y hb) hfold b hb
        exact hyr.subset (collectInterface_mem_self hxy)
      intro x hx hxs y hxy
      by_cases hxi : x = i
      · -- `i` itself is closed once all it extends has been collected
        subst hxi
        obtain ⟨d', hd', -, hy⟩ := hxy
        rw [hd] at hd'
        cases hd'
        exact hext y hy
      · exact hfin x hx (by simp [hxi, hxs]) y hxy

theorem collectInterface_cycle : ∀ (room : Nat) (i : TypeId) (seen : List TypeId) (n : String),
    c.collectInterface room i seen = .error (.inheritanceCycle n) → c.Nested room i
  | 0, i, _, _, _ => .zero i
  | room + 1, i, seen, n, h => by
    obtain ⟨d, hd, hk, hfold⟩ := collectInterface_cycle_step h
    obtain ⟨b, hb, x, hx⟩ := foldlM_error _ _ _ hfold
    exact .succ ⟨d, hd, hk, hb⟩ (collectInterface_cycle room b x n hx)

/-! ## The interface walk -/

theorem interfaceWalk_ok {root t : TypeId} {room : Nat} {seen r : List TypeId}
    (h : c.interfaceWalk root room (some t) seen = .ok r) :
    ∃ d seen' room', c.get? t = some d ∧
      d.interfaces.foldlM (fun s i => c.collectInterface (hierarchyLimit + 1) i s) seen =
        .ok seen' ∧
      room = room' + 1 ∧ c.interfaceWalk root room' (c.baseOf t) seen' = .ok r := by
  rw [interfaceWalk.eq_2] at h
  cases hd : c.require t with
  | error e => rw [hd] at h; cases h
  | ok d =>
    cases hf :
        d.interfaces.foldlM (fun s i => c.collectInterface (hierarchyLimit + 1) i s) seen with
    | error e => simp [hd, hf, bind, Except.bind] at h
    | ok seen' =>
      cases room with
      | zero => simp [hd, hf, bind, Except.bind, throw, throwThe, MonadExceptOf.throw] at h
      | succ room =>
        simp only [hd, hf, bind, Except.bind] at h
        exact ⟨d, seen', room, require_eq_ok.mp hd, hf, rfl, h⟩

theorem interfaceWalk_error {root t : TypeId} {room : Nat} {seen : List TypeId} {e : SurfaceFault}
    (h : c.interfaceWalk root room (some t) seen = .error e) :
    c.get? t = none ∧ e = .unknownType t ∨
      ∃ d, c.get? t = some d ∧
        (d.interfaces.foldlM (fun s i => c.collectInterface (hierarchyLimit + 1) i s) seen =
            .error e ∨
          ∃ seen', d.interfaces.foldlM (fun s i => c.collectInterface (hierarchyLimit + 1) i s)
              seen = .ok seen' ∧
            (room = 0 ∧ e = .inheritanceCycle (c.nameOf root) ∨
              ∃ room', room = room' + 1 ∧ c.interfaceWalk root room' (c.baseOf t) seen' =
                .error e)) := by
  rw [interfaceWalk.eq_2] at h
  cases hd : c.require t with
  | error e' =>
    rw [hd] at h
    cases h
    exact .inl (require_eq_error hd)
  | ok d =>
    refine .inr ⟨d, require_eq_ok.mp hd, ?_⟩
    cases hf :
        d.interfaces.foldlM (fun s i => c.collectInterface (hierarchyLimit + 1) i s) seen with
    | error e' =>
      simp only [hd, hf, bind, Except.bind] at h
      exact .inl h
    | ok seen' =>
      refine .inr ⟨seen', rfl, ?_⟩
      cases room with
      | zero =>
        simp only [hd, hf, bind, Except.bind, throw, throwThe, MonadExceptOf.throw,
          Except.error.injEq] at h
        exact .inl ⟨rfl, h.symm⟩
      | succ room =>
        simp only [hd, hf, bind, Except.bind] at h
        exact .inr ⟨room, rfl, h⟩

theorem interfaceWalk_grows {root : TypeId} :
    ∀ (room : Nat) (t : Option TypeId) (seen r : List TypeId),
      c.interfaceWalk root room t seen = .ok r → seen <+: r
  | _, none, seen, r, h => by
    rw [interfaceWalk.eq_1] at h
    cases h
    exact List.prefix_refl _
  | room, some t, seen, r, h => by
    obtain ⟨d, seen', room', -, hfold, rfl, hrest⟩ := interfaceWalk_ok h
    exact (foldlM_rel (· <+: ·) List.prefix_refl (fun _ _ _ => List.IsPrefix.trans) _ _ _
      (fun i _ x y hi => collectInterface_grows _ i x y hi) hfold).trans
      (interfaceWalk_grows room' _ seen' r hrest)

theorem interfaceWalk_ends {root : TypeId} :
    ∀ (room : Nat) (t : TypeId) (seen r : List TypeId),
      c.interfaceWalk root room (some t) seen = .ok r → c.ancestor? t room = none
  | room, t, seen, r, h => by
    obtain ⟨d, seen', room', -, -, rfl, hrest⟩ := interfaceWalk_ok h
    rw [ancestor?_succ]
    cases hb : c.baseOf t with
    | none => rfl
    | some b =>
      rw [hb] at hrest
      exact interfaceWalk_ends room' b seen' r hrest

theorem interfaceWalk_nodup {root : TypeId} :
    ∀ (room : Nat) (t : Option TypeId) (seen r : List TypeId),
      c.interfaceWalk root room t seen = .ok r → seen.Nodup → r.Nodup
  | _, none, seen, r, h, hseen => by
    rw [interfaceWalk.eq_1] at h
    cases h
    exact hseen
  | room, some t, seen, r, h, hseen => by
    obtain ⟨d, seen', room', -, hfold, rfl, hrest⟩ := interfaceWalk_ok h
    exact interfaceWalk_nodup room' _ seen' r hrest
      (foldlM_rel (fun x y : List TypeId => x.Nodup → y.Nodup) (fun _ h => h)
        (fun _ _ _ h₁ h₂ h => h₂ (h₁ h)) _ _ _
        (fun i _ x y hi => collectInterface_nodup _ i x y hi) hfold hseen)

theorem interfaceWalk_sound {root : TypeId} :
    ∀ (room : Nat) (t : TypeId) (seen r : List TypeId),
      c.interfaceWalk root room (some t) seen = .ok r →
        ∀ y ∈ r, y ∈ seen ∨ c.Implements t y ∧ c.kind? y = some .interfaceType
  | room, t, seen, r, h => by
    obtain ⟨d, seen', room', hd, hfold, rfl, hrest⟩ := interfaceWalk_ok h
    have hmid := foldlM_rel
      (fun x y : List TypeId =>
        ∀ z ∈ y, z ∈ x ∨ c.Implements t z ∧ c.kind? z = some .interfaceType)
      (fun _ z hz => .inl hz) (fun _ _ _ h₁ h₂ z hz => (h₂ z hz).elim (h₁ z) .inr) _ _ _
      (fun i hi x y hxy => collectInterface_sound (c.Implements t)
        (fun _ _ hx hext => .extended hx hext) _ i x y hxy (.declared hd hi)) hfold
    intro y hy
    cases hb : c.baseOf t with
    | none =>
      rw [hb, interfaceWalk.eq_1] at hrest
      cases hrest
      exact hmid y hy
    | some b =>
      rw [hb] at hrest
      rcases interfaceWalk_sound room' b seen' r hrest y hy with hy | ⟨himp, hk⟩
      · exact hmid y hy
      · exact .inr ⟨.inherited hb himp, hk⟩

theorem interfaceWalk_declared {root : TypeId} :
    ∀ (room : Nat) (t : TypeId) (seen r : List TypeId),
      c.interfaceWalk root room (some t) seen = .ok r →
        ∀ k x d i, c.ancestor? t k = some x → c.get? x = some d → i ∈ d.interfaces →
          i ∈ r
  | room, t, seen, r, h, k, x, d', i, hk, hx, hi => by
    obtain ⟨d, seen', room', hd, hfold, rfl, hrest⟩ := interfaceWalk_ok h
    have hpre := interfaceWalk_grows room' _ seen' r hrest
    cases k with
    | zero =>
      cases hk
      rw [hd] at hx
      cases hx
      obtain ⟨x, y, hxy, hy⟩ := foldlM_step_of_mem (· <+: ·) List.prefix_refl
        (fun _ _ _ => List.IsPrefix.trans) _ _ _
        (fun i _ x y hi => collectInterface_grows _ i x y hi) hfold i hi
      exact (hy.trans hpre).subset (collectInterface_mem_self hxy)
    | succ k =>
      rw [ancestor?_succ] at hk
      cases hb : c.baseOf t with
      | none => rw [hb] at hk; cases hk
      | some b =>
        rw [hb, Option.bind_some] at hk
        rw [hb] at hrest
        exact interfaceWalk_declared room' b seen' r hrest k x d' i hk hx hi

theorem interfaceWalk_closed {root : TypeId} :
    ∀ (room : Nat) (t : Option TypeId) (seen r : List TypeId),
      c.interfaceWalk root room t seen = .ok r → c.ClosedExcept [] seen → c.ClosedExcept [] r
  | _, none, seen, r, h, hseen => by
    rw [interfaceWalk.eq_1] at h
    cases h
    exact hseen
  | room, some t, seen, r, h, hseen => by
    obtain ⟨d, seen', room', -, hfold, rfl, hrest⟩ := interfaceWalk_ok h
    exact interfaceWalk_closed room' _ seen' r hrest
      (foldlM_rel (fun x y : List TypeId => c.ClosedExcept [] x → c.ClosedExcept [] y)
        (fun _ h => h) (fun _ _ _ h₁ h₂ h => h₂ (h₁ h)) _ _ _
        (fun i _ x y hi => collectInterface_closed _ i [] x y hi) hfold hseen)

theorem interfaceWalk_complete {root t : TypeId} {room : Nat} {seen r : List TypeId}
    (h : c.interfaceWalk root room (some t) seen = .ok r) (hseen : c.ClosedExcept [] seen)
    {x y : TypeId} (himp : c.Implements x y) : ∀ k, c.ancestor? t k = some x → y ∈ r := by
  induction himp with
  | declared hd hi => exact fun k hk => interfaceWalk_declared room t seen r h k _ _ _ hk hd hi
  | inherited hb _ ih =>
    exact fun k hk => ih (k + 1) (by rw [ancestor?_succ', hk, Option.bind_some, hb])
  | extended _ hext ih =>
    exact fun k hk => interfaceWalk_closed room (some t) seen r h hseen _ (ih k hk)
      List.not_mem_nil _ hext

theorem interfaceWalk_cycle {root : TypeId} :
    ∀ (room : Nat) (t : TypeId) (seen : List TypeId) (n : String),
      c.interfaceWalk root room (some t) seen = .error (.inheritanceCycle n) →
        (c.ancestor? t room).isSome ∨ ∃ k x d i, c.ancestor? t k = some x ∧
          c.get? x = some d ∧ i ∈ d.interfaces ∧ c.Nested (hierarchyLimit + 1) i
  | room, t, seen, n, h => by
    rcases interfaceWalk_error h with
      ⟨-, he⟩ | ⟨d, hd, hfold | ⟨seen', -, hstop | ⟨room', rfl, hrest⟩⟩⟩
    · cases he
    · -- a declared interface of `t` itself nests too deep
      obtain ⟨i, hi, x, hx⟩ := foldlM_error _ _ _ hfold
      exact .inr ⟨0, t, d, i, rfl, hd, hi, collectInterface_cycle _ i x n hx⟩
    · obtain ⟨rfl, -⟩ := hstop
      exact .inl rfl
    · cases hb : c.baseOf t with
      | none =>
        rw [hb, interfaceWalk.eq_1] at hrest
        cases hrest
      | some b =>
        rw [hb] at hrest
        rcases interfaceWalk_cycle room' b seen' n hrest with
          hlong | ⟨k, x, d', i, hk, hx, hi, hn⟩
        · exact .inl (by rw [ancestor?_succ, hb, Option.bind_some]; exact hlong)
        · exact .inr
            ⟨k + 1, x, d', i, by rw [ancestor?_succ, hb, Option.bind_some, hk], hx, hi, hn⟩

theorem interfaceWalk_error_of_isSome {root t : TypeId} {room : Nat} {seen : List TypeId}
    (h : (c.ancestor? t room).isSome) :
    ∃ e, c.interfaceWalk root room (some t) seen = .error e := by
  cases hw : c.interfaceWalk root room (some t) seen with
  | error e => exact ⟨e, rfl⟩
  | ok r =>
    rw [interfaceWalk_ends room t seen r hw] at h
    cases h

theorem interfaceWalk_plain {root : TypeId} : ∀ (room : Nat) (t : TypeId) (seen : List TypeId),
    (c.ancestor? t room).isSome →
      (∀ k x, c.ancestor? t k = some x → ∃ d, c.get? x = some d ∧ d.interfaces = []) →
        c.interfaceWalk root room (some t) seen = .error (.inheritanceCycle (c.nameOf root))
  | room, t, seen, hlong, hplain => by
    obtain ⟨d, hd, hnone⟩ := hplain 0 t rfl
    rw [interfaceWalk.eq_2, require_eq_ok.mpr hd]
    simp only [bind, Except.bind, hnone, List.foldlM_nil, pure, Except.pure]
    cases room with
    | zero => rfl
    | succ room =>
      rw [ancestor?_succ] at hlong
      cases hb : c.baseOf t with
      | none => rw [hb] at hlong; cases hlong
      | some b =>
        rw [hb, Option.bind_some] at hlong
        exact interfaceWalk_plain room b seen hlong fun k x hk =>
          hplain (k + 1) x (by rw [ancestor?_succ, hb, Option.bind_some, hk])

/-! ## The interfaces of a type -/

section Interfaces

variable {t : TypeId} {is : List TypeId}

theorem interfaces_mem (h : c.interfaces t = .ok is) (y : TypeId) :
    y ∈ is ↔ c.Implements t y := by
  constructor
  · intro hy
    rcases interfaceWalk_sound _ t [] is h y hy with hy | ⟨himp, -⟩
    · exact absurd hy List.not_mem_nil
    · exact himp
  · intro himp
    exact interfaceWalk_complete h (fun _ hx => absurd hx List.not_mem_nil) himp 0 rfl

theorem interfaces_nodup (h : c.interfaces t = .ok is) : is.Nodup :=
  interfaceWalk_nodup _ _ [] is h List.nodup_nil

theorem interfaces_kind (h : c.interfaces t = .ok is) (y : TypeId) (hy : y ∈ is) :
    c.kind? y = some .interfaceType := by
  rcases interfaceWalk_sound _ t [] is h y hy with hy | ⟨-, hk⟩
  · exact absurd hy List.not_mem_nil
  · exact hk

theorem interfaces_ends (h : c.interfaces t = .ok is) : c.ancestor? t hierarchyLimit = none :=
  interfaceWalk_ends _ t [] is h

theorem interfaces_cycle {n : String} (h : c.interfaces t = .error (.inheritanceCycle n)) :
    (c.ancestor? t hierarchyLimit).isSome ∨ ∃ k x d i, c.ancestor? t k = some x ∧
      c.get? x = some d ∧ i ∈ d.interfaces ∧ c.Nested (hierarchyLimit + 1) i :=
  interfaceWalk_cycle _ t [] n h

end Interfaces

/-! ## Class chains -/

theorem mem_entries_of_get? {t : TypeId} {d : TypeDesc} (h : c.get? t = some d) :
    t ∈ c.entries.map (·.1) := by
  unfold get? at h
  obtain ⟨p, hp, rfl⟩ := Option.map_eq_some_iff.mp h
  have hmem := List.mem_reverse.mp (List.mem_of_find?_eq_some hp)
  have hkey : p.1 = t := by simpa using List.find?_some hp
  exact List.mem_map.mpr ⟨p, hmem, hkey⟩

theorem length_le_size {l : List TypeId} (hl : l.Nodup) (hreg : ∀ x ∈ l, (c.get? x).isSome) :
    l.length ≤ c.size := by
  have hsub : l ⊆ c.entries.map (·.1) := fun x hx => by
    obtain ⟨d, hd⟩ := Option.isSome_iff_exists.mp (hreg x hx)
    exact mem_entries_of_get? hd
  simpa [size] using (hl.subperm hsub).length_le

theorem chainWalk_ok {root cur : TypeId} {fuel : Nat} {acc r : List TypeId}
    (h : c.chainWalk root (fuel + 1) cur acc = .ok r) :
    c.baseOf cur = none ∧ r = acc ∨
      ∃ b bd, c.baseOf cur = some b ∧ c.get? b = some bd ∧ bd.kind = .classType ∧
        b ∉ acc ∧ c.chainWalk root fuel b (b :: acc) = .ok r := by
  rw [chainWalk.eq_2] at h
  cases hb : c.baseOf cur with
  | none =>
    rw [hb] at h
    cases h
    exact .inl ⟨rfl, rfl⟩
  | some b =>
    cases hg : c.get? b with
    | none => simp [hb, hg] at h
    | some bd =>
      by_cases hk : bd.kind = .classType
      · by_cases hin : b ∈ acc
        · simp [hb, hg, hk, hin] at h
        · simp only [hb, hg, hk, hin, bne_self_eq_false, Bool.false_eq_true, ↓reduceIte,
            List.contains_iff_mem] at h
          exact .inr ⟨b, bd, rfl, hg, hk, hin, h⟩
      · simp [hb, hg, hk] at h

theorem chainWalk_cycle_step {root cur : TypeId} {fuel : Nat} {acc : List TypeId} {n : String}
    (h : c.chainWalk root (fuel + 1) cur acc = .error (.inheritanceCycle n)) :
    ∃ b, c.baseOf cur = some b ∧ (b ∈ acc ∨ (c.get? b).isSome ∧ b ∉ acc ∧
      c.chainWalk root fuel b (b :: acc) = .error (.inheritanceCycle n)) := by
  rw [chainWalk.eq_2] at h
  cases hb : c.baseOf cur with
  | none => simp [hb] at h
  | some b =>
    cases hg : c.get? b with
    | none => simp [hb, hg] at h
    | some bd =>
      by_cases hk : bd.kind = .classType
      · by_cases hin : b ∈ acc
        · exact ⟨b, rfl, .inl hin⟩
        · simp only [hb, hg, hk, hin, bne_self_eq_false, Bool.false_eq_true, ↓reduceIte,
            List.contains_iff_mem] at h
          exact ⟨b, rfl, .inr ⟨by simp [hg], hin, h⟩⟩
      · simp [hb, hg, hk] at h

theorem chainWalk_mem {root : TypeId} : ∀ (fuel : Nat) (cur : TypeId) (acc r : List TypeId),
    c.chainWalk root fuel cur acc = .ok r →
      ∀ x, x ∈ r ↔ x ∈ acc ∨ ∃ k, c.ancestor? cur (k + 1) = some x
  | 0, _, _, _, h => by cases h
  | fuel + 1, cur, acc, r, h => by
    rcases chainWalk_ok h with ⟨hb, rfl⟩ | ⟨b, bd, hb, -, -, -, hrest⟩
    · intro x
      simp [ancestor?_succ, hb]
    · intro x
      rw [chainWalk_mem fuel b (b :: acc) r hrest x]
      simp only [ancestor?_succ, hb, Option.bind_some, List.mem_cons]
      constructor
      · rintro ((rfl | hx) | ⟨k, hk⟩)
        · exact .inr ⟨0, rfl⟩
        · exact .inl hx
        · exact .inr ⟨k + 1, hk⟩
      · rintro (hx | ⟨k, hk⟩)
        · exact .inl (.inr hx)
        · cases k with
          | zero => exact .inl (.inl (Option.some.inj hk).symm)
          | succ k => exact .inr ⟨k, hk⟩

theorem chainWalk_kind {root : TypeId} : ∀ (fuel : Nat) (cur : TypeId) (acc r : List TypeId),
    c.chainWalk root fuel cur acc = .ok r → ∀ x ∈ r, x ∈ acc ∨ c.kind? x = some .classType
  | 0, _, _, _, h => by cases h
  | fuel + 1, cur, acc, r, h => by
    rcases chainWalk_ok h with ⟨-, rfl⟩ | ⟨b, bd, -, hg, hk, -, hrest⟩
    · exact fun x hx => .inl hx
    · intro x hx
      rcases chainWalk_kind fuel b (b :: acc) r hrest x hx with hx | hx
      · rcases List.mem_cons.mp hx with rfl | hx
        · exact .inr (by simp [kind?, hg, hk])
        · exact .inl hx
      · exact .inr hx

theorem chainWalk_cycle {root : TypeId} :
    ∀ (fuel : Nat) (cur : TypeId) (acc : List TypeId) (n : String),
      c.chainWalk root fuel cur acc = .error (.inheritanceCycle n) →
      acc.Nodup → (∀ x ∈ acc, (c.get? x).isSome) → c.size < acc.length + fuel →
      (∀ x ∈ acc, ∃ i, c.ancestor? x i = some cur) →
        (∃ j, c.ancestor? root j = some cur) → c.BaseCycle root
  | 0, _, acc, _, _, hnd, hreg, hroom, _, _ => by
    have := length_le_size hnd hreg
    omega
  | fuel + 1, cur, acc, n, h, hnd, hreg, hroom, hreach, ⟨j, hj⟩ => by
    obtain ⟨b, hb, hrep | ⟨hbreg, hnew, hrest⟩⟩ := chainWalk_cycle_step h
    · -- the base is already on the chain: it is its own strict ancestor
      obtain ⟨i, hi⟩ := hreach b hrep
      refine ⟨j + 1, i, b, ?_, ?_⟩
      · rw [ancestor?_succ', hj, Option.bind_some, hb]
      · rw [ancestor?_succ', hi, Option.bind_some, hb]
    · refine chainWalk_cycle fuel b (b :: acc) n hrest (List.nodup_cons.mpr ⟨hnew, hnd⟩)
        (fun x hx => ?_) (by simp only [List.length_cons]; omega) (fun x hx => ?_)
        ⟨j + 1, by rw [ancestor?_succ', hj, Option.bind_some, hb]⟩
      · rcases List.mem_cons.mp hx with rfl | hx
        · exact hbreg
        · exact hreg x hx
      · rcases List.mem_cons.mp hx with rfl | hx
        · exact ⟨0, rfl⟩
        · obtain ⟨i, hi⟩ := hreach x hx
          exact ⟨i + 1, by rw [ancestor?_succ', hi, Option.bind_some, hb]⟩

theorem chain_of_unregistered {t : TypeId} (hd : c.get? t = none) :
    c.chain t = .error (.unknownType t) := by
  unfold chain require
  rw [hd]
  rfl

theorem chain_of_interface {t : TypeId} {d : TypeDesc} (hd : c.get? t = some d)
    (hk : d.kind = .interfaceType) : c.chain t = .ok [.object] := by
  unfold chain
  simp [require_eq_ok.mpr hd, hk, bind, Except.bind, pure, Except.pure]

theorem chain_of_class {t : TypeId} {d : TypeDesc} (hd : c.get? t = some d)
    (hk : d.kind ≠ .interfaceType) : c.chain t = c.chainWalk t (c.size + 1) t [t] := by
  unfold chain
  simp [require_eq_ok.mpr hd, hk, bind, Except.bind]

theorem chain_mem {t : TypeId} {ch : List TypeId} (h : c.chain t = .ok ch)
    (hk : c.kind? t ≠ some .interfaceType) (x : TypeId) :
    x ∈ ch ↔ ∃ k, c.ancestor? t k = some x := by
  cases hd : c.get? t with
  | none =>
    rw [chain_of_unregistered hd] at h
    cases h
  | some d =>
    have hk' : d.kind ≠ .interfaceType := fun h => hk (by simp [kind?, hd, h])
    rw [chain_of_class hd hk'] at h
    rw [chainWalk_mem _ t [t] ch h x, List.mem_singleton]
    constructor
    · rintro (rfl | ⟨k, hk⟩)
      · exact ⟨0, rfl⟩
      · exact ⟨k + 1, hk⟩
    · rintro ⟨k, hk⟩
      cases k with
      | zero => exact .inl (Option.some.inj hk).symm
      | succ k => exact .inr ⟨k, hk⟩

theorem chain_kind {t : TypeId} {ch : List TypeId} (h : c.chain t = .ok ch) (x : TypeId)
    (hx : x ∈ ch) : x = t ∨ x = .object ∨ c.kind? x = some .classType := by
  cases hd : c.get? t with
  | none =>
    rw [chain_of_unregistered hd] at h
    cases h
  | some d =>
    by_cases hk : d.kind = .interfaceType
    · rw [chain_of_interface hd hk] at h
      cases h
      exact .inr (.inl (List.mem_singleton.mp hx))
    · rw [chain_of_class hd hk] at h
      rcases chainWalk_kind _ t [t] ch h x hx with hx | hx
      · exact .inl (List.mem_singleton.mp hx)
      · exact .inr (.inr hx)

theorem chain_cycle {t : TypeId} {n : String} (h : c.chain t = .error (.inheritanceCycle n)) :
    c.BaseCycle t := by
  cases hd : c.get? t with
  | none =>
    rw [chain_of_unregistered hd] at h
    cases h
  | some d =>
    by_cases hk : d.kind = .interfaceType
    · rw [chain_of_interface hd hk] at h
      cases h
    · rw [chain_of_class hd hk] at h
      exact chainWalk_cycle _ t [t] n h (List.nodup_singleton t)
        (fun x hx => by rw [List.mem_singleton.mp hx, hd]; rfl)
        (by simp only [List.length_singleton]; omega)
        (fun x hx => ⟨0, by rw [List.mem_singleton.mp hx]; rfl⟩) ⟨0, rfl⟩

end Catalog

end Understudy
