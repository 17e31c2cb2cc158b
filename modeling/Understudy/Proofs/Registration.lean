import Understudy.Proofs.Caching

set_option autoImplicit false

/-!
# Registering types

A registration files a description under the id the catalogue's counter shows and moves the
counter on by one. The counter is a 32-bit word that wraps without notice. From the built-in
catalogue the first 2^32 − 16 registrations get the ids 16, 17, …, 2^32 − 1; the next one gets
the invalid id 0, the one after it gets `Object`'s id 1 and hides `Object`'s description, and
from then on ids repeat.

`Catalog.registerAll` runs registrations one after another. `Catalog.FreshRun` says what such a
run promises: the ids it hands out are distinct user ids, no description registered before any
point of the run is replaced, each description reads back under the id its registration returned,
and a lookup by name finds the newest registration under that name, or what the catalogue answered
before for a name the run never used. `Catalog.Room` is the invariant behind it: the ids the
counter hands out next are unregistered and come before the wrap. The cache's coherence
(`CacheStep.register`) asks for exactly the freshness `Room` gives each step.

Main result: `registration_fresh_iff`, a run from the built-in catalogue keeps its promises exactly
when it registers at most 2^32 − 16 types. `wrapped_counter_hides_object` is the run one
registration further, which hands out `Object`'s id again.
-/

namespace Understudy

namespace Catalog

def registerAll (c : Catalog) : List TypeDesc → List TypeId × Catalog
  | [] => ([], c)
  | d :: ds =>
    let r := (c.register d).2.registerAll ds
    ((c.register d).1 :: r.1, r.2)

variable {c : Catalog} {ds : List TypeDesc}

theorem register_fst (c : Catalog) (d : TypeDesc) : (c.register d).1 = ⟨c.next⟩ := rfl

theorem register_next (c : Catalog) (d : TypeDesc) : (c.register d).2.next = c.next + 1 := rfl

theorem registerAll_cons (c : Catalog) (d : TypeDesc) (ds : List TypeDesc) :
    c.registerAll (d :: ds) =
      ((c.register d).1 :: ((c.register d).2.registerAll ds).1,
        ((c.register d).2.registerAll ds).2) := rfl

theorem registerAll_append (c : Catalog) (ds es : List TypeDesc) :
    c.registerAll (ds ++ es) =
      ((c.registerAll ds).1 ++ ((c.registerAll ds).2.registerAll es).1,
        ((c.registerAll ds).2.registerAll es).2) := by
  induction ds generalizing c with
  | nil => rfl
  | cons d ds ih => rw [List.cons_append, registerAll_cons, ih, registerAll_cons, List.cons_append]

theorem registerAll_next (c : Catalog) (ds : List TypeDesc) :
    (c.registerAll ds).2.next = c.next + UInt32.ofNat ds.length := by
  induction ds generalizing c with
  | nil => simp [registerAll]
  | cons d ds ih =>
    rw [registerAll_cons, ih, register_next, List.length_cons, UInt32.ofNat_add, UInt32.ofNat_one,
      UInt32.add_assoc, UInt32.add_comm 1]

theorem registerAll_ids (c : Catalog) (ds : List TypeDesc) :
    (c.registerAll ds).1 = (List.range ds.length).map fun i => ⟨c.next + UInt32.ofNat i⟩ := by
  induction ds generalizing c with
  | nil => rfl
  | cons d ds ih =>
    rw [registerAll_cons, ih, register_fst, register_next, List.length_cons,
      List.range_succ_eq_map, List.map_cons, List.map_map]
    refine congrArg₂ List.cons (by simp) (List.map_congr_left fun i _ => ?_)
    rw [Function.comp_apply, Nat.succ_eq_add_one, UInt32.ofNat_add, UInt32.ofNat_one,
      UInt32.add_assoc, UInt32.add_comm 1]

theorem toNat_add_ofNat (x : UInt32) (i : Nat) :
    (x + UInt32.ofNat i).toNat = (x.toNat + i) % UInt32.size := by
  rw [UInt32.toNat_add, UInt32.toNat_ofNat', Nat.add_mod_mod]

/-! ## Room: ids still to come -/

/-- The next `k` ids the counter hands out are unregistered, and handing them out does not wrap
the counter. -/
structure Room (c : Catalog) (k : Nat) : Prop where
  fits : c.next.toNat + k ≤ UInt32.size
  free : ∀ t : TypeId, c.next.toNat ≤ t.raw.toNat → t.raw.toNat < c.next.toNat + k →
    c.get? t = none

theorem Room.mono {k j : Nat} (h : c.Room k) (hj : j ≤ k) : c.Room j where
  fits := Nat.le_trans (Nat.add_le_add_left hj _) h.fits
  free t h₁ h₂ := h.free t h₁ (Nat.lt_of_lt_of_le h₂ (Nat.add_le_add_left hj _))

theorem Room.fresh {k : Nat} (h : c.Room (k + 1)) : c.get? ⟨c.next⟩ = none :=
  h.free ⟨c.next⟩ (Nat.le_refl _) (by simp only; omega)

theorem Room.toNat_add {k i : Nat} (h : c.Room k) (hi : i < k) :
    (c.next + UInt32.ofNat i).toNat = c.next.toNat + i := by
  have hfits := h.fits
  rw [toNat_add_ofNat]
  exact Nat.mod_eq_of_lt (by omega)

theorem Room.register {k : Nat} (h : c.Room (k + 1)) (d : TypeDesc) : (c.register d).2.Room k := by
  rcases Nat.eq_zero_or_pos k with rfl | hk
  · -- the last id of the room: the counter may wrap, but nothing is left to promise
    exact ⟨Nat.le_of_lt (c.register d).2.next.toNat_lt, fun t h₁ h₂ => absurd h₂ (by omega)⟩
  · have hfits := h.fits
    have hnext : (c.register d).2.next.toNat = c.next.toNat + 1 := by
      rw [register_next, ← UInt32.ofNat_one, h.toNat_add (by omega)]
    refine ⟨by omega, fun t h₁ h₂ => ?_⟩
    rw [hnext] at h₁ h₂
    have hne : t ≠ ⟨c.next⟩ := by
      rintro rfl
      exact absurd h₁ (by simp only; omega)
    rw [get?_register, if_neg hne]
    exact h.free t (by omega) (by omega)

theorem Room.registerAll {k : Nat} :
    ∀ {c : Catalog} {ds : List TypeDesc}, c.Room (ds.length + k) → (c.registerAll ds).2.Room k
  | c, [], h => by
    show c.Room k
    simpa using h
  | c, d :: ds, h => by
    rw [registerAll_cons]
    exact Room.registerAll ((show c.Room (ds.length + k + 1) by
      simpa [Nat.add_right_comm] using h).register d)

theorem Room.keeps : ∀ {c : Catalog} {ds : List TypeDesc}, c.Room ds.length →
    c.Keeps (c.registerAll ds).2
  | c, [], _ => Keeps.refl c
  | c, d :: ds, h => by
    rw [registerAll_cons]
    exact (keeps_register h.fresh d).trans (Room.keeps (h.register d))

theorem Room.toNat_of_mem (h : c.Room ds.length) {t : TypeId} (ht : t ∈ (c.registerAll ds).1) :
    ∃ i < ds.length, t.raw.toNat = c.next.toNat + i := by
  rw [registerAll_ids] at ht
  obtain ⟨i, hi, rfl⟩ := List.mem_map.mp ht
  have hi : i < ds.length := List.mem_range.mp hi
  exact ⟨i, hi, h.toNat_add hi⟩

theorem Room.nodup (h : c.Room ds.length) : (c.registerAll ds).1.Nodup := by
  rw [registerAll_ids]
  refine List.nodup_range.map_on fun i hi j hj hij => ?_
  have hval : (c.next + UInt32.ofNat i).toNat = (c.next + UInt32.ofNat j).toNat :=
    congrArg (fun t : TypeId => t.raw.toNat) hij
  rw [h.toNat_add (List.mem_range.mp hi), h.toNat_add (List.mem_range.mp hj)] at hval
  omega

/-! ## Lookups by name -/

theorem lookup_register (c : Catalog) (d : TypeDesc) (name : String) :
    (c.register d).2.lookup name = if d.name = name then some ⟨c.next⟩ else c.lookup name := by
  unfold lookup register
  simp only [List.reverse_append, List.reverse_cons, List.reverse_nil, List.nil_append,
    List.singleton_append, List.find?_cons]
  by_cases hn : d.name = name
  · simp [hn]
  · have hne : (d.name == name) = false := beq_false_of_ne hn
    rw [hne, if_neg hn]

theorem lookup_registerAll_of_unused (name : String) :
    ∀ {c : Catalog} {ds : List TypeDesc}, (∀ d ∈ ds, d.name ≠ name) →
      (c.registerAll ds).2.lookup name = c.lookup name
  | _, [], _ => rfl
  | c, d :: ds, h => by
    rw [registerAll_cons, lookup_registerAll_of_unused name fun e he => h e (List.mem_cons_of_mem d he),
      lookup_register, if_neg (h d List.mem_cons_self)]

/-! ## Runs that keep their promises -/

/-- What a run of registrations from `c` promises. -/
structure FreshRun (c : Catalog) (ds : List TypeDesc) : Prop where
  /-- No id is handed out twice. -/
  nodup : (c.registerAll ds).1.Nodup
  /-- Every id handed out is a user id, above the built-in ones. -/
  user : ∀ t ∈ (c.registerAll ds).1, TypeId.firstUser ≤ t.raw
  /-- What was registered at any point of the run is still registered, unchanged, at its end. -/
  keeps : ∀ pre post, ds = pre ++ post → (c.registerAll pre).2.Keeps (c.registerAll ds).2
  /-- Each description reads back under the id its registration returned. -/
  get : ∀ pre d post, ds = pre ++ d :: post →
    (c.registerAll ds).2.get? ((c.registerAll pre).2.register d).1 = some d
  /-- A name finds its newest registration. -/
  newest : ∀ pre d post, ds = pre ++ d :: post → (∀ e ∈ post, e.name ≠ d.name) →
    (c.registerAll ds).2.lookup d.name = some ((c.registerAll pre).2.register d).1
  /-- A name the run never used finds what it found before the run. -/
  unused : ∀ name, (∀ d ∈ ds, d.name ≠ name) → (c.registerAll ds).2.lookup name = c.lookup name

theorem Room.freshRun (h : c.Room ds.length) (huser : TypeId.firstUser ≤ c.next) :
    c.FreshRun ds where
  nodup := h.nodup
  user t ht := by
    obtain ⟨i, -, hi⟩ := h.toNat_of_mem ht
    rw [UInt32.le_iff_toNat_le, hi]
    exact Nat.le_add_right_of_le (UInt32.le_iff_toNat_le.mp huser)
  keeps pre post hds := by
    subst hds
    rw [registerAll_append]
    exact Room.keeps (Room.registerAll (by simpa using h))
  get pre d post hds := by
    subst hds
    have hpre : (c.registerAll pre).2.Room (post.length + 1) :=
      Room.registerAll (by simpa [Nat.add_comm, Nat.add_left_comm] using h)
    rw [registerAll_append, registerAll_cons]
    exact (Room.keeps (hpre.register d)).registered (by rw [get?_register, register_fst, if_pos rfl])
  newest pre d post hds hpost := by
    subst hds
    rw [registerAll_append, registerAll_cons, lookup_registerAll_of_unused d.name hpost,
      lookup_register, if_pos rfl]
    rfl
  unused name hname := lookup_registerAll_of_unused name hname

theorem standard_room : standard.Room (UInt32.size - TypeId.firstUser.toNat) where
  fits := by decide
  free t ht _ := by
    have h16 : 16 ≤ t.raw.toNat := ht
    have hne : ∀ n : UInt32, n.toNat < 16 → (⟨n⟩ : TypeId) ≠ t := by
      rintro n hn rfl
      exact absurd h16 (Nat.not_le_of_lt hn)
    simp [get?, standard, TypeId.object, TypeId.void, TypeId.bool, TypeId.int, TypeId.float,
      TypeId.string, hne 1 (by decide), hne 2 (by decide), hne 3 (by decide), hne 4 (by decide),
      hne 5 (by decide), hne 6 (by decide)]

end Catalog

/-- A run of registrations from the built-in catalogue hands out fresh, distinct user ids,
replaces no description, reads each description back under its id and finds the newest
registration of each name, exactly when it registers at most 2^32 − 16 types: the next
registration gets id 0, as the 32-bit counter wraps. -/
theorem registration_fresh_iff (ds : List TypeDesc) :
    Catalog.standard.FreshRun ds ↔ ds.length ≤ UInt32.size - TypeId.firstUser.toNat := by
  constructor
  · intro hrun
    by_contra hlong
    have h16 : TypeId.firstUser.toNat = 16 := rfl
    -- the registration at position 2^32 − 16 is handed the wrapped id 0
    have hzero : (⟨0⟩ : TypeId) ∈ (Catalog.standard.registerAll ds).1 := by
      rw [Catalog.registerAll_ids]
      exact List.mem_map.mpr ⟨UInt32.size - 16, List.mem_range.mpr (by omega),
        by decide⟩
    exact absurd (hrun.user _ hzero) (by decide)
  · intro hlen
    exact (Catalog.standard_room.mono hlen).freshRun (by decide)

def pastWrap : List TypeDesc := List.replicate (UInt32.size - 14) (TypeDesc.classType "T")

/-- One registration past the wrap, the run hands out `Object`'s id again and `Object`'s
description is no longer registered: the run breaks its promises. -/
theorem wrapped_counter_hides_object :
    (Catalog.standard.registerAll pastWrap).1.getLast? = some TypeId.object ∧
      (Catalog.standard.registerAll pastWrap).2.get? TypeId.object = some (TypeDesc.classType "T") ∧
      ¬ Catalog.standard.FreshRun pastWrap := by
  have hsplit : pastWrap = List.replicate (UInt32.size - 15) (TypeDesc.classType "T") ++
      [TypeDesc.classType "T"] := by
    rw [pastWrap, ← List.replicate_succ']
    rfl
  have hnext : (Catalog.standard.registerAll
      (List.replicate (UInt32.size - 15) (TypeDesc.classType "T"))).2.next = 1 := by
    rw [Catalog.registerAll_next, List.length_replicate]
    decide
  have hlast : (Catalog.standard.registerAll pastWrap).1.getLast? = some TypeId.object := by
    rw [hsplit, Catalog.registerAll_append, Catalog.registerAll_cons, Catalog.register_fst, hnext]
    exact List.getLast?_concat
  have hobject : (Catalog.standard.registerAll pastWrap).2.get? TypeId.object =
      some (TypeDesc.classType "T") := by
    rw [hsplit, Catalog.registerAll_append, Catalog.registerAll_cons]
    simp only [Catalog.registerAll, Catalog.get?_register, hnext]
    rfl
  refine ⟨hlast, hobject, fun hrun => ?_⟩
  have hmem : TypeId.object ∈ (Catalog.standard.registerAll pastWrap).1 :=
    List.mem_of_getLast? hlast
  exact absurd (hrun.user _ hmem) (by decide)

end Understudy
