import Understudy.Proofs.Overriding

set_option autoImplicit false

/-!
# Cycle reports

Three walks can refuse a hierarchy as an inheritance cycle. The chain walk meets a base it has
already passed; the interface walk gives up once it has passed `hierarchyLimit` types; interface
collection gives up below `hierarchyLimit` nested extensions, and passes over an interface it has
already collected. So a cycle report means only that the hierarchy is past what the walks follow
(`Catalog.TooDeep`). Every base cycle is, and is refused, but so is a long enough chain without
one. A surface lists no interface twice unless the type implements itself.
-/

namespace Understudy

namespace Catalog

variable {c : Catalog} {t : TypeId}

/-- The hierarchy above `t` is past what the walks follow: the base walk from `t` goes on for
`hierarchyLimit` steps, or an interface declared along it nests more than `hierarchyLimit`
levels deep. -/
def TooDeep (c : Catalog) (t : TypeId) : Prop :=
  (c.ancestor? t hierarchyLimit).isSome ∨ ∃ k x d i, c.ancestor? t k = some x ∧
    c.get? x = some d ∧ i ∈ d.interfaces ∧ c.Nested (hierarchyLimit + 1) i

theorem BaseCycle.tooDeep (h : c.BaseCycle t) : c.TooDeep t := .inl (h.isSome _)

theorem BaseCycle.registered (h : c.BaseCycle t) {k : Nat} {x : TypeId}
    (hx : c.ancestor? t k = some x) : (c.get? x).isSome :=
  registered_of_ancestor? (h.isSome (k + 1)) hx

theorem not_baseCycle_object : ¬ c.BaseCycle .object := by
  rintro ⟨k, n, x, hk, hx⟩
  cases k with
  | zero =>
    cases hk
    simp [ancestor?_succ] at hx
  | succ k => simp [ancestor?_succ] at hk

end Catalog

/-! ## Which stage reports a cycle -/

theorem compute_cycle_tooDeep {c : Catalog} {t : TypeId} {n : String}
    (h : Surface.compute c t = .error (.inheritanceCycle n)) : c.TooDeep t := by
  cases hd : c.get? t with
  | none =>
    rw [compute_of_unregistered hd] at h
    cases h
  | some d =>
    rcases (compute_error_iff hd _).mp h with hi | ⟨is, -, hch | ⟨ch, -, hr⟩⟩
    · exact Catalog.interfaces_cycle hi
    · -- the chain refuses only a base cycle, and `Object` has none
      have hcyc := Catalog.chain_cycle hch
      unfold classTypeOf at hcyc
      split at hcyc
      · exact absurd hcyc Catalog.not_baseCycle_object
      · exact hcyc.tooDeep
    · obtain ⟨m, detail, he⟩ := SignatureTable.resolve_error hr
      cases he

theorem compute_error_of_baseCycle {c : Catalog} {t : TypeId} (hcyc : c.BaseCycle t) :
    ∃ e, Surface.compute c t = .error e := by
  obtain ⟨d, hd⟩ := Option.isSome_iff_exists.mp (hcyc.registered (k := 0) rfl)
  obtain ⟨e, he⟩ : ∃ e, c.interfaces t = .error e :=
    Catalog.interfaceWalk_error_of_isSome (hcyc.isSome _)
  exact ⟨e, (compute_error_iff hd e).mpr (.inl he)⟩

theorem compute_cycle_of_baseCycle {c : Catalog} {t : TypeId} (hcyc : c.BaseCycle t)
    (hplain : ∀ k x d, c.ancestor? t k = some x → c.get? x = some d → d.interfaces = []) :
    Surface.compute c t = .error (.inheritanceCycle (c.nameOf t)) := by
  obtain ⟨d, hd⟩ := Option.isSome_iff_exists.mp (hcyc.registered (k := 0) rfl)
  have hwalk : c.interfaces t = .error (.inheritanceCycle (c.nameOf t)) :=
    Catalog.interfaceWalk_plain _ t [] (hcyc.isSome _) fun k x hx => by
      obtain ⟨dx, hdx⟩ := Option.isSome_iff_exists.mp (hcyc.registered hx)
      exact ⟨dx, hdx, hplain k x dx hx hdx⟩
  exact (compute_error_iff hd _).mpr (.inl hwalk)

/-! ## Interfaces listed once -/

theorem implemented_nodup {c : Catalog} {t : TypeId} {s : Surface}
    (h : Surface.compute c t = .ok s) (hself : ¬ c.Implements t t) : s.implemented.Nodup := by
  obtain ⟨d, hd⟩ := registered_of_compute h
  obtain ⟨is, hi, himpl, -⟩ := implemented_of_compute hd h
  rw [himpl]
  split
  · exact List.nodup_cons.mpr
      ⟨fun ht => hself ((Catalog.interfaces_mem hi t).mp ht), Catalog.interfaces_nodup hi⟩
  · exact Catalog.interfaces_nodup hi

/-- The amended account of cycle reports: a report means the hierarchy is too deep for the walks,
every base cycle is refused (as a cycle when no interface is declared along it), and a type that
does not implement itself lists each interface once, in its interface sets too. -/
theorem cycle_reports_bounded_by_depth (c : Catalog) (t : TypeId) :
    (∀ n, Surface.compute c t = .error (.inheritanceCycle n) → c.TooDeep t) ∧
    (c.BaseCycle t → (∃ e, Surface.compute c t = .error e) ∧
      ((∀ k x d, c.ancestor? t k = some x → c.get? x = some d → d.interfaces = []) →
        Surface.compute c t = .error (.inheritanceCycle (c.nameOf t)))) ∧
    (∀ s, Surface.compute c t = .ok s → ¬ c.Implements t t →
      s.implemented.Nodup ∧ (s.interfaceSets.map (·.iface)).Nodup) :=
  ⟨fun _ h => compute_cycle_tooDeep h,
    fun hcyc => ⟨compute_error_of_baseCycle hcyc, compute_cycle_of_baseCycle hcyc⟩,
    fun _ h hself =>
      have hnd := implemented_nodup h hself
      ⟨hnd, (interfaceSets_sublist h).nodup hnd⟩⟩

def twoClassCycle : Catalog :=
  ((Catalog.standard.register { TypeDesc.classType "First" with base := some ⟨17⟩ }).2.register
    { TypeDesc.classType "Second" with base := some ⟨16⟩ }).2

theorem twoClassCycle_ancestor (k : Nat) :
    twoClassCycle.ancestor? ⟨16⟩ k = some ⟨16⟩ ∨ twoClassCycle.ancestor? ⟨16⟩ k = some ⟨17⟩ := by
  induction k with
  | zero => exact .inl rfl
  | succ k ih =>
    rw [Catalog.ancestor?_succ']
    rcases ih with h | h <;> rw [h]
    · exact .inr rfl
    · exact .inl rfl

/-- Two classes deriving from each other are refused as a cycle through the first, and their
hierarchy is too deep for the walks. -/
theorem two_class_cycle_refused :
    twoClassCycle.BaseCycle ⟨16⟩ ∧
      (∀ k x d, twoClassCycle.ancestor? ⟨16⟩ k = some x → twoClassCycle.get? x = some d →
        d.interfaces = []) ∧
      Surface.compute twoClassCycle ⟨16⟩ = .error (.inheritanceCycle "First") ∧
      twoClassCycle.TooDeep ⟨16⟩ := by
  have hcyc : twoClassCycle.BaseCycle ⟨16⟩ := ⟨0, 1, ⟨16⟩, rfl, rfl⟩
  have hplain : ∀ k x d, twoClassCycle.ancestor? ⟨16⟩ k = some x → twoClassCycle.get? x = some d →
      d.interfaces = [] := by
    intro k x d hx hd
    rcases twoClassCycle_ancestor k with h | h <;> rw [h] at hx <;> cases hx <;> cases hd <;> rfl
  have hcompute := ((cycle_reports_bounded_by_depth twoClassCycle ⟨16⟩).2.1 hcyc).2 hplain
  exact ⟨hcyc, hplain, hcompute, (cycle_reports_bounded_by_depth twoClassCycle ⟨16⟩).1 _ hcompute⟩

/-! ## A chain too long for the walks -/

def chainLink (k : Nat) : TypeDesc :=
  { TypeDesc.classType "C" with
    base := if k = 0 then none else some ⟨TypeId.firstUser + (k - 1).toUInt32⟩ }

def classChain (n : Nat) : Catalog :=
  (List.range n).foldl (fun c k => (c.register (chainLink k)).2) Catalog.standard

set_option maxRecDepth 20000 in
/-- The last of 128 classes in one chain declares no interface and has no base cycle, yet its
surface is refused as an inheritance cycle: with `Object` the chain holds 129 types, one more
than the interface walk follows. -/
theorem deep_chain_reported_as_cycle :
    (classChain 128).entries.all (·.2.interfaces.isEmpty) = true ∧
    (classChain 128).ancestor? ⟨143⟩ (hierarchyLimit + 1) = none ∧
    ¬ (classChain 128).BaseCycle ⟨143⟩ ∧
    Surface.compute (classChain 128) ⟨143⟩ = .error (.inheritanceCycle "C") := by
  have hends : (classChain 128).ancestor? ⟨143⟩ (hierarchyLimit + 1) = none := by decide +kernel
  refine ⟨by decide +kernel, hends, fun hcyc => ?_, by rfl⟩
  have := hcyc.isSome (hierarchyLimit + 1)
  rw [hends] at this
  cases this

end Understudy
