import Understudy.Proofs.Ancestry

set_option autoImplicit false

/-!
# Class chains end, and are well formed

The class chain of a type follows base references from the type up to `Object`. The code's loop
has no step budget: it ends because each step must add a registered class not on the chain yet,
and it refuses a base met before as a cycle. `Catalog.BaseLoop` is that loop as a relation, with
no budget; `Catalog.chainWalk` runs it with a budget of one step per registered type, and the
budget never runs out (`chainWalk_loop`): the chain so far holds distinct registered types, so it
never grows past the catalogue. `Catalog.ChainRun` adds the checks before the loop.

A chain that comes out is well formed (`Catalog.ChainFrom`): it runs from `Object` to the type,
holds each type once, and links each type to its base. The interface walk and the derivation test
need no such argument: their recursion is bounded by the depth guards of the code itself.

Main result: `chains_terminate_well_formed`.
-/

namespace Understudy

namespace Catalog

/-- The class-chain loop, with no step budget: from `cur`, with the chain so far (the type met
last first), the loop ends with `r`. -/
inductive BaseLoop (c : Catalog) (root : TypeId) :
    TypeId → List TypeId → Except SurfaceFault (List TypeId) → Prop
  | done {cur : TypeId} {acc : List TypeId} :
      c.baseOf cur = none → BaseLoop c root cur acc (.ok acc)
  | unregistered {cur b : TypeId} {acc : List TypeId} :
      c.baseOf cur = some b → c.get? b = none →
      BaseLoop c root cur acc (.error (.invalidBase (c.nameOf cur) b .unregistered))
  | notClass {cur b : TypeId} {acc : List TypeId} {bd : TypeDesc} :
      c.baseOf cur = some b → c.get? b = some bd → bd.kind ≠ .classType →
      BaseLoop c root cur acc (.error (.invalidBase (c.nameOf cur) b .notClass))
  | repeated {cur b : TypeId} {acc : List TypeId} {bd : TypeDesc} :
      c.baseOf cur = some b → c.get? b = some bd → bd.kind = .classType → b ∈ acc →
      BaseLoop c root cur acc (.error (.inheritanceCycle (c.nameOf root)))
  | step {cur b : TypeId} {acc : List TypeId} {bd : TypeDesc} {r : Except SurfaceFault (List TypeId)} :
      c.baseOf cur = some b → c.get? b = some bd → bd.kind = .classType → b ∉ acc →
      BaseLoop c root b (b :: acc) r → BaseLoop c root cur acc r

variable {c : Catalog} {root : TypeId}

theorem BaseLoop.unique {cur : TypeId} {acc : List TypeId} {r₁ r₂ : Except SurfaceFault (List TypeId)}
    (h₁ : BaseLoop c root cur acc r₁) (h₂ : BaseLoop c root cur acc r₂) : r₁ = r₂ := by
  induction h₁ with
  | done hb => cases h₂ <;> simp_all
  | unregistered hb hg => cases h₂ <;> simp_all
  | notClass hb hg hk => cases h₂ <;> simp_all
  | repeated hb hg hk hin => cases h₂ <;> simp_all
  | step hb hg hk hin _ ih => cases h₂ <;> simp_all

theorem chainWalk_loop : ∀ (fuel : Nat) (cur : TypeId) (acc : List TypeId),
    acc.Nodup → (∀ x ∈ acc, (c.get? x).isSome) → c.size < acc.length + fuel →
      BaseLoop c root cur acc (c.chainWalk root fuel cur acc)
  | 0, _, acc, hnd, hreg, hroom => absurd (length_le_size hnd hreg) (by omega)
  | fuel + 1, cur, acc, hnd, hreg, hroom => by
    rw [chainWalk.eq_2]
    cases hb : c.baseOf cur with
    | none => exact .done hb
    | some b =>
      cases hg : c.get? b with
      | none =>
        simp only [hg]
        exact .unregistered hb hg
      | some bd =>
        by_cases hk : bd.kind = .classType
        · by_cases hin : b ∈ acc
          · simp only [hg, hk, hin, bne_self_eq_false, Bool.false_eq_true, ↓reduceIte,
              List.contains_iff_mem]
            exact .repeated hb hg hk hin
          · simp only [hg, hk, hin, bne_self_eq_false, Bool.false_eq_true, ↓reduceIte,
              List.contains_iff_mem]
            refine .step hb hg hk hin (chainWalk_loop fuel b (b :: acc)
              (List.nodup_cons.mpr ⟨hin, hnd⟩) (fun x hx => ?_) (by simp only [List.length_cons]; omega))
            rcases List.mem_cons.mp hx with rfl | hx
            · simp [hg]
            · exact hreg x hx
        · simp only [hg, hk, bne_iff_ne, ne_eq, not_false_eq_true, ↓reduceIte]
          exact .notClass hb hg hk

/-- A chain walked from `root` so far, now at `cur`, the type met last first: it starts at `cur`
and ends at `root`, holds distinct registered types, classes but for `root`, and each type is the
base of the one after it. -/
structure ChainFrom (c : Catalog) (root cur : TypeId) (acc : List TypeId) : Prop where
  head : acc.head? = some cur
  last : acc.getLast? = some root
  nodup : acc.Nodup
  registered : ∀ x ∈ acc, (c.get? x).isSome
  classes : ∀ x ∈ acc, x ≠ root → c.kind? x = some .classType
  links : acc.IsChain fun x y => c.baseOf y = some x

theorem ChainFrom.start {t : TypeId} (ht : (c.get? t).isSome) : ChainFrom c t t [t] where
  head := rfl
  last := rfl
  nodup := List.nodup_singleton t
  registered x hx := by rwa [List.mem_singleton.mp hx]
  classes x hx hne := absurd (List.mem_singleton.mp hx) hne
  links := .singleton t

theorem ChainFrom.step {cur b : TypeId} {acc : List TypeId} {bd : TypeDesc}
    (h : ChainFrom c root cur acc) (hb : c.baseOf cur = some b) (hg : c.get? b = some bd)
    (hk : bd.kind = .classType) (hin : b ∉ acc) : ChainFrom c root b (b :: acc) := by
  obtain ⟨rest, rfl⟩ : ∃ rest, acc = cur :: rest := by
    cases acc with
    | nil => cases h.head
    | cons a rest => exact ⟨rest, by rw [Option.some.inj h.head]⟩
  refine ⟨rfl, ?_, List.nodup_cons.mpr ⟨hin, h.nodup⟩, fun x hx => ?_, fun x hx hne => ?_, ?_⟩
  · rw [List.getLast?_cons, h.last]
    rfl
  · rcases List.mem_cons.mp hx with rfl | hx
    · simp [hg]
    · exact h.registered x hx
  · rcases List.mem_cons.mp hx with rfl | hx
    · simp [kind?, hg, hk]
    · exact h.classes x hx hne
  · exact List.isChain_cons_cons.mpr ⟨hb, h.links⟩

theorem BaseLoop.chainFrom {cur : TypeId} {acc : List TypeId} {res : Except SurfaceFault (List TypeId)}
    (h : BaseLoop c root cur acc res) (hacc : ChainFrom c root cur acc) :
    ∀ r, res = .ok r → ∃ last, ChainFrom c root last r ∧ c.baseOf last = none := by
  induction h with
  | done hb =>
    intro r hr
    cases hr
    exact ⟨_, hacc, hb⟩
  | unregistered | notClass | repeated => intro r hr; cases hr
  | step hb hg hk hin _ ih => exact ih (hacc.step hb hg hk hin)

theorem eq_object_of_baseOf {x : TypeId} (hx : (c.get? x).isSome)
    (hk : c.kind? x ≠ some .interfaceType) (hb : c.baseOf x = none) : x = .object := by
  obtain ⟨d, hd⟩ := Option.isSome_iff_exists.mp hx
  have hk' : d.kind ≠ .interfaceType := fun h => hk (by simp [kind?, hd, h])
  unfold baseOf at hb
  rw [hd] at hb
  by_contra hne
  simp [hk', hne] at hb

/-- The class chain as the code computes it, with no step budget: an unknown type fails, an
interface has the chain `[Object]`, and any other type runs the base loop from itself. -/
inductive ChainRun (c : Catalog) (t : TypeId) : Except SurfaceFault (List TypeId) → Prop
  | unknown : c.get? t = none → ChainRun c t (.error (.unknownType t))
  | interface {d : TypeDesc} : c.get? t = some d → d.kind = .interfaceType →
      ChainRun c t (.ok [.object])
  | loop {d : TypeDesc} {r : Except SurfaceFault (List TypeId)} : c.get? t = some d →
      d.kind ≠ .interfaceType → BaseLoop c t t [t] r → ChainRun c t r

theorem baseLoop_chainWalk {t : TypeId} (ht : (c.get? t).isSome) :
    BaseLoop c t t [t] (c.chainWalk t (c.size + 1) t [t]) :=
  chainWalk_loop _ t [t] (List.nodup_singleton t)
    (fun x hx => by rwa [List.mem_singleton.mp hx]) (by simp only [List.length_singleton]; omega)

theorem chainRun_iff (t : TypeId) (r : Except SurfaceFault (List TypeId)) :
    ChainRun c t r ↔ c.chain t = r := by
  constructor
  · rintro (hd | ⟨hd, hk⟩ | ⟨hd, hk, hloop⟩)
    · exact chain_of_unregistered hd
    · exact chain_of_interface hd hk
    · rw [chain_of_class hd hk]
      exact (baseLoop_chainWalk (by simp [hd])).unique hloop
  · rintro rfl
    cases hd : c.get? t with
    | none =>
      rw [chain_of_unregistered hd]
      exact .unknown hd
    | some d =>
      by_cases hk : d.kind = .interfaceType
      · rw [chain_of_interface hd hk]
        exact .interface hd hk
      · rw [chain_of_class hd hk]
        exact .loop hd hk (baseLoop_chainWalk (by simp [hd]))

end Catalog

/-- **Class chains terminate and are well formed.** For every catalogue (cycles, dangling and
ill-kinded bases included) and every type, the class chain computed with no step budget has
exactly one outcome, the one `Catalog.chain` gives. When that outcome is a chain of a type other
than an interface, it starts at `Object`, ends at the type, holds no type twice and only
registered types, all classes but the type itself, and each of its types after the first has the
one before as its base. -/
theorem chains_terminate_well_formed (c : Catalog) (t : TypeId) :
    (∀ r, c.ChainRun t r ↔ c.chain t = r) ∧
    ∀ ch, c.chain t = .ok ch → c.kind? t ≠ some .interfaceType →
      ch.head? = some .object ∧ ch.getLast? = some t ∧ ch.Nodup ∧
      (∀ x ∈ ch, (c.get? x).isSome) ∧ (∀ x ∈ ch, x ≠ t → c.kind? x = some .classType) ∧
      ∀ (i : Nat) (hi : i + 1 < ch.length), c.baseOf ch[i + 1] = some ch[i] := by
  refine ⟨Catalog.chainRun_iff t, fun ch hch hk => ?_⟩
  cases hd : c.get? t with
  | none =>
    rw [Catalog.chain_of_unregistered hd] at hch
    cases hch
  | some d =>
    have hk' : d.kind ≠ .interfaceType := fun h => hk (by simp [Catalog.kind?, hd, h])
    have ht : (c.get? t).isSome := by simp [hd]
    rw [Catalog.chain_of_class hd hk'] at hch
    obtain ⟨last, hch', hb⟩ :=
      (Catalog.baseLoop_chainWalk ht).chainFrom (Catalog.ChainFrom.start ht) ch hch
    have hlast : last = .object := by
      refine Catalog.eq_object_of_baseOf (hch'.registered last ?_) ?_ hb
      · exact List.mem_of_mem_head? hch'.head
      · intro hi
        by_cases hlt : last = t
        · exact hk (hlt ▸ hi)
        · rw [hch'.classes last (List.mem_of_mem_head? hch'.head) hlt] at hi
          cases hi
    subst hlast
    exact ⟨hch'.head, hch'.last, hch'.nodup, hch'.registered, hch'.classes,
      List.isChain_iff_getElem.mp hch'.links⟩

def circleCatalog : Catalog :=
  ((Catalog.standard.register (.classType "Shape")).2.register
    { TypeDesc.classType "Circle" with base := some ⟨16⟩ }).2

/-- The chain of `Circle` runs from `Object` through `Shape`, each type the base of the next. -/
theorem circle_chain_well_formed :
    circleCatalog.chain ⟨17⟩ = .ok [.object, ⟨16⟩, ⟨17⟩] ∧
      circleCatalog.kind? ⟨17⟩ ≠ some .interfaceType ∧
      circleCatalog.baseOf ⟨17⟩ = some ⟨16⟩ ∧ circleCatalog.baseOf ⟨16⟩ = some .object :=
  have hch : circleCatalog.chain ⟨17⟩ = .ok [.object, ⟨16⟩, ⟨17⟩] := rfl
  have hk : circleCatalog.kind? ⟨17⟩ ≠ some .interfaceType := by decide
  have hlinks := ((chains_terminate_well_formed circleCatalog ⟨17⟩).2 _ hch hk).2.2.2.2.2
  ⟨hch, hk, hlinks 1 (by decide), hlinks 0 (by decide)⟩

end Understudy
