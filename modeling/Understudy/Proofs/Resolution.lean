import Mathlib.Data.List.Induction
import Mathlib.Data.List.Nodup
import Understudy.Surface.Basic

set_option autoImplicit false

/-!
# Surface resolution against its reference

The surface of a class or value type is computed by filling a signature table level by level along
the type's chain, collapsing each bucket by successive challenges, and sorting the winners. This
module states what that computes without the table: the declarations along the chain in chain
order (`declarationsAlong`), the signatures in the order they are first seen (`signaturesAlong`),
and each signature's declaration on the deepest level that declares it (`winnersAlong`).

The table is the reference table of the declarations (`table_along`); resolution of a table whose
buckets rise in rank ends at each bucket's last entry, and succeeds only when ranks rise strictly
(`resolve_along`); sorting the winners splits into three independent collections
(`Resolved.foldl_take`). `surface_resolves_deepest` puts these together.
-/

namespace Understudy

def levelDeclarations (level : TypeId) (rank : Nat) (members : List Member) :
    List (Signature × Candidate) :=
  members.filterMap fun m =>
    if m.isStatic then none else (Signature.of? m).map fun s => (s, ⟨level, rank, m⟩)

def declarationsAlong (c : Catalog) (chain : List TypeId) : List (Signature × Candidate) :=
  chain.zipIdx.flatMap fun (level, rank) =>
    levelDeclarations level rank ((c.get? level).map (·.members) |>.getD [])

def declarationsOf (c : Catalog) (chain : List TypeId) (k : Signature) : List Candidate :=
  ((declarationsAlong c chain).filter (·.1 == k)).map (·.2)

def signaturesAlong (c : Catalog) (chain : List TypeId) : List Signature :=
  ((declarationsAlong c chain).map (·.1)).eraseDups

def winnersAlong (c : Catalog) (chain : List TypeId) : List (Signature × Candidate) :=
  (signaturesAlong c chain).filterMap fun k => (declarationsOf c chain k).getLast?.map (k, ·)

def SignatureTable.ofDeclarations (ds : List (Signature × Candidate)) : SignatureTable :=
  ⟨(ds.map (·.1)).eraseDups.map fun k => (k, (ds.filter (·.1 == k)).map (·.2))⟩

namespace Candidate

def isInterceptable (w : Candidate) : Bool :=
  w.decl.visibility.isReachable && w.decl.mods.isOverridable

def inaccessibleAbstract? (w : Candidate) : Option String :=
  if w.decl.isAbstract && !w.decl.visibility.isReachable then some w.decl.name else none

def settable? (w : Candidate) : Option PropertyEntry :=
  match w.decl.shape with
  | .property ty true true =>
    if w.decl.visibility.isReachable && !w.decl.mods.isOverridable then
      some ⟨w.declaring, w.decl.name, ty, true, true, w.decl.isAbstract⟩
    else none
  | _ => none

end Candidate

theorem eraseDups_concat {α : Type} [BEq α] [LawfulBEq α] (l : List α) (a : α) :
    (l ++ [a]).eraseDups = if a ∈ l then l.eraseDups else l.eraseDups ++ [a] := by
  rw [List.eraseDups_append]
  split
  · rename_i h
    simp [List.removeAll, h]
  · rename_i h
    simp [List.removeAll, h, List.eraseDups_cons]

theorem nodup_eraseDups {α : Type} [BEq α] [LawfulBEq α] (l : List α) : l.eraseDups.Nodup := by
  induction l using List.reverseRecOn with
  | nil => simp [List.eraseDups]
  | append_singleton l a ih =>
    rw [eraseDups_concat]
    split
    · exact ih
    · rename_i ha
      rw [List.nodup_append]
      refine ⟨ih, List.nodup_singleton a, fun x hx y hy => ?_⟩
      rw [List.mem_singleton] at hy
      rintro rfl
      exact ha (hy ▸ List.mem_eraseDups.mp hx)

/-! ## The table along a chain -/

namespace SignatureTable

theorem any_ofDeclarations (ds : List (Signature × Candidate)) (s : Signature) :
    (ofDeclarations ds).buckets.any (·.1 == s) = true ↔ s ∈ ds.map (·.1) := by
  simp [ofDeclarations, List.mem_eraseDups]

theorem insert_ofDeclarations (ds : List (Signature × Candidate)) (s : Signature)
    (cand : Candidate) : (ofDeclarations ds).insert s cand = ofDeclarations (ds ++ [(s, cand)]) := by
  have hfilter : ∀ k, ((ds ++ [(s, cand)]).filter (·.1 == k)).map (·.2) =
      (ds.filter (·.1 == k)).map (·.2) ++ if s = k then [cand] else [] := by
    intro k
    by_cases h : s = k <;> simp [List.filter_append, h]
  unfold insert
  split
  · -- a signature seen before: its bucket gains the candidate, the order stays
    rename_i hany
    have hs := (any_ofDeclarations ds s).mp hany
    simp only [ofDeclarations, List.map_append, List.map_cons, List.map_nil, eraseDups_concat,
      if_pos hs, List.map_map, mk.injEq]
    refine List.map_congr_left fun k _ => ?_
    rw [hfilter]
    by_cases h : s = k
    · subst h
      simp
    · simp [h, Ne.symm h]
  · -- a new signature: a new bucket at the end, holding only the candidate
    rename_i hany
    have hs : s ∉ ds.map (·.1) := fun h => hany ((any_ofDeclarations ds s).mpr h)
    simp only [ofDeclarations, List.map_append, List.map_cons, List.map_nil, eraseDups_concat,
      if_neg hs, mk.injEq]
    congr 1
    · refine List.map_congr_left fun k hk => ?_
      have hne : s ≠ k := fun h => hs (h ▸ List.mem_eraseDups.mp hk)
      rw [hfilter, if_neg hne, List.append_nil]
    · have hnil : ds.filter (·.1 == s) = [] :=
        List.filter_eq_nil_iff.mpr fun x hx hxs => hs (by
          simp only [beq_iff_eq] at hxs
          exact hxs ▸ List.mem_map_of_mem hx)
      rw [hfilter, if_pos rfl, hnil]
      rfl

theorem foldl_insert_ofDeclarations (ds ds' : List (Signature × Candidate)) :
    ds'.foldl (fun t d => t.insert d.1 d.2) (ofDeclarations ds) = ofDeclarations (ds ++ ds') := by
  induction ds' generalizing ds with
  | nil => simp
  | cons d ds' ih =>
    rw [List.foldl_cons, insert_ofDeclarations, ih, List.append_assoc]
    rfl

theorem addLevel_eq (t : SignatureTable) (level : TypeId) (rank : Nat) (ms : List Member) :
    t.addLevel level rank ms =
      (levelDeclarations level rank ms).foldl (fun t d => t.insert d.1 d.2) t := by
  induction ms generalizing t with
  | nil => rfl
  | cons m ms ih =>
    simp only [addLevel, List.foldl_cons] at ih ⊢
    rw [ih]
    by_cases hst : m.isStatic = true
    · simp [levelDeclarations, hst]
    · cases hs : Signature.of? m <;> simp [levelDeclarations, hst, hs]

theorem table_along (c : Catalog) (chain : List TypeId) :
    chain.zipIdx.foldl (fun tb (level, rank) =>
      tb.addLevel level rank ((c.get? level).map (·.members) |>.getD [])) empty =
      ofDeclarations (declarationsAlong c chain) := by
  rw [declarationsAlong, ← List.nil_append (List.flatMap _ _), ← foldl_insert_ofDeclarations,
    List.foldl_flatMap]
  congr 1
  funext tb x
  obtain ⟨level, rank⟩ := x
  exact addLevel_eq tb level rank _

/-! ## Most-derived resolution -/

theorem challenge_ok {tn : String} {w cand w' : Candidate} (hle : w.rank ≤ cand.rank)
    (h : challenge tn w cand = .ok w') : w' = cand ∧ w.rank < cand.rank := by
  unfold challenge at h
  split at h
  · cases h
  · rename_i hne
    have hlt : w.rank < cand.rank := Nat.lt_of_le_of_ne hle fun heq => hne (by simp [heq])
    split at h
    · split at h
      · cases h
      · cases h
        simp [hlt]
    · cases h
      simp [hlt]

theorem foldlM_challenge (tn : String) :
    ∀ (rest : List Candidate) (w w' : Candidate), (w :: rest).Pairwise (·.rank ≤ ·.rank) →
      rest.foldlM (challenge tn) w = .ok w' →
      (w :: rest).Pairwise (·.rank < ·.rank) ∧ (w :: rest).getLast? = some w'
  | [], w, w', _, h => by
    cases h
    simp
  | cand :: rest, w, w', hp, h => by
    obtain ⟨hw, hrest⟩ := List.pairwise_cons.mp hp
    rw [List.foldlM_cons] at h
    cases hc : challenge tn w cand with
    | error f =>
      rw [hc] at h
      cases h
    | ok w₁ =>
      rw [hc] at h
      obtain ⟨rfl, hlt⟩ := challenge_ok (hw cand List.mem_cons_self) hc
      obtain ⟨hsorted, hlast⟩ := foldlM_challenge tn rest w₁ w' hrest h
      refine ⟨List.pairwise_cons.mpr ⟨fun a ha => ?_, hsorted⟩, ?_⟩
      · -- the challenger is above the old winner, and every later one is at least as deep
        rcases List.mem_cons.mp ha with rfl | ha
        · exact hlt
        · exact Nat.lt_of_lt_of_le hlt ((List.pairwise_cons.mp hrest).1 a ha)
      · rw [List.getLast?_cons_cons]
        exact hlast

theorem mostDerived_ok {tn : String} {cs : List Candidate} {w : Candidate}
    (hp : cs.Pairwise (·.rank ≤ ·.rank)) (h : mostDerived tn cs = .ok w) :
    cs.Pairwise (·.rank < ·.rank) ∧ cs.getLast? = some w := by
  cases cs with
  | nil => cases h
  | cons first rest => exact foldlM_challenge tn rest first w hp h

theorem mapM_mostDerived {tn : String} (cands : Signature → List Candidate)
    (hp : ∀ k, (cands k).Pairwise (·.rank ≤ ·.rank)) :
    ∀ (ks : List Signature) (rs : List (Signature × Candidate)),
      (ks.map fun k => (k, cands k)).mapM (fun (s, cs) => do pure (s, ← mostDerived tn cs)) =
        .ok rs →
      (∀ k ∈ ks, (cands k).Pairwise (·.rank < ·.rank)) ∧
        rs = ks.filterMap fun k => (cands k).getLast?.map (k, ·)
  | [], rs, h => by
    rw [List.map_nil, List.mapM_nil] at h
    cases h
    simp
  | k :: ks, rs, h => by
    rw [List.map_cons, List.mapM_cons] at h
    dsimp only at h
    cases hm : mostDerived tn (cands k) with
    | error f =>
      rw [hm] at h
      cases h
    | ok w =>
      rw [hm] at h
      cases hrest : (ks.map fun k => (k, cands k)).mapM
          (fun (s, cs) => do pure (s, ← mostDerived tn cs)) with
      | error f =>
        rw [hrest] at h
        cases h
      | ok rs' =>
        rw [hrest] at h
        cases h
        obtain ⟨hks, rfl⟩ := mapM_mostDerived cands hp ks rs' hrest
        obtain ⟨hk, hlast⟩ := mostDerived_ok (hp k) hm
        refine ⟨fun k' hk' => ?_, by simp [hlast]⟩
        rcases List.mem_cons.mp hk' with rfl | hk'
        · exact hk
        · exact hks k' hk'

end SignatureTable

theorem rank_of_mem_levelDeclarations {level : TypeId} {rank : Nat} {ms : List Member}
    {d : Signature × Candidate} (hd : d ∈ levelDeclarations level rank ms) : d.2.rank = rank := by
  simp only [levelDeclarations, List.mem_filterMap] at hd
  obtain ⟨m, -, hm⟩ := hd
  split at hm
  · cases hm
  · cases hs : Signature.of? m
    · simp [hs] at hm
    · simp only [hs, Option.map_some, Option.some.injEq] at hm
      subst hm
      rfl

theorem declarationsAlong_sorted (c : Catalog) (chain : List TypeId) :
    (declarationsAlong c chain).Pairwise (·.2.rank ≤ ·.2.rank) := by
  have hidx : chain.zipIdx.Pairwise (·.2 < ·.2) := by
    have h : (chain.zipIdx.map Prod.snd).Pairwise (· < ·) := by
      rw [List.zipIdx_map_snd]
      exact List.pairwise_lt_range'
    exact List.pairwise_map.mp h
  rw [declarationsAlong, List.pairwise_flatMap]
  refine ⟨fun x _ => ?_, hidx.imp fun {x y} hlt d hd d' hd' => ?_⟩
  · obtain ⟨level, rank⟩ := x
    -- one level's declarations all carry the level's rank
    exact List.pairwise_of_forall_mem_list fun d hd d' hd' => Nat.le_of_eq
      ((rank_of_mem_levelDeclarations hd).trans (rank_of_mem_levelDeclarations hd').symm)
  · obtain ⟨level, rank⟩ := x
    obtain ⟨level', rank'⟩ := y
    rw [rank_of_mem_levelDeclarations hd, rank_of_mem_levelDeclarations hd']
    exact Nat.le_of_lt hlt

theorem declarationsOf_eq_nil {c : Catalog} {chain : List TypeId} {k : Signature}
    (hk : k ∉ signaturesAlong c chain) : declarationsOf c chain k = [] := by
  rw [declarationsOf, List.map_eq_nil_iff, List.filter_eq_nil_iff]
  intro d hd hdk
  rw [beq_iff_eq] at hdk
  exact hk (List.mem_eraseDups.mpr (hdk ▸ List.mem_map_of_mem hd))

theorem declarationsOf_ne_nil {c : Catalog} {chain : List TypeId} {k : Signature}
    (hk : k ∈ signaturesAlong c chain) : declarationsOf c chain k ≠ [] := by
  obtain ⟨d, hd, rfl⟩ := List.mem_map.mp (List.mem_eraseDups.mp hk)
  exact List.ne_nil_of_mem (List.mem_map_of_mem (List.mem_filter.mpr ⟨hd, beq_self_eq_true _⟩))

theorem winnersAlong_keys (c : Catalog) (chain : List TypeId) :
    (winnersAlong c chain).map (·.1) = signaturesAlong c chain := by
  rw [winnersAlong, List.map_filterMap]
  conv_rhs => rw [← List.filterMap_some (l := signaturesAlong c chain)]
  refine List.filterMap_congr fun k hk => ?_
  obtain ⟨w, hw⟩ :=
    Option.isSome_iff_exists.mp (List.getLast?_isSome.mpr (declarationsOf_ne_nil hk))
  simp [hw]

theorem resolve_along {c : Catalog} {chain : List TypeId} {tn : String}
    {rs : List (Signature × Candidate)}
    (h : (SignatureTable.ofDeclarations (declarationsAlong c chain)).resolve tn = .ok rs) :
    (∀ k, (declarationsOf c chain k).Pairwise (·.rank < ·.rank)) ∧ rs = winnersAlong c chain := by
  have hp : ∀ k, (declarationsOf c chain k).Pairwise (·.rank ≤ ·.rank) := fun k =>
    List.pairwise_map.mpr ((declarationsAlong_sorted c chain).filter _)
  obtain ⟨hks, hrs⟩ :=
    SignatureTable.mapM_mostDerived (declarationsOf c chain) hp (signaturesAlong c chain) rs h
  refine ⟨fun k => ?_, hrs⟩
  by_cases hk : k ∈ signaturesAlong c chain
  · exact hks k hk
  · rw [declarationsOf_eq_nil hk]
    exact List.Pairwise.nil

/-! ## Sorting the winners -/

namespace Resolved

variable (r : Resolved) (s : Signature) (w : Candidate)

theorem take_own : (r.take s w).own = if w.isInterceptable then r.own.push w else r.own := by
  unfold take Candidate.isInterceptable
  by_cases ho : (w.decl.visibility.isReachable && w.decl.mods.isOverridable) = true
  · simp only [ho, ↓reduceIte]
    split_ifs <;> rfl
  · simp only [ho, Bool.false_eq_true, ↓reduceIte]
    split <;> split_ifs <;> rfl

theorem take_inaccessibleAbstract :
    (r.take s w).inaccessibleAbstract = r.inaccessibleAbstract ++ w.inaccessibleAbstract?.toList := by
  unfold take Candidate.inaccessibleAbstract?
  by_cases ho : (w.decl.visibility.isReachable && w.decl.mods.isOverridable) = true
  · simp only [ho, ↓reduceIte]
    split_ifs <;> simp
  · simp only [ho, Bool.false_eq_true, ↓reduceIte]
    split <;> split_ifs <;> simp

theorem take_settableProperties :
    (r.take s w).settableProperties = r.settableProperties ++ w.settable?.toList := by
  unfold take
  by_cases ho : (w.decl.visibility.isReachable && w.decl.mods.isOverridable) = true
  · -- an intercepted winner is never settable
    have hnone : w.settable? = none := by
      unfold Candidate.settable?
      split
      · simp_all
      · rfl
    simp only [ho, ↓reduceIte, hnone, Option.toList_none, List.append_nil]
    split_ifs <;> rfl
  · simp only [ho, Bool.false_eq_true, ↓reduceIte]
    -- otherwise the shape decides: only a readable and writable property can be settable
    cases hsh : w.decl.shape with
    | property ty rd wr =>
      cases rd <;> cases wr <;> simp only [hsh, Candidate.settable?, Candidate.asProperty?]
      case true.true =>
        by_cases hr : w.decl.visibility.isReachable = true
        · have hov : w.decl.mods.isOverridable = false := by simpa [hr] using ho
          simp only [hr, hov, Bool.not_false, Bool.and_self, ↓reduceIte, Option.toList_some]
          split_ifs <;> rfl
        · simp only [hr, Bool.false_eq_true, ↓reduceIte, Bool.false_and, Option.toList_none,
            List.append_nil]
          split_ifs <;> rfl
      all_goals split_ifs <;> simp
    | _ =>
      simp only [hsh, Candidate.settable?]
      split_ifs <;> simp

theorem foldl_take (rs : List (Signature × Candidate)) (r : Resolved) :
    (rs.foldl (fun r (s, w) => r.take s w) r).own =
        (rs.filter (·.2.isInterceptable)).foldl (fun e w => e.push w.2) r.own ∧
      (rs.foldl (fun r (s, w) => r.take s w) r).inaccessibleAbstract =
        r.inaccessibleAbstract ++ rs.filterMap (·.2.inaccessibleAbstract?) ∧
      (rs.foldl (fun r (s, w) => r.take s w) r).settableProperties =
        r.settableProperties ++ rs.filterMap (·.2.settable?) := by
  induction rs generalizing r with
  | nil => simp
  | cons sw rs ih =>
    obtain ⟨s, w⟩ := sw
    obtain ⟨hown, hia, hset⟩ := ih (r.take s w)
    rw [List.foldl_cons]
    refine ⟨?_, ?_, ?_⟩
    · rw [hown, take_own]
      by_cases hi : w.isInterceptable <;> simp [hi]
    · rw [hia, take_inaccessibleAbstract]
      cases h : w.inaccessibleAbstract? <;> simp [h]
    · rw [hset, take_settableProperties]
      cases h : w.settable? <;> simp [h]

end Resolved

/-! ## The surface -/

theorem compute_resolves {c : Catalog} {t : TypeId} {s : Surface}
    (hkind : c.kind? t ≠ some .interfaceType) (hs : Surface.compute c t = .ok s) :
    ∃ tn chain rs, c.chain t = .ok chain ∧
      (SignatureTable.ofDeclarations (declarationsAlong c chain)).resolve tn = .ok rs ∧
      s.own = (rs.foldl (fun (r : Resolved) (s, w) => r.take s w) {}).own ∧
      s.inaccessibleAbstract =
        (rs.foldl (fun (r : Resolved) (s, w) => r.take s w) {}).inaccessibleAbstract ∧
      s.settableProperties =
        (rs.foldl (fun (r : Resolved) (s, w) => r.take s w) {}).settableProperties := by
  unfold Surface.compute at hs
  cases hd : c.require t with
  | error f =>
    rw [hd] at hs
    cases hs
  | ok d =>
    -- a class or value type is its own chain's last level; no interface set comes first
    have hk : (d.kind == TypeKind.interfaceType) = false := by
      have hget : c.get? t = some d := by
        unfold Catalog.require at hd
        split at hd <;> cases hd
        assumption
      simp only [Catalog.kind?, hget, Option.map_some, ne_eq, Option.some.injEq] at hkind
      simpa using hkind
    simp only [hd, hk, bind, Except.bind, pure, Except.pure, Bool.false_eq_true, ↓reduceIte] at hs
    cases hi : c.interfaces t with
    | error f =>
      rw [hi] at hs
      cases hs
    | ok is =>
      cases hch : c.chain t with
      | error f =>
        simp only [hi, hch] at hs
        cases hs
      | ok chain =>
        simp only [hi, hch, SignatureTable.table_along] at hs
        cases hr : (SignatureTable.ofDeclarations (declarationsAlong c chain)).resolve d.name with
        | error f =>
          rw [hr] at hs
          cases hs
        | ok rs =>
          rw [hr] at hs
          cases hs
          exact ⟨d.name, chain, rs, rfl, hr, rfl, rfl, rfl⟩

/-- The surface of a class or value type is its reference: along the type's chain no signature is
declared twice on one level, and the surface intercepts, in first-seen order and once per
signature, the deepest declaration of each signature that outside code can override; it names the
deepest declarations that are abstract and out of reach, and lists the deepest reachable, readable
and writable properties that no one can override. -/
theorem surface_resolves_deepest (c : Catalog) (t : TypeId) (s : Surface)
    (hkind : c.kind? t ≠ some .interfaceType) (hs : Surface.compute c t = .ok s) :
    ∃ chain, c.chain t = .ok chain ∧ ((winnersAlong c chain).map (·.1)).Nodup ∧
      (∀ k, (declarationsOf c chain k).Pairwise (·.rank < ·.rank)) ∧
      s.own = ((winnersAlong c chain).filter (·.2.isInterceptable)).foldl
        (fun e w => e.push w.2) {} ∧
      s.inaccessibleAbstract = (winnersAlong c chain).filterMap (·.2.inaccessibleAbstract?) ∧
      s.settableProperties = (winnersAlong c chain).filterMap (·.2.settable?) := by
  obtain ⟨tn, chain, rs, hch, hr, hown, hia, hset⟩ := compute_resolves hkind hs
  obtain ⟨hstrict, rfl⟩ := resolve_along hr
  obtain ⟨hown', hia', hset'⟩ := Resolved.foldl_take (winnersAlong c chain) {}
  refine ⟨chain, hch, winnersAlong_keys c chain ▸ nodup_eraseDups _, hstrict, ?_, ?_, ?_⟩
  · rw [hown, hown']
  · rw [hia, hia', List.nil_append]
  · rw [hset, hset', List.nil_append]

def sealedOverrideCatalog : Catalog :=
  let base : TypeDesc := { TypeDesc.classType "Base" with
    members := [(Member.method "Run" [] .void).withMods { virtual := true },
      { Member.method "Check" [] .bool with visibility := .internal, mods := { abstract := true } },
      Member.property "Name" .string, (Member.property "Size" .int).withMods { virtual := true }] }
  let sealedDesc : TypeDesc := { TypeDesc.classType "Sealed" with
    base := some ⟨16⟩,
    members := [(Member.method "Run" [] .void).withMods { override := true, sealed := true }] }
  ((Catalog.standard.register base).2.register sealedDesc).2

example : (Surface.compute sealedOverrideCatalog ⟨17⟩).map
    (fun s => (s.own.methods.length, s.own.properties.map (·.name), s.inaccessibleAbstract,
      s.settableProperties.map (·.name))) = .ok (0, ["Size"], ["Check"], ["Name"]) := by
  decide

theorem sealed_override_resolves :
    ∃ s, Surface.compute sealedOverrideCatalog ⟨17⟩ = .ok s ∧
      ∃ chain, sealedOverrideCatalog.chain ⟨17⟩ = .ok chain ∧
        ((winnersAlong sealedOverrideCatalog chain).map (·.1)).Nodup ∧
        (∀ k, (declarationsOf sealedOverrideCatalog chain k).Pairwise (·.rank < ·.rank)) ∧
        s.own = ((winnersAlong sealedOverrideCatalog chain).filter (·.2.isInterceptable)).foldl
          (fun e w => e.push w.2) {} ∧
        s.inaccessibleAbstract =
          (winnersAlong sealedOverrideCatalog chain).filterMap (·.2.inaccessibleAbstract?) ∧
        s.settableProperties = (winnersAlong sealedOverrideCatalog chain).filterMap (·.2.settable?) :=
  ⟨_, rfl, surface_resolves_deepest sealedOverrideCatalog ⟨17⟩ _ (by decide) rfl⟩

end Understudy
