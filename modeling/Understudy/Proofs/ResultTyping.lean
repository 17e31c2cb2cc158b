import Understudy.Proofs.Standins
import Understudy.Proofs.Assignability

set_option autoImplicit false

/-!
# What a stand-in answers fits the declared type

A stand-in hands code under test values by four routes: the arranged result of an intercepted
member, checked against the member's declared type; the default of the type, when a call falls
back; the value of a local slot; and out values written into the arguments, each checked against
its parameter when the arranged call is chosen. The default is the one value that is not checked,
and for a value type other than `Bool`, `Int` and `Float` it is null, which such a type does not
accept (`null_default_for_value_type`).

`Value.fits` names what holds instead: the value conforms to the type, or it is null where null is
the type's default. `standin_results_fit` says that a stand-in without base behaviour answers only
values that fit the declared type of the member an operation resolves to (`Proxy.returnType?`,
`Proxy.propertyType?`, `Proxy.indexerType?`), and hands back each argument as it was given or
holding a value of its parameter's type, as long as its local slots fit their types
(`Proxy.SlotsFit`). Building over a node whose arranged values fit establishes that, and every
write keeps it. A local slot is seeded from what was arranged under its name without a check, so
what it holds when the arrangement does not fit is left open here.
-/

namespace Understudy

namespace Value

/-- A value fits a declared type when it conforms to it, or is null where null is the type's
default. -/
def fits (c : Catalog) (v : Value) (t : TypeId) : Bool :=
  v.conformsTo c t || (v.isNull && (defaultFor t).isNull)

theorem fits_of_conformsTo {c : Catalog} {v : Value} {t : TypeId} (h : v.conformsTo c t = true) :
    v.fits c t = true := by
  simp [fits, h]

theorem defaultFor_null_or_typed (t : TypeId) :
    defaultFor t = .null ∨ (defaultFor t).runtimeType? = some t := by
  unfold defaultFor
  split_ifs with hb hi hf
  · exact .inr (by rw [eq_of_beq hb]; rfl)
  · exact .inr (by rw [eq_of_beq hi]; rfl)
  · exact .inr (by rw [eq_of_beq hf]; rfl)
  · exact .inl rfl

theorem defaultFor_fits (c : Catalog) (t : TypeId) : (defaultFor t).fits c t = true := by
  rcases defaultFor_null_or_typed t with h | h
  · simp [fits, h, isNull]
  · simp [fits, conformsTo, h, Catalog.isAssignable_refl]

end Value

/-! ## Checked results and defaults -/

theorem checkReturn_value {c : Catalog} {member : String} {v w : Value} {ty : TypeId}
    (h : checkReturn c member v ty = .ok (.value w)) : w = v ∧ v.conformsTo c ty = true := by
  unfold checkReturn checkAssignable at h
  split_ifs at h with hv hc
  · cases h
  · cases h
    exact ⟨rfl, hc⟩
  · cases h

theorem checkReturn_run_value {c : Catalog} {member : String} {w v : Value} {ty : TypeId}
    {s s' : Session}
    (h : (liftExcept (checkReturn c member w ty) : Act DispatchFault CallResult).run s =
      .ok (.value v) s') : v.fits c ty = true := by
  cases hc : checkReturn c member w ty with
  | error f =>
    simp only [hc, liftExcept] at h
    cases h
  | ok d =>
    simp only [hc, liftExcept] at h
    cases h
    obtain ⟨rfl, hconf⟩ := checkReturn_value hc
    exact Value.fits_of_conformsTo hconf

theorem fallBackResult_fits {c : Catalog} {ty : TypeId} {v : Value}
    (h : fallBackResult ty none = .value v) : v.fits c ty = true := by
  unfold fallBackResult at h
  split at h
  · cases h
  · cases h
    exact Value.defaultFor_fits c ty

theorem Proxy.fallBack_run_fits {p : Proxy} (hb : p.base = none) {c : Catalog} {member : String}
    {args : List Value} {ty : TypeId} {v : Value} {s s' : Session}
    (h : (p.fallBack member args ty : Act DispatchFault CallResult).run s = .ok (.value v) s') :
    v.fits c ty = true := by
  rw [p.fallBack_run_none s hb, EStateM.Result.ok.injEq] at h
  exact fallBackResult_fits h.1

/-! ## The member an operation resolves to -/

def Proxy.methodFor? (c : Catalog) (p : Proxy) (name : String) (gs : List TypeId)
    (args : List Value) : Option MethodEntry :=
  (p.surface.methodsNamed name).find? fun m =>
    m.genericArity == gs.length && paramsAccept c m.params args

theorem Proxy.methodFor?_accepts {c : Catalog} {p : Proxy} {name : String} {gs : List TypeId}
    {args : List Value} {m : MethodEntry} (h : p.methodFor? c name gs args = some m) :
    m.genericArity = gs.length ∧ paramsAccept c m.params args = true := by
  have hm := List.find?_some h
  simpa using hm

def Proxy.returnType? (c : Catalog) (p : Proxy) (name : String) (gs : List TypeId)
    (args : List Value) : Option TypeId :=
  ((p.methodFor? c name gs args).map (·.returns)).or (p.declaredReturn? c name gs args)

def Proxy.propertyType? (c : Catalog) (p : Proxy) (name : String) : Option TypeId :=
  ((((p.surface.findProperty? name).filter (·.readable)).map (·.type)).or
    ((findKey? p.fields name).map (·.type))).or (p.declaredReadable? c name)

def Proxy.indexerType? (c : Catalog) (p : Proxy) (args : List Value) : Option TypeId :=
  (p.surface.allIndexers.find? fun ix => ix.readable && paramsAccept c ix.params args).map (·.type)

/-- Every local slot of the stand-in holds a value that fits the slot's type. -/
def Proxy.SlotsFit (c : Catalog) (p : Proxy) : Prop :=
  ∀ e ∈ p.fields, e.2.value.fits c e.2.type = true

/-- What node `n` holds under `name` fits type `ty` as a seed: a property value that fits, a child
where `ty` is not a value type, or nothing. -/
def Graph.HoldsFitting (c : Catalog) (g : Graph) (n : NodeId) (name : String) (ty : TypeId) :
    Prop :=
  (∀ sl, g.memberAt? n name = some (.property sl) → (g.slot sl).value.fits c ty = true) ∧
  ∀ m, g.memberAt? n name = some (.child m) → c.isValueKind ty = false

/-! ## Out values -/

section Outs

variable {c : Catalog}

theorem mem_of_lookup_reverse {α β : Type} [BEq α] [LawfulBEq α] {l : List (α × β)} {k : α}
    {b : β} (h : l.reverse.lookup k = some b) : (k, b) ∈ l := by
  obtain ⟨l₁, l₂, hl, -⟩ := List.lookup_eq_some_iff.mp h
  exact List.mem_reverse.mp (hl ▸ List.mem_append_right _ List.mem_cons_self)

theorem Expectation.outFor_accepted (x : Expectation) {args : List CallArg}
    (hfit : x.outsFit c args = true) {j : Nat} {a : CallArg} (ha : args[j]? = some a) :
    x.outFor j a = a.value ∨ a.accepts c (x.outFor j a) = true := by
  simp only [Expectation.outsFit, Bool.and_eq_true, List.all_eq_true] at hfit
  obtain ⟨hidx, hname⟩ := hfit
  unfold Expectation.outFor
  cases hn : a.name.bind fun n => x.outsByName.reverse.lookup n with
  | some v =>
    -- a value registered for the argument's name: every argument of that name accepts it
    obtain ⟨n, han, hl⟩ := Option.bind_eq_some_iff.mp hn
    right
    have hmem := hname (n, v) (mem_of_lookup_reverse hl)
    simp only [List.mem_filter] at hmem
    exact hmem a ⟨List.mem_of_getElem? ha, by simp [han]⟩
  | none =>
    cases hi : x.outsByIndex.reverse.lookup j with
    | none => exact .inl rfl
    | some v =>
      right
      have hmem := hidx (j, v) (mem_of_lookup_reverse hi)
      simpa [ha] using hmem

theorem Receiver.invoke_written (r : Receiver) (member : String) (gs : List TypeId)
    (args : List CallArg) (s : Session) {res : Except DispatchFault CallResult}
    {written : List CallArg} {s' : Session}
    (h : (r.invoke member gs args).run s = .ok (res, written) s') :
    written = args ∨
      ∃ x : Expectation, x.outsFit s.catalog args = true ∧ written = x.writeOuts args := by
  rcases none_or_newest (s.graph.expectationsOf r.node member)
      (fun e => (s.graph.exp e).applies s.catalog s.code gs args) with
    hnone | ⟨older, e, newer, hexps, he, hnewer⟩
  case inl =>
    obtain ⟨s₁, -, hrun⟩ := invoke_of_none_applies r member gs args s hnone
    rw [hrun] at h
    simp only [EStateM.Result.ok.injEq, Prod.mk.injEq] at h
    exact .inl h.1.2.symm
  case inr =>
    have hfit : (s.graph.exp e).outsFit s.catalog args = true :=
      (Expectation.applies_eq_true.mp he).2.2
    cases hc : checkAll s.catalog (s.graph.exp e).member ((s.graph.exp e).outValues args)
      (s.graph.exp e).callbacks with
    | error f =>
      obtain ⟨s₁, -, hrun⟩ := invoke_of_check_error r member gs args s older newer e hexps he
        hnewer f hc
      rw [hrun] at h
      simp only [EStateM.Result.ok.injEq, Prod.mk.injEq] at h
      exact .inl h.1.2.symm
    | ok _ =>
      obtain ⟨log, -, log', hrun⟩ :=
        invoke_of_check_ok r member gs args s older newer e hexps he hnewer hc
      rw [hrun] at h
      simp only [EStateM.Result.ok.injEq, Prod.mk.injEq] at h
      exact .inr ⟨s.graph.exp e, hfit, h.1.2.symm⟩

theorem typedArgs_length {params : List Param} {vs : List Value}
    (h : params.length = vs.length) : (typedArgs params vs).length = vs.length := by
  simp [typedArgs, h]

theorem typedArgs_values {params : List Param} {vs : List Value}
    (h : params.length = vs.length) : (typedArgs params vs).map (·.value) = vs := by
  simp only [typedArgs, List.map_map]
  exact List.map_snd_zip (by omega)

theorem typedArgs_getElem? {params : List Param} {vs : List Value} {j : Nat} {a : CallArg}
    (h : (typedArgs params vs)[j]? = some a) :
    ∃ pj, params[j]? = some pj ∧ vs[j]? = some a.value ∧ a.declared = some pj.type := by
  simp only [typedArgs, List.getElem?_map, Option.map_eq_some_iff, List.getElem?_zip_eq_some] at h
  obtain ⟨⟨pj, v⟩, ⟨hp, hv⟩, rfl⟩ := h
  exact ⟨pj, hp, hv, rfl⟩

theorem zip_written {vs : List Value} {written : List CallArg} (h : written.length = vs.length) :
    (vs.zip (written.map (·.value))).map (·.2) ++ vs.drop written.length =
      written.map (·.value) := by
  rw [List.map_snd_zip (by simp [h]), h, List.drop_length, List.append_nil]

theorem handedBack_conform {params : List Param} {args : List Value}
    (hp : paramsAccept c params args = true) {written : List CallArg}
    (hw : written = typedArgs params args ∨ ∃ x : Expectation,
      x.outsFit c (typedArgs params args) = true ∧ written = x.writeOuts (typedArgs params args)) :
    ((args.zip (written.map (·.value))).map (·.2) ++ args.drop written.length).length =
        args.length ∧
      ∀ (j : Nat) (w : Value),
        ((args.zip (written.map (·.value))).map (·.2) ++ args.drop written.length)[j]? = some w →
        args[j]? = some w ∨ ∃ pj, params[j]? = some pj ∧ w.conformsTo c pj.type = true := by
  have hlen : params.length = args.length := by
    unfold paramsAccept at hp
    simp only [Bool.and_eq_true, beq_iff_eq] at hp
    exact hp.1
  rcases hw with rfl | ⟨x, hfit, rfl⟩
  · rw [zip_written (typedArgs_length hlen), typedArgs_values hlen]
    exact ⟨rfl, fun j w hw => .inl hw⟩
  · have hws : (x.writeOuts (typedArgs params args)).length = args.length := by
      simp [Expectation.writeOuts, typedArgs_length hlen]
    rw [zip_written hws]
    refine ⟨by simp [hws], fun j w hw => ?_⟩
    simp only [Expectation.writeOuts, List.getElem?_map, List.getElem?_mapIdx, Option.map_map,
      Option.map_eq_some_iff, Function.comp_apply] at hw
    obtain ⟨a, ha, rfl⟩ := hw
    obtain ⟨pj, hpj, hv, hdecl⟩ := typedArgs_getElem? ha
    rcases x.outFor_accepted hfit ha with hkeep | hacc
    · exact .inl (by rw [hkeep]; exact hv)
    · exact .inr ⟨pj, hpj, by simpa [CallArg.accepts, hdecl] using hacc⟩

end Outs

/-! ## Operations of a stand-in without base behaviour -/

section Operations

variable (p : Proxy) (s : Session)

theorem Proxy.invoke_ok_cases (hb : p.base = none) {name : String} {gs : List TypeId}
    {args : List Value} {r : CallResult × List Value} {s' : Session}
    (h : (p.invoke name gs args).run s = .ok r s') :
    (∃ m, p.methodFor? s.catalog name gs args = some m ∧ ∃ res written s₁,
      (p.receiver.invoke name gs (typedArgs m.params args)).run s = .ok (.ok res, written) s₁ ∧
      r.2 = (args.zip (written.map (·.value))).map (·.2) ++ args.drop written.length ∧
      ((∃ w, res = .value w ∧ checkReturn s.catalog name w m.returns = .ok r.1) ∨
        r.1 = .void ∨ r.1 = fallBackResult m.returns none)) ∨
    (p.methodFor? s.catalog name gs args = none ∧
      ∃ ty, p.declaredReturn? s.catalog name gs args = some ty ∧
        r = (fallBackResult ty none, args)) := by
  simp only [Proxy.invoke, EStateM.run_bind, catalog_run] at h
  cases hm : p.methodFor? s.catalog name gs args with
  | none =>
    refine .inr ⟨rfl, ?_⟩
    rw [Proxy.methodFor?] at hm
    rw [hm] at h
    cases hd : p.declaredReturn? s.catalog name gs args with
    | none =>
      rw [hd] at h
      cases h
    | some ty =>
      rw [hd] at h
      simp only [EStateM.run_bind, p.fallBack_run_none s hb] at h
      exact ⟨ty, rfl, Act.answer_of_pure h⟩
  | some m =>
    refine .inl ⟨m, rfl, ?_⟩
    rw [Proxy.methodFor?] at hm
    rw [hm] at h
    obtain ⟨⟨res, written⟩, s₁, hr, h⟩ := Act.ok_of_bind h
    -- a fault of the receiver is passed on, so it answered
    obtain ⟨res, rfl⟩ : ∃ v, res = .ok v := by
      cases res with
      | error f => cases h
      | ok v => exact ⟨v, rfl⟩
    refine ⟨res, written, s₁, hr, ?_⟩
    simp only [EStateM.run_bind, liftExcept_ok_run] at h
    -- the receiver's answer is checked, passed on, or handed to the fall-back
    cases res with
    | value w =>
      cases hc : checkReturn s.catalog name w m.returns with
      | error f =>
        simp only [hc, liftExcept] at h
        cases h
      | ok d =>
        simp only [hc, liftExcept, EStateM.run_bind] at h
        cases h
        exact ⟨rfl, .inl ⟨w, rfl, hc⟩⟩
    | void =>
      rw [Act.answer_of_pure h]
      exact ⟨rfl, .inr (.inl rfl)⟩
    | fallThrough =>
      simp only [EStateM.run_bind, p.fallBack_run_none s₁ hb] at h
      rw [Act.answer_of_pure h]
      exact ⟨rfl, .inr (.inr rfl)⟩

theorem Proxy.invoke_fits (hb : p.base = none) {name : String} {gs : List TypeId}
    {args : List Value} {r : CallResult × List Value} {s' : Session}
    (h : (p.invoke name gs args).run s = .ok r s') (v : Value) (hv : r.1 = .value v) :
    ∃ T, p.returnType? s.catalog name gs args = some T ∧ v.fits s.catalog T = true := by
  rcases p.invoke_ok_cases s hb h with
    ⟨m, hm, -, -, -, -, -, ⟨w, -, hc⟩ | hvoid | hfall⟩ | ⟨hm, ty, hd, rfl⟩
  · rw [hv] at hc
    obtain ⟨rfl, hconf⟩ := checkReturn_value hc
    exact ⟨m.returns, by simp [Proxy.returnType?, hm], Value.fits_of_conformsTo hconf⟩
  · rw [hv] at hvoid
    cases hvoid
  · rw [hv] at hfall
    exact ⟨m.returns, by simp [Proxy.returnType?, hm], fallBackResult_fits hfall.symm⟩
  · exact ⟨ty, by simp [Proxy.returnType?, hm, hd], fallBackResult_fits hv⟩

theorem Proxy.invoke_outs_conform (hb : p.base = none) {name : String} {gs : List TypeId}
    {args : List Value} {r : CallResult × List Value} {s' : Session}
    (h : (p.invoke name gs args).run s = .ok r s') :
    r.2.length = args.length ∧ ∀ (j : Nat) (w : Value), r.2[j]? = some w → args[j]? = some w ∨
      ∃ m pj, p.methodFor? s.catalog name gs args = some m ∧ m.params[j]? = some pj ∧
        w.conformsTo s.catalog pj.type = true := by
  rcases p.invoke_ok_cases s hb h with
    ⟨m, hm, res, written, s₁, hr, hargs, -⟩ | ⟨-, ty, -, rfl⟩
  · obtain ⟨hlen, hconf⟩ := handedBack_conform (Proxy.methodFor?_accepts hm).2
      (p.receiver.invoke_written name gs _ s hr)
    rw [hargs]
    refine ⟨hlen, fun j w hw => ?_⟩
    rcases hconf j w hw with hkeep | ⟨pj, hpj, hc⟩
    · exact .inl hkeep
    · exact .inr ⟨m, pj, hm, hpj, hc⟩
  · exact ⟨rfl, fun j w hw => .inl hw⟩

theorem Proxy.getProperty_fits (hb : p.base = none) (hslots : p.SlotsFit s.catalog)
    {name : String} {v : Value} {s' : Session}
    (h : (p.getProperty name).run s = .ok (.value v) s') :
    ∃ T, p.propertyType? s.catalog name = some T ∧ v.fits s.catalog T = true := by
  simp only [Proxy.getProperty, EStateM.run_bind, catalog_run] at h
  cases hprop : (p.surface.findProperty? name).filter (·.readable) with
  | some prop =>
    rw [hprop] at h
    refine ⟨prop.type, by simp [Proxy.propertyType?, hprop], ?_⟩
    obtain ⟨res, s₁, -, h⟩ := Act.ok_of_bind h
    -- the node's answer is checked against the type, anything else falls back
    cases res with
    | value w => exact checkReturn_run_value h
    | void => exact p.fallBack_run_fits hb h
    | fallThrough => exact p.fallBack_run_fits hb h
  | none =>
    rw [hprop] at h
    cases hf : findKey? p.fields name with
    | some sl =>
      rw [hf] at h
      dsimp only at h
      -- a local slot answers its value, whether a link counts the read or not
      have hv : CallResult.value v = .value sl.value := by
        cases he : sl.ensured with
        | none =>
          rw [he] at h
          exact Act.answer_of_pure h
        | some link =>
          rw [he] at h
          exact Act.answer_of_bind (P := fun r : CallResult => r = .value sl.value) h
            fun _ _ _ _ h => Act.answer_of_pure h
      cases hv
      exact ⟨sl.type, by simp [Proxy.propertyType?, hprop, hf],
        hslots (name, sl) (mem_of_findKey? hf)⟩
    | none =>
      rw [hf] at h
      cases hd : p.declaredReadable? s.catalog name with
      | none =>
        rw [hd] at h
        cases h
      | some ty =>
        rw [hd] at h
        exact ⟨ty, by simp [Proxy.propertyType?, hprop, hf, hd], p.fallBack_run_fits hb h⟩

theorem Proxy.getIndex_fits (hb : p.base = none) {args : List Value} {v : Value} {s' : Session}
    (h : (p.getIndex args).run s = .ok (.value v) s') :
    ∃ T, p.indexerType? s.catalog args = some T ∧ v.fits s.catalog T = true := by
  simp only [Proxy.getIndex, EStateM.run_bind, catalog_run] at h
  cases hix : p.surface.allIndexers.find?
      (fun ix => ix.readable && paramsAccept s.catalog ix.params args) with
  | none =>
    rw [hix] at h
    cases h
  | some ix =>
    rw [hix] at h
    refine ⟨ix.type, by simp [Proxy.indexerType?, hix], ?_⟩
    obtain ⟨res, s₁, -, h⟩ := Act.ok_of_bind h
    cases res with
    | value w => exact checkReturn_run_value h
    | void => exact p.fallBack_run_fits hb h
    | fallThrough => exact p.fallBack_run_fits hb h

theorem Proxy.setProperty_slotsFit (hslots : p.SlotsFit s.catalog) {name : String} {v : Value}
    {p' : Proxy} {s' : Session} (h : (p.setProperty name v).run s = .ok p' s') :
    p'.SlotsFit s.catalog := by
  rcases p.setProperty_ok_cases s h with rfl | ⟨sl, -, hconf, rfl⟩
  · exact hslots
  · intro e he
    rcases mem_of_mem_insertOrdered _ _ _ he with he | rfl
    · exact hslots e he
    · exact Value.fits_of_conformsTo hconf

end Operations

theorem LocalSlot.seed_fits {c : Catalog} {g : Graph} {n : NodeId} {name : String} {ty : TypeId}
    (h : g.HoldsFitting c n name ty) : (LocalSlot.seed g n name ty).value.fits c ty = true := by
  obtain ⟨hprop, hchild⟩ := h
  unfold LocalSlot.seed
  split
  · rename_i sl hat
    exact hprop sl hat
  · rename_i m hat
    simp [Value.fits, Value.conformsTo, Value.runtimeType?, hchild m hat]
  · exact Value.defaultFor_fits c ty

theorem buildProxy_slotsFit {n : NodeId} {t : TypeId} {base : Option BaseId} {s s' : Session}
    {p : Proxy} (h : (buildProxy n t base).run s = .ok p s')
    (hfit : ∀ e ∈ p.fields, s.graph.HoldsFitting s.catalog n e.1 e.2.type) :
    p.SlotsFit s.catalog := by
  obtain ⟨-, -, hseed⟩ := buildProxy_fields n h
  intro e he
  have hv : e.2.value = (LocalSlot.seed s.graph n e.1 e.2.type).value :=
    congrArg LocalSlot.value (hseed e he)
  rw [hv]
  exact LocalSlot.seed_fits (hfit e he)

/-- **What a stand-in answers fits the declared type.** Built over a node whose arranged values
fit the types of the local slots they seed, a stand-in without base behaviour has every local slot
fitting. Such a stand-in answers a call, a property read or an indexer read only with values that
fit the declared type of the member it resolves to, hands back each argument of a call as given or
holding a value of its parameter's declared type, and keeps its local slots fitting through every
write. -/
theorem standin_results_fit :
    (∀ n t (s : Session) p s', (buildProxy n t none).run s = .ok p s' →
      (∀ e ∈ p.fields, s.graph.HoldsFitting s.catalog n e.1 e.2.type) →
      p.base = none ∧ p.SlotsFit s.catalog) ∧
    ∀ (p : Proxy) (s : Session), p.base = none → p.SlotsFit s.catalog →
      (∀ name gs args r s', (p.invoke name gs args).run s = .ok r s' →
        (∀ v, r.1 = .value v →
          ∃ T, p.returnType? s.catalog name gs args = some T ∧ v.fits s.catalog T = true) ∧
        r.2.length = args.length ∧
        ∀ (j : Nat) (w : Value), r.2[j]? = some w → args[j]? = some w ∨
          ∃ m pj, p.methodFor? s.catalog name gs args = some m ∧ m.params[j]? = some pj ∧
            w.conformsTo s.catalog pj.type = true) ∧
      (∀ name v s', (p.getProperty name).run s = .ok (.value v) s' →
        ∃ T, p.propertyType? s.catalog name = some T ∧ v.fits s.catalog T = true) ∧
      (∀ args v s', (p.getIndex args).run s = .ok (.value v) s' →
        ∃ T, p.indexerType? s.catalog args = some T ∧ v.fits s.catalog T = true) ∧
      ∀ name v p' s', (p.setProperty name v).run s = .ok p' s' → p'.SlotsFit s.catalog := by
  refine ⟨fun n t s p s' h hfit => ⟨(buildProxy_fields n h).2.1, buildProxy_slotsFit h hfit⟩,
    fun p s hb hslots => ⟨fun name gs args r s' h => ?_, fun name v s' h => ?_,
      fun args v s' h => ?_, fun name v p' s' h => ?_⟩⟩
  · obtain ⟨hlen, hargs⟩ := p.invoke_outs_conform s hb h
    exact ⟨p.invoke_fits s hb h, hlen, hargs⟩
  · exact p.getProperty_fits s hb hslots h
  · exact p.getIndex_fits s hb h
  · exact p.setProperty_slotsFit s hslots h

def accountSession : Session :=
  Act.after (do
    let _ ← registerType (TypeDesc.valueType "Money")
    let _ ← registerType { TypeDesc.classType "Account" with
      members := [Member.method "Balance" [] ⟨16⟩, Member.property "Owner" .string] }
    let _ ← rootMock "m"
    pure () : Act ArrangeFault Unit) Session.standard

/-- A stand-in without base behaviour answers a call of a method returning a value type it has
no zero for with null, which does not conform to that type. -/
theorem null_default_for_value_type :
    ∃ p s₁, (buildProxy ⟨0⟩ ⟨17⟩ none).run accountSession = .ok p s₁ ∧
      (p.invoke "Balance" [] []).run s₁ = .ok (.value .null, []) s₁ ∧
      p.returnType? s₁.catalog "Balance" [] [] = some ⟨16⟩ ∧
      Value.conformsTo s₁.catalog .null ⟨16⟩ = false :=
  ⟨_, _, rfl, rfl, rfl, rfl⟩

theorem Graph.holdsFitting_of_property {c : Catalog} {g : Graph} {n : NodeId} {name : String}
    {ty : TypeId} {sl : SlotId} (h : g.memberAt? n name = some (.property sl))
    (hv : (g.slot sl).value.fits c ty = true) : g.HoldsFitting c n name ty :=
  ⟨fun sl' h' => by rw [h] at h'; cases h'; exact hv, fun m h' => by rw [h] at h'; cases h'⟩

def ownedAccountSession : Session :=
  Act.after (NodeId.storeProperty ⟨0⟩ "Owner" (.str "ann") false : Act ArrangeFault Unit)
    accountSession

/-- A stand-in of `Account` over a root whose `Owner` holds text: the arranged text seeds the
`Owner` slot and is read back, and `Balance` answers the null default of `Money`. -/
theorem account_standin_fits :
    ∃ p s₁, (buildProxy ⟨0⟩ ⟨17⟩ none).run ownedAccountSession = .ok p s₁ ∧
      (∃ sl, ownedAccountSession.graph.memberAt? ⟨0⟩ "Owner" = some (.property sl) ∧
        (ownedAccountSession.graph.slot sl).value = .str "ann") ∧
      (∀ e ∈ p.fields,
        ownedAccountSession.graph.HoldsFitting ownedAccountSession.catalog ⟨0⟩ e.1 e.2.type) ∧
      p.base = none ∧ p.SlotsFit ownedAccountSession.catalog ∧
      (p.getProperty "Owner").run ownedAccountSession =
        .ok (.value (.str "ann")) ownedAccountSession ∧
      (∃ T, p.propertyType? ownedAccountSession.catalog "Owner" = some T ∧
        (Value.str "ann").fits ownedAccountSession.catalog T = true) ∧
      (p.invoke "Balance" [] []).run ownedAccountSession =
        .ok (.value .null, []) ownedAccountSession ∧
      ∃ T, p.returnType? ownedAccountSession.catalog "Balance" [] [] = some T ∧
        Value.null.fits ownedAccountSession.catalog T = true := by
  have howner : ownedAccountSession.graph.memberAt? ⟨0⟩ "Owner" = some (.property ⟨0⟩) := rfl
  obtain ⟨p, s₁, hbuild⟩ : ∃ p s₁, (buildProxy ⟨0⟩ ⟨17⟩ none).run ownedAccountSession = .ok p s₁ :=
    ⟨_, _, rfl⟩
  -- the stand-in is the one the run computes
  injection hbuild.symm.trans rfl with hp
  have hfields : p.fields.map (fun e => (e.1, e.2.type)) = [("Owner", .string)] := by
    rw [hp]
    rfl
  have hfit : ∀ e ∈ p.fields,
      ownedAccountSession.graph.HoldsFitting ownedAccountSession.catalog ⟨0⟩ e.1 e.2.type := by
    intro e he
    have hmem : (e.1, e.2.type) ∈ [("Owner", TypeId.string)] :=
      hfields ▸ List.mem_map_of_mem he
    obtain ⟨h₁, h₂⟩ := Prod.mk.inj (List.mem_singleton.mp hmem)
    rw [h₁, h₂]
    exact Graph.holdsFitting_of_property howner rfl
  obtain ⟨hb, hslots⟩ := standin_results_fit.1 ⟨0⟩ ⟨17⟩ ownedAccountSession p s₁ hbuild hfit
  have hops := standin_results_fit.2 p ownedAccountSession hb hslots
  have hread : (p.getProperty "Owner").run ownedAccountSession =
      .ok (.value (.str "ann")) ownedAccountSession := by
    rw [hp]
    rfl
  have hcall : (p.invoke "Balance" [] []).run ownedAccountSession =
      .ok (.value .null, []) ownedAccountSession := by
    rw [hp]
    rfl
  exact ⟨p, s₁, hbuild, ⟨⟨0⟩, howner, rfl⟩, hfit, hb, hslots, hread,
    hops.2.1 "Owner" _ _ hread, hcall, (hops.1 "Balance" [] [] _ _ hcall).1 .null rfl⟩

end Understudy
