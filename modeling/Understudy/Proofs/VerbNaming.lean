import Understudy.Proofs.Arranging

set_option autoImplicit false

/-!
# Validated verb names are unambiguous

A front end that arranges by member name sees verbs and mocked members in one namespace, so a
table of verb names is checked before a session uses it. `Text.IdentifierRule` states the
identifier rule on the characters of a name: an underscore or a letter, then underscores, letters
and numeric characters. Validation accepts exactly the tables whose four names follow the rule and
differ. On such a table every verb is found under its own name and only there, so a dynamic suffix
applies a verb exactly when it is spelled as that verb's name, and otherwise arranges a call of
that name. Standard names behind a prefix stay valid exactly when the prefix is empty or an
identifier itself.

Main result: `verb_names_unambiguous`.
-/

namespace Understudy

namespace Text

/-- The identifier rule: the first character is an underscore or a letter, every other one an
underscore, a letter or a numeric character. -/
def IdentifierRule (s : String) : Prop :=
  ∃ c rest, s.toList = c :: rest ∧ (c = '_' ∨ isLetter c = true) ∧
    ∀ d ∈ rest, d = '_' ∨ isLetter d = true ∨ isNumeric d = true

theorem isIdentifier_iff (s : String) : isIdentifier s = true ↔ IdentifierRule s := by
  unfold isIdentifier IdentifierRule
  cases s.toList with
  | nil => simp
  | cons c rest => simp [isIdentifierStart, isIdentifierPart, List.all_eq_true, or_assoc]

theorem identifierRule_append (p : String) {s : String} (hs : IdentifierRule s) :
    IdentifierRule (p ++ s) ↔ p = "" ∨ IdentifierRule p := by
  obtain ⟨c, rest, hcs, hc, hrest⟩ := hs
  have hparts : ∀ d ∈ s.toList, d = '_' ∨ isLetter d = true ∨ isNumeric d = true := by
    rw [hcs]
    intro d hd
    rcases List.mem_cons.mp hd with rfl | hd
    · rcases hc with h | h
      · exact .inl h
      · exact .inr (.inl h)
    · exact hrest d hd
  cases hp : p.toList with
  | nil =>
    have hp' : p = "" := String.toList_eq_nil_iff.mp hp
    subst hp'
    simp only [String.empty_append, true_or, iff_true]
    exact ⟨c, rest, hcs, hc, hrest⟩
  | cons a as =>
    have hne : p ≠ "" := fun h => by simp [h] at hp
    unfold IdentifierRule
    simp only [String.toList_append, hp, List.cons_append, List.cons.injEq, hne, false_or]
    constructor
    · rintro ⟨c', rest', ⟨rfl, rfl⟩, ha, hall⟩
      exact ⟨a, as, ⟨rfl, rfl⟩, ha, fun d hd => hall d (List.mem_append_left _ hd)⟩
    · rintro ⟨c', rest', ⟨rfl, rfl⟩, ha, hall⟩
      refine ⟨a, as ++ s.toList, ⟨rfl, rfl⟩, ha, fun d hd => ?_⟩
      rcases List.mem_append.mp hd with hd | hd
      · exact hall d hd
      · exact hparts d hd

end Text

namespace Verb

theorem mem_all (v : Verb) : v ∈ all := by
  cases v <;> decide

theorem pairs_ne : ∀ p ∈ pairs, p.1 ≠ p.2 := by decide

theorem pairs_cover (v w : Verb) (h : v ≠ w) : (v, w) ∈ pairs ∨ (w, v) ∈ pairs := by
  cases v <;> cases w <;> simp [pairs] at h ⊢

end Verb

namespace VerbNames

variable (t : VerbNames)

theorem nameFault?_eq_none_iff (v : Verb) :
    t.nameFault? v = none ↔ Text.IdentifierRule (t.nameOf v) := by
  rw [← Text.isIdentifier_iff]
  unfold nameFault?
  by_cases he : (t.nameOf v).isEmpty = true
  · have hempty : t.nameOf v = "" := String.isEmpty_iff.mp he
    simp [hempty, Text.isIdentifier]
  · cases hi : Text.isIdentifier (t.nameOf v) <;> simp [he, hi]

theorem clash?_eq_none_iff : t.clash? = none ↔ Function.Injective t.nameOf := by
  unfold clash?
  rw [Option.map_eq_none_iff, List.find?_eq_none]
  constructor
  · intro h v w hvw
    by_contra hne
    rcases Verb.pairs_cover v w hne with hp | hp
    · exact h _ hp (by simpa using hvw)
    · exact h _ hp (by simpa using hvw.symm)
  · intro hinj p hp
    simpa using hinj.ne (Verb.pairs_ne p hp)

theorem validate_eq_ok_iff :
    t.validate = .ok () ↔
      (∀ v, Text.IdentifierRule (t.nameOf v)) ∧ Function.Injective t.nameOf := by
  rw [← t.clash?_eq_none_iff]
  simp only [← t.nameFault?_eq_none_iff]
  unfold validate
  cases hf : Verb.all.findSome? t.nameFault? with
  | some e =>
    obtain ⟨v, -, hv⟩ := List.exists_of_findSome?_eq_some hf
    simp only [reduceCtorEq, false_iff, not_and]
    intro hall
    simp [hall v] at hv
  | none =>
    have hall : ∀ v, t.nameFault? v = none := fun v =>
      List.findSome?_eq_none_iff.mp hf v (Verb.mem_all v)
    cases hc : t.clash? <;> simp [hall]

theorem lookup_nameOf {t : VerbNames} (hinj : Function.Injective t.nameOf) (v : Verb) :
    t.lookup (t.nameOf v) = some v := by
  cases v <;> simp [lookup, Verb.all, hinj.eq_iff]

theorem nameOf_of_lookup {name : String} {v : Verb} (h : t.lookup name = some v) :
    t.nameOf v = name := by
  simpa using List.find?_some h

theorem lookup_eq_none_iff (name : String) : t.lookup name = none ↔ ∀ v, t.nameOf v ≠ name := by
  unfold lookup
  rw [List.find?_eq_none]
  simp [Verb.mem_all]

end VerbNames

def Config.verb? : Config → Option Verb
  | .returns _ => some .returns
  | .ensure => some .ensure
  | .onCall _ => some .act
  | .outIndex _ _ | .outName _ _ => some .out
  | .generics _ | .anyGenerics => none

namespace Handle

variable (h : Handle) (args : List VerbArg) (s : Session)

theorem apply_of_lookup_some {name : String} {v : Verb} (hv : h.verbs.lookup name = some v) :
    (∃ expected, (h.apply name args).run s =
        .error (.verbArguments name expected (VerbArg.describe args)) s) ∨
      ∃ cfg : Config, cfg.verb? = some v ∧ (h.apply name args).run s = (cfg.run h).run s := by
  unfold Handle.apply
  rw [hv]
  cases v <;> dsimp only
  case returns =>
    split
    · exact .inr ⟨.returns _, rfl, rfl⟩
    · exact .inl ⟨_, rfl⟩
  case ensure =>
    split
    · exact .inr ⟨.ensure, rfl, rfl⟩
    · exact .inl ⟨_, rfl⟩
  case act =>
    split
    · exact .inr ⟨.onCall _, rfl, rfl⟩
    · exact .inl ⟨_, rfl⟩
  case out =>
    split
    · split
      · exact .inl ⟨_, rfl⟩
      · exact .inr ⟨.outIndex _ _, rfl, rfl⟩
    · exact .inr ⟨.outName _ _, rfl, rfl⟩
    · exact .inl ⟨_, rfl⟩

theorem apply_of_lookup_none {name : String} (hv : h.verbs.lookup name = none) :
    (h.apply name args).run s =
      (do h.call name (.positional (← liftExcept (args.mapM (VerbArg.toPattern name))))).run s := by
  unfold Handle.apply
  rw [hv]

end Handle

namespace VerbNames

theorem prefixed_nameOf (p : String) (v : Verb) :
    (prefixed p).nameOf v = p ++ standard.nameOf v := by
  cases v <;> rfl

theorem standard_identifiers (v : Verb) : Text.IdentifierRule (standard.nameOf v) := by
  rw [← Text.isIdentifier_iff]
  cases v <;> decide +kernel

theorem standard_injective : Function.Injective standard.nameOf := by
  intro v w h
  cases v <;> cases w <;> simp_all [standard, nameOf]

theorem prefixed_injective (p : String) : Function.Injective (prefixed p).nameOf := by
  intro v w h
  rw [prefixed_nameOf, prefixed_nameOf] at h
  have he := congrArg String.toList h
  simp only [String.toList_append, List.append_cancel_left_eq] at he
  exact standard_injective (String.toList_inj.mp he)

theorem prefixed_validate_eq_ok_iff (p : String) :
    (prefixed p).validate = .ok () ↔ p = "" ∨ Text.IdentifierRule p := by
  rw [validate_eq_ok_iff]
  simp only [prefixed_injective, and_true, prefixed_nameOf]
  constructor
  · intro h
    exact (Text.identifierRule_append p (standard_identifiers .returns)).mp (h .returns)
  · intro hp v
    exact (Text.identifierRule_append p (standard_identifiers v)).mpr hp

end VerbNames

/-- **Validated verb names are unambiguous.** Validation accepts exactly the tables of four
distinct names that follow the identifier rule. On a valid table, a verb's name looks up that verb
and nothing else, so a suffix spelled as a verb's name applies that verb (a configuring step, or
a refusal of its arguments before anything changes), and any other suffix arranges a call of its
name on the call's result. Standard names behind a prefix are valid exactly when the prefix is
empty or follows the rule. -/
theorem verb_names_unambiguous :
    (∀ t : VerbNames, t.validate = .ok () ↔
      (∀ v, Text.IdentifierRule (t.nameOf v)) ∧ Function.Injective t.nameOf) ∧
    (∀ t : VerbNames, t.validate = .ok () →
      (∀ v, t.lookup (t.nameOf v) = some v) ∧
      ∀ name v, t.lookup name = some v → name = t.nameOf v) ∧
    (∀ h : Handle, h.verbs.validate = .ok () →
      ∀ (name : String) (args : List VerbArg) (s : Session),
        (∀ v, name = h.verbs.nameOf v →
          (∃ expected, (h.apply name args).run s =
            .error (.verbArguments name expected (VerbArg.describe args)) s) ∨
          ∃ cfg : Config, cfg.verb? = some v ∧ (h.apply name args).run s = (cfg.run h).run s) ∧
        ((∀ v, name ≠ h.verbs.nameOf v) →
          (h.apply name args).run s =
            (do h.call name (.positional (← liftExcept (args.mapM (VerbArg.toPattern name))))).run s)) ∧
    ∀ p : String, (VerbNames.prefixed p).validate = .ok () ↔ p = "" ∨ Text.IdentifierRule p := by
  refine ⟨VerbNames.validate_eq_ok_iff, fun t ht => ?_, fun h ht name args s => ?_,
    VerbNames.prefixed_validate_eq_ok_iff⟩
  · have hinj := ((VerbNames.validate_eq_ok_iff t).mp ht).2
    exact ⟨VerbNames.lookup_nameOf hinj, fun name v hv => (t.nameOf_of_lookup hv).symm⟩
  · have hinj := ((VerbNames.validate_eq_ok_iff h.verbs).mp ht).2
    refine ⟨fun v hv => ?_, fun hnone => ?_⟩
    · subst hv
      exact h.apply_of_lookup_some args s (VerbNames.lookup_nameOf hinj v)
    · exact h.apply_of_lookup_none args s
        ((h.verbs.lookup_eq_none_iff name).mpr fun v hv => hnone v hv.symm)

/-- Behind the prefix `Dx` the table is valid and `DxDo` names the action verb. -/
theorem dx_prefixed_verbs_resolve :
    (VerbNames.prefixed "Dx").validate = .ok () ∧
      (VerbNames.prefixed "Dx").lookup ("Dx" ++ "Do") = some .act :=
  have hvalid := (verb_names_unambiguous.2.2.2 "Dx").mpr
    (.inr ((Text.isIdentifier_iff "Dx").mp (by decide +kernel)))
  ⟨hvalid, (verb_names_unambiguous.2.1 _ hvalid).1 .act⟩

end Understudy
