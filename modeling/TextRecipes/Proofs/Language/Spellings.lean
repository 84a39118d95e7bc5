import TextRecipes.Composition.Step
import TextRecipes.Proofs.Language.GenderedTitles

/-!
# Spellings of gender in rules and data

A gender is looked up by its canonical key: the keys of a table of forms are made canonical one by
one while it is searched, and so is the gender of a part. What a table says for a gender is thus a
matter of its canonical forms alone (`formFor_eq_lookup`), and if these have each gender once, not
even of their order (`SameForms.formFor_eq`). Rules that differ in the spelling of genders only
(`Rules.Respelled`) form phrases and titles alike, for parts whose genders are spelled in whichever
way.
-/

namespace TextRecipes

/-! ## Tables that correspond -/

section Tables

variable {α β : Type} {R : α → β → Prop} {m : NameMap α} {n : NameMap β}

/-- Two maps with the same names, whose values correspond. -/
def NameMap.Alike (R : α → β → Prop) (m : NameMap α) (n : NameMap β) : Prop :=
  ∀ name, Option.Rel R (m.get? name) (n.get? name)

theorem rel_cases {a : Option α} {b : Option β} (h : Option.Rel R a b) :
    (a = none ∧ b = none) ∨ ∃ v w, a = some v ∧ b = some w ∧ R v w := by
  cases h with
  | none => exact .inl ⟨rfl, rfl⟩
  | some h => exact .inr ⟨_, _, rfl, rfl, h⟩

theorem NameMap.alike_empty : Alike R .empty .empty := fun _ => .none

/-- Tables stay alike if related values are put under one name. -/
theorem NameMap.Alike.insert (h : Alike R m n) {v : α} {w : β} (hvw : R v w) (name : String) :
    Alike R (m.insert name v) (n.insert name w) := by
  intro other
  rw [get?_insert, get?_insert]
  split
  · exact .some hvw
  · exact h other

end Tables

namespace Language

/-! ## Forms by gender -/

/-- The forms of a table with the canonical keys of their genders. -/
def canonicalForms (forms : NameMap String) : List (String × String) :=
  forms.entries.map fun entry => (normalizeGender entry.1, entry.2)

/-- Two tables of forms differ in the spelling of the genders only, and neither spells a gender in
two ways. -/
structure SameForms (forms forms' : NameMap String) : Prop where
  once : ((canonicalForms forms).map (·.1)).Nodup
  once' : ((canonicalForms forms').map (·.1)).Nodup
  mem_iff : ∀ gender form,
    (gender, form) ∈ canonicalForms forms ↔ (gender, form) ∈ canonicalForms forms'

/-- A form is looked up by the canonical spelling of its gender. -/
theorem formFor_eq_lookup (forms : NameMap String) (gender : String) :
    formFor forms.entries gender = (canonicalForms forms).lookup gender := by
  -- unfolded, so that the induction can be on the entries
  show formFor forms.entries gender
    = (forms.entries.map fun entry => (normalizeGender entry.1, entry.2)).lookup gender
  induction forms.entries with
  | nil => rfl
  | cons entry rest ih =>
      rw [List.map_cons, Entries.lookup_cons, ← ih, formFor, List.find?_cons]
      by_cases h : normalizeGender entry.1 = gender
      · simp [h]
      · have hne : (normalizeGender entry.1 == gender) = false := by simpa using h
        rw [hne, if_neg (Ne.symm h)]
        rfl

/-- Tables with the same forms by canonical gender have the same form for every gender. -/
theorem SameForms.formFor_eq {forms forms' : NameMap String} (h : SameForms forms forms')
    (gender : String) : formFor forms.entries gender = formFor forms'.entries gender := by
  rw [formFor_eq_lookup, formFor_eq_lookup]
  -- each gender is there once, so a look-up is a matter of membership
  apply Option.ext
  intro form
  rw [Entries.lookup_eq_some_iff_mem h.once, Entries.lookup_eq_some_iff_mem h.once', h.mem_iff]

/-- Tables whose canonical forms are the same but for the order. -/
theorem SameForms.of_perm {forms forms' : NameMap String}
    (hperm : (canonicalForms forms).Perm (canonicalForms forms'))
    (honce : ((canonicalForms forms).map (·.1)).Nodup) : SameForms forms forms' where
  once := honce
  once' := (hperm.map _).nodup honce
  mem_iff := fun _ _ => hperm.mem_iff

/-! ## Rules -/

/-- Two rules of a preposition differ in the spelling of the genders only. -/
structure PrepositionRule.Respelled (rule rule' : PrepositionRule) : Prop where
  forms : SameForms rule.forms rule'.forms
  default_eq : rule.default = rule'.default

/-- The prepositions and titles of two locales differ in the spelling of the genders only. -/
structure LocaleRules.Respelled (tables tables' : LocaleRules) : Prop where
  prepositions : tables.prepositions.Alike PrepositionRule.Respelled tables'.prepositions
  genderTitles : tables.genderTitles.Alike SameForms tables'.genderTitles
  feminineSuffix_eq : tables.feminineSuffix = tables'.feminineSuffix

/-- Two rule sets have rules for the same locales and differ in the spelling of the genders only. -/
def Rules.Respelled (rules rules' : Rules) : Prop :=
  rules.locales.Alike LocaleRules.Respelled rules'.locales

theorem PrepositionRule.Respelled.form_eq {rule rule' : PrepositionRule} (h : rule.Respelled rule')
    (gender : Option String) : rule.form gender = rule'.form gender := by
  have hforms : formFor rule.forms.entries = formFor rule'.forms.entries :=
    funext h.forms.formFor_eq
  rw [PrepositionRule.form, PrepositionRule.form, hforms, h.default_eq]

/-- A title has the same form in tables that are only spelled differently. -/
theorem LocaleRules.Respelled.genderedTitle_eq {tables tables' : LocaleRules}
    (h : tables.Respelled tables') (title gender : String) :
    tables.genderedTitle title gender = tables'.genderedTitle title gender := by
  unfold LocaleRules.genderedTitle
  rcases rel_cases (h.genderTitles title) with
    ⟨hnone, hnone'⟩ | ⟨forms, forms', hsome, hsome', hforms⟩
  · rw [hnone, hnone']
  · rw [hsome, hsome']
    exact hforms.formFor_eq gender

theorem LocaleRules.Respelled.titleFor_eq {tables tables' : LocaleRules}
    (h : tables.Respelled tables') (gender title : String) :
    tables.titleFor gender title = tables'.titleFor gender title := by
  simp only [LocaleRules.titleFor, LocaleRules.regularForm, h.genderedTitle_eq, h.feminineSuffix_eq]

namespace Rules

variable {rules rules' : Rules}

/-- Both find tables for a locale, its own or those of its language, that correspond. -/
theorem Respelled.forLocale (h : rules.Respelled rules') (locale : String) :
    Option.Rel LocaleRules.Respelled (rules.forLocale locale) (rules'.forLocale locale) := by
  unfold Rules.forLocale
  rcases rel_cases (h locale) with ⟨hnone, hnone'⟩ | ⟨tables, tables', hsome, hsome', htables⟩
  · rw [hnone, hnone']
    -- neither has the region, so both are asked for its language
    exact h (baseLanguage locale)
  · rw [hsome, hsome']
    exact .some htables

/-- Neither the spelling of the rules nor that of the gender shows in a title. -/
theorem Respelled.genderAdapt_eq (h : rules.Respelled rules') {gender gender' : String}
    (hgender : normalizeGender gender = normalizeGender gender') (locale title : String) :
    genderAdapt rules locale gender title = genderAdapt rules' locale gender' title := by
  rw [genderAdapt_eq_elim, genderAdapt_eq_elim, hgender]
  rcases rel_cases (h.forLocale locale) with
    ⟨hnone, hnone'⟩ | ⟨tables, tables', hsome, hsome', htables⟩
  · rw [hnone, hnone']
  · rw [hsome, hsome']
    exact htables.titleFor_eq _ title

/-- Both find rules of a preposition that correspond. -/
theorem Respelled.preposition (h : rules.Respelled rules') (locale preposition : String) :
    Option.Rel PrepositionRule.Respelled
      ((rules.forLocale locale).bind (·.prepositions.get? preposition))
      ((rules'.forLocale locale).bind (·.prepositions.get? preposition)) := by
  rcases rel_cases (h.forLocale locale) with
    ⟨hnone, hnone'⟩ | ⟨tables, tables', hsome, hsome', htables⟩
  · rw [hnone, hnone']
    exact .none
  · rw [hsome, hsome']
    exact htables.prepositions preposition

end Rules

end Language

open TextRecipes.Language

/-! ## Phrases and titles -/

/-- The canonical key of the gender that a part has. -/
def Part.canonicalGender? (part : Part) : Option String :=
  (part.gramKey? "gender").map normalizeGender

namespace Language.Rules.Respelled

variable {rules rules' : Rules} {scene : Scene} {part part' : Part} {parts parts' : Parts}

/-- Nor do they show in a phrase, whose preposition goes by the canonical gender of the part. -/
theorem phraseText_eq (h : rules.Respelled rules')
    (hgender : part.canonicalGender? = part'.canonicalGender?) (preposition text : String) :
    { scene with rules := rules }.phraseText preposition part text
      = { scene with rules := rules' }.phraseText preposition part' text := by
  show (((rules.forLocale scene.locale).bind (·.prepositions.get? preposition)).bind
      (·.form part.canonicalGender?)).getD preposition ++ " " ++ text
    = (((rules'.forLocale scene.locale).bind (·.prepositions.get? preposition)).bind
      (·.form part'.canonicalGender?)).getD preposition ++ " " ++ text
  -- the gender goes into the text by its canonical key only
  rw [hgender]
  rcases rel_cases (h.preposition scene.locale preposition) with
    ⟨hnone, hnone'⟩ | ⟨rule, rule', hsome, hsome', hrule⟩
  · rw [hnone, hnone']
  · rw [hsome, hsome', Option.bind_some, Option.bind_some, hrule.form_eq]

/-- A phrase with the part bound to an alias. -/
theorem step_eq (h : rules.Respelled rules')
    (hgender : part.canonicalGender? = part'.canonicalGender?) {name : String}
    (hpart : parts.get? name = some part) (hpart' : parts'.get? name = some part')
    (htext : part.text? scene.locale = part'.text? scene.locale) (draws : Draws)
    (preposition : String) :
    { scene with rules := rules }.step parts draws (.phrase preposition (.bound name))
      = { scene with rules := rules' }.step parts' draws (.phrase preposition (.bound name)) := by
  simp only [Scene.step, Scene.phraseStep, Scene.partText, hpart, hpart', htext,
    h.phraseText_eq hgender]

/-- A title for the person in the alias table. -/
theorem run_genderAdapt_eq (h : rules.Respelled rules')
    (hgender : (Transform.personGender? parts).map normalizeGender
      = (Transform.personGender? parts').map normalizeGender) (locale title : String) :
    Transform.genderAdapt.run rules locale parts title
      = Transform.genderAdapt.run rules' locale parts' title := by
  unfold Transform.run
  cases hperson : Transform.personGender? parts with
  | none =>
      rw [hperson, Option.map_none] at hgender
      -- a person without a gender has none in the other table either
      have hperson' : Transform.personGender? parts' = none :=
        Option.map_eq_none_iff.mp hgender.symm
      rw [hperson']
  | some gender =>
      rw [hperson, Option.map_some] at hgender
      obtain ⟨gender', hperson', hsame⟩ := Option.map_eq_some_iff.mp hgender.symm
      rw [hperson']
      exact h.genderAdapt_eq hsame.symm locale title

/-- **Spellings of gender do not matter**, neither those of the rules nor those of the parts:
phrases and titles are the same for rules and parts whose genders have the same canonical keys. This
is so for listed forms as for defaults, prepositions without rules and the feminine suffix. -/
theorem same_wording (h : rules.Respelled rules') :
    (∀ gender gender', normalizeGender gender = normalizeGender gender' → ∀ locale title,
      genderAdapt rules locale gender title = genderAdapt rules' locale gender' title) ∧
    (∀ parts parts' : Parts,
      (Transform.personGender? parts).map normalizeGender
        = (Transform.personGender? parts').map normalizeGender →
      ∀ locale title, Transform.genderAdapt.run rules locale parts title
        = Transform.genderAdapt.run rules' locale parts' title) ∧
    ∀ (scene : Scene) (part part' : Part), part.canonicalGender? = part'.canonicalGender? →
      (∀ preposition text, { scene with rules := rules }.phraseText preposition part text
        = { scene with rules := rules' }.phraseText preposition part' text) ∧
      ∀ parts parts' name draws preposition, parts.get? name = some part →
        parts'.get? name = some part' → part.text? scene.locale = part'.text? scene.locale →
        let block := Block.phrase preposition (.bound name)
        { scene with rules := rules }.step parts draws block
          = { scene with rules := rules' }.step parts' draws block := by
  refine ⟨?_, ?_, ?_⟩
  · intro gender gender' hgender locale title
    exact h.genderAdapt_eq hgender locale title
  · intro parts parts' hgender locale title
    exact h.run_genderAdapt_eq hgender locale title
  · intro scene part part' hgender
    refine ⟨fun preposition text => h.phraseText_eq hgender preposition text, ?_⟩
    intro parts parts' name draws preposition hpart hpart' htext
    exact h.step_eq hgender hpart hpart' htext draws preposition

end Language.Rules.Respelled

/-! ## A countess in the capital

The same rules with the genders in words and in letters. -/

namespace Capital

/-- Rules with forms of `in` and `Graf`, under the given names of the genders. -/
def german (masculine feminine neuter : String) : Rules :=
  ⟨.ofPairs [("de",
    { prepositions := .ofPairs [("in",
        { forms := .ofPairs [(masculine, "im"), (feminine, "in der"), (neuter, "im")]
          default := some "in" })]
      genderTitles := .ofPairs [("Graf", .ofPairs [(feminine, "Gräfin")])]
      feminineSuffix := some "in" })]⟩

/-- One table in German words and one in letters. -/
theorem respelled : (german "männlich" "weiblich" "sächlich").Respelled (german "m" "f" "n") := by
  refine NameMap.alike_empty.insert ⟨?_, ?_, rfl⟩ "de"
  · refine NameMap.alike_empty.insert ⟨?_, rfl⟩ "in"
    exact .of_perm (by decide +kernel) (by decide +kernel)
  · refine NameMap.alike_empty.insert ?_ "Graf"
    exact .of_perm (by decide +kernel) (by decide +kernel)

def city (gender : String) : Part :=
  .item { text := .ofPairs [("de", "Hauptstadt")], gram := [("gender", .text gender)] }

def countess (gender : String) : Part :=
  .item { text := .ofPairs [("de", "Anna")], gram := [("gender", .text gender)] }

def scene : Scene := { catalogs := .empty, rules := .mk .empty, locale := "de" }

/-- A countess in the capital, in words and in letters. -/
theorem countess_same_wording :
    let inWords := german "männlich" "weiblich" "sächlich"
    let inLetters := german "m" "f" "n"
    genderAdapt inWords "de" "Feminin" "Graf" = genderAdapt inLetters "de" " w" "Graf" ∧
    Transform.genderAdapt.run inWords "de" (.insert .empty "Person" (countess "FEM")) "König"
      = Transform.genderAdapt.run inLetters "de" (.insert .empty "Person" (countess "w")) "König" ∧
    { scene with rules := inWords }.step (.insert .empty "City" (city "f")) {}
        (.phrase "in" (.bound "City"))
      = { scene with rules := inLetters }.step (.insert .empty "City" (city "female")) {}
        (.phrase "in" (.bound "City")) := by
  intro inWords inLetters
  obtain ⟨htitle, hperson, hphrase⟩ := respelled.same_wording
  refine ⟨htitle _ _ (by decide +kernel) _ _, hperson _ _ (by decide +kernel) _ _, ?_⟩
  have hgender : (city "f").canonicalGender? = (city "female").canonicalGender? := by decide +kernel
  exact (hphrase scene _ _ hgender).2 _ _ "City" {} "in" rfl rfl rfl

/-- The countess keeps her title and the capital its article. -/
example : genderAdapt (german "männlich" "weiblich" "sächlich") "de" " w" "Graf" = "Gräfin" ∧
    { scene with rules := german "m" "f" "n" }.phraseText "in" (city "weiblich") "Hauptstadt"
      = "in der Hauptstadt" := by
  decide +kernel

end Capital

end TextRecipes
