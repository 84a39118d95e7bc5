import Mathlib.Data.List.Induction
import TextRecipes.Agreeing
import TextRecipes.Proofs.DottedPaths
import TextRecipes.Proofs.Merging

/-!
# What agreement asks for

The clause of an agreement is made feature by feature. Tags only add up, so each feature asks for
its own (`AsksTag`) whatever comes before or after it; kinds are replaced, so that those of the last
feature count that shares any with the source (`AsksLast`). Nothing else of a clause is touched, and
so the clause admits just the items that agree (`Agreement.admits_iff_agrees`).

Merged into the clause of a block it narrows the selection. The items that remain pass both clauses,
and they are all that do unless both clauses list kinds: then an item with a kind of each may have
none that both list.
-/

namespace TextRecipes

/-! ## What a feature asks for -/

/-- A dotted path leads to a grammatical value of a part. Only items have such values. -/
inductive Part.LeadsTo : Part → String → Gram → Prop
  | item {item : Item} {path : String} {value : Gram}
      (h : Gram.LeadsTo item.gram (Gram.pathNames path) value) : LeadsTo (.item item) path value

namespace AgreementFeature

/-- A feature asks for a tag: one that it lists and the source has, or the one that it gives for a
grammatical value of the source. -/
inductive AsksTag (source : Part) : AgreementFeature → String → Prop
  | tags {required : List String} {tag : String} (hlisted : tag ∈ required)
      (hhas : source.tags.contains tag = true) : AsksTag source (.tags required) tag
  | gram {path : String} {map : NameMap String} {value : Gram} {key tag : String}
      (hleads : source.LeadsTo path value) (hkey : value.key? = some key)
      (hmap : map.get? key = some tag) : AsksTag source (.gram path map) tag

/-- A feature lists a kind that the source has. -/
inductive AsksKind (source : Part) : AgreementFeature → String → Prop
  | kinds {required : List String} {kind : String} (hlisted : kind ∈ required)
      (hhas : source.kinds.contains kind = true) : AsksKind source (.kinds required) kind

/-- The last feature that asks for kinds asks for this one. -/
def AsksLast (source : Part) (features : List AgreementFeature) (kind : String) : Prop :=
  ∃ before feature after, features = before ++ feature :: after ∧ feature.AsksKind source kind ∧
    ∀ later ∈ after, ∀ other, ¬ later.AsksKind source other

/-- Whether a feature is about kinds. -/
def isKinds : AgreementFeature → Bool
  | kinds _ => true
  | _ => false

end AgreementFeature

/-- An item agrees with the source: it has every tag that a feature asks for, and if features ask
for kinds, one of those that the last such feature asks for. -/
structure Agrees (source : Part) (features : List AgreementFeature) (item : Item) : Prop where
  tags : ∀ feature ∈ features, ∀ tag, feature.AsksTag source tag → item.tags.contains tag = true
  kinds : (∃ feature ∈ features, ∃ kind, feature.AsksKind source kind) →
    ∃ kind, AgreementFeature.AsksLast source features kind ∧ item.kinds.contains kind = true

/-! ## Grammatical values -/

theorem Part.gram?_eq_some {p : Part} {path : String} {value : Gram} :
    p.gram? path = some value ↔ p.LeadsTo path value := by
  constructor
  · intro h
    cases p with
    | item item => exact .item (Gram.follow_eq_some.mp h)
    | generated g => cases h
  · rintro ⟨h⟩
    exact Gram.follow_eq_some.mpr h

theorem Part.gramKey?_eq_some {p : Part} {path key : String} :
    p.gramKey? path = some key ↔ ∃ value, p.LeadsTo path value ∧ value.key? = some key := by
  simp only [gramKey?, Option.bind_eq_some_iff, gram?_eq_some]

/-! ## One feature -/

namespace AgreementFeature

variable {source : Part} {clause : Clause} {features : List AgreementFeature}

theorem asksTag_tags {required : List String} {tag : String} :
    AsksTag source (tags required) tag ↔ tag ∈ required ∧ source.tags.contains tag = true := by
  constructor
  · intro h
    cases h with
    | tags hlisted hhas => exact ⟨hlisted, hhas⟩
  · rintro ⟨hlisted, hhas⟩
    exact .tags hlisted hhas

theorem asksTag_gram {path : String} {map : NameMap String} {tag : String} :
    AsksTag source (gram path map) tag ↔ (source.gramKey? path).bind map.get? = some tag := by
  rw [Option.bind_eq_some_iff]
  constructor
  · intro h
    cases h with
    | gram hleads hkey hmap => exact ⟨_, Part.gramKey?_eq_some.mpr ⟨_, hleads, hkey⟩, hmap⟩
  · rintro ⟨key, hkey, hmap⟩
    obtain ⟨value, hleads, hkey⟩ := Part.gramKey?_eq_some.mp hkey
    exact .gram hleads hkey hmap

theorem asksKind_kinds {required : List String} {kind : String} :
    AsksKind source (kinds required) kind ↔ kind ∈ required.filter source.kinds.contains := by
  rw [List.mem_filter]
  exact ⟨fun ⟨hlisted, hhas⟩ => ⟨hlisted, hhas⟩, fun ⟨hlisted, hhas⟩ => .kinds hlisted hhas⟩

/-- A feature adds the tags that it asks for. -/
theorem mem_tags_addTo (feature : AgreementFeature) {tag : String} :
    tag ∈ (feature.addTo source clause).tags ↔
      tag ∈ clause.tags ∨ feature.AsksTag source tag := by
  cases feature with
  | tags required => rw [asksTag_tags, addTo, List.mem_append, List.mem_filter]
  | gram path map =>
      rw [asksTag_gram, addTo]
      split
      · next found hfound => simp [hfound, eq_comm]
      · next hnone => simp [hnone]
  | kinds required =>
      have hnot : ¬ AsksTag source (kinds required) tag := nofun
      rw [or_iff_left hnot, addTo]
      split <;> rfl

/-- A feature replaces the kinds if it asks for any. -/
theorem mem_kinds_addTo (feature : AgreementFeature) {kind : String} :
    kind ∈ (feature.addTo source clause).kinds ↔
      feature.AsksKind source kind ∨
        (∀ other, ¬ feature.AsksKind source other) ∧ kind ∈ clause.kinds := by
  cases feature with
  | tags required =>
      have hnot : ∀ other, ¬ AsksKind source (tags required) other := nofun
      simp [addTo, hnot]
  | gram path map =>
      have hnot : ∀ other, ¬ AsksKind source (gram path map) other := nofun
      rw [addTo]
      split <;> simp [hnot]
  | kinds required =>
      simp only [asksKind_kinds, ← List.eq_nil_iff_forall_not_mem, addTo]
      split
      · next hnil =>
          have hnone := List.isEmpty_iff.mp hnil
          simp [hnone]
      · next hsome =>
          have hne : required.filter source.kinds.contains ≠ [] := by simpa using hsome
          simp [hne]

/-- Nothing but the tags and the kinds is touched. -/
theorem frame_addTo (source : Part) (clause : Clause) (feature : AgreementFeature) :
    (feature.addTo source clause).anyOfTags = clause.anyOfTags ∧
    (feature.addTo source clause).noneOfTags = clause.noneOfTags ∧
    (feature.addTo source clause).kindsConflict = clause.kindsConflict := by
  cases feature with
  | tags required => exact ⟨rfl, rfl, rfl⟩
  | gram path map =>
      rw [addTo]
      split <;> exact ⟨rfl, rfl, rfl⟩
  | kinds required =>
      rw [addTo]
      split <;> exact ⟨rfl, rfl, rfl⟩

/-! ## All features -/

theorem mem_tags_foldl (features : List AgreementFeature) (clause : Clause) {tag : String} :
    tag ∈ (features.foldl (addTo source) clause).tags ↔
      tag ∈ clause.tags ∨ ∃ feature ∈ features, feature.AsksTag source tag := by
  induction features generalizing clause with
  | nil => simp
  | cons feature rest ih =>
      rw [List.foldl_cons, ih, mem_tags_addTo, or_assoc]
      simp only [List.mem_cons, exists_eq_or_imp]

theorem frame_foldl (features : List AgreementFeature) (clause : Clause) :
    (features.foldl (addTo source) clause).anyOfTags = clause.anyOfTags ∧
    (features.foldl (addTo source) clause).noneOfTags = clause.noneOfTags ∧
    (features.foldl (addTo source) clause).kindsConflict = clause.kindsConflict := by
  induction features generalizing clause with
  | nil => exact ⟨rfl, rfl, rfl⟩
  | cons feature rest ih =>
      obtain ⟨hany, hnone, hmark⟩ := frame_addTo source clause feature
      rw [List.foldl_cons, ← hany, ← hnone, ← hmark]
      exact ih (feature.addTo source clause)

theorem not_asksLast_nil {kind : String} : ¬ AsksLast source [] kind := by
  rintro ⟨before, feature, after, hsplit, _⟩
  simp at hsplit

/-- The last feature decides, unless it asks for no kind. -/
theorem asksLast_concat {feature : AgreementFeature} {kind : String} :
    AsksLast source (features ++ [feature]) kind ↔ feature.AsksKind source kind ∨
      (∀ other, ¬ feature.AsksKind source other) ∧ AsksLast source features kind := by
  constructor
  · rintro ⟨before, last, after, hsplit, hasks, hlater⟩
    rcases List.eq_nil_or_concat after with rfl | ⟨between, next, rfl⟩
    · obtain ⟨_, hsame⟩ := List.append_inj' hsplit rfl
      cases hsame
      exact .inl hasks
    · rw [List.concat_eq_append] at hsplit hlater
      rw [← List.cons_append, ← List.append_assoc] at hsplit
      obtain ⟨rfl, hsame⟩ := List.append_inj' hsplit rfl
      cases hsame
      refine .inr ⟨hlater feature (by simp), before, last, between, rfl, hasks, fun later h => ?_⟩
      exact hlater later (List.mem_append_left _ h)
  · rintro (hasks | ⟨hnot, before, last, after, rfl, hasks, hlater⟩)
    · exact ⟨features, feature, [], rfl, hasks, nofun⟩
    · refine ⟨before, last, after ++ [feature], by simp, hasks, fun later h => ?_⟩
      rcases List.mem_append.mp h with h | h
      · exact hlater later h
      · rw [List.mem_singleton.mp h]
        exact hnot

/-- **The last feature that asks for kinds decides on them.** The induction takes the features from
the end, where the kinds were replaced last. -/
theorem mem_kinds_foldl (features : List AgreementFeature) (clause : Clause) {kind : String} :
    kind ∈ (features.foldl (addTo source) clause).kinds ↔
      AsksLast source features kind ∨
        (∀ feature ∈ features, ∀ other, ¬ feature.AsksKind source other) ∧
          kind ∈ clause.kinds := by
  induction features using List.reverseRecOn with
  | nil => simp [not_asksLast_nil]
  | append_singleton rest feature ih =>
      rw [List.foldl_append, List.foldl_cons, List.foldl_nil, mem_kinds_addTo, ih,
        asksLast_concat, List.forall_mem_append, List.forall_mem_singleton]
      constructor
      · rintro (hasks | ⟨hnot, hlast | ⟨hnone, hkind⟩⟩)
        · exact .inl (.inl hasks)
        · exact .inl (.inr ⟨hnot, hlast⟩)
        · exact .inr ⟨⟨hnone, hnot⟩, hkind⟩
      · rintro ((hasks | ⟨hnot, hlast⟩) | ⟨⟨hnone, hnot⟩, hkind⟩)
        · exact .inl hasks
        · exact .inr ⟨hnot, .inl hlast⟩
        · exact .inr ⟨hnot, .inr ⟨hnone, hkind⟩⟩

/-- If some feature asks for kinds, there is a last one that does. -/
theorem exists_asksLast (h : ∃ feature ∈ features, ∃ kind, feature.AsksKind source kind) :
    ∃ kind, AsksLast source features kind := by
  induction features using List.reverseRecOn with
  | nil => simp at h
  | append_singleton rest feature ih =>
      by_cases hlast : ∃ kind, feature.AsksKind source kind
      · obtain ⟨kind, hkind⟩ := hlast
        exact ⟨kind, asksLast_concat.mpr (.inl hkind)⟩
      · obtain ⟨other, hother, hasks⟩ := h
        have hrest : other ∈ rest := by
          rcases List.mem_append.mp hother with hmem | hmem
          · exact hmem
          · rw [List.mem_singleton.mp hmem] at hasks
            exact absurd hasks hlast
        obtain ⟨kind, hkind⟩ := ih ⟨other, hrest, hasks⟩
        exact ⟨kind, asksLast_concat.mpr (.inr ⟨not_exists.mp hlast, hkind⟩)⟩

theorem mem_kinds_foldl_all (features : List AgreementFeature) {kind : String} :
    kind ∈ (features.foldl (addTo source) .all).kinds ↔ AsksLast source features kind := by
  rw [mem_kinds_foldl]
  exact or_iff_left fun hall => List.not_mem_nil hall.2

/-- The features that are not about kinds have no part in which kinds are asked for. -/
theorem asksLast_filter {kind : String} :
    AsksLast source (features.filter isKinds) kind ↔ AsksLast source features kind := by
  induction features using List.reverseRecOn with
  | nil => exact Iff.rfl
  | append_singleton rest feature ih =>
      rw [List.filter_append, asksLast_concat]
      cases hkinds : feature.isKinds with
      | true =>
          rw [List.filter_cons_of_pos hkinds, List.filter_nil, asksLast_concat, ih]
      | false =>
          have hnot : ∀ other, ¬ feature.AsksKind source other := by
            rintro other ⟨⟩
            cases hkinds
          rw [List.filter_cons_of_neg (by simp [hkinds]), List.filter_nil, List.append_nil, ih,
            or_iff_right (hnot kind), and_iff_right hnot]

end AgreementFeature

/-- Features that are not about kinds may stand anywhere. -/
theorem Agrees.of_perm {source : Part} {features features' : List AgreementFeature} {item : Item}
    (h : Agrees source features item) (hperm : features.Perm features')
    (hkinds : features.filter (·.isKinds) = features'.filter (·.isKinds)) :
    Agrees source features' item where
  tags feature hmem := h.tags feature (hperm.mem_iff.mpr hmem)
  kinds := by
    rintro ⟨feature, hmem, hasks⟩
    obtain ⟨kind, hlast, hhas⟩ := h.kinds ⟨feature, hperm.mem_iff.mpr hmem, hasks⟩
    refine ⟨kind, ?_, hhas⟩
    rw [← AgreementFeature.asksLast_filter] at hlast ⊢
    exact hkinds ▸ hlast

/-! ## The clause of an agreement -/

namespace Agreement

open AgreementFeature

variable {agreement : Agreement} {parts : Parts} {source : Part} {item : Item}

theorem clause_of_bound (h : parts.get? agreement.source = some source) :
    agreement.clause parts = agreement.features.foldl (addTo source) .all := by
  rw [clause, h]

theorem clause_of_unbound (h : parts.get? agreement.source = none) :
    agreement.clause parts = .all := by
  rw [clause, h]

/-- The clause of an agreement lists no tags but those asked for, and its kinds exclude nothing. -/
theorem frame_clause (agreement : Agreement) (parts : Parts) :
    (agreement.clause parts).anyOfTags = [] ∧ (agreement.clause parts).noneOfTags = [] ∧
    (agreement.clause parts).kindsConflict = false := by
  cases h : parts.get? agreement.source with
  | none =>
      rw [clause_of_unbound h]
      exact ⟨rfl, rfl, rfl⟩
  | some source =>
      rw [clause_of_bound h]
      exact frame_foldl agreement.features .all

/-- **The clause of an agreement admits the items that agree.** -/
theorem admits_iff_agrees (h : parts.get? agreement.source = some source) :
    (agreement.clause parts).admits item = true ↔ Agrees source agreement.features item := by
  obtain ⟨hany, hnone, hmark⟩ := agreement.frame_clause parts
  have htags : ∀ tag, tag ∈ (agreement.clause parts).tags ↔
      ∃ feature ∈ agreement.features, feature.AsksTag source tag := by
    intro tag
    rw [clause_of_bound h, mem_tags_foldl]
    exact or_iff_right List.not_mem_nil
  have hkinds : ∀ kind, kind ∈ (agreement.clause parts).kinds ↔
      AsksLast source agreement.features kind := by
    intro kind
    rw [clause_of_bound h, mem_kinds_foldl_all]
  rw [Clause.admits_eq_true, hany, hnone]
  constructor
  · rintro ⟨hallowed, hall, _⟩
    refine ⟨fun feature hmem tag hasks => hall tag ((htags tag).mpr ⟨feature, hmem, hasks⟩), ?_⟩
    intro hsome
    obtain ⟨last, hlast⟩ := exists_asksLast hsome
    have hne : (agreement.clause parts).kinds ≠ [] :=
      List.ne_nil_of_mem ((hkinds last).mpr hlast)
    obtain ⟨_, hnil⟩ | ⟨kind, hhas, _, hlisted⟩ := hallowed
    · exact absurd hnil hne
    · exact ⟨kind, (hkinds kind).mp (hlisted.resolve_left hne), hhas⟩
  · intro hagrees
    refine ⟨?_, ?_, .inl rfl, nofun⟩
    · by_cases hsome : ∃ feature ∈ agreement.features, ∃ kind, feature.AsksKind source kind
      · obtain ⟨kind, hlast, hhas⟩ := hagrees.kinds hsome
        exact .inr ⟨kind, hhas, hmark, .inr ((hkinds kind).mpr hlast)⟩
      · refine .inl ⟨hmark, List.eq_nil_iff_forall_not_mem.mpr fun kind hmem => hsome ?_⟩
        obtain ⟨before, feature, after, hsplit, hasks, _⟩ := (hkinds kind).mp hmem
        exact ⟨feature, by simp [hsplit], kind, hasks⟩
    · intro tag hmem
      obtain ⟨feature, hfeature, hasks⟩ := (htags tag).mp hmem
      exact hagrees.tags feature hfeature tag hasks

/-- **What agreement asks for.** If the source is not bound, every item is admitted, and otherwise
those that agree with it. Merged into the clause of a block, the clause of an agreement narrows the
selection, to all items that both clauses admit unless both list kinds. Features that are not about
kinds may stand anywhere among the others. -/
theorem clause_narrows (agreement : Agreement) (parts : Parts) :
    (parts.get? agreement.source = none → ∀ item, (agreement.clause parts).admits item = true) ∧
    (∀ source, parts.get? agreement.source = some source → ∀ item,
      ((agreement.clause parts).admits item = true ↔ Agrees source agreement.features item)) ∧
    (∀ (base : Clause) (item : Item), (base.merge (agreement.clause parts)).admits item = true →
      base.admits item = true ∧ (agreement.clause parts).admits item = true) ∧
    (∀ (base : Clause) (item : Item), base.kinds = [] ∨ (agreement.clause parts).kinds = [] →
      base.admits item = true → (agreement.clause parts).admits item = true →
      (base.merge (agreement.clause parts)).admits item = true) ∧
    (agreement.clause parts).kindsConflict = false ∧
    (∀ features : List AgreementFeature, agreement.features.Perm features →
      agreement.features.filter (·.isKinds) = features.filter (·.isKinds) →
      ∀ item, ({ agreement with features }.clause parts).admits item
        = (agreement.clause parts).admits item) := by
  obtain ⟨hany, _, hmark⟩ := agreement.frame_clause parts
  refine ⟨fun hnone item => ?_, fun source hsource item => admits_iff_agrees hsource,
    fun base item => Clause.admits_of_merge hany, fun base item => Clause.admits_merge, hmark, ?_⟩
  · rw [clause_of_unbound hnone]
    rfl
  · intro features hperm hkinds item
    -- the same source, with the features in another order
    cases hsource : parts.get? agreement.source with
    | none =>
        have hsource' : parts.get? { agreement with features }.source = none := hsource
        rw [clause_of_unbound hsource, clause_of_unbound hsource']
    | some source =>
        have hsource' : parts.get? { agreement with features }.source = some source := hsource
        rw [Bool.eq_iff_iff, admits_iff_agrees hsource, admits_iff_agrees hsource']
        exact ⟨fun h => h.of_perm hperm.symm hkinds.symm, fun h => h.of_perm hperm hkinds⟩

end Agreement

/-! ## An heir to the queen

The queen is a person and a ruler, so the second of three features about kinds decides: an heir has
to be a person or a ruler, and need not be one of the gods. The path `forms.gender` leads to a word,
`forms` itself to a table that no tag stands for. -/

namespace Succession

def queen : Item where
  text := .ofPairs [("en", "Queen Maud")]
  tags := .ofList ["north", "old"]
  kinds := .ofList ["person", "ruler"]
  gram := [("forms", .table [("gender", .text "f")])]

def heir : Item where
  text := .ofPairs [("en", "Lady Ann")]
  tags := .ofList ["north", "woman"]
  kinds := .ofList ["person"]

def genders : NameMap String := .ofPairs [("f", "woman"), ("m", "man")]

def agreement : Agreement where
  source := "Queen"
  features := [.kinds ["ruler", "god"], .tags ["north", "young"], .gram "forms.gender" genders,
    .kinds ["person", "ruler"], .gram "forms" genders, .kinds ["river"]]

/-- The feature that decides on the kinds stands before the tags here. -/
def reordered : List AgreementFeature :=
  [.kinds ["ruler", "god"], .kinds ["person", "ruler"], .tags ["north", "young"],
    .gram "forms.gender" genders, .gram "forms" genders, .kinds ["river"]]

def parts : Parts := ⟨[("Queen", .item queen)], by decide⟩

def base : Clause := { noneOfTags := ["young"], anyOfTags := ["woman", "man"] }

theorem reordered_perm : agreement.features.Perm reordered :=
  .cons _ (.trans (.cons _ (.swap _ _ _)) (.swap _ _ _))

theorem heir_agrees : parts.get? agreement.source = some (.item queen) ∧
    Agrees (.item queen) agreement.features heir ∧
    (base.merge (agreement.clause parts)).admits heir = true ∧
    ({ agreement with features := reordered }.clause parts).admits heir = true ∧
    (agreement.clause .empty).admits queen = true ∧
    (agreement.clause parts).admits queen = false := by
  obtain ⟨hunbound, hagrees, _, hmerge, _, hperm⟩ := agreement.clause_narrows parts
  have hadmits : (agreement.clause parts).admits heir = true := by decide
  refine ⟨rfl, (hagrees _ rfl heir).mp hadmits, ?_, ?_, ?_, by decide⟩
  · exact hmerge base heir (.inl rfl) (by decide) hadmits
  · rw [hperm reordered reordered_perm rfl heir]
    exact hadmits
  · exact (agreement.clause_narrows .empty).1 rfl queen

end Succession

end TextRecipes
