import Mathlib.Data.List.Infix
import TextRecipes.Proofs.Composition.Distinctness

/-!
# What identities tell apart

Parts that count as the same (`Part.Same`) have the same written form and so the same identity. The
other way round, a form can be read back if the names and texts in it leave its marks alone
(`Part.Legible`), for the marks are not escaped. Then parts with the same form are the same
(`same_of_form_eq`), and a part whose identity is excluded is the same as the one that excludes it,
or their forms differ and only happen to have the same hash (`same_or_collides`).
-/

namespace TextRecipes

/-! ## Cutting a text at its marks -/

namespace Text

variable {c : Char} {cs a b r s : List Char}

/-- What lies between a label and one that begins no later is nothing, if the label neither lies in
it nor begins inside itself. -/
theorem eq_nil_of_label (hc : c ∉ cs) (ha : ¬ c :: cs <:+: a)
    (h : c :: cs ++ r = a ++ (c :: cs ++ s)) : a = [] := by
  rcases List.append_eq_append_iff.mp h with ⟨rest, rfl, _⟩ | ⟨rest, hlabel, hrest⟩
  · exact absurd (List.prefix_append _ _).isInfix ha
  cases a with
  | nil => rfl
  | cons first a =>
      obtain ⟨rfl, rfl⟩ := List.cons.inj hlabel
      cases rest with
      | nil => exact absurd ⟨[], [], by simp⟩ ha
      | cons first' rest =>
          -- the second label would begin inside the first
          obtain ⟨rfl, _⟩ := List.cons.inj hrest
          exact absurd (List.mem_append_right a List.mem_cons_self) hc

/-- A text is cut at the first place where a label stands. -/
theorem cut_at_label (hc : c ∉ cs) (ha : ¬ c :: cs <:+: a) (hb : ¬ c :: cs <:+: b)
    (h : a ++ (c :: cs ++ r) = b ++ (c :: cs ++ s)) : a = b ∧ r = s := by
  suffices hab : a = b by
    subst hab
    exact ⟨rfl, List.append_cancel_left (List.append_cancel_left h)⟩
  rcases List.append_eq_append_iff.mp h with ⟨rest, rfl, hrest⟩ | ⟨rest, rfl, hrest⟩
  · have hnil : rest = [] :=
      eq_nil_of_label hc (fun hin => hb (hin.trans (List.suffix_append _ _).isInfix)) hrest
    rw [hnil, List.append_nil]
  · have hnil : rest = [] :=
      eq_nil_of_label hc (fun hin => ha (hin.trans (List.suffix_append _ _).isInfix)) hrest
    rw [hnil, List.append_nil]

theorem cut_at_char (ha : c ∉ a) (hb : c ∉ b) (h : a ++ c :: r = b ++ c :: s) : a = b ∧ r = s :=
  cut_at_label List.not_mem_nil (fun hin => ha (hin.subset List.mem_cons_self))
    (fun hin => hb (hin.subset List.mem_cons_self)) h

end Text

/-! ## Parts that are the same -/

namespace Part

/-- Parts that count as the same: items with the same explicit id, items without one that have the
same texts, tags and kinds, and texts of the same recipe that are the same. -/
inductive Same : Part → Part → Prop where
  | named (item item' : Item) (id : String) (hid : item.id = some id) (hid' : item'.id = some id) :
      Same (.item item) (.item item')
  | content (item item' : Item) (hnone : item.id = none) (hnone' : item'.id = none)
      (htext : ∀ locale, item.text.get? locale = item'.text.get? locale)
      (htags : ∀ name, item.tags.contains name = item'.tags.contains name)
      (hkinds : ∀ name, item.kinds.contains name = item'.kinds.contains name) :
      Same (.item item) (.item item')
  | generated (g g' : Generated) (hsource : g.source = g'.source) (htext : g.text = g'.text) :
      Same (.generated g) (.generated g')

variable {part part' : Part}

/-- **Parts that are the same have the same written form**, whatever their weights and their
grammatical values. -/
theorem Same.form_eq (h : Same part part') : part.form = part'.form := by
  cases h with
  | named item item' id hid hid' => simp only [form, Item.form, hid, hid']
  | content item item' hnone hnone' htext htags hkinds =>
      simp only [form, Item.form, hnone, hnone', NameMap.ext_get? htext,
        NameSet.ext_contains htags, NameSet.ext_contains hkinds]
  | generated g g' hsource htext => simp only [form, Generated.form, hsource, htext]

theorem Same.identity_eq (h : Same part part') : part.identity = part'.identity :=
  congrArg Identity.ofForm h.form_eq

end Part

/-- Sets with the same listing are the same set. -/
theorem NameSet.toList_inj {names names' : NameSet} :
    names.toList = names'.toList ↔ names = names' := by
  constructor
  · intro h
    have hentries : names.members.entries = names'.members.entries :=
      (List.map_inj_right fun _ _ hname => Prod.ext hname rfl).mp h
    apply ext_contains
    intro name
    simp only [contains, NameMap.contains, NameMap.get?, hentries]
  · rintro rfl
    rfl

namespace Part

variable {part part' : Part} {i i' : Item} {g g' : Generated}

theorem same_item_iff : (item i).Same (item i') ↔ i.id = i'.id ∧ (i.id = none →
    i.text.entries = i'.text.entries ∧ i.tags.toList = i'.tags.toList ∧
      i.kinds.toList = i'.kinds.toList) := by
  constructor
  · intro h
    cases h with
    | named _ _ id hid hid' =>
        exact ⟨hid.trans hid'.symm, fun hnone => absurd (hid.symm.trans hnone) (by simp)⟩
    | content _ _ hnone hnone' htext htags hkinds =>
        refine ⟨hnone.trans hnone'.symm, fun _ => ⟨?_, ?_, ?_⟩⟩
        · rw [NameMap.ext_get? htext]
        · rw [NameSet.ext_contains htags]
        · rw [NameSet.ext_contains hkinds]
  · rintro ⟨hid, hcontent⟩
    cases hi : i.id with
    | some id => exact .named i i' id hi (hid.symm.trans hi)
    | none =>
        obtain ⟨htext, htags, hkinds⟩ := hcontent hi
        refine .content i i' hi (hid.symm.trans hi) (fun locale => ?_) (fun name => ?_)
          (fun name => ?_)
        · simp only [NameMap.get?, htext]
        · rw [NameSet.toList_inj.mp htags]
        · rw [NameSet.toList_inj.mp hkinds]

theorem same_generated_iff :
    (generated g).Same (generated g') ↔ g.source = g'.source ∧ g.text = g'.text := by
  constructor
  · rintro ⟨⟩
    exact ⟨‹_›, ‹_›⟩
  · rintro ⟨hsource, htext⟩
    exact .generated g g' hsource htext

instance : (part part' : Part) → Decidable (part.Same part')
  | item _, item _ => decidable_of_iff _ same_item_iff.symm
  | generated _, generated _ => decidable_of_iff _ same_generated_iff.symm
  | item _, generated _ => isFalse (by rintro ⟨⟩)
  | generated _, item _ => isFalse (by rintro ⟨⟩)

end Part

/-! ## Forms that can be read back -/

/-- The character of the separator. -/
def Item.separatorChar : Char := '\u001f'

/-- The label of the tags in a written form. -/
def Item.tagsLabel : List Char := "|tags:".toList

/-- The label of the kinds in a written form. -/
def Item.kindsLabel : List Char := "|kinds:".toList

/-- Names that can be read back from a list with separators: none of them has a separator in it, and
there are others if one is empty. -/
structure NameSet.Legible (names : NameSet) : Prop where
  apart : ∀ name ∈ names.toList, Item.separatorChar ∉ name.toList
  not_blank : names.toList ≠ [""]

instance (names : NameSet) : Decidable names.Legible :=
  decidable_of_iff (_ ∧ _) ⟨fun h => ⟨h.1, h.2⟩, fun h => ⟨h.apart, h.not_blank⟩⟩

/-- A locale and a text that can be read back from a list of them. -/
structure Item.EntryLegible (entry : String × String) : Prop where
  /-- The locale ends at the first equals sign. -/
  locale : '=' ∉ entry.1.toList
  /-- The locale does not look like the label behind the list. -/
  unlabelled : ¬ Item.tagsLabel <+: entry.1.toList
  /-- The text ends at the first separator. -/
  text : Item.separatorChar ∉ entry.2.toList

instance (entry : String × String) : Decidable (Item.EntryLegible entry) :=
  decidable_of_iff (_ ∧ _ ∧ _)
    ⟨fun h => ⟨h.1, h.2.1, h.2.2⟩, fun h => ⟨h.locale, h.unlabelled, h.text⟩⟩

/-- An item whose texts, tags and kinds can be read back from its written form. -/
structure Item.Legible (item : Item) : Prop where
  texts : ∀ entry ∈ item.text.entries, Item.EntryLegible entry
  tags : item.tags.Legible
  /-- The tags end at the first label of the kinds. -/
  unlabelled : ¬ Item.kindsLabel <:+: (Item.nameList item.tags).toList
  kinds : item.kinds.Legible

instance (item : Item) : Decidable item.Legible :=
  decidable_of_iff (_ ∧ _ ∧ _ ∧ _)
    ⟨fun h => ⟨h.1, h.2.1, h.2.2.1, h.2.2.2⟩,
      fun h => ⟨h.texts, h.tags, h.unlabelled, h.kinds⟩⟩

/-- A part that can be read back from its written form. An explicit id always can. -/
def Part.Legible : Part → Prop
  | item i => i.id = none → i.Legible
  | generated g => ':' ∉ g.source.toList

instance : (part : Part) → Decidable part.Legible
  | .item item => inferInstanceAs (Decidable (item.id = none → item.Legible))
  | .generated g => inferInstanceAs (Decidable (':' ∉ g.source.toList))

namespace Item

variable {names names' : NameSet} {item item' : Item}

/-! ## Lists of names -/

theorem toList_nameList (names : NameSet) : (nameList names).toList
    = [separatorChar].intercalate (names.toList.map String.toList) :=
  String.toList_intercalate

theorem splitOn_nameList (h : names.Legible) (hne : names.toList ≠ []) :
    (nameList names).toList.splitOn separatorChar = names.toList.map String.toList := by
  rw [toList_nameList]
  refine List.splitOn_intercalate separatorChar ?_ (by simpa using hne)
  intro chars hchars
  obtain ⟨name, hname, rfl⟩ := List.mem_map.mp hchars
  exact h.apart name hname

/-- An empty list of names looks like a list with an empty name, and like no other. -/
theorem eq_nil_of_nameList_eq (h : names.Legible) (hnil : names'.toList = [])
    (heq : nameList names = nameList names') : names.toList = [] := by
  by_contra hne
  have hsplit := splitOn_nameList h hne
  rw [heq, toList_nameList, hnil] at hsplit
  have hblank : names.toList.map String.toList = [""].map String.toList := hsplit.symm
  exact h.not_blank ((List.map_inj_right fun _ _ => String.toList_injective).mp hblank)

/-- A set of names is told by its list, if the names can be read back. -/
theorem toList_eq_of_nameList_eq (h : names.Legible) (h' : names'.Legible)
    (heq : nameList names = nameList names') : names.toList = names'.toList := by
  by_cases hnil : names'.toList = []
  · rw [hnil, eq_nil_of_nameList_eq h hnil heq]
  by_cases hnil' : names.toList = []
  · rw [hnil', eq_nil_of_nameList_eq h' hnil' heq.symm]
  refine (List.map_inj_right fun _ _ => String.toList_injective).mp ?_
  rw [← splitOn_nameList h hnil', ← splitOn_nameList h' hnil, heq]

/-! ## Lists of texts -/

/-- A list of texts with their locales, each closed by a separator. -/
def textChars (entries : List (String × String)) : List Char :=
  entries.flatMap fun e => e.1.toList ++ '=' :: (e.2.toList ++ [separatorChar])

theorem toList_textList (text : LocalizedText) :
    (textList text).toList = textChars text.entries := by
  rw [textList, String.toList_join, List.flatMap_map, textChars]
  congr 1
  funext e
  simp only [String.toList_append, List.append_assoc]
  rfl

theorem textChars_cons (e : String × String) (rest : List (String × String)) (after : List Char) :
    textChars (e :: rest) ++ after
      = e.1.toList ++ '=' :: (e.2.toList ++ separatorChar :: (textChars rest ++ after)) := by
  simp [textChars]

/-- Where the label stands, no further text begins. -/
theorem label_ne_textChars {e : String × String} {rest : List (String × String)}
    {after after' : List Char} (h : EntryLegible e) :
    tagsLabel ++ after ≠ textChars (e :: rest) ++ after' := by
  intro heq
  rw [textChars_cons] at heq
  rcases List.append_eq_append_iff.mp heq with ⟨tail, hlocale, _⟩ | ⟨tail, hlabel, htail⟩
  · exact h.unlabelled (hlocale ▸ List.prefix_append _ _)
  · cases tail with
    | nil => exact h.unlabelled ⟨[], by rw [hlabel, List.append_nil, List.append_nil]⟩
    | cons first tail =>
        -- the label would have the equals sign of the text in it
        obtain ⟨rfl, _⟩ := List.cons.inj htail
        have hmem : '=' ∈ tagsLabel := hlabel ▸ List.mem_append_right _ List.mem_cons_self
        exact absurd hmem (by decide)

/-- Texts that can be read back are told by their list, up to the label behind it. -/
theorem textChars_inj {es fs : List (String × String)} {after after' : List Char}
    (hes : ∀ e ∈ es, EntryLegible e) (hfs : ∀ e ∈ fs, EntryLegible e)
    (h : textChars es ++ (tagsLabel ++ after) = textChars fs ++ (tagsLabel ++ after')) :
    es = fs ∧ after = after' := by
  induction es generalizing fs with
  | nil =>
      cases fs with
      | nil => exact ⟨rfl, List.append_cancel_left h⟩
      | cons f fs => exact absurd h (label_ne_textChars (hfs f List.mem_cons_self))
  | cons e es ih =>
      have he := hes e List.mem_cons_self
      cases fs with
      | nil => exact absurd h.symm (label_ne_textChars he)
      | cons f fs =>
          have hf := hfs f List.mem_cons_self
          rw [textChars_cons, textChars_cons] at h
          obtain ⟨hlocale, h⟩ := Text.cut_at_char he.locale hf.locale h
          obtain ⟨htext, h⟩ := Text.cut_at_char he.text hf.text h
          obtain ⟨rfl, hafter⟩ := ih (fun e' h' => hes e' (List.mem_cons_of_mem _ h'))
            (fun e' h' => hfs e' (List.mem_cons_of_mem _ h')) h
          have hentry : e = f :=
            Prod.ext (String.toList_injective hlocale) (String.toList_injective htext)
          exact ⟨by rw [hentry], hafter⟩

/-! ## Forms of items -/

theorem toList_form (hnone : item.id = none) : item.form.toList
    = "text:".toList ++ (textChars item.text.entries ++ (tagsLabel ++
        ((nameList item.tags).toList ++ (kindsLabel ++ (nameList item.kinds).toList)))) := by
  simp only [form, hnone, String.toList_append, toList_textList, List.append_assoc]
  rfl

/-- **An item that can be read back is told by its written form.** -/
theorem content_eq_of_form_eq (h : item.Legible) (h' : item'.Legible) (hnone : item.id = none)
    (hnone' : item'.id = none) (heq : item.form = item'.form) :
    item.text.entries = item'.text.entries ∧ item.tags.toList = item'.tags.toList ∧
      item.kinds.toList = item'.kinds.toList := by
  have hchars := congrArg String.toList heq
  rw [toList_form hnone, toList_form hnone'] at hchars
  obtain ⟨htext, hchars⟩ := textChars_inj h.texts h'.texts (List.append_cancel_left hchars)
  obtain ⟨htags, hkinds⟩ := Text.cut_at_label (by decide) h.unlabelled h'.unlabelled hchars
  exact ⟨htext, toList_eq_of_nameList_eq h.tags h'.tags (String.toList_injective htags),
    toList_eq_of_nameList_eq h.kinds h'.kinds (String.toList_injective hkinds)⟩

end Item

/-! ## Forms of parts -/

namespace Part

variable {part part' : Part}

/-- The letter that the written form begins with. -/
def initial : Part → Char
  | item i => if i.id.isSome then 'i' else 't'
  | generated _ => 's'

theorem head?_form (part : Part) : part.form.toList.head? = some part.initial := by
  cases part with
  | item i =>
      cases hid : i.id with
      | none => simp [form, Item.form, initial, hid]
      | some id => simp [form, Item.form, initial, hid]
  | generated g => simp [form, Generated.form, initial]

/-- **A form tells what it is derived from**: an explicit id, the content of an item, or generated
text. -/
theorem initial_eq_of_form_eq (h : part.form = part'.form) : part.initial = part'.initial := by
  have hhead := congrArg (fun s => s.toList.head?) h
  simpa only [head?_form, Option.some_inj] using hhead

/-- **Parts that can be read back are the same if their forms are.** -/
theorem same_of_form_eq (h : part.Legible) (h' : part'.Legible) (heq : part.form = part'.form) :
    part.Same part' := by
  have hinitial := initial_eq_of_form_eq heq
  cases part with
  | item i =>
      cases part' with
      | generated g =>
          cases hid : i.id <;> simp [initial, hid] at hinitial
      | item i' =>
          rw [same_item_iff]
          cases hid : i.id <;> cases hid' : i'.id
          case none.none =>
            exact ⟨rfl, fun _ => Item.content_eq_of_form_eq (h hid) (h' hid') hid hid' heq⟩
          case some.some id id' =>
            have hform : "id:" ++ id = "id:" ++ id' := by
              simpa only [form, Item.form, hid, hid'] using heq
            rw [(String.append_right_inj "id:").mp hform]
            exact ⟨rfl, fun hnone => absurd hnone (Option.some_ne_none _)⟩
          all_goals simp [initial, hid, hid'] at hinitial
  | generated g =>
      cases part' with
      | item i =>
          cases hid : i.id <;> simp [initial, hid] at hinitial
      | generated g' =>
          have hchars := congrArg String.toList heq
          simp only [form, Generated.form, String.toList_append, List.append_assoc] at hchars
          obtain ⟨hsource, htext⟩ := Text.cut_at_char h h' (List.append_cancel_left hchars)
          exact same_generated_iff.mpr
            ⟨String.toList_injective hsource, String.toList_injective htext⟩

end Part

/-! ## Parts that must differ -/

namespace Scene

variable {parts : Parts} {aliases : List String} {item : Item}

theorem mem_boundIdentities_iff {identity : Identity} :
    identity ∈ boundIdentities parts aliases ↔
      ∃ name ∈ aliases, ∃ part, parts.get? name = some part ∧ part.identity = identity := by
  constructor
  · intro h
    rw [boundIdentities, List.mem_eraseDups, List.mem_filterMap] at h
    obtain ⟨name, hname, hidentity⟩ := h
    obtain ⟨part, hpart, rfl⟩ := Option.map_eq_some_iff.mp hidentity
    exact ⟨name, hname, part, hpart, rfl⟩
  · rintro ⟨name, hname, part, hpart, rfl⟩
    exact mem_boundIdentities hname hpart

/-- **An item is excluded by a part that is the same**, or by one whose form has the same hash by
chance. -/
theorem same_or_collides (hitem : (Part.item item).Legible)
    (hlegible : ∀ name ∈ aliases, ∀ part, parts.get? name = some part → part.Legible)
    (h : item.identity ∈ boundIdentities parts aliases) :
    ∃ name ∈ aliases, ∃ part, parts.get? name = some part ∧
      (part.Same (.item item) ∨
        part.form ≠ item.form ∧ Random.hash part.form = Random.hash item.form) := by
  obtain ⟨name, hname, part, hpart, hidentity⟩ := mem_boundIdentities_iff.mp h
  refine ⟨name, hname, part, hpart, ?_⟩
  by_cases hform : part.form = item.form
  · exact .inl (Part.same_of_form_eq (hlegible name hname part hpart) hitem hform)
  · exact .inr ⟨hform, congrArg Identity.hash hidentity⟩

/-- **Identities tell parts apart**, as far as their forms can be read back. Parts that are the same
have the same form and the same identity; parts that can be read back have the same form only if
they are the same; and the form of an explicit id is never that of a content or of generated text.
So an item that must differ from some parts is excluded if one of them is the same, and otherwise
only if a different form happens to have the same hash. -/
theorem identities_tell_apart (part part' : Part) :
    (part.Same part' → part.form = part'.form ∧ part.identity = part'.identity) ∧
    (part.Legible → part'.Legible → (part.form = part'.form ↔ part.Same part')) ∧
    (part.form = part'.form → part.initial = part'.initial) ∧
    ∀ (parts : Parts) (aliases : List String) (item : Item), (Part.item item).Legible →
      (∀ name ∈ aliases, ∀ part, parts.get? name = some part → part.Legible) →
      (∀ name ∈ aliases, ∀ part, parts.get? name = some part → part.Same (.item item) →
        item.identity ∈ boundIdentities parts aliases) ∧
      (item.identity ∈ boundIdentities parts aliases →
        ∃ name ∈ aliases, ∃ part, parts.get? name = some part ∧
          (part.Same (.item item) ∨
            part.form ≠ item.form ∧ Random.hash part.form = Random.hash item.form)) := by
  refine ⟨fun h => ⟨h.form_eq, h.identity_eq⟩, fun h h' => ?_, Part.initial_eq_of_form_eq,
    fun parts aliases item hitem hlegible => ⟨?_, ?_⟩⟩
  · exact ⟨Part.same_of_form_eq h h', Part.Same.form_eq⟩
  · intro name hname bound hbound hsame
    exact mem_boundIdentities_iff.mpr ⟨name, hname, bound, hbound, hsame.identity_eq⟩
  · exact same_or_collides hitem hlegible

end Scene

/-! ## Towns of one name

A second Ulm differs from the first in its tags only, and so the identities differ. But an empty tag
does not show in the written form, and neither do marks that stand in a name or in a text. -/

namespace Namesakes

def ulm : Item where
  text := .ofPairs [("en", "Ulm")]
  tags := .ofList ["town", "river"]
  weight := 2

def ulm' : Item := { text := .ofPairs [("en", "Ulm")], tags := .ofList ["river", "town"] }

def village : Item := { text := .ofPairs [("en", "Ulm")], tags := .ofList ["village"] }

/-- Two towns that are bound, and one that has to differ from them. -/
def bound : Parts := ⟨[("From", .item ulm), ("By", .item village)], by decide⟩

theorem ulm_excluded : (Part.item ulm).Legible ∧ (Part.item village).Legible ∧
    (Part.item ulm).Same (.item ulm') ∧ ulm.identity = ulm'.identity ∧
    ulm.form ≠ village.form ∧ ulm'.identity ∈ Scene.boundIdentities bound ["From", "By"] := by
  obtain ⟨hsame, _, _, hexcluded⟩ := Scene.identities_tell_apart (.item ulm) (.item ulm')
  obtain ⟨_, hlegible, _, _⟩ := Scene.identities_tell_apart (.item ulm) (.item village)
  have hulm : (Part.item ulm).Legible := by decide +kernel
  have hulm' : (Part.item ulm').Legible := by decide +kernel
  have hvillage : (Part.item village).Legible := by decide +kernel
  have hsame' : (Part.item ulm).Same (.item ulm') := by decide +kernel
  have hall : ∀ name ∈ ["From", "By"], ∀ part, bound.get? name = some part → part.Legible := by
    intro name hname part hpart
    simp only [List.mem_cons, List.not_mem_nil, or_false] at hname
    rcases hname with rfl | rfl <;> cases hpart
    · exact hulm
    · exact hvillage
  refine ⟨hulm, hvillage, hsame', (hsame hsame').2, ?_, ?_⟩
  · intro hform
    exact absurd ((hlegible hulm hvillage).mp hform) (by decide +kernel)
  · exact (hexcluded bound ["From", "By"] ulm' hulm' hall).1 "From" List.mem_cons_self _ rfl hsame'

def town : Item := { text := .ofPairs [("en", "Ulm")] }

/-- Parts that are different and have the same form. In each pair one of the conditions fails under
which a form can be read back. -/
def confused : List (Part × Part) :=
  [(.item town, .item { town with tags := .ofList [""] }),
   (.item { town with tags := .ofList ["a", "b"] },
    .item { town with tags := .ofList ["a\u001fb"] }),
   (.item { town with tags := .ofList ["a"], kinds := .ofList ["b|kinds:"] },
    .item { town with tags := .ofList ["a|kinds:b"] }),
   (.item { text := .ofPairs [("en", "a=b")] }, .item { text := .ofPairs [("en=a", "b")] }),
   (.item { text := .ofPairs [("en", "Ulm"), ("fr", "Oulme")] },
    .item { text := .ofPairs [("en", "Ulm\u001ffr=Oulme")] }),
   (.item { text := .empty, tags := .ofList ["a=b", "|tags:"] },
    .item { text := .ofPairs [("|tags:a", "b")] }),
   (.generated ⟨"c", "en", "a:b"⟩, .generated ⟨"b:c", "en", "a"⟩)]

def scene : Scene where
  catalogs := .ofPairs [("here", ⟨[town]⟩), ("there", ⟨[{ town with tags := .ofList [""] }]⟩)]
  rules := {}
  locale := "en"

def journey : Pattern :=
  [.select { key := "here", bindAs := some "From" },
   .select { key := "there", distinctFrom := ["From"] }]

/-- The only other town is excluded, although it is different. -/
theorem different_town_excluded :
    (∀ pair ∈ confused, pair.1.form = pair.2.form ∧ ¬ pair.1.Same pair.2) ∧
    scene.compose journey = .error (.inBlock 1 (.allExcluded "there" {} 20 ["From"])) := by
  constructor
  · decide +kernel
  · rfl

end Namesakes

end TextRecipes
