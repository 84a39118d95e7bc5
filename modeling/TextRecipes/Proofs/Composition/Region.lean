import TextRecipes.Proofs.Composition.Attempt
import TextRecipes.Proofs.Composition.Trace
import TextRecipes.Proofs.Language.Region

/-!
# Runs in a region and in its language

A scene whose locale is a region can be read in the language of the region instead
(`Scene.inLanguage`). If nothing on the scene is written for the region itself
(`Scene.LacksRegion`), every pattern makes the same of both (`compose_inLanguage`). All that differs
is the locale that generated text remembers: `relocate` is that change, for parts and for everything
that holds parts.

Texts of the region are also what a part could bring into the alias table, so the runs are compared
together with the fact that no part that they bind has one (`Parts.Lacks`).
-/

namespace TextRecipes

/-! ## Parts -/

namespace Part

/-- The part with another locale remembered, if it is generated text. -/
def relocate (locale : String) : Part → Part
  | item i => .item i
  | generated g => .generated { g with locale := locale }

section

variable (locale : String) (part : Part)

/-- The locale of a part is no part of its written form. -/
@[simp] theorem form_relocate : (part.relocate locale).form = part.form := by
  cases part <;> rfl

@[simp] theorem identity_relocate : (part.relocate locale).identity = part.identity := by
  rw [identity, form_relocate, identity]

@[simp] theorem text?_relocate (other : String) :
    (part.relocate locale).text? other = part.text? other := by
  cases part <;> rfl

@[simp] theorem tags_relocate : (part.relocate locale).tags = part.tags := by
  cases part <;> rfl

@[simp] theorem kinds_relocate : (part.relocate locale).kinds = part.kinds := by
  cases part <;> rfl

@[simp] theorem gram?_relocate (path : String) :
    (part.relocate locale).gram? path = part.gram? path := by
  cases part <;> rfl

@[simp] theorem gramKey?_relocate (path : String) :
    (part.relocate locale).gramKey? path = part.gramKey? path := by
  rw [gramKey?, gram?_relocate, gramKey?]

end

/-- The part is no item with a text for the locale itself. -/
def Lacks (locale : String) : Part → Prop
  | item i => i.text.get? locale = none
  | generated _ => True

/-- A part without a text for the region itself reads the same in the base language. -/
theorem Lacks.text?_base {locale : String} {part : Part} (h : part.Lacks locale) :
    part.text? (baseLanguage locale) = part.text? locale := by
  cases part with
  | item i => exact LocalizedText.forLocale_base h
  | generated g => rfl

end Part

/-! ## Alias tables -/

/-- Changing the parts of a table and binding a name in it may be done in either order. -/
theorem map_bindIn (f : Part → Part) (name : String) (part : Part)
    (bindings : List (String × Part)) :
    (bindIn name part bindings).map (fun b => (b.1, f b.2))
      = bindIn name (f part) (bindings.map fun b => (b.1, f b.2)) := by
  induction bindings with
  | nil => rfl
  | cons b rest ih =>
      simp only [bindIn, List.map_cons]
      split
      · rfl
      · rw [List.map_cons, ih]

theorem lookup_map_snd (f : Part → Part) (name : String) (bindings : List (String × Part)) :
    (bindings.map fun b => (b.1, f b.2)).lookup name = (bindings.lookup name).map f := by
  induction bindings with
  | nil => rfl
  | cons b rest ih =>
      rw [List.map_cons, Entries.lookup_cons, Entries.lookup_cons, ih]
      split <;> rfl

namespace Parts

def relocate (locale : String) (parts : Parts) : Parts where
  toList := parts.toList.map fun b => (b.1, b.2.relocate locale)
  nodup := by simpa [Function.comp_def] using parts.nodup

/-- None of the parts has a text for the locale itself. -/
def Lacks (locale : String) (parts : Parts) : Prop :=
  ∀ name part, parts.get? name = some part → part.Lacks locale

variable (locale : String) (parts : Parts)

@[simp] theorem get?_relocate (name : String) :
    (parts.relocate locale).get? name = (parts.get? name).map (·.relocate locale) :=
  lookup_map_snd (Part.relocate locale) name parts.toList

@[simp] theorem contains_relocate (name : String) :
    (parts.relocate locale).contains name = parts.contains name := by
  rw [contains, get?_relocate, Option.isSome_map, contains]

@[simp] theorem text?_relocate (name other : String) :
    (parts.relocate locale).text? name other = parts.text? name other := by
  unfold text?
  rw [get?_relocate]
  cases parts.get? name with
  | none => rfl
  | some part => exact Part.text?_relocate locale part other

/-- A binding is relocated with its table. -/
theorem relocate_insert (name : String) (part : Part) :
    (parts.insert name part).relocate locale
      = (parts.relocate locale).insert name (part.relocate locale) := by
  simp only [relocate, insert, map_bindIn]

theorem lacks_empty : empty.Lacks locale := by
  intro name part hpart
  cases hpart

variable {locale parts}

theorem Lacks.text?_base (h : parts.Lacks locale) (name : String) :
    parts.text? name (baseLanguage locale) = parts.text? name locale := by
  unfold text?
  cases hpart : parts.get? name with
  | none => rfl
  | some part => exact (h name part hpart).text?_base

end Parts

/-! ## What a run makes of its parts -/

/-- No feature of an agreement asks a part for its locale. -/
theorem AgreementFeature.addTo_relocate (locale : String) (source : Part) :
    addTo (source.relocate locale) = addTo source := by
  funext clause feature
  cases feature <;> simp [addTo]

@[simp] theorem Agreement.clause_relocate (agreement : Agreement) (locale : String)
    (parts : Parts) :
    agreement.clause (parts.relocate locale) = agreement.clause parts := by
  unfold clause
  rw [Parts.get?_relocate]
  cases parts.get? agreement.source with
  | none => rfl
  | some source =>
      dsimp only [Option.map_some]
      rw [AgreementFeature.addTo_relocate]

@[simp] theorem Transform.personGender?_relocate (locale : String) (parts : Parts) :
    personGender? (parts.relocate locale) = personGender? parts := by
  unfold personGender?
  rw [Parts.get?_relocate]
  cases parts.get? personAlias with
  | none => rfl
  | some part => exact Part.gramKey?_relocate locale part "gender"

/-- A transform reads of the other parts nothing that relocation changes. -/
@[simp] theorem Transform.runNamed_relocate (name : String) (rules : Language.Rules)
    (own locale : String) (parts : Parts) (s : String) :
    runNamed name rules own (parts.relocate locale) s = runNamed name rules own parts s := by
  unfold runNamed
  cases ofName? name with
  | none => rfl
  | some t => cases t <;> simp [run]

def Step.relocate (locale : String) (step : Step) : Step :=
  { step with binding := step.binding.map fun b => (b.1, b.2.relocate locale) }

def Progress.relocate (locale : String) (progress : Progress) : Progress :=
  { progress with parts := progress.parts.relocate locale }

def Composition.relocate (locale : String) (composition : Composition) : Composition :=
  { composition with parts := composition.parts.relocate locale }

@[simp] theorem Progress.relocate_add (locale : String) (progress : Progress) (step : Step) :
    (progress.add step).relocate locale
      = (progress.relocate locale).add (step.relocate locale) := by
  unfold add relocate Step.relocate
  cases step.binding with
  | none => rfl
  | some b => simp [Parts.relocate_insert]

/-! ## Scenes without texts of the region -/

/-- The block is no fixed text that is written for the locale itself. -/
def Block.Lacks (locale : String) : Block → Prop
  | .literal text _ => text.get? locale = none
  | _ => True

instance (locale : String) (block : Block) : Decidable (block.Lacks locale) :=
  match block with
  | .literal text _ => inferInstanceAs (Decidable (text.get? locale = none))
  | .select _ => isTrue trivial
  | .generate _ => isTrue trivial
  | .phrase _ _ => isTrue trivial
  | .reference _ => isTrue trivial

namespace Scene

/-- The language of the scene's locale. -/
abbrev language (scene : Scene) : String := baseLanguage scene.locale

/-- The scene in the language of its locale. -/
def inLanguage (scene : Scene) : Scene := { scene with locale := scene.language }

/-- Nothing on the scene is written for its locale itself, and the recipes that run inside come to
the same for its language. -/
structure LacksRegion (scene : Scene) : Prop where
  rules : scene.rules.locales.get? scene.locale = none
  items : ∀ key catalog, scene.findCatalog key = .ok catalog →
    ∀ item ∈ catalog.items, item.text.get? scene.locale = none
  runRecipe : ∀ draws id, scene.inLanguage.runRecipe draws id
    = (scene.runRecipe draws id).map (·.relocate scene.language)

variable {scene : Scene} {parts : Parts} {draws : Draws}

/-! ## Resolving -/

/-- A pick asks for the identities and features of the parts only. -/
theorem pick_relocate (catalog : Catalog) (request : CatalogRequest) (locale : String)
    (parts : Parts) (draws : Draws) (clause : Clause) :
    pick catalog request (parts.relocate locale) draws clause
      = pick catalog request parts draws clause := by
  have hidentities : boundIdentities (parts.relocate locale) request.distinctFrom
      = boundIdentities parts request.distinctFrom := by
    simp [boundIdentities, Function.comp_def]
  unfold pick
  rw [hidentities]

/-- Of the parts that are bound, a selection only sees what relocation leaves alone. -/
theorem selectFromCatalog_relocate (scene : Scene) (locale : String) (parts : Parts) (draws : Draws)
    (request : CatalogRequest) :
    scene.selectFromCatalog (parts.relocate locale) draws request
      = scene.selectFromCatalog parts draws request := by
  simp only [selectFromCatalog, pickAgreeing, pick_relocate, Agreement.clause_relocate]

/-- What a catalog gives is an item, and items remember no locale. -/
theorem relocate_selectFromCatalog (scene : Scene) (locale : String) (parts : Parts) (draws : Draws)
    (request : CatalogRequest) :
    (scene.selectFromCatalog parts draws request).map (Option.map (·.relocate locale))
      = scene.selectFromCatalog parts draws request := by
  cases hselect : scene.selectFromCatalog parts draws request with
  | error e => rfl
  | ok resolved =>
      cases resolved with
      | none => rfl
      | some part =>
          obtain ⟨_, _, _, _, _, hpick⟩ := selectFromCatalog_eq_some hselect
          obtain ⟨item, rfl, _⟩ := pick_eq_ok hpick
          rfl

/-- A selection does not depend on the locale: the same item is selected in the base language. -/
theorem selectFromCatalog_inLanguage (scene : Scene) (parts : Parts) (draws : Draws)
    (request : CatalogRequest) :
    scene.inLanguage.selectFromCatalog (parts.relocate scene.language) draws request
      = (scene.selectFromCatalog parts draws request).map
          (Option.map (·.relocate scene.language)) := by
  rw [selectFromCatalog_relocate, relocate_selectFromCatalog]
  -- a selection does not read the locale of the scene
  rfl

/-- Leaving out a block that fails has nothing to do with what it would have come to. -/
theorem leaveOut_map (options : BlockOptions) (f : Part → Part)
    (resolved : Except ComposeError (Option Part)) :
    leaveOut options (resolved.map (Option.map f))
      = (leaveOut options resolved).map (Option.map f) := by
  cases resolved with
  | ok part => rfl
  | error e =>
      unfold leaveOut
      cases options.isOptional <;> rfl

/-- A literal without a text for the region is written as in the base language. -/
theorem literalStep_inLanguage (scene : Scene) (parts : Parts) {text : LocalizedText}
    (htext : text.get? scene.locale = none) (options : BlockOptions) :
    scene.inLanguage.literalStep (parts.relocate scene.language) text options
      = (scene.literalStep parts text options).relocate scene.language := by
  have hbinding : (scene.literalStep parts text options).binding = none :=
    binding_literalStep text options
  have hsame : scene.inLanguage.literalStep (parts.relocate scene.language) text options
      = scene.literalStep parts text options := by
    simp only [literalStep, Parts.contains_relocate, inLanguage, LocalizedText.forLocale_base htext]
  rw [hsame, Step.relocate, hbinding, Option.map_none, ← hbinding]

namespace LacksRegion

variable (h : scene.LacksRegion)
include h

theorem generateFromPackage (draws : Draws) (package : String) (name : Option String) :
    scene.inLanguage.generateFromPackage draws package name
      = (scene.generateFromPackage draws package name).map
          (·.relocate scene.language) := by
  unfold Scene.generateFromPackage
  dsimp only [inLanguage]
  split
  · rfl
  · split
    · rfl
    · exact h.runRecipe draws _

/-- A selecting block comes to the same in the base language, relocated. -/
theorem attemptSelect (parts : Parts) (draws : Draws) (block : SelectBlock) :
    scene.inLanguage.attemptSelect (parts.relocate scene.language) draws block
      = (scene.attemptSelect parts draws block).map
          (Option.map (·.relocate scene.language)) := by
  unfold Scene.attemptSelect
  cases block.source with
  | catalog => exact selectFromCatalog_inLanguage scene parts draws block.request
  | recipe =>
      dsimp only
      rw [h.runRecipe, except_map_map, except_map_map]
      rfl

/-- So does a generating block, whatever it generates from. -/
theorem attemptGenerate (parts : Parts) (draws : Draws) (block : GenerateBlock) :
    scene.inLanguage.attemptGenerate (parts.relocate scene.language) draws block
      = (scene.attemptGenerate parts draws block).map
          (Option.map (·.relocate scene.language)) := by
  unfold Scene.attemptGenerate
  split
  · rw [h.runRecipe, except_map_map, except_map_map]
    rfl
  · rfl
  · -- the clause of the collection is the same on both
    have hclause : scene.inLanguage.collectionClause block = scene.collectionClause block := rfl
    unfold generateFromCatalog
    rw [hclause]
    split
    · rfl
    · exact selectFromCatalog_inLanguage scene parts draws _
  · rfl
  · rw [h.generateFromPackage, except_map_map, except_map_map]
    rfl

theorem resolveSelect (parts : Parts) (draws : Draws) (block : SelectBlock) :
    scene.inLanguage.resolveSelect (parts.relocate scene.language) draws block
      = (scene.resolveSelect parts draws block).map
          (Option.map (·.relocate scene.language)) := by
  unfold Scene.resolveSelect
  rw [h.attemptSelect, leaveOut_map]

theorem resolveGenerate (parts : Parts) (draws : Draws) (block : GenerateBlock) :
    scene.inLanguage.resolveGenerate (parts.relocate scene.language) draws block
      = (scene.resolveGenerate parts draws block).map
          (Option.map (·.relocate scene.language)) := by
  unfold Scene.resolveGenerate
  dsimp only
  rw [h.attemptGenerate]
  split
  · rw [leaveOut_map]
  · rfl

/-- What a block resolves to has no text for the region. -/
theorem lacks_of_resolve {block : Block} {part : Part}
    (hresolve : scene.resolve parts draws block = .ok (some part)) : part.Lacks scene.locale := by
  cases part with
  | generated g => trivial
  | item item =>
      obtain ⟨request, catalog, _, _, _, hfound, hmem, _⟩ :=
        item_of_attempt (attempt_of_resolve_eq_some hresolve)
      exact h.items request.key catalog hfound item hmem

/-! ## Steps -/

theorem partText (parts : Parts) (transform : Option String) {part : Part}
    (hpart : part.Lacks scene.locale) :
    scene.inLanguage.partText (parts.relocate scene.language) transform
        (part.relocate scene.language)
      = scene.partText parts transform part := by
  unfold Scene.partText
  dsimp only [inLanguage]
  rw [Part.text?_relocate, hpart.text?_base]
  cases transform with
  | none => rfl
  | some name =>
      dsimp only
      rw [Transform.runNamed_relocate, Transform.runNamed_base h.rules]

/-- The steps of selections that come to parts without texts for the region. -/
theorem map_selectionStep (parts : Parts) (bindAs transform : Option String)
    (options : BlockOptions) {resolved : Except ComposeError (Option Part)}
    (hlacks : ∀ part, resolved = .ok (some part) → part.Lacks scene.locale) :
    (resolved.map (Option.map (·.relocate scene.language))).map
        (scene.inLanguage.selectionStep (parts.relocate scene.language) bindAs transform options)
      = (resolved.map (scene.selectionStep parts bindAs transform options)).map
          (·.relocate scene.language) := by
  cases resolved with
  | error e => rfl
  | ok resolved =>
      cases resolved with
      | none => rfl
      | some part =>
          dsimp only [Except.map, Option.map_some, Scene.selectionStep, Step.relocate]
          rw [h.partText parts transform (hlacks part rfl), Option.map_map]
          rfl

theorem phraseText (preposition : String) (part : Part) (text : String) :
    scene.inLanguage.phraseText preposition (part.relocate scene.language) text
      = scene.phraseText preposition part text := by
  unfold Scene.phraseText prepositionForm
  rw [Part.gramKey?_relocate]
  dsimp only [inLanguage]
  rw [Language.Rules.forLocale_base h.rules]

/-- A phrase comes to the same step in the base language, be its referent bound or selected. -/
theorem phraseStep {parts : Parts} (hparts : parts.Lacks scene.locale) (draws : Draws)
    (preposition : String) (target : PhraseTarget) :
    scene.inLanguage.phraseStep (parts.relocate scene.language) draws preposition target
      = (scene.phraseStep parts draws preposition target).map (·.relocate scene.language) := by
  cases target with
  | bound name =>
      dsimp only [Scene.phraseStep]
      rw [Parts.get?_relocate]
      cases hpart : parts.get? name with
      | none => rfl
      | some part =>
          dsimp only [Option.map_some]
          rw [h.partText parts none (hparts name part hpart), h.phraseText]
          rfl
  | select block =>
      dsimp only [Scene.phraseStep]
      rw [h.resolveSelect]
      cases hselect : scene.resolveSelect parts draws.forPhrase block with
      | error e => rfl
      | ok resolved =>
          cases resolved with
          | none => rfl
          | some part =>
              have hresolve : scene.resolve parts draws (.phrase preposition (.select block))
                  = .ok (some part) := hselect
              dsimp only [Except.map, Option.map_some, Step.relocate]
              rw [h.partText parts block.transform (h.lacks_of_resolve hresolve), h.phraseText,
                Option.map_map]
              rfl

/-- **A block takes the same step in the base language**, relocated, if none of what it reads has a
text for the region itself. -/
theorem step {parts : Parts} (hparts : parts.Lacks scene.locale) (draws : Draws) {block : Block}
    (hblock : block.Lacks scene.locale) :
    scene.inLanguage.step (parts.relocate scene.language) draws block
      = (scene.step parts draws block).map (·.relocate scene.language) := by
  -- whatever the block resolves to has no text for the region either
  have hlacks : ∀ part, scene.resolve parts draws block = .ok (some part) →
      part.Lacks scene.locale := fun part => h.lacks_of_resolve
  cases block with
  | select block =>
      show (scene.inLanguage.resolveSelect _ draws block).map _ = _
      rw [h.resolveSelect]
      exact h.map_selectionStep parts _ _ _ hlacks
  | generate block =>
      show (scene.inLanguage.resolveGenerate _ draws block).map _ = _
      rw [h.resolveGenerate]
      exact h.map_selectionStep parts _ _ _ hlacks
  | literal text options =>
      exact congrArg Except.ok (literalStep_inLanguage scene parts hblock options)
  | phrase preposition target => exact h.phraseStep hparts draws preposition target
  | reference name =>
      refine congrArg Except.ok ?_
      dsimp only [inLanguage]
      rw [Parts.text?_relocate, hparts.text?_base]
      rfl

/-- A step brings no text for the region into the table. -/
theorem lacks_add {progress : Progress} {step : Step} {draws : Draws} {block : Block}
    (hparts : progress.parts.Lacks scene.locale)
    (hstep : scene.step progress.parts draws block = .ok step) :
    (progress.add step).parts.Lacks scene.locale := by
  obtain ⟨resolved, hresolve, hbinding⟩ := step_eq_ok hstep
  cases hb : step.binding with
  | none =>
      rw [Progress.parts_add_of_none hb]
      exact hparts
  | some binding =>
      obtain ⟨name, part⟩ := binding
      rw [hb] at hbinding
      obtain ⟨rfl, _⟩ := bindingOf_eq_some.mp hbinding.symm
      intro other bound hbound
      rw [Progress.get?_add_of_some hb] at hbound
      split at hbound
      · cases hbound
        exact h.lacks_of_resolve hresolve
      · exact hparts other bound hbound

/-! ## Runs -/

/-- What is true of a step is true of the progress after it. -/
theorem advance (index : Nat) {progress : Progress} {block : Block}
    (hparts : progress.parts.Lacks scene.locale) (hblock : block.Lacks scene.locale) :
    scene.inLanguage.advance index (progress.relocate scene.language) block
      = (scene.advance index progress block).map (·.relocate scene.language) := by
  have hstep : scene.inLanguage.step (progress.relocate scene.language).parts
      (scene.inLanguage.forBlock index) block
        = (scene.step progress.parts (scene.forBlock index) block).map
            (·.relocate scene.language) := h.step hparts _ hblock
  have hover : scene.inLanguage.passesOver block = scene.passesOver block := rfl
  unfold Scene.advance
  rw [hover, hstep]
  split
  · rfl
  · cases scene.step progress.parts (scene.forBlock index) block with
    | error e => rfl
    | ok step => exact congrArg Except.ok (Progress.relocate_add _ progress step).symm

/-- No step binds a part with a text for the region, since nothing it may bind has one. -/
theorem lacks_advance {index : Nat} {progress after : Progress} {block : Block}
    (hparts : progress.parts.Lacks scene.locale)
    (hadvance : scene.advance index progress block = .ok after) :
    after.parts.Lacks scene.locale := by
  rcases advance_eq_ok hadvance with ⟨_, rfl⟩ | ⟨_, step, hstep, rfl⟩
  · exact hparts
  · exact h.lacks_add hparts hstep

/-- **A pattern runs alike in the base language.** By induction on the blocks that are left, with
the invariant that no bound part has a text for the region. -/
theorem runFrom (index : Nat) (progress : Progress) {pattern : Pattern}
    (hparts : progress.parts.Lacks scene.locale)
    (hpattern : ∀ block ∈ pattern, block.Lacks scene.locale) :
    scene.inLanguage.runFrom index (progress.relocate scene.language) pattern
      = (scene.runFrom index progress pattern).map (·.relocate scene.language) := by
  induction pattern generalizing index progress with
  | nil => rfl
  | cons block rest ih =>
      unfold Scene.runFrom
      rw [h.advance index hparts (hpattern block List.mem_cons_self)]
      cases hadvance : scene.advance index progress block with
      | error e => rfl
      | ok after =>
          have hafter : after.parts.Lacks scene.locale := h.lacks_advance hparts hadvance
          exact ih (index + 1) after hafter fun other hother =>
            hpattern other (List.mem_cons_of_mem _ hother)

theorem lacks_runFrom {index : Nat} {progress final : Progress} {pattern : Pattern}
    (hparts : progress.parts.Lacks scene.locale)
    (hrun : scene.runFrom index progress pattern = .ok final) : final.parts.Lacks scene.locale := by
  induction pattern generalizing index progress with
  | nil =>
      cases hrun
      exact hparts
  | cons block rest ih =>
      obtain ⟨after, hadvance, hrest⟩ := runFrom_cons_eq_ok hrun
      exact ih (h.lacks_advance hparts hadvance) hrest

/-- In the end no part has a text for the region. -/
theorem lacks_compose {pattern : Pattern} {composition : Composition}
    (hcompose : scene.compose pattern = .ok composition) :
    composition.parts.Lacks scene.locale := by
  obtain ⟨final, hrun, rfl⟩ := compose_eq_ok hcompose
  exact h.lacks_runFrom (Parts.lacks_empty scene.locale) hrun

/-- **A region without texts of its own makes what its language makes.** -/
theorem compose_inLanguage {pattern : Pattern}
    (hpattern : ∀ block ∈ pattern, block.Lacks scene.locale) :
    scene.inLanguage.compose pattern
      = (scene.compose pattern).map (·.relocate scene.language) := by
  have hrun : scene.inLanguage.runFrom 0 {} pattern
      = (scene.runFrom 0 {} pattern).map (·.relocate scene.language) :=
    h.runFrom 0 {} (Parts.lacks_empty scene.locale) hpattern
  unfold compose
  rw [hrun, except_map_map, except_map_map]
  rfl

end LacksRegion

end Scene

end TextRecipes
