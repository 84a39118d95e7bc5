import TextRecipes.Proofs.Composition.Attempt

/-!
# Scenes that look alike

A run reads its scene in a few ways only: it looks up catalogs, narrows clauses, asks for switches
and collections, derives draws, renders texts and has recipes run. `Scene.Alike` says that two
scenes answer all of this in the same way, and then every pattern makes the same composition on
both (`Alike.compose`).

The two scenes may disagree about two things. Their recipes may fail with different errors, as long
as a function `view` shows both as the same: results are compared after `Except.mapError view`.
With `id` that is no freedom at all. And only those catalogs and recipes have to be the same that
are `allowed`, as long as the blocks use no others (`Scene.UsesOnly`).
-/

namespace TextRecipes

/-! ## Results in view -/

section View

variable {α β : Type} {view : ComposeError → ComposeError}

theorem mapError_map (f : α → β) (x : Except ComposeError α) :
    (x.map f).mapError view = (x.mapError view).map f := by
  cases x <;> rfl

/-- Results that look the same are the same, or failures that look the same. -/
theorem mapError_eq_cases {x y : Except ComposeError α} (h : x.mapError view = y.mapError view) :
    (∃ a, x = .ok a ∧ y = .ok a) ∨ ∃ e f, x = .error e ∧ y = .error f ∧ view e = view f := by
  cases x with
  | ok a =>
      cases y with
      | ok b => exact .inl ⟨a, rfl, congrArg Except.ok (Except.ok.inj h).symm⟩
      | error f => cases h
  | error e =>
      cases y with
      | ok b => cases h
      | error f => exact .inr ⟨e, f, rfl, rfl, Except.error.inj h⟩

/-- Whether a block is left out does not depend on the error that it fails with. -/
theorem mapError_leaveOut (options : BlockOptions) (x : Except ComposeError (Option Part)) :
    (Scene.leaveOut options x).mapError view = Scene.leaveOut options (x.mapError view) := by
  cases x with
  | ok part => rfl
  | error e =>
      unfold Scene.leaveOut
      cases options.isOptional <;> rfl

end View

/-! ## What blocks use -/

/-- What a block takes from around its pattern. -/
inductive Resource where
  | catalog (key : String)
  | recipe (id : String)

/-- The key of the catalog that a block asks. -/
def Block.catalogKey? : Block → Option String
  | select block => if block.source = .catalog then some block.key else none
  | generate block => if block.source = .catalog then block.key else none
  | phrase _ (.select block) => if block.source = .catalog then some block.key else none
  | _ => none

namespace Scene

/-- A block asks a catalog or runs a recipe. -/
def Uses (scene : Scene) (draws : Draws) (block : Block) : Resource → Prop
  | .catalog key => block.catalogKey? = some key
  | .recipe id => scene.nested? draws block = some id

/-- The catalogs and recipes that a block uses are allowed. -/
def UsesOnly (scene : Scene) (allowed : Resource → Prop) (block : Block) : Prop :=
  ∀ draws resource, scene.Uses draws block resource → allowed resource

/-- Two scenes on which runs do the same, but for what `view` does not show of the errors that
nested recipes fail with, and for catalogs and recipes that are not allowed. -/
structure Alike (view : ComposeError → ComposeError) (allowed : Resource → Prop) (a b : Scene) :
    Prop where
  rules : a.rules = b.rules
  locale : a.locale = b.locale
  derive : ∀ step, a.toDraws.derive step = b.toDraws.derive step
  findCatalog : ∀ key, allowed (.catalog key) → a.findCatalog key = b.findCatalog key
  narrow : ∀ key clause, a.narrow key clause = b.narrow key clause
  switchedOff : ∀ options, a.switchedOff options = b.switchedOff options
  collections : a.host.map (·.collections) = b.host.map (·.collections)
  runRecipe : ∀ draws id, allowed (.recipe id) →
    (a.runRecipe draws id).mapError view = (b.runRecipe draws id).mapError view

namespace Alike

variable {view : ComposeError → ComposeError} {allowed : Resource → Prop} {a b : Scene}

/-! ## Resolving -/

/-- A selection reads the one catalog that it is from. -/
theorem selectFromCatalog (h : Alike view allowed a b) (parts : Parts) (draws : Draws)
    (request : CatalogRequest) (hkey : allowed (.catalog request.key)) :
    a.selectFromCatalog parts draws request = b.selectFromCatalog parts draws request := by
  simp only [Scene.selectFromCatalog, h.findCatalog request.key hkey, h.narrow]

/-- Scenes that look alike have both no host, or hosts with the same collections. -/
theorem host_cases (h : Alike view allowed a b) :
    (a.host = none ∧ b.host = none) ∨ ∃ host host', a.host = some host ∧ b.host = some host' ∧
      host.collections = host'.collections := by
  have hcollections := h.collections
  cases ha : a.host with
  | none =>
      rw [ha, Option.map_none] at hcollections
      exact .inl ⟨rfl, Option.map_eq_none_iff.mp hcollections.symm⟩
  | some host =>
      rw [ha, Option.map_some] at hcollections
      obtain ⟨host', hb, hsame⟩ := Option.map_eq_some_iff.mp hcollections.symm
      exact .inr ⟨host, host', rfl, hb, hsame.symm⟩

/-- Which collection narrows a catalog is told by what the host has. -/
theorem collectionClause (h : Alike view allowed a b) (block : GenerateBlock) :
    a.collectionClause block = b.collectionClause block := by
  unfold Scene.collectionClause
  rcases h.host_cases with ⟨ha, hb⟩ | ⟨host, host', ha, hb, hsame⟩
  · rw [ha, hb]
  · rw [ha, hb]
    dsimp only
    rw [hsame]

theorem generateFromCatalog (h : Alike view allowed a b) (parts : Parts) (draws : Draws)
    (block : GenerateBlock) (key : String) (hkey : allowed (.catalog key)) :
    a.generateFromCatalog parts draws block key = b.generateFromCatalog parts draws block key := by
  have hselect : ∀ clause, a.selectFromCatalog parts draws (block.request key clause)
      = b.selectFromCatalog parts draws (block.request key clause) :=
    fun clause => h.selectFromCatalog parts draws (block.request key clause) hkey
  simp only [Scene.generateFromCatalog, h.collectionClause, hselect]

/-- A package is drawn from alike, and then the recipe that is chosen runs alike. -/
theorem generateFromPackage (h : Alike view allowed a b) (draws : Draws) (package : String)
    (name : Option String)
    (hruns : ∀ collection, a.chosen? package name = some collection →
      allowed (.recipe (chooseRecipe draws collection))) :
    (a.generateFromPackage draws package name).mapError view
      = (b.generateFromPackage draws package name).mapError view := by
  unfold Scene.generateFromPackage
  rcases h.host_cases with ⟨ha, hb⟩ | ⟨host, host', ha, hb, hsame⟩
  · rw [ha, hb]
  · rw [ha, hb]
    dsimp only
    rw [hsame]
    split
    · rfl
    · next chosen hchoose =>
        have hchosen : a.chosen? package name = some chosen := by
          simp [Scene.chosen?, ha, hsame, hchoose, Except.toOption]
        exact h.runRecipe draws _ (hruns chosen hchosen)

theorem attemptSelect (h : Alike view allowed a b) (parts : Parts) (draws : Draws)
    (block : SelectBlock)
    (huses : ∀ resource, a.Uses draws (.select block) resource → allowed resource) :
    (a.attemptSelect parts draws block).mapError view
      = (b.attemptSelect parts draws block).mapError view := by
  unfold Scene.attemptSelect
  cases hsource : block.source with
  | catalog =>
      have hkey : allowed (.catalog block.key) := huses _ (if_pos hsource)
      exact congrArg _ (h.selectFromCatalog parts draws block.request hkey)
  | recipe =>
      have hid : allowed (.recipe block.key) := huses _ (if_pos hsource)
      dsimp only
      rw [mapError_map, mapError_map, h.runRecipe draws block.key hid]

theorem attemptGenerate (h : Alike view allowed a b) (parts : Parts) (draws : Draws)
    (block : GenerateBlock)
    (huses : ∀ resource, a.Uses draws (.generate block) resource → allowed resource) :
    (a.attemptGenerate parts draws block).mapError view
      = (b.attemptGenerate parts draws block).mapError view := by
  unfold Scene.attemptGenerate
  split
  · next key hsource hkey =>
      have hid : allowed (.recipe key) := huses _ (by simp [Uses, nested?, hsource, hkey])
      rw [mapError_map, mapError_map, h.runRecipe draws key hid]
  · rfl
  · next key hsource hkey =>
      have hkey : allowed (.catalog key) :=
        huses _ (by simp [Uses, Block.catalogKey?, hsource, hkey])
      exact congrArg _ (h.generateFromCatalog parts draws block key hkey)
  · rfl
  · next package hsource =>
      have hids : ∀ collection, a.chosen? package block.collection = some collection →
          allowed (.recipe (chooseRecipe draws collection)) := by
        intro collection hchosen
        exact huses _ (by simp [Uses, nested?, hsource, hchosen])
      rw [mapError_map, mapError_map, h.generateFromPackage draws package block.collection hids]

/-- A block comes to the same on both scenes, up to what `view` does not show of an error. -/
theorem attempt (h : Alike view allowed a b) (parts : Parts) (draws : Draws) (block : Block)
    (huses : ∀ resource, a.Uses draws block resource → allowed resource) :
    (a.attempt parts draws block).mapError view = (b.attempt parts draws block).mapError view := by
  cases block with
  | select block => exact h.attemptSelect parts draws block huses
  | generate block => exact h.attemptGenerate parts draws block huses
  | phrase _ target =>
      cases target with
      | bound _ => rfl
      | select block =>
          refine h.attemptSelect parts _ block fun resource hselect => huses resource ?_
          -- what a selection uses does not depend on the draws
          cases resource <;> exact hselect
  | literal _ _ => rfl
  | reference _ => rfl

/-- What a block resolves to looks the same if what it comes to does. -/
theorem resolve (h : Alike view allowed a b) (parts : Parts) (draws : Draws) (block : Block)
    (huses : ∀ resource, a.Uses draws block resource → allowed resource) :
    (a.resolve parts draws block).mapError view = (b.resolve parts draws block).mapError view := by
  have hattempt := h.attempt parts draws block huses
  cases block with
  | select block =>
      show (leaveOut _ (a.attemptSelect parts draws block)).mapError view
        = (leaveOut _ (b.attemptSelect parts draws block)).mapError view
      rw [mapError_leaveOut, mapError_leaveOut]
      exact congrArg _ hattempt
  | generate block =>
      show (a.resolveGenerate parts draws block).mapError view
        = (b.resolveGenerate parts draws block).mapError view
      unfold Scene.resolveGenerate
      dsimp only
      split
      · rw [mapError_leaveOut, mapError_leaveOut]
        exact congrArg _ hattempt
      · exact hattempt
  | phrase _ target =>
      cases target with
      | bound _ => rfl
      | select block =>
          show (leaveOut _ (a.attemptSelect parts _ block)).mapError view
            = (leaveOut _ (b.attemptSelect parts _ block)).mapError view
          rw [mapError_leaveOut, mapError_leaveOut]
          exact congrArg _ hattempt
  | literal _ _ => rfl
  | reference _ => rfl

/-! ## Steps -/

theorem partText (h : Alike view allowed a b) (parts : Parts) (transform : Option String)
    (part : Part) :
    a.partText parts transform part = b.partText parts transform part := by
  simp only [Scene.partText, h.locale, h.rules]

theorem selectionStep (h : Alike view allowed a b) (parts : Parts)
    (bindAs transform : Option String) (options : BlockOptions) :
    a.selectionStep parts bindAs transform options
      = b.selectionStep parts bindAs transform options := by
  funext resolved
  cases resolved with
  | none => rfl
  | some part => simp only [Scene.selectionStep, h.partText]

theorem phraseText (h : Alike view allowed a b) (preposition : String) (part : Part)
    (text : String) :
    a.phraseText preposition part text = b.phraseText preposition part text := by
  simp only [Scene.phraseText, prepositionForm, h.locale, h.rules]

/-- What a block is resolved to decides its step, together with the texts that the scenes agree on.
-/
theorem step (h : Alike view allowed a b) (parts : Parts) (draws : Draws) (block : Block)
    (huses : ∀ resource, a.Uses draws block resource → allowed resource) :
    (a.step parts draws block).mapError view = (b.step parts draws block).mapError view := by
  have hresolve := h.resolve parts draws block huses
  cases block with
  | select block =>
      have hselect : (a.resolveSelect parts draws block).mapError view
          = (b.resolveSelect parts draws block).mapError view := hresolve
      simp only [Scene.step, mapError_map, hselect, h.selectionStep]
  | generate block =>
      have hgenerate : (a.resolveGenerate parts draws block).mapError view
          = (b.resolveGenerate parts draws block).mapError view := hresolve
      simp only [Scene.step, mapError_map, hgenerate, h.selectionStep]
  | literal text options => simp only [Scene.step, literalStep, h.locale]
  | phrase preposition target =>
      cases target with
      | bound name => simp only [Scene.step, phraseStep, h.partText, h.phraseText]
      | select block =>
          simp only [Scene.step, phraseStep]
          -- the text of a phrase needs the part, so both have to come to one
          rcases mapError_eq_cases hresolve with ⟨resolved, ha, hb⟩ | ⟨e, f, ha, hb, hview⟩
          · have ha : a.resolveSelect parts draws.forPhrase block = .ok resolved := ha
            have hb : b.resolveSelect parts draws.forPhrase block = .ok resolved := hb
            simp only [ha, hb, h.partText, h.phraseText]
          · have ha : a.resolveSelect parts draws.forPhrase block = .error e := ha
            have hb : b.resolveSelect parts draws.forPhrase block = .error f := hb
            simp only [ha, hb]
            exact congrArg Except.error hview
  | reference name => simp only [Scene.step, h.locale]

/-! ## Runs -/

/-- Both scenes have the same blocks switched off. -/
theorem passesOver (h : Alike view allowed a b) (block : Block) :
    a.passesOver block = b.passesOver block := by
  unfold Scene.passesOver
  rw [funext h.switchedOff]

theorem forBlock (h : Alike view allowed a b) (index : Nat) : a.forBlock index = b.forBlock index :=
  h.derive (Seed.blockStep index)

section

variable (hview : ∀ index e, view (.inBlock index e) = .inBlock index (view e))
include hview

theorem advance (h : Alike view allowed a b) (index : Nat) (progress : Progress) (block : Block)
    (huses : a.UsesOnly allowed block) :
    (a.advance index progress block).mapError view
      = (b.advance index progress block).mapError view := by
  unfold Scene.advance
  rw [h.passesOver, h.forBlock]
  split
  · rfl
  · rcases mapError_eq_cases (h.step progress.parts (b.forBlock index) block (huses _)) with
      ⟨step, ha, hb⟩ | ⟨e, f, ha, hb, hef⟩
    · rw [ha, hb]
    · rw [ha, hb]
      dsimp only [Except.mapError]
      rw [hview, hview, hef]

/-- **Scenes that are alike make the same of a pattern.** By induction on the blocks, as each of
them leads to the same progress. -/
theorem runFrom (h : Alike view allowed a b) (index : Nat) (progress : Progress) (pattern : Pattern)
    (huses : ∀ block ∈ pattern, a.UsesOnly allowed block) :
    (a.runFrom index progress pattern).mapError view
      = (b.runFrom index progress pattern).mapError view := by
  induction pattern generalizing index progress with
  | nil => rfl
  | cons block rest ih =>
      unfold Scene.runFrom
      -- the first block ends both runs or none, and leaves both with the same progress
      have hblock := huses block List.mem_cons_self
      rcases mapError_eq_cases (h.advance hview index progress block hblock) with
        ⟨after, ha, hb⟩ | ⟨e, f, ha, hb, hef⟩
      · rw [ha, hb]
        exact ih (index + 1) after fun other hother => huses other (List.mem_cons_of_mem _ hother)
      · rw [ha, hb]
        exact congrArg Except.error hef

/-- **Scenes that look alike make the same compositions**, and fail with errors that look the
same. -/
theorem compose (h : Alike view allowed a b) (pattern : Pattern)
    (huses : ∀ block ∈ pattern, a.UsesOnly allowed block) :
    (a.compose pattern).mapError view = (b.compose pattern).mapError view := by
  unfold Scene.compose
  rw [mapError_map, mapError_map, h.runFrom hview 0 {} pattern huses]

end

end Alike

end Scene

end TextRecipes
