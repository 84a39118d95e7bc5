import TextRecipes.Proofs.Composition.Skipping

/-!
# Blocks that end a run

Fixed texts, references and phrases with a bound part never fail. Neither does a selection that is
optional, for whatever goes wrong beneath it leaves it out. A pattern of such blocks always makes a
composition (`Block.Harmless`, `compose_of_harmless`). But being optional is of no use to a block
that lacks its key, and of none to one that generates from a package.

* `step_eq_error_iff`: a block fails just if its attempt fails and that does not leave it out.
* `compose_eq_error_iff`: a run fails just at a block that ends it (`EndsRun`).
* `attempt_of_disagreed`: the fallback of an agreement is asked whenever nothing agrees, but not if
  the catalog is not there (`attempt_of_no_catalog`).
-/

namespace TextRecipes

/-- Blocks that cannot fail: they select nothing, or else they are optional and, if they generate,
do so by a key that they have. -/
inductive Block.Harmless : Block → Prop where
  | literal (text : LocalizedText) (options : BlockOptions) : Harmless (.literal text options)
  | reference (name : String) : Harmless (.reference name)
  | bound (preposition name : String) : Harmless (.phrase preposition (.bound name))
  | select (block : SelectBlock) (hoptional : block.options.isOptional = true) :
      Harmless (.select block)
  | generate (block : GenerateBlock) (key : String)
      (hsource : block.source = .recipe ∨ block.source = .catalog) (hkey : block.key = some key)
      (hoptional : block.options.isOptional = true) : Harmless (.generate block)
  | phrase (preposition : String) (block : SelectBlock)
      (hoptional : block.options.isOptional = true) :
      Harmless (.phrase preposition (.select block))

/-- A harmless block selects nothing, or it outlasts its failures. -/
theorem Block.Harmless.cases {block : Block} (h : block.Harmless) :
    block.selects = false ∨ block.outlastsFailure = true := by
  cases h with
  | literal _ _ => exact .inl rfl
  | reference _ => exact .inl rfl
  | bound _ _ => exact .inl rfl
  | select _ hoptional => exact .inr hoptional
  | phrase _ _ hoptional => exact .inr hoptional
  | generate block key hsource hkey hoptional =>
      apply Or.inr
      rcases hsource with hsource | hsource
      · simp [outlastsFailure, GenerateBlock.canBeLeftOut, hsource, hkey, hoptional]
      · simp [outlastsFailure, GenerateBlock.canBeLeftOut, hsource, hkey, hoptional]

namespace Scene

variable {scene : Scene} {parts : Parts} {draws : Draws} {block : Block} {pattern : Pattern}
  {e : ComposeError}

/-- There is nothing to attempt for a block that does not select. -/
theorem attempt_of_not_selects (h : block.selects = false) :
    scene.attempt parts draws block = .ok none := by
  cases block with
  | select _ => cases h
  | generate _ => cases h
  | phrase _ target =>
      cases target with
      | bound _ => rfl
      | select _ => cases h
  | literal _ _ => rfl
  | reference _ => rfl

/-! ## Failures that leave nothing out -/

theorem leaveOut_of_not_optional {options : BlockOptions} (h : options.isOptional = false)
    (resolved : Except ComposeError (Option Part)) : leaveOut options resolved = resolved := by
  cases resolved with
  | ok part => rfl
  | error e => simp [leaveOut, h]

/-- A block that does not outlast failures passes on whatever its attempt comes to. -/
theorem resolve_of_not_outlasts (h : block.outlastsFailure = false) :
    scene.resolve parts draws block = scene.attempt parts draws block := by
  cases block with
  | select block => exact leaveOut_of_not_optional h _
  | generate block =>
      show scene.resolveGenerate parts draws block = scene.attemptGenerate parts draws block
      unfold resolveGenerate
      -- a failure is passed on where it cannot be left out and where it need not be
      cases hleft : block.canBeLeftOut with
      | false => rfl
      | true =>
          have hoptional : block.options.isOptional = false := by
            simpa [Block.outlastsFailure, hleft] using h
          exact leaveOut_of_not_optional hoptional _
  | phrase _ target =>
      cases target with
      | bound _ => rfl
      | select block => exact leaveOut_of_not_optional h _
  | literal _ _ => rfl
  | reference _ => rfl

/-- A block fails just if its attempt does and it does not outlast that. -/
theorem resolve_eq_error_iff : scene.resolve parts draws block = .error e ↔
    block.outlastsFailure = false ∧ scene.attempt parts draws block = .error e := by
  constructor
  · intro h
    have hattempt := attempt_of_resolve_eq_error h
    refine ⟨?_, hattempt⟩
    rw [← Bool.not_eq_true]
    intro hoptional
    rw [resolve_of_failure hoptional hattempt] at h
    cases h
  · rintro ⟨hlasting, hattempt⟩
    rw [resolve_of_not_outlasts hlasting, hattempt]

/-- **A block fails just if its attempt does**, unless the failure leaves it out. -/
theorem step_eq_error_iff : scene.step parts draws block = .error e ↔
    block.outlastsFailure = false ∧ scene.attempt parts draws block = .error e := by
  rw [← resolve_eq_error_iff]
  exact ⟨step_eq_error, step_of_resolve_eq_error⟩

/-! ## Blocks that end a run -/

/-- The run comes to the block at `index`, which fails and is not left out. -/
structure EndsRun (scene : Scene) (pattern : Pattern) (index : Nat) (progress : Progress)
    (block : Block) (cause : ComposeError) : Prop where
  reached : scene.Reaches pattern index progress block
  runs : scene.passesOver block = false
  lasting : block.outlastsFailure = false
  fails : scene.attempt progress.parts (scene.forBlock index) block = .error cause

/-- **A run fails just at a block that ends it.** -/
theorem compose_eq_error_iff : scene.compose pattern = .error e ↔
    ∃ index progress block cause, scene.EndsRun pattern index progress block cause ∧
      e = .inBlock index cause := by
  constructor
  · intro h
    obtain ⟨index, progress, block, cause, hreached, hruns, hstep, rfl⟩ := compose_eq_error h
    obtain ⟨hlasting, hfails⟩ := step_eq_error_iff.mp hstep
    exact ⟨index, progress, block, cause, ⟨hreached, hruns, hlasting, hfails⟩, rfl⟩
  · -- no block in front of a block that is reached fails
    rintro ⟨index, progress, block, cause, ⟨hreached, hruns, hlasting, hfails⟩, rfl⟩
    exact hreached.compose_eq_error hruns (step_eq_error_iff.mpr ⟨hlasting, hfails⟩)

/-! ## Blocks that never fail -/

/-- A harmless block always takes a step, on every scene. -/
theorem step_of_harmless (h : block.Harmless) (scene : Scene) (parts : Parts) (draws : Draws) :
    ∃ step, scene.step parts draws block = .ok step := by
  cases hstep : scene.step parts draws block with
  | ok step => exact ⟨step, rfl⟩
  | error e =>
      obtain ⟨hlasting, hattempt⟩ := step_eq_error_iff.mp hstep
      -- such a block attempts nothing that can fail, or it outlasts the failure
      rcases h.cases with hnone | houtlasts
      · rw [attempt_of_not_selects hnone] at hattempt
        cases hattempt
      · rw [houtlasts] at hlasting
        cases hlasting

/-- **A pattern of harmless blocks always makes a composition.** -/
theorem compose_of_harmless (h : ∀ block ∈ pattern, block.Harmless) (scene : Scene) :
    ∃ result, scene.compose pattern = .ok result := by
  cases hrun : scene.compose pattern with
  | ok result => exact ⟨result, rfl⟩
  | error e =>
      obtain ⟨index, progress, block, cause, hreached, _, hstep, _⟩ := compose_eq_error hrun
      obtain ⟨step, hok⟩ := step_of_harmless (h block hreached.mem) scene progress.parts
        (scene.forBlock index)
      rw [hok] at hstep
      cases hstep

/-! ## Blocks that are not saved by being optional -/

/-- A block without the key that it needs cannot outlast that, optional or not. -/
theorem outlastsFailure_of_key_missing {block : GenerateBlock} (hkey : block.key = none) :
    Block.outlastsFailure (.generate block) = false := by
  cases hsource : block.source <;>
    simp [Block.outlastsFailure, GenerateBlock.canBeLeftOut, hsource, hkey]

theorem step_of_key_missing {block : GenerateBlock} (hkey : block.key = none) :
    (block.source = .recipe →
      scene.step parts draws (.generate block) = .error (keyMissing "Recipe")) ∧
    (block.source = .catalog →
      scene.step parts draws (.generate block) = .error (keyMissing "Catalog")) := by
  have hlasting := outlastsFailure_of_key_missing hkey
  constructor
  · intro hsource
    exact step_eq_error_iff.mpr ⟨hlasting, by simp [attempt, attemptGenerate, hsource, hkey]⟩
  · intro hsource
    exact step_eq_error_iff.mpr ⟨hlasting, by simp [attempt, attemptGenerate, hsource, hkey]⟩

/-- A block that generates from a package fails just if that does. -/
theorem step_of_package {block : GenerateBlock} {package : String}
    (hsource : block.source = .package package) :
    scene.step parts draws (.generate block) = .error e ↔
      scene.generateFromPackage draws package block.collection = .error e := by
  have hlasting : Block.outlastsFailure (.generate block) = false := by
    simp [Block.outlastsFailure, GenerateBlock.canBeLeftOut, hsource]
  have hattempt : scene.attempt parts draws (.generate block)
      = (scene.generateFromPackage draws package block.collection).map some := by
    simp [attempt, attemptGenerate, hsource]
  rw [step_eq_error_iff, hattempt]
  constructor
  · rintro ⟨_, hfails⟩
    exact except_map_eq_error hfails
  · intro hfails
    rw [hfails]
    exact ⟨hlasting, rfl⟩

/-! ## When a fallback is asked -/

section

variable {asked : CatalogRequest} {agreement : Agreement}
  (hasked : scene.request? block = some asked)
include hasked

theorem attempt_of_no_catalog (hnone : scene.findCatalog asked.key = .error e) :
    scene.attempt parts draws block = .error e := by
  rw [attempt_of_request? hasked, selectFromCatalog, hnone]

/-- **Whenever nothing agrees the fallback decides**: the block is left out, or what the second
selection comes to is what the block comes to. -/
theorem attempt_of_disagreed {catalog : Catalog} (hagree : asked.agreement = some agreement)
    (hfound : scene.findCatalog asked.key = .ok catalog)
    (hfails : pick catalog asked parts (block.selectionDraws draws)
      ((scene.narrow asked.key asked.clause).merge (agreement.clause parts)) = .error e) :
    (agreement.fallback = some .skip → scene.attempt parts draws block = .ok none) ∧
    (∀ clause, agreement.fallback = some (.retryWith clause) →
      scene.attempt parts draws block
        = (pick catalog asked parts (block.selectionDraws draws).again
            ((scene.narrow asked.key asked.clause).merge clause)).map some) := by
  rw [attempt_of_request? hasked]
  constructor
  · intro hskip
    exact selectFromCatalog_of_disagreed hfound hagree hskip hfails
  · -- the second selection is the last, so what it fails with is passed on
    intro clause hretry
    simp only [selectFromCatalog, hfound, hagree, pickAgreeing, hfails, hretry]

end

/-- **Which blocks end a run.** Harmless blocks never fail, whatever they are run on, so a pattern
of them makes a composition. In general a run fails just at a block that is reached and not switched
off, whose attempt fails and does not leave it out. So without its key a block always fails, and a
block that generates from a package fails just if that does, both of them even if they are optional.
The fallback of an agreement decides whenever nothing agrees, but has no say if the catalog is not
there. -/
theorem failures_by_block (scene : Scene) :
    (∀ block : Block, block.Harmless → ∀ parts draws, ∃ step,
      scene.step parts draws block = .ok step) ∧
    (∀ pattern : Pattern, (∀ block ∈ pattern, block.Harmless) → ∃ result,
      scene.compose pattern = .ok result) ∧
    (∀ pattern e, scene.compose pattern = .error e ↔ ∃ index progress block cause,
      scene.EndsRun pattern index progress block cause ∧ e = .inBlock index cause) ∧
    (∀ (block : GenerateBlock) parts draws, block.key = none →
      (block.source = .recipe →
        scene.step parts draws (.generate block) = .error (keyMissing "Recipe")) ∧
      (block.source = .catalog →
        scene.step parts draws (.generate block) = .error (keyMissing "Catalog"))) ∧
    (∀ (block : GenerateBlock) package parts draws e, block.source = .package package →
      (scene.step parts draws (.generate block) = .error e ↔
        scene.generateFromPackage draws package block.collection = .error e)) ∧
    (∀ block asked agreement parts draws e, scene.request? block = some asked →
      asked.agreement = some agreement →
      (scene.findCatalog asked.key = .error e → scene.attempt parts draws block = .error e) ∧
      (∀ catalog, scene.findCatalog asked.key = .ok catalog →
        pick catalog asked parts (block.selectionDraws draws)
          ((scene.narrow asked.key asked.clause).merge (agreement.clause parts)) = .error e →
        (agreement.fallback = some .skip → scene.step parts draws block = .ok .nothing) ∧
        (∀ clause, agreement.fallback = some (.retryWith clause) →
          scene.attempt parts draws block
            = (pick catalog asked parts (block.selectionDraws draws).again
                ((scene.narrow asked.key asked.clause).merge clause)).map some))) := by
  refine ⟨?_, ?_, ?_, ?_, ?_, ?_⟩
  · intro block hharmless parts draws
    exact step_of_harmless hharmless scene parts draws
  · intro pattern hharmless
    exact compose_of_harmless hharmless scene
  · intro pattern e
    exact compose_eq_error_iff
  · intro block parts draws hkey
    exact step_of_key_missing hkey
  · intro block package parts draws e hsource
    exact step_of_package hsource
  · intro block asked agreement parts draws e hasked hagree
    refine ⟨attempt_of_no_catalog hasked, ?_⟩
    intro catalog hfound hfails
    obtain ⟨hskip, hretry⟩ := attempt_of_disagreed hasked hagree hfound hfails
    refine ⟨?_, hretry⟩
    intro hfallback
    exact step_of_resolve_none (selects_of_request? hasked)
      (resolve_of_attempt_eq_ok (hskip hfallback))

end Scene

/-! ## A fair

There are toys, but none for the child, no sweets, and nobody to sing. What is optional is left out
then, so that the fair is announced; a song without its key and one from a package are not. -/

namespace Fair

def mia : Item := { text := .ofPairs [("en", "Mia")], tags := .ofList ["small"] }

def sword : Item := { text := .ofPairs [("en", "sword")], tags := .ofList ["big"] }

def scene : Scene where
  catalogs := .ofPairs [("toys", ⟨[sword]⟩)]
  rules := {}
  locale := "en"

def suited : Agreement where
  source := "Child"
  features := [.tags ["small", "big"]]
  fallback := some .skip

/-- A toy or a sweet that suits the child, or none. -/
def present (key : String) : Block := .select { key, options := { agreeWith := some suited } }

/-- A song by the recipe of this key, or from a package. -/
def song (source : GenerateSource) (key : Option String) : Block :=
  .generate { source, key, options := { isOptional := true } }

def announcement : Pattern :=
  [.literal (.ofPairs [("en", "Fair")]) {}, song .recipe (some "ballad"),
   .select { key := "sweets", options := { isOptional := true } },
   .phrase "of" (.select { key := "guilds", options := { isOptional := true } }),
   .phrase "for" (.bound "Child"), .reference "Child"]

/-- Every block of the announcement is harmless, one for each sort. -/
theorem announcement_harmless : ∀ block ∈ announcement, block.Harmless := by
  simp only [announcement, List.mem_cons, List.not_mem_nil, or_false]
  rintro block (rfl | rfl | rfl | rfl | rfl | rfl)
  · exact .literal _ _
  · exact .generate _ "ballad" (.inl rfl) rfl rfl
  · exact .select _ rfl
  · exact .phrase _ _ rfl
  · exact .bound _ _
  · exact .reference _

/-- The table with the child. -/
def child : Parts := Parts.empty.insert "Child" (.item mia)

theorem fair_announced : (∃ result, scene.compose announcement = .ok result) ∧
    scene.step child scene.toDraws (song .recipe none) = .error (.malformedBlock
      "generate from Recipe needs a key") ∧
    scene.step child scene.toDraws (song (.package "bards") none)
      = .error (.missingHost .collections) ∧
    scene.compose [song (.package "bards") none]
      = .error (.inBlock 0 (.missingHost .collections)) ∧
    scene.attempt child scene.toDraws (present "sweets")
      = .error (.catalogNotFound "sweets" ["toys"]) ∧
    scene.step child scene.toDraws (present "toys") = .ok .nothing := by
  obtain ⟨_, hcompose, hends, hkey, hpackage, hfallback⟩ := Scene.failures_by_block scene
  refine ⟨hcompose announcement announcement_harmless, (hkey _ child _ rfl).1 rfl,
    (hpackage _ "bards" child _ _ rfl).mpr rfl, ?_, ?_, ?_⟩
  · exact (hends _ _).mpr ⟨0, {}, _, _, ⟨⟨rfl, rfl⟩, rfl, rfl, rfl⟩, rfl⟩
  · exact (hfallback (present "sweets") _ suited child _ _ rfl rfl).1 rfl
  · obtain ⟨_, hasked⟩ := hfallback (present "toys") _ suited child scene.toDraws _ rfl rfl
    exact (hasked ⟨[sword]⟩ rfl rfl).1 rfl

end Fair

end TextRecipes
