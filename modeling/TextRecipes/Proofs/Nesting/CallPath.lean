import TextRecipes.Proofs.Composition.Packages
import TextRecipes.Proofs.Nesting.Limit

/-!
# Where the errors of an engine come from

The blocks around an error are the way to where it was raised. The outermost index is that of a
block in the pattern of the recipe asked for, and if there are more, then this block runs a recipe,
and the next index is that of a block in the pattern of this recipe, and so on (`Engine.PathTo`).
The last block fails by itself, whatever recipes may come to, or the limit refuses the recipe that
it runs. Every error of a request has such a path, unless the recipe asked for is not there
(`error_has_path`).

An engine is the host of all its runs, so nothing that is left out or handed on is ever the lack of
a host.
-/

namespace TextRecipes

/-- The recipe that the key of a block names. -/
def Block.namedRecipe? : Block → Option String
  | select block => if block.source = .recipe then some block.key else none
  | generate block => if block.source = .recipe then block.key else none
  | phrase _ (.select block) => if block.source = .recipe then some block.key else none
  | _ => none

namespace Scene

variable {scene : Scene} {draws : Draws} {block : Block} {id : String}

/-- A block runs the recipe that its key names, or one that is listed in the collection chosen for
its package. -/
inductive Runs (scene : Scene) : Block → String → Prop where
  | named (block : Block) (id : String) (hnamed : block.namedRecipe? = some id) :
      Runs scene block id
  | listed (block : GenerateBlock) (package id : String) (collection : Collection)
      (hsource : block.source = .package package)
      (hchosen : scene.chosen? package block.collection = some collection)
      (hlisted : id ∈ collection.recipes) : Runs scene (.generate block) id

/-- What is chosen belongs to the package or to all of them, and lists recipes. -/
theorem chosen?_eq_some {package : String} {name : Option String} {collection : Collection}
    (h : scene.chosen? package name = some collection) :
    ∃ host, scene.host = some host ∧ collection ∈ host.collections ∧
      collection.visibleFrom package = true ∧ collection.hasRecipes = true := by
  obtain ⟨host, hhost, hchoose⟩ := chosen?_eq_some_iff.mp h
  have hchooses := chooseCollection_eq_ok_iff.mp hchoose
  obtain ⟨hmem, hvisible⟩ := List.mem_filter.mp (mem_of_chooses hchooses)
  have hrecipes := List.length_pos_iff.mp (length_pos_of_chooses hchooses)
  exact ⟨host, hhost, hmem, hvisible, Collection.hasRecipes_eq_true.mpr hrecipes⟩

theorem chooseRecipe_mem {collection : Collection} (h : collection.hasRecipes = true)
    (draws : Draws) : chooseRecipe draws collection ∈ collection.recipes := by
  have hpos : 0 < collection.recipes.length :=
    List.length_pos_iff.mpr (Collection.hasRecipes_eq_true.mp h)
  have hlt := draws.index_lt hpos
  unfold chooseRecipe
  rw [List.getD_eq_getElem?_getD, List.getElem?_eq_getElem hlt]
  exact List.getElem_mem hlt

/-- The recipe that a block runs is the one that it names, or one that its collection lists. -/
theorem runs_of_nested? (h : scene.nested? draws block = some id) : scene.Runs block id := by
  cases block with
  | select block => exact .named _ _ h
  | generate block =>
      simp only [nested?] at h
      split at h
      · next hsource => exact .named _ _ ((if_pos hsource).trans h)
      · cases h
      · next package hsource =>
          -- a package names no recipe, but what is drawn is one that is listed
          obtain ⟨collection, hchosen, rfl⟩ := Option.map_eq_some_iff.mp h
          obtain ⟨_, _, _, _, hrecipes⟩ := chosen?_eq_some hchosen
          exact .listed block package _ collection hsource hchosen (chooseRecipe_mem hrecipes draws)
  | phrase preposition target =>
      cases target with
      | bound _ => cases h
      | select block => exact .named _ _ h
  | literal _ _ => cases h
  | reference _ => cases h

end Scene

namespace Engine

variable {engine : Engine} {run run' : RecipeCall → Except ComposeError String}
  {call nested : RecipeCall} {parts : Parts} {draws : Draws} {block : Block} {e : ComposeError}

/-! ## Attempts and the recipes they run -/

/-- If no recipe runs in a block, then what recipes come to makes no difference to it. -/
theorem attempt_of_not_nested (run run' : RecipeCall → Except ComposeError String)
    (hnone : ∀ id, (engine.scene run call).nested? draws block = some id →
      engine.recipes.contains id = false) :
    (engine.scene run call).attempt parts draws block
      = (engine.scene run' call).attempt parts draws block := by
  have halike : Scene.Alike id
      (fun resource => ∀ id, resource = .recipe id → engine.recipes.contains id = false)
      (engine.scene run call) (engine.scene run' call) := by
    apply scene_alike (.refl call)
    -- no nested call is ever made, so there is nothing to compare
    intro nested nested' _ _ hunknown hknown
    rw [hunknown _ rfl] at hknown
    cases hknown
  have hattempt := halike.attempt parts draws block (by
    rintro _ huses id rfl
    exact hnone id huses)
  rwa [mapError_id, mapError_id] at hattempt

/-- An attempt fails by itself, whatever recipes come to, or by the error of a recipe that the
block runs. -/
theorem attempt_eq_error_cases (h : (engine.scene run call).attempt parts draws block = .error e) :
    ((engine.scene run call).canRaise e = true ∧
      ∀ run', (engine.scene run' call).attempt parts draws block = .error e) ∨
    ∃ id, (engine.scene run call).Runs block id ∧ engine.recipes.contains id = true ∧
      run ((engine.scene run call).nestedCall (block.selectionDraws draws) id) = .error e := by
  -- either the block runs a recipe that is there, or recipes do not matter to it
  by_cases hruns : ∃ id, (engine.scene run call).nested? draws block = some id ∧
      engine.recipes.contains id = true
  · obtain ⟨id, hnested, hknown⟩ := hruns
    rw [Scene.attempt_of_nested hnested, runRecipe_scene, if_pos hknown] at h
    exact .inr ⟨id, Scene.runs_of_nested? hnested, hknown,
      except_map_eq_error (except_map_eq_error h)⟩
  · have hown : (engine.scene run call).canRaise e = true := by
      rcases Scene.attempt_eq_error h with hown | ⟨id, hnested, hrecipe⟩
      · exact hown
      · rcases Scene.runRecipe_eq_error hrecipe with hown | ⟨host, hhost, hknows, _⟩
        · exact hown
        · cases hhost
          -- an error from inside a recipe needs one that is there
          exact absurd ⟨id, hnested, hknows⟩ hruns
    refine .inl ⟨hown, ?_⟩
    intro run'
    rw [← attempt_of_not_nested run run', h]
    intro id hnested
    rw [← Bool.not_eq_true]
    intro hknown
    exact hruns ⟨id, hnested, hknown⟩

/-! ## Recipes inside recipes -/

/-- The scene on which a call runs its recipe, as deep as it lies. -/
def callScene (engine : Engine) (call : RecipeCall) : Scene :=
  engine.scene (engine.runWithin engine.refuse (engine.nestingLimit - call.depth)) call

/-- The way from a call to the place where an error was raised. -/
inductive PathTo (engine : Engine) : RecipeCall → ComposeError → Prop where
  /-- A block fails by itself. -/
  | raised (call : RecipeCall) (recipe : Recipe) (index : Nat) (progress : Progress) (block : Block)
      (cause : ComposeError) (hrecipe : engine.findRecipe call.id = .ok recipe)
      (hends : (engine.callScene call).EndsRun recipe.pattern index progress block cause)
      (hown : (engine.callScene call).canRaise cause = true)
      (hitself : ∀ run, (engine.scene run call).attempt progress.parts (call.forBlock index) block
        = .error cause) :
      PathTo engine call (.inBlock index cause)
  /-- The recipe that a block runs lies too deep. -/
  | refused (call : RecipeCall) (recipe : Recipe) (index : Nat) (progress : Progress)
      (block : Block) (id : String) (hrecipe : engine.findRecipe call.id = .ok recipe)
      (hends : (engine.callScene call).EndsRun recipe.pattern index progress block
        (.tooDeep id engine.nestingLimit))
      (hruns : (engine.callScene call).Runs block id)
      (hknown : engine.recipes.contains id = true) (hdeep : engine.nestingLimit ≤ call.depth) :
      PathTo engine call (.inBlock index (.tooDeep id engine.nestingLimit))
  /-- The recipe that a block runs fails. -/
  | nested (call : RecipeCall) (recipe : Recipe) (index : Nat) (progress : Progress) (block : Block)
      (id : String) (cause : ComposeError) (hrecipe : engine.findRecipe call.id = .ok recipe)
      (hends : (engine.callScene call).EndsRun recipe.pattern index progress block cause)
      (hruns : (engine.callScene call).Runs block id)
      (hknown : engine.recipes.contains id = true)
      (hpath : PathTo engine ((engine.callScene call).nestedCall
        (block.selectionDraws (call.forBlock index)) id) cause) :
      PathTo engine call (.inBlock index cause)

/-- A call below another is refused if the limit is reached, and runs its recipe otherwise. -/
theorem runWithin_nested (hdepth : nested.depth = call.depth + 1) :
    engine.runWithin engine.refuse (engine.nestingLimit - call.depth) nested
      = if engine.nestingLimit ≤ call.depth then engine.refuse nested
        else (engine.composeCall
          (engine.runWithin engine.refuse (engine.nestingLimit - nested.depth)) nested).map
            (·.text) := by
  split
  · next hdeep =>
      rw [Nat.sub_eq_zero_of_le hdeep, runWithin, guarded]
      exact ite_self _
  · next hdeep =>
      have hlevels : engine.nestingLimit - call.depth
          = (engine.nestingLimit - nested.depth) + 1 := by omega
      have hallowed : engine.exceeds nested = false := by
        cases hmax : engine.maxDepth with
        | none => simp [exceeds, hmax]
        | some limit =>
            have hlimit : engine.nestingLimit = limit := nestingLimit_eq hmax
            simp only [exceeds, hmax, Option.any_some, decide_eq_false_iff_not]
            omega
      rw [hlevels, runWithin_succ hallowed]

theorem exists_recipe {id : String} (h : engine.recipes.contains id = true) :
    ∃ recipe, engine.findRecipe id = .ok recipe := by
  obtain ⟨recipe, hrecipe⟩ := Option.isSome_iff_exists.mp h
  exact ⟨recipe, by rw [findRecipe, hrecipe]⟩

/-- **Every failing call has a path to its error.** The induction is on the levels that are left. -/
theorem pathTo_of_composeCall (hknown : engine.recipes.contains call.id = true)
    (h : engine.composeCall
      (engine.runWithin engine.refuse (engine.nestingLimit - call.depth)) call = .error e) :
    engine.PathTo call e := by
  induction hlevels : engine.nestingLimit - call.depth using Nat.strongRecOn
    generalizing call e with
  | ind levels ih =>
      subst hlevels
      obtain ⟨recipe, hrecipe⟩ := exists_recipe hknown
      have hcompose : (engine.callScene call).compose recipe.pattern = .error e := by
        rw [composeCall, hrecipe] at h
        exact h
      obtain ⟨index, progress, block, cause, hends, rfl⟩ := Scene.compose_eq_error_iff.mp hcompose
      -- the block that ends the run failed by itself, or because the recipe in it did, which is
      -- refused or has a path of its own
      rcases attempt_eq_error_cases hends.fails with ⟨hown, hitself⟩ | ⟨id, hruns, hknown', hrun⟩
      · exact .raised call recipe index progress block cause hrecipe hends hown hitself
      · rw [runWithin_nested rfl] at hrun
        split at hrun
        · next hdeep =>
            cases hrun
            exact .refused call recipe index progress block id hrecipe hends hruns hknown' hdeep
        · next hdeep =>
            have hpath := ih _ (by show _ - (call.depth + 1) < _; omega) hknown'
              (except_map_eq_error hrun) rfl
            exact .nested call recipe index progress block id cause hrecipe hends hruns hknown'
              hpath

/-! ## No host is ever missed -/

/-- No block of an engine's run misses its host. -/
theorem not_missingHost_of_canRaise (h : (engine.scene run call).canRaise e = true)
    (needed : Capability) : e.innermost ≠ .missingHost needed := by
  cases e with
  | missingHost _ => cases h
  | inBlock _ _ => cases h
  | _ =>
      intro hinner
      cases hinner

/-- Nor does any block on a path, the innermost one included. -/
theorem PathTo.not_missingHost (h : engine.PathTo call e) (needed : Capability) :
    e.innermost ≠ .missingHost needed := by
  induction h with
  | raised call recipe index progress block cause _ _ hown _ =>
      exact not_missingHost_of_canRaise hown needed
  | refused call recipe index progress block id _ _ _ _ _ =>
      intro hinner
      cases hinner
  | nested call recipe index progress block id cause _ _ _ _ _ ih => exact ih

/-- Whatever a block fails with in a run of the engine, it is not the lack of a host. -/
theorem attempt_not_missingHost
    (h : (engine.callScene call).attempt parts draws block = .error e) (needed : Capability) :
    e.innermost ≠ .missingHost needed := by
  rcases attempt_eq_error_cases h with ⟨hown, _⟩ | ⟨id, _, hknown, hrun⟩
  · exact not_missingHost_of_canRaise hown needed
  · -- an error from inside a recipe comes with a path, on which no host is missed
    rw [runWithin_nested rfl] at hrun
    split at hrun
    · cases hrun
      intro hinner
      cases hinner
    · exact (pathTo_of_composeCall hknown (except_map_eq_error hrun)).not_missingHost needed

/-- **Errors come with the way to them.** A request fails because the recipe asked for is not there,
or its error has around it the blocks on the way from this recipe to the place where the error was
raised. The error is never the lack of a host, and neither is any other that a block fails with in
a run of the engine and that leaves the block out. -/
theorem error_has_path (engine : Engine) (id : String) (request : Request) :
    (∀ e, engine.generate id request = .error e →
      ((engine.recipes.contains id = false ∧ e = .recipeNotFound id engine.recipes.keys) ∨
        engine.recipes.contains id = true ∧ engine.PathTo (outermost id request) e) ∧
      ∀ needed, e.innermost ≠ .missingHost needed) ∧
    ∀ call parts draws block e, (engine.callScene call).attempt parts draws block = .error e →
      ∀ needed, e.innermost ≠ .missingHost needed := by
  constructor
  · intro e he
    rcases composeCall_eq_error he with ⟨rfl, hunknown⟩ | ⟨hknown, _⟩
    · refine ⟨.inl ⟨hunknown, rfl⟩, ?_⟩
      intro needed hinner
      cases hinner
    · have hpath : engine.PathTo (outermost id request) e := pathTo_of_composeCall hknown he
      exact ⟨.inr ⟨hknown, hpath⟩, hpath.not_missingHost⟩
  · intro call parts draws block e he
    exact attempt_not_missingHost he

end Engine

/-! ## A feast

There are neither wines nor herbs. The wines are left out, and then the soup of the kitchen fails at
its second block. -/

namespace Feast

def soup : Recipe :=
  ⟨"soup", [.literal (.ofPairs [("en", "soup of")]) {}, .select { key := "herbs" }]⟩

def feast : Recipe :=
  ⟨"feast", [.literal (.ofPairs [("en", "There is")]) {},
    .select { key := "wines", options := { isOptional := true } },
    .generate { source := .package "kitchen" }]⟩

def engine : Engine where
  recipes := .ofPairs [("feast", feast), ("soup", soup)]
  collections := [{ key := "menu", package := some "kitchen", recipes := ["soup"] }]
  maxDepth := some 1

def request : Request where
  locale := "en"
  seed := some "s"

def failure : ComposeError := .inBlock 2 (.inBlock 1 (.catalogNotFound "herbs" []))

theorem path_to_herbs : engine.generate "feast" request = .error failure ∧
    engine.PathTo (Engine.outermost "feast" request) failure ∧
    ∀ needed, failure.innermost ≠ .missingHost needed := by
  have hfails : engine.generate "feast" request = .error failure := by rfl
  obtain ⟨hpath, hmissing⟩ := (Engine.error_has_path engine "feast" request).1 failure hfails
  rcases hpath with ⟨hunknown, _⟩ | ⟨_, hpath⟩
  · cases hunknown
  · exact ⟨hfails, hpath, hmissing⟩

end Feast

end TextRecipes
