import TextRecipes.Engine
import TextRecipes.Proofs.Composition.Alike
import TextRecipes.Proofs.Merging

/-!
# Levels of nested recipes

A call knows how many recipes are running around it, and all that this number does is to be
compared with the limit of the engine. So a call may lie some levels deeper if the limit is so
much higher (`runWithin_alike`), and how many levels a run is given makes no difference as long as
the limit is reached within them.

Of its filters and switches a run only sees what they restrict. `RecipeCall.RestrictedAs` relates
calls that differ in nothing else, and the statements here hold for all of these.

The two runs that are compared refuse their calls with different limits. Like the statements about
scenes, those here look at errors through a `view` that need not show the difference.
-/

namespace TextRecipes

/-- `call` lies `shift` levels deeper than `call'` and asks for the same otherwise. -/
structure RecipeCall.DeeperBy (shift : Nat) (call call' : RecipeCall) : Prop where
  id : call.id = call'.id
  locale : call.locale = call'.locale
  derive : ∀ step, call.toDraws.derive step = call'.toDraws.derive step
  filters : ∀ key, call.filters.bind (·.get? key) = call'.filters.bind (·.get? key)
  components : ∀ key, call.components.bind (·.get? key) = call'.components.bind (·.get? key)
  depth : call.depth = call'.depth + shift

theorem RecipeCall.DeeperBy.refl (call : RecipeCall) : call.DeeperBy 0 call :=
  ⟨rfl, rfl, fun _ => rfl, fun _ => rfl, fun _ => rfl, rfl⟩

/-- `call` lies `shift` levels deeper than `call'` and asks for the same as far as a run can tell.
A filter that asks for nothing is as good as none, and so is a switch that is on. -/
structure RecipeCall.RestrictedAs (shift : Nat) (call call' : RecipeCall) : Prop where
  id : call.id = call'.id
  locale : call.locale = call'.locale
  derive : ∀ step, call.toDraws.derive step = call'.toDraws.derive step
  filters : ∀ key, (call.filters.bind (·.get? key)).getD .all
    = (call'.filters.bind (·.get? key)).getD .all
  components : ∀ key, call.components.bind (·.get? key) = some false
    ↔ call'.components.bind (·.get? key) = some false
  depth : call.depth = call'.depth + shift

/-- Calls that ask for the same have the same restrictions. -/
theorem RecipeCall.DeeperBy.restrictedAs {shift : Nat} {call call' : RecipeCall}
    (h : call.DeeperBy shift call') : call.RestrictedAs shift call' :=
  { id := h.id
    locale := h.locale
    derive := h.derive
    filters := fun key => by rw [h.filters]
    components := fun key => by rw [h.components]
    depth := h.depth }

theorem RecipeCall.RestrictedAs.refl (call : RecipeCall) : call.RestrictedAs 0 call :=
  (DeeperBy.refl call).restrictedAs

/-! ## What a run sees of filters and switches -/

namespace Scene

/-- Where the caller asks for nothing, that narrows a clause as well: it leaves it as it is. -/
theorem narrow_eq_merge (scene : Scene) (key : String) (clause : Clause) :
    scene.narrow key clause = clause.merge ((scene.filters.bind (·.get? key)).getD .all) := by
  unfold narrow
  cases scene.filters.bind (·.get? key) with
  | none => exact (Clause.merge_all clause).symm
  | some asked => rfl

/-- A switch that is on is as good as none. -/
theorem switchedOff_congr {scene scene' : Scene} (options : BlockOptions)
    (h : ∀ key, scene.components.bind (·.get? key) = some false
      ↔ scene'.components.bind (·.get? key) = some false) :
    scene.switchedOff options = scene'.switchedOff options := by
  unfold switchedOff
  cases options.componentKey with
  | none => rfl
  | some key => simp only [Option.any_some, Bool.beq_eq_decide_eq, h key]

end Scene

namespace Engine

variable {engine : Engine} {limit shift levels levels' : Nat} {call call' : RecipeCall}
  {run run' beyond beyond' : RecipeCall → Except ComposeError String}
  {view : ComposeError → ComposeError} {allowed : Resource → Prop}

/-! ## Recipes of an engine -/

/-- A recipe that is found is the one that the engine has under the id. -/
theorem get?_of_findRecipe {id : String} {recipe : Recipe}
    (h : engine.findRecipe id = .ok recipe) : engine.recipes.get? id = some recipe := by
  unfold findRecipe at h
  split at h
  · next hget => rw [hget, Except.ok.inj h]
  · cases h

/-- A recipe that is found is one of those that the engine has. -/
theorem mem_entries_of_findRecipe {id : String} {recipe : Recipe}
    (h : engine.findRecipe id = .ok recipe) : (id, recipe) ∈ engine.recipes.entries :=
  NameMap.get?_eq_some_iff.mp (get?_of_findRecipe h)

/-! ## Limits -/

/-- The engine with `limit` for the nesting of its recipes. -/
def limitedTo (engine : Engine) (limit : Nat) : Engine := { engine with maxDepth := some limit }

theorem eq_limitedTo (h : engine.maxDepth = some limit) : engine = engine.limitedTo limit := by
  rw [limitedTo, ← h]

theorem nestingLimit_eq (h : engine.maxDepth = some limit) : engine.nestingLimit = limit := by
  rw [nestingLimit, h, Option.getD_some]

@[simp] theorem nestingLimit_limitedTo : (engine.limitedTo limit).nestingLimit = limit := rfl

@[simp] theorem exceeds_limitedTo :
    (engine.limitedTo limit).exceeds call = decide (limit < call.depth) := rfl

/-- A call beyond the limit is refused, however many levels are left. -/
theorem runWithin_of_exceeds (h : engine.exceeds call = true) :
    engine.runWithin beyond levels call = engine.refuse call := by
  cases levels <;> simp [runWithin, guarded, h]

/-- A call within the limit is composed, with one level less for those inside it. -/
theorem runWithin_succ (h : engine.exceeds call = false) :
    engine.runWithin beyond (levels + 1) call
      = (engine.composeCall (engine.runWithin beyond levels) call).map (·.text) := by
  simp [runWithin, guarded, h]

/-! ## Levels that are not reached -/

/-- What lies below some levels may be further levels. -/
theorem runWithin_runWithin (beyond : RecipeCall → Except ComposeError String)
    (levels more : Nat) :
    engine.runWithin (engine.runWithin beyond more) levels
      = engine.runWithin beyond (levels + more) := by
  -- the induction is on the levels above, since those below are reached last
  induction levels with
  | zero =>
      funext call
      rw [Nat.zero_add]
      cases hdeep : engine.exceeds call with
      | true => rw [runWithin_of_exceeds hdeep, runWithin_of_exceeds hdeep]
      | false => simp [runWithin, guarded, hdeep]
  | succ levels ih =>
      funext call
      rw [Nat.succ_add]
      cases hdeep : engine.exceeds call with
      | true => rw [runWithin_of_exceeds hdeep, runWithin_of_exceeds hdeep]
      | false => rw [runWithin_succ hdeep, runWithin_succ hdeep, ih]

/-- **Levels that a run does not reach make no difference.** A result that is the same whatever lies
below some levels is the result with more levels as well. -/
theorem generateWithin_of_forall_beyond {id : String} {request : Request}
    {result : Except ComposeError Composition}
    (h : ∀ beyond, engine.generateWithin beyond levels id request = result)
    (hle : levels ≤ levels') (beyond : RecipeCall → Except ComposeError String) :
    engine.generateWithin beyond levels' id request = result := by
  -- the further levels are one of the ways to go on below the first
  obtain ⟨more, rfl⟩ := Nat.exists_eq_add_of_le hle
  rw [← h (engine.runWithin beyond more), generateWithin, generateWithin, runWithin_runWithin]

/-- The engine with another number of spare levels. -/
def withSpareLevels (engine : Engine) (spare : Nat) : Engine := { engine with spareLevels := spare }

/-- Without a limit no call is refused, and so the spare levels have no part in a run that is given
its levels. -/
theorem runWithin_withSpareLevels (hnone : engine.maxDepth = none) (spare levels : Nat) :
    (engine.withSpareLevels spare).runWithin beyond levels = engine.runWithin beyond levels := by
  have hfree : ∀ call, engine.exceeds call = false := fun call => by simp [exceeds, hnone]
  have hfree' : ∀ call, (engine.withSpareLevels spare).exceeds call = false := hfree
  -- their number shows in a refusal only, and there is none without a limit
  induction levels with
  | zero => funext call; simp [runWithin, guarded, hfree, hfree']
  | succ levels ih =>
      funext call
      rw [runWithin_succ (hfree call), runWithin_succ (hfree' call), ih]
      rfl

/-- A run without a limit that ends is followed to its end by every engine that has levels for it,
however many more it has. -/
theorem generate_withSpareLevels {id : String} {request : Request}
    {result : Except ComposeError Composition} (hnone : engine.maxDepth = none)
    (h : ∀ beyond, engine.generateWithin beyond levels id request = result) {spare : Nat}
    (hle : levels ≤ engine.recipes.size + spare) :
    (engine.withSpareLevels spare).generate id request = result := by
  have hlimit : (engine.withSpareLevels spare).nestingLimit = engine.recipes.size + spare := by
    rw [nestingLimit, show (engine.withSpareLevels spare).maxDepth = none from hnone]
    rfl
  rw [generate, hlimit, generateWithin, runWithin_withSpareLevels hnone]
  exact generateWithin_of_forall_beyond h hle _

/-! ## Calls at different depths -/

/-- A recipe runs inside another by a call, if the engine has it. -/
theorem runRecipe_scene (draws : Draws) (id : String) :
    (engine.scene run call).runRecipe draws id
      = if engine.recipes.contains id then
          (run ((engine.scene run call).nestedCall draws id)).map fun text =>
            .generated ⟨text, call.locale, id⟩
        else .error (.recipeNotFound id engine.recipes.keys) := by
  unfold Scene.runRecipe
  dsimp only [scene, host]
  split
  · split
    · next hrun => rw [hrun, Except.map]
    · next hrun => rw [hrun, Except.map]
  · rfl

/-- Calls inside related calls are related again, since both lie one level deeper. -/
theorem nestedCall_restrictedAs (h : call.RestrictedAs shift call') (draws : Draws)
    (id : String) :
    ((engine.scene run call).nestedCall draws id).RestrictedAs shift
      ((engine.scene run' call').nestedCall draws id) :=
  { id := rfl
    locale := h.locale
    derive := fun _ => rfl
    filters := h.filters
    components := h.components
    depth := by simp only [Scene.nestedCall, scene, h.depth, Nat.add_right_comm] }

section

variable (h : call.RestrictedAs shift call')
  (hnested : ∀ nested nested', nested.RestrictedAs shift nested' → nested'.depth = call'.depth + 1 →
    allowed (.recipe nested'.id) → engine.recipes.contains nested'.id = true →
    (run nested).mapError view = (run' nested').mapError view)
include h hnested

theorem runRecipe_alike (draws : Draws) (id : String) (hid : allowed (.recipe id)) :
    ((engine.scene run call).runRecipe draws id).mapError view
      = ((engine.scene run' call').runRecipe draws id).mapError view := by
  have hcall : ((engine.scene run call).nestedCall draws id).RestrictedAs shift
      ((engine.scene run' call').nestedCall draws id) := nestedCall_restrictedAs h draws id
  -- both engines know the same recipes, so both call or both miss one
  rw [runRecipe_scene, runRecipe_scene]
  split
  · next hknown => rw [mapError_map, mapError_map, hnested _ _ hcall rfl hid hknown, h.locale]
  · rfl

/-- Related calls have scenes that are alike, if their nested calls come to the same. -/
theorem scene_alike : Scene.Alike view allowed (engine.scene run call) (engine.scene run' call') :=
  { rules := rfl
    locale := h.locale
    derive := h.derive
    findCatalog := fun _ _ => rfl
    narrow := fun key clause => by simp only [Scene.narrow_eq_merge, scene, h.filters]
    switchedOff := fun options => Scene.switchedOff_congr options h.components
    collections := rfl
    runRecipe := runRecipe_alike h hnested }

variable (allowed)

/-- A call makes the same composition some levels deeper, if the recipes nested in it come to the
same there. -/
theorem composeCall_alike
    (huses : ∀ recipe, engine.findRecipe call.id = .ok recipe → ∀ block ∈ recipe.pattern,
      (engine.scene run call).UsesOnly allowed block)
    (hview : ∀ index e, view (.inBlock index e) = .inBlock index (view e)) :
    (engine.composeCall run call).mapError view
      = (engine.composeCall run' call').mapError view := by
  unfold composeCall
  rw [← h.id]
  split
  · rfl
  · next recipe hrecipe =>
      have halike := scene_alike h hnested
      exact halike.compose hview recipe.pattern (huses recipe hrecipe)

end

section

variable (hlimit : ∀ id, view (.tooDeep id (limit + shift)) = view (.tooDeep id limit))
include hlimit

/-- Beyond the limit both calls are refused, with different numbers that `view` does not show. -/
theorem runWithin_alike_of_deep (h : call.RestrictedAs shift call') (hdeep : limit < call'.depth) :
    ((engine.limitedTo (limit + shift)).runWithin beyond levels call).mapError view
      = ((engine.limitedTo limit).runWithin beyond' levels' call').mapError view := by
  rw [runWithin_of_exceeds (by simpa [h.depth] using hdeep),
    runWithin_of_exceeds (by simpa using hdeep)]
  exact congrArg Except.error (h.id ▸ hlimit call.id)

/-- **Only the distance to the limit counts.** With the limit raised by as much as a call lies
deeper, the call comes to the same text. The levels that the two runs are given need not be the
same, and neither does what answers the calls below them: the limit is reached first. -/
theorem runWithin_alike (hview : ∀ index e, view (.inBlock index e) = .inBlock index (view e))
    (h : call.RestrictedAs shift call') (hlevels : limit + 1 ≤ call'.depth + levels)
    (hlevels' : limit + 1 ≤ call'.depth + levels') :
    ((engine.limitedTo (limit + shift)).runWithin beyond levels call).mapError view
      = ((engine.limitedTo limit).runWithin beyond' levels' call').mapError view := by
  -- the induction is on the levels of the first run; without any the call lies too deep, by
  -- the distance that is given
  induction levels generalizing levels' call call' with
  | zero => exact runWithin_alike_of_deep hlimit h (by omega)
  | succ levels ih =>
      by_cases hdeep : limit < call'.depth
      · exact runWithin_alike_of_deep hlimit h hdeep
      · -- both calls are allowed, so the second run has a level left as well
        obtain ⟨levels', rfl⟩ := Nat.exists_eq_succ_of_ne_zero (n := levels') (by omega)
        rw [runWithin_succ (by simpa [h.depth] using hdeep), runWithin_succ (by simpa using hdeep),
          mapError_map, mapError_map]
        congr 1
        refine composeCall_alike (fun _ => True) h ?_ (fun _ _ _ _ _ _ _ => trivial) hview
        intro nested nested' hnested hdepth _ _
        exact ih hnested (by omega) (by omega)

end

end Engine

end TextRecipes
