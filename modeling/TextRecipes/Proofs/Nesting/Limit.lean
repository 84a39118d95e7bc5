import TextRecipes.Proofs.Composition.Attempt
import TextRecipes.Proofs.Composition.Trace
import TextRecipes.Proofs.Nesting.Levels

/-!
# The limit of nesting

Recipes may run each other in a circle, and only the limit of the engine ends that. It does: an
engine with the limit `m` never runs a recipe below `m + 1` levels, whatever is asked of it, and
the path of blocks that an error carries tells how deep the run was (`nesting_limited`).

The bound on errors is kept by every level. An error that a call at some depth fails with has no
more blocks around it than there are levels left, and uses all of them if it is the limit that
was reached (`WithinLimit`).
-/

namespace TextRecipes

theorem mapError_id {α : Type} (x : Except ComposeError α) : x.mapError id = x := by
  cases x <;> rfl

namespace ComposeError

/-- An error of a block's own has no blocks around it, and is not the limit's. -/
theorem path_of_isOwn {e : ComposeError} (h : e.isOwn = true) : e.path = [] := by
  cases e with
  | inBlock _ _ => cases h
  | _ => rfl

theorem innermost_of_isOwn {e : ComposeError} (h : e.isOwn = true) (recipe : String)
    (reached : Nat) : e.innermost ≠ .tooDeep recipe reached := by
  cases e with
  | inBlock _ _ => cases h
  | tooDeep _ _ => cases h
  | _ => intro hinner; cases hinner

end ComposeError

namespace Engine

variable {engine : Engine} {limit levels levels' : Nat} {call call' : RecipeCall}
  {run beyond beyond' : RecipeCall → Except ComposeError String} {e : ComposeError}

/-! ## Enough levels -/

/-- Calls at one depth that restrict the same come to the same, if the levels of both reach down to
the limit. -/
theorem runWithin_of_restrictedAs (hmax : engine.maxDepth = some limit)
    (h : call.RestrictedAs 0 call') (hlevels : limit + 1 ≤ call'.depth + levels)
    (hlevels' : limit + 1 ≤ call'.depth + levels') :
    engine.runWithin beyond levels call = engine.runWithin beyond' levels' call' := by
  rw [eq_limitedTo hmax]
  have hrun : ((engine.limitedTo limit).runWithin beyond levels call).mapError id
      = ((engine.limitedTo limit).runWithin beyond' levels' call').mapError id :=
    runWithin_alike (fun _ => rfl) (fun _ _ => rfl) h hlevels hlevels'
  rwa [mapError_id, mapError_id] at hrun

/-- The calls just below the outermost recipe have room for as many levels as the limit. -/
theorem runWithin_below_outermost (hmax : engine.maxDepth = some limit) (hlevels : limit ≤ levels)
    (hlevels' : limit ≤ levels') (h : call.RestrictedAs 0 call') (hdepth : call'.depth = 1) :
    engine.runWithin beyond levels call = engine.runWithin beyond' levels' call' :=
  runWithin_of_restrictedAs hmax h (by omega) (by omega)

theorem generateWithin_of_restrictedAs (hmax : engine.maxDepth = some limit)
    (hlevels : limit ≤ levels) {recipe : String} {request request' : Request}
    (h : (outermost recipe request).RestrictedAs 0 (outermost recipe request')) :
    engine.generateWithin beyond levels recipe request = engine.generate recipe request' := by
  have hcompose : (engine.generateWithin beyond levels recipe request).mapError id
      = (engine.generate recipe request').mapError id := by
    refine composeCall_alike (fun _ => True) h ?_ (fun _ _ _ _ _ _ _ => trivial) fun _ _ => rfl
    intro nested nested' hnested hdepth _ _
    have hlimit : limit ≤ engine.nestingLimit := Nat.le_of_eq (nestingLimit_eq hmax).symm
    exact congrArg _ (runWithin_below_outermost hmax hlevels hlimit hnested hdepth)
  rwa [mapError_id, mapError_id] at hcompose

/-- **The levels of a run need not be counted.** As many as the limit are enough, and what would
answer the calls below them is never asked. -/
theorem generateWithin_eq_generate (hmax : engine.maxDepth = some limit) (hlevels : limit ≤ levels)
    (recipe : String) (request : Request) :
    engine.generateWithin beyond levels recipe request = engine.generate recipe request :=
  generateWithin_of_restrictedAs hmax hlevels (.refl _)

/-! ## Errors of a call -/

/-- An error that a call at `depth` may fail with under `limit`: the blocks around it are no more
than the levels left, and as many if the limit was reached, by a recipe that the engine has. -/
structure WithinLimit (engine : Engine) (limit depth : Nat) (e : ComposeError) : Prop where
  path_le : depth + e.path.length ≤ limit + 1
  of_tooDeep : ∀ recipe reached, e.innermost = .tooDeep recipe reached →
    reached = limit ∧ engine.recipes.contains recipe = true ∧ depth + e.path.length = limit + 1

theorem WithinLimit.of_isOwn {depth : Nat} (hdepth : depth ≤ limit + 1) (h : e.isOwn = true) :
    engine.WithinLimit limit depth e where
  path_le := by simpa [ComposeError.path_of_isOwn h] using hdepth
  of_tooDeep recipe reached hinner :=
    absurd hinner (ComposeError.innermost_of_isOwn h recipe reached)

/-- An error that is handed on from one level further down. -/
theorem WithinLimit.inBlock {depth index : Nat} (h : engine.WithinLimit limit (depth + 1) e) :
    engine.WithinLimit limit depth (.inBlock index e) where
  path_le := by
    have hle := h.path_le
    simp only [ComposeError.path, List.length_cons]
    omega
  of_tooDeep recipe reached hinner := by
    obtain ⟨hreached, hknown, hpath⟩ := h.of_tooDeep recipe reached hinner
    refine ⟨hreached, hknown, ?_⟩
    simp only [ComposeError.path, List.length_cons]
    omega

theorem contains_of_findRecipe {id : String} {recipe : Recipe}
    (h : engine.findRecipe id = .ok recipe) : engine.recipes.contains id = true :=
  congrArg Option.isSome (get?_of_findRecipe h)

theorem findRecipe_eq_error {id : String} (h : engine.findRecipe id = .error e) :
    e = .recipeNotFound id engine.recipes.keys ∧ engine.recipes.contains id = false := by
  unfold findRecipe at h
  split at h
  · cases h
  · next hnone =>
      cases h
      exact ⟨rfl, by simp [NameMap.contains, hnone]⟩

/-- A call fails because its recipe is not there, or at a block: by the error of the block's own,
or by that of a recipe nested in it. -/
theorem composeCall_eq_error (h : engine.composeCall run call = .error e) :
    (e = .recipeNotFound call.id engine.recipes.keys ∧ engine.recipes.contains call.id = false) ∨
      engine.recipes.contains call.id = true ∧ ∃ index cause, e = .inBlock index cause ∧
        (cause.isOwn = true ∨ ∃ nested, engine.recipes.contains nested.id = true ∧
          nested.depth = call.depth + 1 ∧ run nested = .error cause) := by
  unfold composeCall at h
  split at h
  · next hfind =>
      cases h
      exact .inl (findRecipe_eq_error hfind)
  · next recipe hfind =>
      obtain ⟨index, progress, block, cause, _, _, hstep, rfl⟩ := Scene.compose_eq_error h
      refine .inr ⟨contains_of_findRecipe hfind, index, cause, rfl, ?_⟩
      have hattempt := Scene.attempt_of_resolve_eq_error (Scene.step_eq_error hstep)
      -- what ended the run was raised there, or it comes from the recipe that the block runs
      rcases Scene.attempt_eq_error hattempt with hown | ⟨id, _, hrecipe⟩
      · exact .inl (Scene.isOwn_of_canRaise hown)
      · rcases Scene.runRecipe_eq_error hrecipe with hown | ⟨host, hhost, hknows, hrun⟩
        · exact .inl (Scene.isOwn_of_canRaise hown)
        · cases hhost
          exact .inr ⟨(engine.scene run call).nestedCall _ id, hknows, rfl, hrun⟩

/-- A call that finds its recipe fails within the limit, if the recipes nested in it do. -/
theorem composeCall_withinLimit (h : engine.composeCall run call = .error e)
    (hknown : engine.recipes.contains call.id = true) (hdepth : call.depth ≤ limit)
    (hnested : ∀ nested cause, engine.recipes.contains nested.id = true →
      nested.depth = call.depth + 1 → run nested = .error cause →
      engine.WithinLimit limit nested.depth cause) :
    1 ≤ e.path.length ∧ engine.WithinLimit limit call.depth e := by
  rcases composeCall_eq_error h with ⟨_, hunknown⟩ | ⟨_, index, cause, rfl, hcause⟩
  · rw [hknown] at hunknown
    cases hunknown
  · have hwithin : engine.WithinLimit limit (call.depth + 1) cause := by
      rcases hcause with hown | ⟨nested, hknown', hdepth', hrun⟩
      · exact .of_isOwn (by omega) hown
      · exact hdepth' ▸ hnested nested cause hknown' hdepth' hrun
    exact ⟨by simp [ComposeError.path], hwithin.inBlock⟩

theorem refuse_withinLimit (hmax : engine.maxDepth = some limit)
    (h : engine.refuse call = .error e) (hknown : engine.recipes.contains call.id = true)
    (hdepth : call.depth = limit + 1) : engine.WithinLimit limit call.depth e := by
  cases h
  refine ⟨Nat.le_of_eq hdepth, ?_⟩
  rintro recipe reached hinner
  cases hinner
  exact ⟨nestingLimit_eq hmax, hknown, hdepth⟩

/-- **Every call fails within the limit**, if its recipe is there and it is not more than one level
too deep. -/
theorem runWithin_withinLimit (hmax : engine.maxDepth = some limit)
    (h : engine.runWithin beyond levels call = .error e)
    (hknown : engine.recipes.contains call.id = true) (hdepth : call.depth ≤ limit + 1)
    (hlevels : limit + 1 ≤ call.depth + levels) : engine.WithinLimit limit call.depth e := by
  induction levels generalizing call e with
  | zero =>
      have hexceeds : engine.exceeds call = true := by
        simp only [exceeds, hmax, Option.any_some, decide_eq_true_eq]
        omega
      rw [runWithin_of_exceeds hexceeds] at h
      -- no call is more than one level too deep, so this one is just that
      exact refuse_withinLimit hmax h hknown (by omega)
  | succ levels ih =>
      cases hexceeds : engine.exceeds call with
      | true =>
          have hdeep : limit < call.depth := by simpa [exceeds, hmax] using hexceeds
          rw [runWithin_of_exceeds hexceeds] at h
          exact refuse_withinLimit hmax h hknown (by omega)
      | false =>
          have hle : call.depth ≤ limit := by simpa [exceeds, hmax] using hexceeds
          rw [runWithin_succ hexceeds] at h
          refine (composeCall_withinLimit (except_map_eq_error h) hknown hle ?_).2
          intro nested cause hknown' hdepth' hrun
          exact ih hrun hknown' (by omega) (by omega)

/-- **The limit bounds the nesting.** An engine with a limit gives every request one and the same
answer for all numbers of levels from the limit on. If it fails, then the recipe asked for is not
there, or the error has blocks around it, at most one for every level; and if the limit was
reached then one for every level, the recipe refused being one that the engine has. -/
theorem nesting_limited (engine : Engine) (limit : Nat) (hmax : engine.maxDepth = some limit)
    (id : String) (request : Request) :
    (∀ beyond levels, limit ≤ levels →
      engine.generateWithin beyond levels id request = engine.generate id request) ∧
    ∀ e, engine.generate id request = .error e →
      (e = .recipeNotFound id engine.recipes.keys ∧ engine.recipes.contains id = false) ∨
      (engine.recipes.contains id = true ∧ 1 ≤ e.path.length ∧ e.path.length ≤ limit + 1 ∧
        ∀ recipe depth, e.innermost = .tooDeep recipe depth →
          depth = limit ∧ engine.recipes.contains recipe = true ∧ e.path.length = limit + 1) := by
  refine ⟨fun beyond levels hlevels => generateWithin_eq_generate hmax hlevels id request, ?_⟩
  intro e he
  rcases composeCall_eq_error he with hunknown | ⟨hknown, _⟩
  · exact .inl hunknown
  · -- the recipes nested in the outermost one start at depth 1
    have hnested : ∀ nested cause, engine.recipes.contains nested.id = true →
        nested.depth = (outermost id request).depth + 1 →
        engine.runWithin engine.refuse engine.nestingLimit nested = .error cause →
        engine.WithinLimit limit nested.depth cause := by
      intro nested cause hknown' hdepth hrun
      have hone : nested.depth = 1 := hdepth
      refine runWithin_withinLimit hmax hrun hknown' (by omega) ?_
      rw [nestingLimit_eq hmax]
      omega
    obtain ⟨hpos, hwithin⟩ := composeCall_withinLimit he hknown (Nat.zero_le limit) hnested
    have hle : 0 + e.path.length ≤ limit + 1 := hwithin.path_le
    refine .inr ⟨hknown, hpos, by omega, ?_⟩
    intro recipe depth hinner
    obtain ⟨hlimit, hknown', hpath⟩ := hwithin.of_tooDeep recipe depth hinner
    exact ⟨hlimit, hknown', (Nat.zero_add _).symm.trans hpath⟩

end Engine

/-! ## A round

The recipe runs itself. With the limit 1 there are two runs of it, and the third is refused. -/

namespace Round

def engine : Engine where
  recipes := .ofPairs [("round", ⟨"round", [.generate { source := .recipe, key := some "round" }]⟩)]
  maxDepth := some 1

def request : Request where
  locale := "en"

/-- The error of the third run, below the blocks of the first two. -/
def refused : ComposeError := .inBlock 0 (.inBlock 0 (.tooDeep "round" 1))

theorem round_limited : engine.maxDepth = some 1 ∧
    engine.generate "round" request = .error refused ∧
    (∀ beyond levels, 1 ≤ levels →
      engine.generateWithin beyond levels "round" request = engine.generate "round" request) ∧
    ∀ e, engine.generate "round" request = .error e →
      (e = .recipeNotFound "round" engine.recipes.keys ∧
        engine.recipes.contains "round" = false) ∨
      (engine.recipes.contains "round" = true ∧ 1 ≤ e.path.length ∧ e.path.length ≤ 1 + 1 ∧
        ∀ recipe depth, e.innermost = .tooDeep recipe depth →
          depth = 1 ∧ engine.recipes.contains recipe = true ∧ e.path.length = 1 + 1) := by
  have hmax : engine.maxDepth = some 1 := rfl
  have hrefused : engine.generate "round" request = .error refused := rfl
  exact ⟨hmax, hrefused, Engine.nesting_limited engine 1 hmax "round" request⟩

end Round

end TextRecipes
