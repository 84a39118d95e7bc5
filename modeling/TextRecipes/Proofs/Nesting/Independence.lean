import TextRecipes.Proofs.Composition.Attempt
import TextRecipes.Proofs.Composition.Trace
import TextRecipes.Proofs.Nesting.Levels

/-!
# Nested recipes run on their own

A recipe that runs inside another comes to the text that it comes to when it is asked for by
itself: with the seed of the place where it stands, and by an engine whose limit is lower by the
recipes around it (`nested_eq_generate`). If it fails, then it fails with the same error, but for
the number of the limit that the error may name.
-/

namespace TextRecipes

/-- The error without the number of the limit. -/
def ComposeError.forgetLimit : ComposeError → ComposeError
  | tooDeep recipe _ => tooDeep recipe 0
  | inBlock index cause => inBlock index cause.forgetLimit
  | e => e

/-- The request that asks for what a call asks for. -/
def RecipeCall.request (call : RecipeCall) : Request where
  toDraws := call.toDraws
  locale := call.locale
  filters := call.filters.getD .empty
  components := call.components.getD .empty

/-- The same request with another seed. -/
def Request.seeded (request : Request) (seed : String) : Request :=
  { request with seed := some seed }

/-! ## Seeds of places -/

/-- The seed of the selection that a block at `index` makes in a run with the seed `seed`. -/
def Block.selectionSeed (seed : String) (index : Nat) : Block → String
  | phrase _ _ => seed ++ ":b" ++ toString index ++ ":pp"
  | _ => seed ++ ":b" ++ toString index

theorem Seed.forBlock_some (seed : String) (index : Nat) :
    Seed.forBlock (some seed) index = some (seed ++ ":b" ++ toString index) := by
  have hstep : ":" ++ ("b" ++ toString index) = ":b" ++ toString index := by
    rw [← String.append_assoc]
    rfl
  simp only [Seed.forBlock, Seed.derive, Seed.blockStep, Option.map_some, String.append_assoc,
    hstep]

/-- The seed of a block's selection is derived from that of the run. -/
theorem seed_selectionDraws {draws : Draws} {seed : String} (h : draws.seed = some seed)
    (index : Nat) (block : Block) :
    (block.selectionDraws (draws.forBlock index)).seed = some (block.selectionSeed seed index) := by
  have hblock : (draws.forBlock index).seed = some (seed ++ ":b" ++ toString index) := by
    rw [Draws.seed_forBlock, h, Seed.forBlock_some]
  -- a phrase has one step more than the other blocks
  cases block with
  | phrase preposition target =>
      simp only [Block.selectionDraws, Block.selectionSeed, Draws.forPhrase, Draws.seed_derive,
        hblock, Seed.derive, Seed.phraseStep, Option.map_some, String.append_assoc]
      rfl
  | _ => exact hblock

/-- Under a seed, nothing but the seed decides the draws further down. -/
theorem Draws.derive_eq_of_seed {draws draws' : Draws} {seed : String}
    (h : draws.seed = some seed) (h' : draws'.seed = some seed) (step : String) :
    draws.derive step = draws'.derive step := by
  simp [Draws.derive, h, h']

namespace Engine

variable {engine : Engine} {limit shift index : Nat} {id seed : String} {request : Request}
  {call call' : RecipeCall}

/-! ## Calls and requests -/

/-- A call comes to the same some levels deeper, if the limit is higher by as much. -/
theorem run_deeper (h : call.DeeperBy shift call') :
    ((engine.limitedTo (limit + shift)).run call).mapError (·.forgetLimit)
      = ((engine.limitedTo limit).run call').mapError (·.forgetLimit) := by
  -- the numbers of the limits show in the errors, so these are viewed without them
  refine runWithin_alike (fun _ => rfl) (fun _ _ => rfl) h.restrictedAs ?_ ?_
  · rw [nestingLimit_limitedTo]
    omega
  · rw [nestingLimit_limitedTo]
    omega

/-- A request is the call that has no recipe around it. -/
theorem run_outermost : engine.run (outermost id request)
    = (engine.generate id request).map (·.text) := by
  -- a call at depth zero exceeds no limit
  refine runWithin_succ ?_
  cases h : engine.maxDepth <;> simp [exceeds, h, outermost]

/-- A call asks for what the request made of it asks for, and only lies deeper. -/
theorem deeperBy_outermost (call : RecipeCall) :
    call.DeeperBy call.depth (outermost call.id call.request) where
  id := rfl
  locale := rfl
  derive _ := rfl
  filters key := by cases h : call.filters <;> simp [outermost, RecipeCall.request, h]
  components key := by cases h : call.components <;> simp [outermost, RecipeCall.request, h]
  depth := (Nat.zero_add _).symm

/-! ## Blocks that run a recipe -/

/-- The scene on which the recipe of a request runs. -/
def requestScene (engine : Engine) (id : String) (request : Request) : Scene :=
  engine.scene (engine.runWithin engine.refuse engine.nestingLimit) (outermost id request)

/-- A request is answered by the pattern of its recipe. -/
theorem generate_of_findRecipe {recipe : Recipe} (h : engine.findRecipe id = .ok recipe) :
    engine.generate id request = (engine.requestScene id request).compose recipe.pattern := by
  simp [generate, generateWithin, composeCall, outermost, requestScene, h]

/-- The call of a recipe that stands at `index` is one level deeper than the request for it. -/
theorem nestedCall_deeperBy_outermost (engine : Engine) (id : String) (index : Nat)
    (hseed : request.seed = some seed) (block : Block) (nested : String) :
    ((engine.requestScene id request).nestedCall (block.selectionDraws (request.forBlock index))
        nested).DeeperBy 1
      (outermost nested (request.seeded (block.selectionSeed seed index))) where
  id := rfl
  locale := rfl
  derive := Draws.derive_eq_of_seed (seed_selectionDraws hseed index block) rfl
  filters _ := rfl
  components _ := rfl
  depth := rfl

theorem generate_of_not_contains (h : engine.recipes.contains id = false) :
    engine.generate id request = .error (.recipeNotFound id engine.recipes.keys) := by
  have hnone : engine.recipes.get? id = none := by simpa [NameMap.contains] using h
  simp [generate, generateWithin, composeCall, outermost, findRecipe, hnone]

section

variable (id : String) (index : Nat) (hmax : engine.maxDepth = some (limit + 1))
  (hseed : request.seed = some seed)
include hmax hseed

/-- A nested call is answered as a request of its own would be, up to the number of the limit. -/
theorem runWithin_nestedCall_alike (block : Block) (nested : String) :
    (engine.runWithin engine.refuse engine.nestingLimit
        ((engine.requestScene id request).nestedCall
          (block.selectionDraws (request.forBlock index)) nested)).mapError (·.forgetLimit)
      = (((engine.limitedTo limit).generate nested
          (request.seeded (block.selectionSeed seed index))).map (·.text)).mapError
            (·.forgetLimit) := by
  rw [← run_outermost, eq_limitedTo hmax]
  have hdeeper := nestedCall_deeperBy_outermost engine id index hseed block nested
  exact runWithin_alike (fun _ => rfl) (fun _ _ => rfl) hdeeper.restrictedAs (by simp) (by simp)

/-- A recipe that runs inside the recipe of a request comes to what the request for it comes to. -/
theorem runRecipe_alike_generate (block : Block) (nested : String) :
    ((engine.requestScene id request).runRecipe (block.selectionDraws (request.forBlock index))
        nested).mapError (·.forgetLimit)
      = (((engine.limitedTo limit).generate nested
          (request.seeded (block.selectionSeed seed index))).map fun composition =>
            .generated ⟨composition.text, request.locale, nested⟩).mapError (·.forgetLimit) := by
  have hrun := runWithin_nestedCall_alike id index hmax hseed block nested
  unfold requestScene at hrun ⊢
  rw [runRecipe_scene]
  -- a recipe that is not there is missed before anything is called
  cases hknown : engine.recipes.contains nested with
  | false =>
      have hknown' : (engine.limitedTo limit).recipes.contains nested = false := hknown
      rw [generate_of_not_contains hknown']
      rfl
  | true =>
      rw [if_pos rfl, mapError_map, hrun, mapError_map, mapError_map, except_map_map]
      rfl

end

/-- **Nested recipes run on their own.** Let an engine have a limit. A call that it allows comes to
what the request for it comes to, under the limit that is left at its depth. And in the run of a
request with a seed, a block that runs a recipe resolves to the text that the recipe has for the
seed of the place, under a limit lower by one. If the recipe fails, then so does what the block
comes to, with an error that is the same but for the number of the limit; that leaves the block
out, or it ends the run. -/
theorem nested_eq_generate (engine : Engine) (limit : Nat) (hmax : engine.maxDepth = some limit) :
    (∀ call, call.depth ≤ limit →
      (engine.run call).mapError (·.forgetLimit)
        = (((engine.limitedTo (limit - call.depth)).generate call.id call.request).map
            (·.text)).mapError (·.forgetLimit)) ∧
    (1 ≤ limit → ∀ id request seed recipe index progress block nested,
      request.seed = some seed → engine.findRecipe id = .ok recipe →
      (engine.requestScene id request).Reaches recipe.pattern index progress block →
      (engine.requestScene id request).passesOver block = false →
      (engine.requestScene id request).nested? (request.forBlock index) block = some nested →
      (∀ composition,
        (engine.limitedTo (limit - 1)).generate nested
            (request.seeded (block.selectionSeed seed index)) = .ok composition →
        (engine.requestScene id request).resolve progress.parts (request.forBlock index) block
          = .ok (some (.generated ⟨composition.text, request.locale, nested⟩))) ∧
      (∀ e,
        (engine.limitedTo (limit - 1)).generate nested
            (request.seeded (block.selectionSeed seed index)) = .error e →
        ∃ e', (engine.requestScene id request).attempt progress.parts (request.forBlock index) block
            = .error e' ∧ e'.forgetLimit = e.forgetLimit ∧
          ((engine.requestScene id request).resolve progress.parts (request.forBlock index) block
              = .ok none ∨
            engine.generate id request = .error (.inBlock index e')))) := by
  constructor
  · -- a call lies as many levels below its request as there are recipes around it
    intro call hdepth
    have hlimit : limit = limit - call.depth + call.depth := (Nat.sub_add_cancel hdepth).symm
    rw [← run_outermost, ← run_deeper (deeperBy_outermost call), ← hlimit, ← eq_limitedTo hmax]
  · -- a block of the outermost recipe lies one level below
    intro hpos id request seed recipe index progress block nested hseed hrecipe hreached
      hruns hnested
    have hlimit : engine.maxDepth = some (limit - 1 + 1) := by rw [hmax, Nat.sub_add_cancel hpos]
    have halike := runRecipe_alike_generate id index hlimit hseed block nested
    have hattempt : (engine.requestScene id request).attempt progress.parts
        (request.forBlock index) block = ((engine.requestScene id request).runRecipe
          (block.selectionDraws (request.forBlock index)) nested).map some :=
      Scene.attempt_of_nested hnested
    constructor
    · intro composition hcomposition
      rw [hcomposition] at halike
      rcases mapError_eq_cases halike with ⟨part, ha, hb⟩ | ⟨_, _, _, hb, _⟩
      · cases hb
        rw [ha] at hattempt
        exact Scene.resolve_of_attempt_eq_ok hattempt
      · cases hb
    · -- a failure is the same for the attempt; leaving out comes after it
      intro e he
      rw [he] at halike
      rcases mapError_eq_cases halike with ⟨_, _, hb⟩ | ⟨e', f, ha, hb, hef⟩
      · cases hb
      · cases hb
        rw [ha] at hattempt
        refine ⟨e', hattempt, hef, ?_⟩
        rcases Scene.resolve_eq_attempt_or (engine.requestScene id request) progress.parts
          (request.forBlock index) block with hsame | ⟨hnone, _⟩
        · refine .inr ?_
          rw [generate_of_findRecipe hrecipe]
          exact hreached.compose_eq_error hruns
            (Scene.step_of_resolve_eq_error (hsame.trans hattempt))
        · exact .inl hnone

end Engine

/-! ## A name in a letter

The letter runs the recipe of the name as its second block. -/

namespace Letter

def greeting : Block := .literal (.ofPairs [("en", "Dear")]) {}

def addressee : Block := .generate { source := .recipe, key := some "name" }

def letter : Recipe := ⟨"letter", [greeting, addressee]⟩

def engine : Engine where
  recipes := .ofPairs
    [("letter", letter), ("name", ⟨"name", [.literal (.ofPairs [("en", "Anna")]) {}]⟩)]
  maxDepth := some 1

def request : Request where
  locale := "en"
  seed := some "s"

/-- The letter before the name. -/
def greeted : Progress where
  tokens := ["Dear"]

theorem name_in_letter : engine.maxDepth = some 1 ∧
    engine.findRecipe "letter" = .ok letter ∧
    (engine.requestScene "letter" request).Reaches letter.pattern 1 greeted addressee ∧
    (engine.requestScene "letter" request).resolve .empty (request.forBlock 1) addressee
      = .ok (some (.generated ⟨"Anna", "en", "name"⟩)) ∧
    (engine.run { id := "name", locale := "en", depth := 1 }).mapError (·.forgetLimit)
      = (((engine.limitedTo 0).generate "name" { locale := "en" }).map (·.text)).mapError
          (·.forgetLimit) := by
  have hmax : engine.maxDepth = some 1 := rfl
  have hrecipe : engine.findRecipe "letter" = .ok letter := rfl
  have hreached : (engine.requestScene "letter" request).Reaches letter.pattern 1 greeted
      addressee := ⟨rfl, rfl⟩
  have hnested : (engine.requestScene "letter" request).nested? (request.forBlock 1) addressee
      = some "name" := rfl
  have halone : (engine.limitedTo (1 - 1)).generate "name"
      (request.seeded (addressee.selectionSeed "s" 1)) = .ok ⟨"Anna", .empty⟩ := rfl
  obtain ⟨hcall, hblock⟩ := Engine.nested_eq_generate engine 1 hmax
  obtain ⟨hresolves, _⟩ := hblock (Nat.le_refl 1) "letter" request "s" letter 1 greeted addressee
    "name" rfl hrecipe hreached rfl hnested
  exact ⟨hmax, hrecipe, hreached, hresolves _ halone, hcall _ (Nat.le_refl 1)⟩

end Letter

end TextRecipes
