import Mathlib.Data.Finset.Card
import TextRecipes.Proofs.Nesting.CallPath

/-!
# Recipes that do not run in a circle

If every recipe is higher than those that its blocks may run (`Engine.Descends`), then no recipe
runs inside itself, and the runs around a recipe cannot be more than the height of the outermost.
A limit that is at least this height is never reached. So it cannot be told from any higher one or
from none at all, neither by an error nor by an optional block that is left out (`limit_invisible`).

An engine without a limit counts levels too. Heights can be as large as they like, but a recipe can
also be ranked by how many recipes are lower (`Engine.rank`), so as many levels as there are recipes
are enough.
-/

namespace TextRecipes

/-- The recipes that a block may run: the one that its key names, and those listed in the
collections that are visible from its package. -/
inductive Block.MayRun (collections : List Collection) : Block → String → Prop where
  | named (block : Block) (id : String) (hnamed : block.namedRecipe? = some id) :
      MayRun collections block id
  | listed (block : GenerateBlock) (package id : String) (collection : Collection)
      (hsource : block.source = .package package) (hmem : collection ∈ collections)
      (hvisible : collection.visibleFrom package = true) (hlisted : id ∈ collection.recipes) :
      MayRun collections (.generate block) id

namespace Engine

variable {engine : Engine} {height : String → Nat} {max max' : Option Nat} {levels levels' : Nat}
  {call call' : RecipeCall} {block : Block} {recipe : Recipe} {e : ComposeError}
  {run beyond beyond' : RecipeCall → Except ComposeError String}

/-- Every recipe is higher than the recipes of the engine that its blocks may run. -/
def Descends (engine : Engine) (height : String → Nat) : Prop :=
  ∀ id recipe, engine.findRecipe id = .ok recipe → ∀ block ∈ recipe.pattern, ∀ nested,
    block.MayRun engine.collections nested → engine.recipes.contains nested = true →
    height nested < height id

/-- A recipe that a block runs is named by it, or listed in a collection that it may draw from. -/
theorem mayRun_of_runs {id : String} (h : (engine.scene run call).Runs block id) :
    block.MayRun engine.collections id := by
  cases h with
  | named _ _ hnamed => exact .named _ _ hnamed
  | listed block package _ collection hsource hchosen hlisted =>
      obtain ⟨host, hhost, hmem, hvisible, _⟩ := Scene.chosen?_eq_some hchosen
      cases hhost
      exact .listed block package id collection hsource hmem hvisible hlisted

theorem Descends.lt_of_runs {id : String} (h : engine.Descends height)
    (hrecipe : engine.findRecipe call.id = .ok recipe) (hblock : block ∈ recipe.pattern)
    (hruns : (engine.scene run call).Runs block id) (hknown : engine.recipes.contains id = true) :
    height id < height call.id :=
  h call.id recipe hrecipe block hblock id (mayRun_of_runs hruns) hknown

/-! ## Ranks -/

/-- The height of a recipe, but no more than the number of recipes that are lower. -/
def rank (engine : Engine) (height : String → Nat) (id : String) : Nat :=
  min (height id) (engine.recipes.keys.toFinset.filter fun key => height key < height id).card

/-- There are at most as many lower recipes as there are heights below. -/
theorem rank_le_height (id : String) : engine.rank height id ≤ height id :=
  Nat.min_le_left _ _

theorem rank_le_size (id : String) : engine.rank height id ≤ engine.recipes.size := by
  calc engine.rank height id
      ≤ (engine.recipes.keys.toFinset.filter fun key => height key < height id).card :=
        Nat.min_le_right _ _
    _ ≤ engine.recipes.keys.toFinset.card := Finset.card_filter_le _ _
    _ ≤ engine.recipes.keys.length := List.toFinset_card_le _
    _ = engine.recipes.size := List.length_map _

/-- A lower recipe has a lower rank: the recipes below it are below the higher one too, and it is
one more. -/
theorem rank_lt {lower id : String} (hknown : engine.recipes.contains lower = true)
    (hlt : height lower < height id) : engine.rank height lower < engine.rank height id := by
  have hkey : lower ∈ engine.recipes.keys.toFinset :=
    List.mem_toFinset.mpr (NameMap.mem_keys_iff.mpr hknown)
  have hsubset : (engine.recipes.keys.toFinset.filter fun key => height key < height lower) ⊆
      engine.recipes.keys.toFinset.filter fun key => height key < height id := by
    intro key hmem
    obtain ⟨hmem, hbelow⟩ := Finset.mem_filter.mp hmem
    exact Finset.mem_filter.mpr ⟨hmem, hbelow.trans hlt⟩
  apply min_lt_min hlt
  apply Finset.card_lt_card
  apply (Finset.ssubset_iff_of_subset hsubset).mpr
  -- the lower recipe itself is counted for the other one only
  refine ⟨lower, Finset.mem_filter.mpr ⟨hkey, hlt⟩, ?_⟩
  intro hmem
  exact Nat.lt_irrefl _ (Finset.mem_filter.mp hmem).2

theorem Descends.rank (h : engine.Descends height) : engine.Descends (engine.rank height) := by
  intro id recipe hrecipe block hblock nested hruns hknown
  exact rank_lt hknown (h id recipe hrecipe block hblock nested hruns hknown)

/-! ## Limits that are never reached -/

/-- The engine with a limit, or with none. -/
def withLimit (engine : Engine) (max : Option Nat) : Engine := { engine with maxDepth := max }

/-- The engine without a limit. -/
def unlimited (engine : Engine) : Engine := engine.withLimit none

/-- Without a limit there is a level for every recipe. -/
theorem size_le_nestingLimit : engine.recipes.size ≤ engine.unlimited.nestingLimit := by
  have hnone : engine.unlimited.maxDepth = none := rfl
  have hsame : engine.unlimited.recipes = engine.recipes := rfl
  rw [nestingLimit, hnone, hsame, Option.getD_none]
  exact Nat.le_add_right _ _

/-- There is room for as many recipes below `depth` as `height` says: the limit is not reached, and
there are levels for all of them. -/
structure HasRoom (max : Option Nat) (levels height depth : Nat) : Prop where
  limit : ∀ limit, max = some limit → depth + height ≤ limit
  levels : height ≤ levels

/-- A recipe that runs inside another has room below it. -/
theorem HasRoom.below {height height' depth : Nat} (h : HasRoom max levels height depth)
    (hlt : height' < height) :
    ∃ fewer, levels = fewer + 1 ∧ HasRoom max fewer height' (depth + 1) := by
  have hlevels := h.levels
  obtain ⟨fewer, rfl⟩ := Nat.exists_eq_add_of_lt (Nat.zero_lt_of_lt (hlt.trans_le hlevels))
  refine ⟨fewer, by omega, ?_, by omega⟩
  intro limit hmax
  have hlimit := h.limit limit hmax
  omega

/-- Where there is room no call is refused. -/
theorem HasRoom.not_exceeds {height : Nat} (h : HasRoom max levels height call.depth) :
    (engine.withLimit max).exceeds call = false := by
  cases max with
  | none => rfl
  | some limit =>
      have hlimit := h.limit limit rfl
      show decide (limit < call.depth) = false
      simp only [decide_eq_false_iff_not]
      omega

theorem hasRoom_of_height_le {id : String} {limit : Nat} (h : height id ≤ limit) :
    HasRoom (some limit) limit (engine.rank height id) 0 := by
  have hrank : engine.rank height id ≤ limit := (rank_le_height id).trans h
  refine ⟨?_, hrank⟩
  intro limit' hmax
  cases hmax
  omega

theorem hasRoom_of_size_le {id : String} (h : engine.recipes.size ≤ levels) :
    HasRoom none levels (engine.rank height id) 0 := by
  refine ⟨?_, (rank_le_size id).trans h⟩
  intro limit hmax
  cases hmax

/-- **Room is all that a run needs.** Two calls at the same depth come to the same, whatever their
limits are and however many levels they have, if there is room for the height of their recipe. -/
theorem composeCall_of_room (hdescends : engine.Descends height)
    (h : call.RestrictedAs 0 call')
    (hroom : HasRoom max levels (height call.id) call.depth)
    (hroom' : HasRoom max' levels' (height call.id) call.depth) :
    (engine.composeCall ((engine.withLimit max).runWithin beyond levels) call).mapError id
      = (engine.composeCall ((engine.withLimit max').runWithin beyond' levels') call').mapError
          id := by
  induction hheight : height call.id using Nat.strongRecOn
    generalizing levels levels' call call' with
  | ind _ ih =>
      subst hheight
      -- what the blocks run is lower, so there is room for it one level further down
      refine composeCall_alike
        (fun resource => ∀ id, resource = .recipe id → engine.recipes.contains id = true →
          height id < height call.id) h ?_ ?_ (fun _ _ => rfl)
      · intro nested nested' hnested hdepth hlower hknown
        have hlt : height nested.id < height call.id := hnested.id ▸ hlower _ rfl hknown
        have hdepth' : nested.depth = call.depth + 1 := by rw [hnested.depth, hdepth, h.depth]
        obtain ⟨fewer, rfl, hbelow⟩ := hroom.below hlt
        obtain ⟨fewer', rfl, hbelow'⟩ := hroom'.below hlt
        rw [← hdepth'] at hbelow hbelow'
        have hsame : nested.depth = nested'.depth := hnested.depth
        rw [runWithin_succ hbelow.not_exceeds, runWithin_succ (hsame ▸ hbelow').not_exceeds,
          mapError_map, mapError_map]
        congr 1
        exact ih _ hlt hnested hbelow hbelow' rfl
      · intro recipe hrecipe block hblock draws resource huses id hid hknown
        subst hid
        exact hdescends.lt_of_runs hrecipe hblock (Scene.runs_of_nested? huses) hknown

/-- A request has one answer under all limits that leave room for its recipe. -/
theorem generateWithin_of_room {root : String} (hdescends : engine.Descends height)
    (hroom : HasRoom max levels (height root) 0) (hroom' : HasRoom max' levels' (height root) 0)
    (request : Request) :
    (engine.withLimit max).generateWithin beyond levels root request
      = (engine.withLimit max').generateWithin beyond' levels' root request := by
  have hcompose : ((engine.withLimit max).generateWithin beyond levels root request).mapError id
      = ((engine.withLimit max').generateWithin beyond' levels' root request).mapError id :=
    composeCall_of_room hdescends (.refl (outermost root request)) hroom hroom'
  rwa [mapError_id, mapError_id] at hcompose

/-- No path of blocks leads to a refusal where there is room. By induction on the path, since the
height goes down with every recipe on it. -/
theorem PathTo.not_tooDeep (h : engine.PathTo call e) (hdescends : engine.Descends height)
    (hroom : call.depth + height call.id ≤ engine.nestingLimit) (recipe : String) (depth : Nat) :
    e.innermost ≠ .tooDeep recipe depth := by
  induction h with
  | raised call _ index progress block cause _ _ hown _ =>
      exact ComposeError.innermost_of_isOwn (Scene.isOwn_of_canRaise hown) recipe depth
  | refused call _ index progress block id hrecipe hends hruns hknown hdeep =>
      have hlt := hdescends.lt_of_runs hrecipe hends.reached.mem hruns hknown
      omega
  | nested call _ index progress block id cause hrecipe hends hruns hknown _ ih =>
      have hlt := hdescends.lt_of_runs hrecipe hends.reached.mem hruns hknown
      apply ih
      show call.depth + 1 + height id ≤ engine.nestingLimit
      omega

theorem generate_not_tooDeep {id : String} (hdescends : engine.Descends height)
    (hroom : height id ≤ engine.nestingLimit) {request : Request}
    (h : engine.generate id request = .error e) (recipe : String) (depth : Nat) :
    e.innermost ≠ .tooDeep recipe depth := by
  rcases composeCall_eq_error h with ⟨rfl, _⟩ | ⟨hknown, _⟩
  · intro hinner
    cases hinner
  · have hpath : engine.PathTo (outermost id request) e := pathTo_of_composeCall hknown h
    exact hpath.not_tooDeep hdescends (by show 0 + height id ≤ _; omega) recipe depth

/-- **A limit cannot be seen on recipes that do not run in a circle.** If every recipe is higher
than those that its blocks may run, then an engine answers a request for a recipe in the same way
under all limits that are not below its height, and without a limit as well. No error is that of a
limit, and without one as many levels are enough as there are recipes, whatever lies below them and
however many are spare. -/
theorem limit_invisible (engine : Engine) (height : String → Nat)
    (hdescends : engine.Descends height) (id : String) (request : Request) :
    (∀ limit limit', height id ≤ limit → height id ≤ limit' →
      (engine.limitedTo limit).generate id request
        = (engine.limitedTo limit').generate id request) ∧
    (∀ limit, height id ≤ limit →
      (engine.limitedTo limit).generate id request = engine.unlimited.generate id request ∧
      ∀ e, (engine.limitedTo limit).generate id request = .error e →
        ∀ recipe depth, e.innermost ≠ .tooDeep recipe depth) ∧
    (∀ beyond levels, engine.recipes.size ≤ levels →
      engine.unlimited.generateWithin beyond levels id request
        = engine.unlimited.generate id request) ∧
    ∀ spare, (engine.unlimited.withSpareLevels spare).generate id request
      = engine.unlimited.generate id request := by
  have hspare : engine.recipes.size ≤ engine.unlimited.nestingLimit := size_le_nestingLimit
  have hunlimited : HasRoom none engine.unlimited.nestingLimit (engine.rank height id) 0 :=
    hasRoom_of_size_le hspare
  have henough : ∀ beyond levels, engine.recipes.size ≤ levels →
      engine.unlimited.generateWithin beyond levels id request
        = engine.unlimited.generate id request := fun _ _ hle =>
    generateWithin_of_room hdescends.rank (hasRoom_of_size_le hle) hunlimited request
  refine ⟨?_, ?_, henough, ?_⟩
  · intro limit limit' hle hle'
    exact generateWithin_of_room hdescends.rank (hasRoom_of_height_le hle)
      (hasRoom_of_height_le hle') request
  · intro limit hle
    constructor
    · exact generateWithin_of_room hdescends.rank (hasRoom_of_height_le hle) hunlimited request
    · intro e he recipe depth
      have hdescends' : (engine.limitedTo limit).Descends height := hdescends
      exact generate_not_tooDeep hdescends' hle he recipe depth
  · intro spare
    exact generate_withSpareLevels rfl (henough · _ (Nat.le_refl _)) (Nat.le_add_right _ _)

end Engine

/-! ## A chronicle

The date is optional, and its year is listed in a collection. Two recipes run around the year, so
under the limit 1 there is no date and no error, and from the limit 2 on there is always the same. -/

namespace Chronicle

def chronicle : Recipe :=
  ⟨"chronicle", [.literal (.ofPairs [("en", "Long ago")]) {},
    .generate { source := .recipe, key := some "date", options := { isOptional := true } }]⟩

def date : Recipe :=
  ⟨"date", [.literal (.ofPairs [("en", "in")]) {}, .generate { source := .package "eras" }]⟩

def year : Recipe := ⟨"year", [.literal (.ofPairs [("en", "1066")]) {}]⟩

def engine : Engine where
  recipes := .ofPairs [("chronicle", chronicle), ("date", date), ("year", year)]
  collections := [{ key := "years", package := some "eras", recipes := ["year"] }]

def request : Request where
  locale := "en"
  seed := some "s"

def height : String → Nat
  | "chronicle" => 2
  | "date" => 1
  | _ => 0

/-- The three recipes of the engine. -/
theorem recipe_cases {id : String} {recipe : Recipe} (h : engine.findRecipe id = .ok recipe) :
    (id = "chronicle" ∧ recipe = chronicle) ∨ (id = "date" ∧ recipe = date) ∨
      (id = "year" ∧ recipe = year) := by
  have hmem : (id, recipe) ∈ [("chronicle", chronicle), ("date", date), ("year", year)] :=
    Engine.mem_entries_of_findRecipe h
  simpa only [List.mem_cons, List.not_mem_nil, or_false, Prod.mk.injEq] using hmem

/-- The chronicle is above the date, and the date above the year. -/
theorem descends : engine.Descends height := by
  intro id recipe hrecipe block hblock nested hruns hknown
  rcases recipe_cases hrecipe with ⟨rfl, rfl⟩ | ⟨rfl, rfl⟩ | ⟨rfl, rfl⟩
  · -- the second block names the date
    simp only [chronicle, List.mem_cons, List.not_mem_nil, or_false] at hblock
    rcases hblock with rfl | rfl
    · cases hruns with
      | named _ _ hnamed => cases hnamed
    · cases hruns with
      | named _ _ hnamed =>
          cases hnamed
          decide
      | listed _ _ _ _ hsource => cases hsource
  · -- the second block lists the year
    simp only [date, List.mem_cons, List.not_mem_nil, or_false] at hblock
    rcases hblock with rfl | rfl
    · cases hruns with
      | named _ _ hnamed => cases hnamed
    · cases hruns with
      | named _ _ hnamed => cases hnamed
      | listed _ _ _ collection _ hmem _ hlisted =>
          cases List.mem_singleton.mp hmem
          cases List.mem_singleton.mp hlisted
          decide
  · simp only [year, List.mem_singleton] at hblock
    subst hblock
    cases hruns with
    | named _ _ hnamed => cases hnamed

theorem limit_two_invisible : engine.Descends height ∧
    ((engine.limitedTo 1).generate "chronicle" request).map (·.text) = .ok "Long ago" ∧
    (engine.unlimited.generate "chronicle" request).map (·.text) = .ok "Long ago in 1066" ∧
    ∀ limit, 2 ≤ limit → (engine.limitedTo limit).generate "chronicle" request
      = engine.unlimited.generate "chronicle" request := by
  have hlimits := (Engine.limit_invisible engine height descends "chronicle" request).2.1
  have htwo : height "chronicle" = 2 := rfl
  refine ⟨descends, rfl, ?_, ?_⟩
  · rw [← (hlimits 2 (Nat.le_of_eq htwo)).1]
    rfl
  · intro limit hle
    exact (hlimits limit (htwo ▸ hle)).1

end Chronicle

end TextRecipes
