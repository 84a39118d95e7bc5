import TextRecipes.Proofs.Nesting.Independence
import TextRecipes.Proofs.Nesting.Limit

/-!
# What a request restricts

A request can narrow selections and turn components off, and it can say so in more words than it
needs: a filter that asks for nothing narrows nothing, and a switch that is on turns nothing off.
Two requests that restrict the same are one request to an engine (`only_restrictions_matter`), down
to the errors and to what happens in nested recipes.
-/

namespace TextRecipes

/-- Requests for the same text that turn off the same components and narrow every catalog in the
same way, where no filter is as good as one that asks for nothing. -/
structure Request.RestrictedAs (request request' : Request) : Prop where
  locale : request.locale = request'.locale
  seed : request.seed = request'.seed
  /-- Without a seed, chance draws the same for both. -/
  chance : request.seed = none → request.chance = request'.chance
  components : ∀ key, request.components.get? key = some false
    ↔ request'.components.get? key = some false
  filters : ∀ key, (request.filters.get? key).getD .all = (request'.filters.get? key).getD .all

namespace Request.RestrictedAs

variable {request request' : Request}

/-- Two requests with the same seed, and the same chance without one, draw alike further down. -/
theorem derive (h : request.RestrictedAs request') (step : String) :
    request.toDraws.derive step = request'.toDraws.derive step := by
  cases hseed : request.seed with
  | some seed => exact Draws.derive_eq_of_seed hseed (h.seed ▸ hseed) step
  | none =>
      have hchance := h.chance hseed
      have hsame : request.toDraws = request'.toDraws := by
        rw [Draws.mk.injEq]
        exact ⟨h.seed, hchance⟩
      rw [hsame]

/-- The calls of two requests have the same restrictions if the requests have. -/
theorem outermost (h : request.RestrictedAs request') (id : String) :
    (Engine.outermost id request).RestrictedAs 0 (Engine.outermost id request') :=
  { id := rfl
    locale := h.locale
    derive := h.derive
    filters := h.filters
    components := h.components
    depth := rfl }

end Request.RestrictedAs

namespace Engine

variable {engine : Engine} {limit : Nat} {request request' : Request}

/-- The scenes of two requests look alike if the requests restrict the same. -/
theorem requestScene_alike (hmax : engine.maxDepth = some limit)
    (h : request.RestrictedAs request') (name : String) :
    Scene.Alike id (fun _ => True) (engine.requestScene name request)
      (engine.requestScene name request') := by
  refine scene_alike (h.outermost name) ?_
  intro nested nested' hnested hdepth _ _
  have hlimit : limit ≤ engine.nestingLimit := Nat.le_of_eq (nestingLimit_eq hmax).symm
  -- the recipes inside are called with the same restrictions, one level below
  exact congrArg _ (runWithin_below_outermost hmax hlimit hlimit hnested hdepth)

/-- **Only what a request restricts matters.** An engine with a limit makes the same composition of
a recipe for two requests that restrict the same, or fails with the same error. On the way every
block makes the same step, and every recipe that is run inside comes to the same text or error. -/
theorem only_restrictions_matter (engine : Engine) (limit : Nat)
    (hmax : engine.maxDepth = some limit) (name : String) (request request' : Request)
    (h : request.RestrictedAs request') :
    engine.generate name request = engine.generate name request' ∧
    (∀ index progress block, (engine.requestScene name request).advance index progress block
      = (engine.requestScene name request').advance index progress block) ∧
    ∀ draws nested, (engine.requestScene name request).runRecipe draws nested
      = (engine.requestScene name request').runRecipe draws nested := by
  have halike := requestScene_alike hmax h name
  refine ⟨?_, ?_, ?_⟩
  · have hlevels : limit ≤ engine.nestingLimit := Nat.le_of_eq (nestingLimit_eq hmax).symm
    exact generateWithin_of_restrictedAs hmax hlevels (h.outermost name)
  · intro index progress block
    have hadvance := halike.advance (fun _ _ => rfl) index progress block fun _ _ _ => trivial
    -- the errors are compared as they are, limits included
    rwa [mapError_id, mapError_id] at hadvance
  · intro draws nested
    have hrun := halike.runRecipe draws nested trivial
    rwa [mapError_id, mapError_id] at hrun

end Engine

/-! ## Seats in front

The plain request asks for a seat in front and turns the speech off. The wordy one also turns the
music on and asks for guests of any sort. -/

namespace Banquet

def anna : Item := { text := .ofPairs [("en", "Anna")] }

def bench : Item := { text := .ofPairs [("en", "the bench")], tags := .ofList ["front"] }

def stool : Item := { text := .ofPairs [("en", "the stool")], tags := .ofList ["back"] }

def speech : Block :=
  .literal (.ofPairs [("en", "Dear guests!")])
    { isOptional := true, componentKey := some "speech" }

def engine : Engine where
  catalogs := .ofPairs [("guests", ⟨[anna]⟩), ("seats", ⟨[stool, bench]⟩)]
  recipes := .ofPairs
    [("banquet", ⟨"banquet", [speech, .generate { source := .recipe, key := some "guest" },
      .literal (.ofPairs [("en", "takes")]) {}, .select { key := "seats" }]⟩),
     ("guest", ⟨"guest", [.select { key := "guests" }]⟩)]
  maxDepth := some 1

def plain : Request where
  locale := "en"
  seed := some "s"
  filters := .ofPairs [("seats", .ofTags ["front"])]
  components := .ofPairs [("speech", false)]

def wordy : Request where
  locale := "en"
  seed := some "s"
  filters := .ofPairs [("guests", {}), ("seats", .ofTags ["front"])]
  components := .ofPairs [("music", true), ("speech", false)]

/-- The wordy request asks for all items and switches on what is on anyway. -/
theorem restrictedAs : wordy.RestrictedAs plain where
  locale := rfl
  seed := rfl
  chance _ := rfl
  components key := by
    have hwordy : wordy.components.get? key
        = [("music", true), ("speech", false)].lookup key := rfl
    have hplain : plain.components.get? key = [("speech", false)].lookup key := rfl
    rw [hwordy, hplain, Entries.lookup_cons]
    split_ifs with hmusic
    · subst hmusic
      decide
    · rfl
  filters key := by
    have hwordy : wordy.filters.get? key
        = [("guests", {}), ("seats", Clause.ofTags ["front"])].lookup key := rfl
    have hplain : plain.filters.get? key = [("seats", Clause.ofTags ["front"])].lookup key := rfl
    rw [hwordy, hplain, Entries.lookup_cons]
    split_ifs with hguests
    · subst hguests
      rfl
    · rfl

theorem wordy_as_plain : engine.maxDepth = some 1 ∧ wordy.RestrictedAs plain ∧
    (engine.generate "banquet" plain).map (·.text) = .ok "Anna takes the bench" ∧
    engine.generate "banquet" wordy = engine.generate "banquet" plain :=
  ⟨rfl, restrictedAs, rfl,
    (Engine.only_restrictions_matter engine 1 rfl "banquet" wordy plain restrictedAs).1⟩

end Banquet

end TextRecipes
