import TextRecipes.Proofs.Nesting.CallPath
import TextRecipes.Proofs.Seeds

/-!
# The places where a run draws

A run draws where it selects an item from a catalog and where it chooses a recipe of a package, in
the recipe asked for or in one that runs inside it. The place of a draw is told by the blocks that
the nested recipes stand at, by the block of the draw itself, and by the number of the attempt
(`Place`). `Engine.DrawsAt` says that a run draws at a place.

The way to a place is the one that its seed is derived along (`DrawsAt.seed_eq`). Different places
have different ways, and so no seed is used at two of them, be it in one run or in two variants of
one request (`seed_tells_place`).
-/

namespace TextRecipes

/-! ## Places -/

/-- Where in a pattern a block selects. -/
structure Spot where
  index : Nat
  /-- Whether the selection stands inside a phrase. -/
  inPhrase : Bool
deriving DecidableEq

/-- Where in a run something is drawn. -/
@[ext]
structure Place where
  /-- The spot of the draw in its pattern, and before it those of the nested recipes on the way
  there, the outermost first. -/
  spots : List Spot
  attempt : Nat
deriving DecidableEq

/-- The spot of the selection that a block at `index` makes. -/
def Block.spot (index : Nat) : Block → Spot
  | phrase _ _ => ⟨index, true⟩
  | _ => ⟨index, false⟩

/-- The way to a spot of a pattern. -/
def Spot.way (spot : Spot) : List Seed.Step :=
  .block spot.index :: if spot.inPhrase then [.phrase] else []

/-- The way from a draw to one of its attempts. -/
def Seed.retryWay (attempt : Nat) : List Seed.Step :=
  if later : 0 < attempt then [.retry attempt later] else []

namespace Place

/-- The way to a place. -/
def way (place : Place) : List Seed.Step :=
  place.spots.flatMap Spot.way ++ Seed.retryWay place.attempt

/-- The place inside the recipe that stands at a spot. -/
def within (spot : Spot) (place : Place) : Place :=
  { place with spots := spot :: place.spots }

/-- The way to a place inside a recipe begins with the way to the recipe. -/
theorem way_within (spot : Spot) (place : Place) :
    (place.within spot).way = spot.way ++ place.way := by
  simp only [way, within, List.flatMap_cons, List.append_assoc]

variable {spots spots' : List Spot} {attempt attempt' : Nat} {place place' : Place}

/-- The number of an attempt can be read off its step. -/
theorem retryWay_inj (h : Seed.retryWay attempt = Seed.retryWay attempt') :
    attempt = attempt' := by
  unfold Seed.retryWay at h
  split at h <;> split at h
  · simpa using h
  · cases h
  · cases h
  · omega

/-- No way to a draw begins inside a phrase. -/
theorem head?_way_ne_phrase (spots : List Spot) (attempt : Nat) :
    (spots.flatMap Spot.way ++ Seed.retryWay attempt).head? ≠ some .phrase := by
  cases spots with
  | nil =>
      rw [List.flatMap_nil, List.nil_append, Seed.retryWay]
      split <;> simp
  | cons spot spots => simp [Spot.way]

/-- No attempt is a block. -/
theorem head?_retryWay_ne_block (attempt index : Nat) :
    (Seed.retryWay attempt).head? ≠ some (.block index) := by
  unfold Seed.retryWay
  split <;> simp

/-- **The way to a place tells the place.** After a block it goes on inside a phrase, or it goes on
with the next block or the attempt; so it is clear from the first step where a spot ends. -/
theorem spots_way_inj
    (h : spots.flatMap Spot.way ++ Seed.retryWay attempt
      = spots'.flatMap Spot.way ++ Seed.retryWay attempt') :
    spots = spots' ∧ attempt = attempt' := by
  induction spots generalizing spots' with
  | nil =>
      cases spots' with
      | nil => exact ⟨rfl, retryWay_inj h⟩
      | cons spot' spots' =>
          exact absurd (congrArg List.head? h) (head?_retryWay_ne_block attempt spot'.index)
  | cons spot spots ih =>
      cases spots' with
      | nil =>
          exact absurd (congrArg List.head? h.symm) (head?_retryWay_ne_block attempt' spot.index)
      | cons spot' spots' =>
          obtain ⟨index, inPhrase⟩ := spot
          obtain ⟨index', inPhrase'⟩ := spot'
          simp only [List.flatMap_cons, Spot.way, List.cons_append, List.append_assoc,
            List.cons.injEq, Seed.Step.block.injEq] at h
          obtain ⟨rfl, h⟩ := h
          cases inPhrase <;> cases inPhrase'
          · obtain ⟨rfl, rfl⟩ := ih h
            exact ⟨rfl, rfl⟩
          · exact absurd (congrArg List.head? h) (head?_way_ne_phrase spots attempt)
          · exact absurd (congrArg List.head? h.symm) (head?_way_ne_phrase spots' attempt')
          · obtain ⟨rfl, rfl⟩ := ih (List.cons.inj h).2
            exact ⟨rfl, rfl⟩

theorem way_inj : place.way = place'.way ↔ place = place' := by
  constructor
  · intro h
    obtain ⟨hspots, hattempt⟩ := spots_way_inj h
    exact Place.ext hspots hattempt
  · rintro rfl
    rfl

end Place

/-! ## Draws of a selection -/

namespace Selection

variable {items : List Item} {request : SelectionRequest} {c : Candidate}

/-- A selection makes its draw number `attempt`. With nothing excluded there is one draw. Otherwise
none is made if all candidates are excluded, and else one after the other as long as they give what
is excluded and attempts are left. -/
inductive Makes (items : List Item) (request : SelectionRequest) : Nat → Prop where
  | only (h : candidates request.clause items ≠ []) (hnone : request.excluded = []) :
      Makes items request 0
  | repeated (h : candidates request.clause items ≠ []) (hsome : request.excluded ≠ [])
      (hfresh : ∃ c ∈ candidates request.clause items, c.1.identity ∉ request.excluded)
      (attempt : Nat) (hleft : attempt < request.attempts)
      (hearlier : ∀ n < attempt,
        (attempted _ h request.toDraws n).1.identity ∈ request.excluded) :
      Makes items request attempt

/-- What is selected was drawn. -/
theorem makes_of_select_eq_ok (h : select items request = .ok c) :
    ∃ attempt hne, Makes items request attempt ∧
      c = draw (candidates request.clause items) hne (request.toDraws.forRetry attempt) := by
  cases select_eq_iff.mp h with
  | drawn hne hnone => exact ⟨0, hne, .only hne hnone, rfl⟩
  | settled hne hsome n hsettles =>
      have hfresh : ∃ c ∈ candidates request.clause items, c.1.identity ∉ request.excluded :=
        ⟨_, draw_mem _ hne _, hsettles.fresh⟩
      exact ⟨n, hne, .repeated hne hsome hfresh n hsettles.made hsettles.earlier, rfl⟩

end Selection

/-! ## Draws of a pattern -/

namespace Scene

variable {scene : Scene} {pattern : Pattern} {catalog : Catalog} {parts : Parts}
  {request : CatalogRequest} {clause : Clause} {draws draws' : Draws} {spot : Spot}
  {index attempt : Nat} {progress : Progress} {block : Block}

/-- What is asked of the catalog when a request is decided by `clause`. -/
def selection (request : CatalogRequest) (parts : Parts) (clause : Clause) (draws : Draws) :
    SelectionRequest where
  clause := clause
  excluded := boundIdentities parts request.distinctFrom
  toDraws := draws

/-- The run of a pattern makes the draw number `attempt` at a spot, by `draws`. -/
inductive DrawsAt (scene : Scene) (pattern : Pattern) : Spot → Nat → Draws → Prop where
  /-- A block selects an item. -/
  | item (index : Nat) (progress : Progress) (block : Block) (request : CatalogRequest)
      (catalog : Catalog) (clause : Clause) (draws : Draws) (attempt : Nat)
      (hreached : scene.Reaches pattern index progress block)
      (hruns : scene.passesOver block = false) (hrequest : scene.request? block = some request)
      (hfound : scene.findCatalog request.key = .ok catalog)
      (hdrawn : scene.DrawnBy catalog progress.parts
        (block.selectionDraws (scene.forBlock index)) request clause draws)
      (hmakes : Selection.Makes catalog.items (selection request progress.parts clause draws)
        attempt) :
      DrawsAt scene pattern (block.spot index) attempt (draws.forRetry attempt)
  /-- A block chooses a recipe of a package. -/
  | recipe (index : Nat) (progress : Progress) (block : GenerateBlock) (package : String)
      (collection : Collection)
      (hreached : scene.Reaches pattern index progress (.generate block))
      (hruns : scene.passesOver (.generate block) = false)
      (hsource : block.source = .package package)
      (hchosen : scene.chosen? package block.collection = some collection) :
      DrawsAt scene pattern ((Block.generate block).spot index) 0 (scene.forBlock index)

theorem pick_eq_item {item : Item}
    (h : pick catalog request parts draws clause = .ok (.item item)) :
    ∃ c, Selection.select catalog.items (selection request parts clause draws) = .ok c ∧
      c.1 = item := by
  unfold pick at h
  split at h
  · next c hselect =>
      cases h
      exact ⟨c, hselect, rfl⟩
  · cases h

/-- **An item that a block comes to was drawn**, at the spot of the block. -/
theorem exists_drawsAt_of_attempt {item : Item}
    (hreached : scene.Reaches pattern index progress block)
    (hruns : scene.passesOver block = false)
    (h : scene.attempt progress.parts (scene.forBlock index) block = .ok (some (.item item))) :
    ∃ attempt draws cs hne, scene.DrawsAt pattern (block.spot index) attempt draws ∧
      item = (Selection.draw cs hne draws).1 := by
  obtain ⟨request, hrequest, hselect⟩ := request_of_attempt_eq_some (attempt_eq_item h) h
  obtain ⟨catalog, clause, draws, hfound, hdrawn, hpick⟩ := selectFromCatalog_eq_some hselect
  obtain ⟨c, hselected, rfl⟩ := pick_eq_item hpick
  obtain ⟨attempt, hne, hmakes, rfl⟩ := Selection.makes_of_select_eq_ok hselected
  exact ⟨attempt, _, _, hne, .item index progress block request catalog clause draws attempt
    hreached hruns hrequest hfound hdrawn hmakes, rfl⟩

theorem DrawnBy.seed_eq (h : scene.DrawnBy catalog parts draws request clause draws') :
    draws'.seed = draws.seed := by
  cases h <;> rfl

/-- An attempt has the seed that its step leads to. -/
theorem seed_forRetry_eq_along (draws : Draws) (attempt : Nat) :
    (draws.forRetry attempt).seed = Seed.along draws.seed (Seed.retryWay attempt) := by
  rw [Draws.seed_forRetry, Seed.retryWay]
  split
  · rfl
  · next hfirst => exact if_pos (Nat.eq_zero_of_not_pos hfirst)

/-- A block's selection has the seed that the way to its spot leads to. -/
theorem seed_selectionDraws_eq_along (draws : Draws) (index : Nat) (block : Block) :
    (block.selectionDraws (draws.forBlock index)).seed
      = Seed.along draws.seed (block.spot index).way := by
  cases block <;> rfl

/-- A spot's draws have the seed that the way to the spot leads to. -/
theorem DrawsAt.seed_eq (h : scene.DrawsAt pattern spot attempt draws) :
    draws.seed = Seed.along scene.seed (spot.way ++ Seed.retryWay attempt) := by
  cases h with
  | item index progress block request catalog clause draws attempt _ _ _ _ hdrawn _ =>
      rw [seed_forRetry_eq_along, hdrawn.seed_eq, seed_selectionDraws_eq_along, Seed.along_append]
  | recipe => rfl

end Scene

/-! ## Draws of a run -/

namespace Engine

variable {engine : Engine} {call : RecipeCall} {place place' : Place} {draws draws' : Draws}

/-- The run of a call draws at a place, by `draws`. -/
inductive DrawsAt (engine : Engine) : RecipeCall → Place → Draws → Prop where
  /-- In the recipe of the call. -/
  | here (call : RecipeCall) (recipe : Recipe) (spot : Spot) (attempt : Nat) (draws : Draws)
      (hrecipe : engine.findRecipe call.id = .ok recipe)
      (hdraws : (engine.callScene call).DrawsAt recipe.pattern spot attempt draws) :
      DrawsAt engine call ⟨[spot], attempt⟩ draws
  /-- In a recipe that runs inside it. -/
  | nested (call : RecipeCall) (recipe : Recipe) (index : Nat) (progress : Progress)
      (block : Block) (id : String) (place : Place) (draws : Draws)
      (hrecipe : engine.findRecipe call.id = .ok recipe)
      (hreached : (engine.callScene call).Reaches recipe.pattern index progress block)
      (hruns : (engine.callScene call).passesOver block = false)
      (hnested : (engine.callScene call).nested? (call.forBlock index) block = some id)
      (hallowed : call.depth < engine.nestingLimit)
      (hbelow : DrawsAt engine ((engine.callScene call).nestedCall
        (block.selectionDraws (call.forBlock index)) id) place draws) :
      DrawsAt engine call (place.within (block.spot index)) draws

/-- **The seed of a draw is the one that the way to its place leads to.** -/
theorem DrawsAt.seed_eq (h : engine.DrawsAt call place draws) :
    draws.seed = Seed.along call.seed place.way := by
  induction h with
  | here call recipe spot attempt draws _ hdraws =>
      rw [hdraws.seed_eq, Place.way, List.flatMap_singleton]
      rfl
  | nested call recipe index progress block id place draws _ _ _ _ _ _ ih =>
      rw [ih, Place.way_within, Seed.along_append]
      exact congrArg (Seed.along · place.way)
        (Scene.seed_selectionDraws_eq_along call.toDraws index block)

/-- A variant's draws have the seed that the way through the variant leads to. -/
theorem seed_eq_of_variant {id : String} {request : Request} {index : Nat}
    (h : engine.DrawsAt (outermost id (request.variant index)) place draws) :
    draws.seed = Seed.along request.seed (.variant index :: place.way) :=
  h.seed_eq

/-- **A seed tells the place that it is used at.** Different steps from one seed, however many, lead
to different seeds, and none leads back. So a run that is seeded uses no seed at two places: not in
one pattern, not in the recipes that run inside each other, and not in two variants of a request.
Every item that a block comes to was drawn at a place. -/
theorem seed_tells_place :
    (∀ (s : String) (way way' : List Seed.Step),
      way ≠ way' → Seed.along (some s) way ≠ Seed.along (some s) way') ∧
    (∀ (s : String) (way : List Seed.Step), way ≠ [] → Seed.along (some s) way ≠ some s) ∧
    (∀ (scene : Scene) (s : String), scene.seed = some s → ∀ pattern spot spot' attempt attempt'
      draws draws', scene.DrawsAt pattern spot attempt draws →
        scene.DrawsAt pattern spot' attempt' draws' → draws.seed = draws'.seed →
          spot = spot' ∧ attempt = attempt') ∧
    (∀ (scene : Scene) pattern index progress block item,
      scene.Reaches pattern index progress block → scene.passesOver block = false →
      scene.attempt progress.parts (scene.forBlock index) block = .ok (some (.item item)) →
        ∃ attempt draws cs hne, scene.DrawsAt pattern (block.spot index) attempt draws ∧
          item = (Selection.draw cs hne draws).1) ∧
    ∀ (engine : Engine) (id : String) (request : Request) (s : String), request.seed = some s →
      (∀ place draws, engine.DrawsAt (outermost id request) place draws →
        draws.seed = Seed.along (some s) place.way) ∧
      (∀ place place' draws draws', engine.DrawsAt (outermost id request) place draws →
        engine.DrawsAt (outermost id request) place' draws' → draws.seed = draws'.seed →
          place = place') ∧
      (∀ index index', (request.variant index).seed = (request.variant index').seed →
        index = index') ∧
      ∀ index index' place place' draws draws',
        engine.DrawsAt (outermost id (request.variant index)) place draws →
        engine.DrawsAt (outermost id (request.variant index')) place' draws' →
        draws.seed = draws'.seed → index = index' ∧ place = place' := by
  refine ⟨?_, ?_, ?_, fun scene _ _ _ _ _ => scene.exists_drawsAt_of_attempt, ?_⟩
  · intro s way way' hne heq
    exact hne (Seed.along_inj.mp heq)
  · intro s way hne heq
    exact hne (Seed.along_eq_self.mp heq)
  · intro scene s hseed pattern spot spot' attempt attempt' draws draws' h h' heq
    rw [h.seed_eq, h'.seed_eq, hseed] at heq
    have hway := Seed.along_inj.mp heq
    rw [← List.flatMap_singleton Spot.way spot, ← List.flatMap_singleton Spot.way spot'] at hway
    obtain ⟨hspots, hattempt⟩ := Place.spots_way_inj hway
    exact ⟨(List.cons.inj hspots).1, hattempt⟩
  · intro engine id request s hseed
    refine ⟨?_, ?_, ?_, ?_⟩
    · intro place draws h
      rw [h.seed_eq, ← hseed]
      rfl
    · intro place place' draws draws' h h' heq
      rw [h.seed_eq, h'.seed_eq] at heq
      have hroot : (outermost id request).seed = some s := hseed
      rw [hroot] at heq
      exact Place.way_inj.mp (Seed.along_inj.mp heq)
    · intro index index' heq
      have hway : Seed.along request.seed [.variant index]
          = Seed.along request.seed [.variant index'] := heq
      rw [hseed] at hway
      simpa using Seed.along_inj.mp hway
    · intro index index' place place' draws draws' h h' heq
      rw [seed_eq_of_variant h, seed_eq_of_variant h', hseed] at heq
      obtain ⟨hindex, hplace⟩ := List.cons.inj (Seed.along_inj.mp heq)
      exact ⟨by simpa using hindex, Place.way_inj.mp hplace⟩

end Engine

/-! ## A voyage

A ship sails from Ulm to another town, and its name is a recipe of its own. Nine of ten travellers
go to Ulm, so Ulm is drawn for the other town as well, and the draw is made again. -/

namespace Voyage

def ulm : Item := { text := .ofPairs [("en", "Ulm")], weight := 9 }

def bonn : Item := { text := .ofPairs [("en", "Bonn")] }

def departure : SelectBlock := { key := "home", bindAs := some "Home" }

def name : SelectBlock := { key := "names" }

def ship : Block := .generate { source := .recipe, key := some "ship" }

def arrival : SelectBlock := { key := "towns", distinctFrom := ["Home"] }

def voyage : Recipe :=
  ⟨"voyage",
    [.select departure, ship, .phrase "to" (.select arrival)]⟩

def engine : Engine where
  catalogs := .ofPairs [("home", ⟨[ulm]⟩), ("names", ⟨[bonn]⟩), ("towns", ⟨[ulm, bonn]⟩)]
  recipes := .ofPairs [("voyage", voyage), ("ship", ⟨"ship", [.select name]⟩)]
  maxDepth := some 1

def request : Request where
  locale := "en"
  seed := some "s"

def call : RecipeCall := Engine.outermost "voyage" request

/-- The voyage before its ship. -/
def home : Progress where
  tokens := ["Ulm"]
  parts := ⟨[("Home", .item ulm)], by decide⟩

/-- The draw for the name of the ship. -/
def nameDraws : Draws := ((call.forBlock 1).forBlock 0).forRetry 0

theorem drawsAt_name : engine.DrawsAt call ⟨[⟨1, false⟩, ⟨0, false⟩], 0⟩ nameDraws :=
  .nested call voyage 1 home ship "ship" ⟨[⟨0, false⟩], 0⟩ _ rfl ⟨rfl, rfl⟩ rfl rfl (by decide)
    (.here _ _ ⟨0, false⟩ 0 _ rfl
      (.item 0 {} (.select name) name.request ⟨[bonn]⟩ {} _ 0
        ⟨rfl, rfl⟩ rfl rfl rfl (.plain rfl) (.only (List.cons_ne_nil _ _) rfl)))

/-- The voyage before its arrival. -/
def sailing : Progress := { home with tokens := ["Ulm", "Bonn"] }

/-- What is asked of the towns. -/
def asked : SelectionRequest :=
  Scene.selection arrival.request sailing.parts {} (call.forBlock 2).forPhrase

/-- The first draw gives what the ship comes from. -/
theorem ulm_first :
    (Selection.attempted [(ulm, 0), (bonn, 1)] (by simp) asked.toDraws 0).1.identity
      ∈ asked.excluded := by decide +kernel

/-- The first draw among the towns gives Ulm, so there is a second. -/
theorem makes_one : Selection.Makes [ulm, bonn] asked 1 := by
  have hsome : Selection.candidates asked.clause [ulm, bonn] ≠ [] := List.cons_ne_nil _ _
  have hfresh : ∃ c ∈ Selection.candidates asked.clause [ulm, bonn],
      c.1.identity ∉ asked.excluded :=
    ⟨(bonn, 1), List.mem_cons_of_mem _ List.mem_cons_self, by decide +kernel⟩
  refine .repeated hsome (List.cons_ne_nil _ _) hfresh 1 (by decide) fun n hn => ?_
  obtain rfl : n = 0 := Nat.lt_one_iff.mp hn
  exact ulm_first

/-- The second draw for the town that the ship sails to. -/
def arrivalDraws : Draws := (call.forBlock 2).forPhrase.forRetry 1

theorem drawsAt_arrival : engine.DrawsAt call ⟨[⟨2, true⟩], 1⟩ arrivalDraws :=
  .here call voyage ⟨2, true⟩ 1 _ rfl
    (.item 2 sailing (.phrase "to" (.select arrival)) arrival.request ⟨[ulm, bonn]⟩ {} _ 1
      ⟨rfl, rfl⟩ rfl rfl rfl (.plain rfl) makes_one)

/-- The name of the ship is drawn one recipe further in, and the town at the second attempt inside a
phrase. The seed of the latter is used nowhere else in the voyage. -/
theorem places_of_voyage :
    engine.DrawsAt call ⟨[⟨1, false⟩, ⟨0, false⟩], 0⟩ nameDraws ∧
    nameDraws.seed = some "s:b1:b0" ∧
    engine.DrawsAt call ⟨[⟨2, true⟩], 1⟩ arrivalDraws ∧
    arrivalDraws.seed = some "s:b2:pp:retry1" ∧
    (∀ place draws, engine.DrawsAt call place draws → draws.seed = some "s:b2:pp:retry1" →
      place = ⟨[⟨2, true⟩], 1⟩) ∧
    (∃ attempt draws cs hne,
      (engine.callScene call).DrawsAt voyage.pattern ⟨0, false⟩ attempt draws ∧
        ulm = (Selection.draw cs hne draws).1) ∧
    ∀ place draws, engine.DrawsAt (Engine.outermost "voyage" (request.variant 1)) place draws →
      draws.seed = Seed.along (some "s:v1") place.way := by
  obtain ⟨_, _, _, hdrawn, hengine⟩ := Engine.seed_tells_place
  obtain ⟨_, hplace, _, _⟩ := hengine engine "voyage" request "s" rfl
  obtain ⟨hway, _⟩ := hengine engine "voyage" (request.variant 1) "s:v1" rfl
  exact ⟨drawsAt_name, rfl, drawsAt_arrival, rfl,
    fun place draws h hseed => hplace _ _ _ _ h drawsAt_arrival hseed,
    hdrawn (engine.callScene call) voyage.pattern 0 {} (.select departure) ulm ⟨rfl, rfl⟩ rfl rfl,
    hway⟩

end Voyage

end TextRecipes
