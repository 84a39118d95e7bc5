import TextRecipes.Proofs.Composition.Skipping
import TextRecipes.Proofs.Nesting.CallPath

/-!
# Blocks that are switched off

A select or generate block that is optional and has a component key does not run while the switch of
this key is off. It is as if an empty text stood in its place (`runFrom_map_mute`), in the pattern
that is asked for and in those of nested recipes. So it makes no difference to a request what is in
the catalogs that only such blocks ask (`generate_restock`).

The selection inside a phrase does not belong to the pattern, and its component key is never asked
for (`advance_phrase_unswitched`).
-/

namespace TextRecipes

/-! ## Blocks with a switch -/

namespace Block

/-- Whether the switch of a component turns a block off. -/
def switchedBy (key : String) : Block → Bool
  | select block => block.options.isOptional && block.options.componentKey == some key
  | generate block => block.options.isOptional && block.options.componentKey == some key
  | _ => false

/-- The block, or an empty text if the switch of a component turns it off. -/
def mute (key : String) (block : Block) : Block :=
  if block.switchedBy key then .literal .empty {} else block

end Block

/-- The selection without its component key. -/
def SelectBlock.unswitched (block : SelectBlock) : SelectBlock :=
  { block with options := { block.options with componentKey := none } }

namespace Scene

variable {scene a b : Scene} {key : String} {block : Block} {pattern : Pattern}
  {allowed : Resource → Prop}

/-! ## Runs with a switch that is off -/

theorem switchedOff_of_key {options : BlockOptions}
    (hoff : scene.components.bind (·.get? key) = some false)
    (h : (options.isOptional && options.componentKey == some key) = true) :
    scene.switchedOff options = true := by
  obtain ⟨hoptional, hkey⟩ := Bool.and_eq_true_iff.mp h
  simp [switchedOff, hoptional, eq_of_beq hkey, hoff]

theorem passesOver_of_switchedBy (hoff : scene.components.bind (·.get? key) = some false)
    (h : block.switchedBy key = true) : scene.passesOver block = true := by
  cases block with
  | select block => exact switchedOff_of_key hoff h
  | generate block => exact switchedOff_of_key hoff h
  | literal _ _ => cases h
  | phrase _ _ => cases h
  | reference _ => cases h

/-- **A block that is switched off changes nothing**, whatever it would select. -/
theorem advance_of_switchedBy (hoff : scene.components.bind (·.get? key) = some false)
    (h : block.switchedBy key = true) (index : Nat) (progress : Progress) :
    scene.advance index progress block = .ok progress :=
  (Skips.switchedOff block (passesOver_of_switchedBy hoff h)).advance

theorem advance_mute (hoff : scene.components.bind (·.get? key) = some false) (index : Nat)
    (progress : Progress) (block : Block) :
    scene.advance index progress (block.mute key) = scene.advance index progress block := by
  unfold Block.mute
  split
  · next h => rw [advance_of_switchedBy hoff h, advance_emptyLiteral]
  · rfl

/-- **A run goes on as if nothing stood there.** -/
theorem runFrom_map_mute (hoff : scene.components.bind (·.get? key) = some false) (index : Nat)
    (progress : Progress) (pattern : Pattern) :
    scene.runFrom index progress (pattern.map (·.mute key))
      = scene.runFrom index progress pattern := by
  induction pattern generalizing index progress with
  | nil => rfl
  | cons block rest ih =>
      rw [List.map_cons, runFrom, runFrom, advance_mute hoff]
      cases scene.advance index progress block with
      | error e => rfl
      | ok after => exact ih (index + 1) after

theorem compose_map_mute (hoff : scene.components.bind (·.get? key) = some false)
    (pattern : Pattern) : scene.compose (pattern.map (·.mute key)) = scene.compose pattern := by
  rw [compose, compose, runFrom_map_mute hoff]

/-- The switch is not asked for inside a phrase. -/
theorem advance_phrase_unswitched (scene : Scene) (index : Nat) (progress : Progress)
    (preposition : String) (block : SelectBlock) :
    scene.advance index progress (.phrase preposition (.select block))
      = scene.advance index progress (.phrase preposition (.select block.unswitched)) :=
  rfl

/-! ## What blocks that are switched off would use -/

theorem usesOnly_mute
    (huses : block.switchedBy key = false → scene.UsesOnly allowed block) :
    scene.UsesOnly allowed (block.mute key) := by
  unfold Block.mute
  split
  · intro draws resource h
    cases resource <;> cases h
  · next h => exact huses (by simpa using h)

/-- The blocks of a pattern that a switch does not turn off find the same catalogs on both
scenes. -/
def StockedAlike (key : String) (pattern : Pattern) (a b : Scene) : Prop :=
  ∀ block ∈ pattern, block.switchedBy key = false →
    ∀ asked, block.catalogKey? = some asked → a.findCatalog asked = b.findCatalog asked

/-- A resource that is the same on both scenes, if it is a catalog. -/
def SameOnBoth (a b : Scene) (resource : Resource) : Prop :=
  ∀ asked, resource = .catalog asked → a.findCatalog asked = b.findCatalog asked

/-- **Scenes need not be alike for the blocks that are switched off.** -/
theorem compose_eq_of_stockedAlike (ha : a.components.bind (·.get? key) = some false)
    (hb : b.components.bind (·.get? key) = some false) (halike : Alike id (SameOnBoth a b) a b)
    (hstock : StockedAlike key pattern a b) : a.compose pattern = b.compose pattern := by
  -- with the blocks muted that are switched off, nothing asks for the catalogs in which the
  -- scenes differ
  rw [← compose_map_mute ha, ← compose_map_mute hb]
  have hmuted := halike.compose (fun _ _ => rfl) (pattern.map (·.mute key)) (by
    intro block hblock
    obtain ⟨block, hmem, rfl⟩ := List.mem_map.mp hblock
    refine usesOnly_mute fun hon draws resource huses asked hasked => ?_
    subst hasked
    exact hstock block hmem hon asked huses)
  rwa [mapError_id, mapError_id] at hmuted

/-- The scene with other catalogs. -/
def restock (scene : Scene) (catalogs : Catalogs)
    (packageCatalog : String → String → Option Catalog) : Scene :=
  { scene with
    catalogs := catalogs
    host := scene.host.map fun host => { host with packageCatalog := packageCatalog } }

theorem runRecipe_restock (scene : Scene) (catalogs : Catalogs)
    (packageCatalog : String → String → Option Catalog) (draws : Draws) (id : String) :
    (scene.restock catalogs packageCatalog).runRecipe draws id = scene.runRecipe draws id := by
  unfold runRecipe restock
  cases scene.host <;> rfl

/-- But for its catalogs, a scene stays as it is. -/
theorem restock_alike (scene : Scene) (catalogs : Catalogs)
    (packageCatalog : String → String → Option Catalog) :
    Alike id (SameOnBoth scene (scene.restock catalogs packageCatalog)) scene
      (scene.restock catalogs packageCatalog) where
  rules := rfl
  locale := rfl
  derive _ := rfl
  findCatalog key hsame := hsame key rfl
  narrow _ _ := rfl
  switchedOff _ := rfl
  collections := by
    unfold restock
    cases scene.host <;> rfl
  runRecipe draws id _ := by rw [runRecipe_restock]

end Scene

/-! ## Nested recipes -/

namespace Engine

variable {engine : Engine} {key : String} {catalogs : Catalogs} {packages : NameMap Catalogs}
  {run run' beyond : RecipeCall → Except ComposeError String} {call : RecipeCall} {levels : Nat}

/-- The engine with other catalogs. -/
def restock (engine : Engine) (catalogs : Catalogs) (packages : NameMap Catalogs) : Engine :=
  { engine with catalogs := catalogs, packages := packages }

/-- The blocks of all recipes that a switch does not turn off find the same catalogs in both
engines. -/
def StockedAlike (key : String) (engine engine' : Engine) : Prop :=
  ∀ id recipe, engine.findRecipe id = .ok recipe → ∀ call,
    Scene.StockedAlike key recipe.pattern (engine.callScene call) (engine'.callScene call)

section

variable (hruns : ∀ nested, nested.components = call.components → run nested = run' nested)
include hruns

/-- The scenes of a call look alike with other catalogs, if the recipes nested in it come to the
same. -/
theorem scene_restock_alike :
    Scene.Alike id (Scene.SameOnBoth (engine.scene run call)
        ((engine.restock catalogs packages).scene run' call))
      (engine.scene run call) ((engine.restock catalogs packages).scene run' call) where
  rules := rfl
  locale := rfl
  derive _ := rfl
  findCatalog key hsame := hsame key rfl
  narrow _ _ := rfl
  switchedOff _ := rfl
  collections := rfl
  runRecipe draws id _ := by
    have hnested : run ((engine.scene run call).nestedCall draws id)
        = run' (((engine.restock catalogs packages).scene run' call).nestedCall draws id) :=
      hruns _ rfl
    rw [runRecipe_scene, runRecipe_scene, hnested]
    rfl

theorem composeCall_restock (hstock : engine.StockedAlike key (engine.restock catalogs packages))
    (hoff : call.components.bind (·.get? key) = some false) :
    engine.composeCall run call = (engine.restock catalogs packages).composeCall run' call := by
  have hfind : (engine.restock catalogs packages).findRecipe call.id = engine.findRecipe call.id :=
    rfl
  unfold composeCall
  rw [hfind]
  cases hrecipe : engine.findRecipe call.id with
  | error e => rfl
  | ok recipe =>
      exact Scene.compose_eq_of_stockedAlike hoff hoff (scene_restock_alike hruns)
        (hstock call.id recipe hrecipe call)

end

/-- A call comes to the same with other catalogs. The switches are the same in all nested calls, so
the induction is on the levels that are left. -/
theorem runWithin_restock (hstock : engine.StockedAlike key (engine.restock catalogs packages))
    (hoff : call.components.bind (·.get? key) = some false) :
    engine.runWithin beyond levels call
      = (engine.restock catalogs packages).runWithin beyond levels call := by
  induction levels generalizing call with
  | zero => rfl
  | succ levels ih =>
      cases hdeep : engine.exceeds call with
      | true =>
          have hdeep' : (engine.restock catalogs packages).exceeds call = true := hdeep
          rw [runWithin_of_exceeds hdeep, runWithin_of_exceeds hdeep']
          rfl
      | false =>
          have hdeep' : (engine.restock catalogs packages).exceeds call = false := hdeep
          rw [runWithin_succ hdeep, runWithin_succ hdeep', composeCall_restock _ hstock hoff]
          -- a nested call has the switches of the call around it
          intro nested hcomponents
          exact ih (hcomponents ▸ hoff)

/-- **A request comes to the same**, whatever is in the catalogs that only blocks ask that it
switches off. -/
theorem generate_restock (hstock : engine.StockedAlike key (engine.restock catalogs packages))
    {request : Request} (hoff : request.components.get? key = some false) (id : String) :
    engine.generate id request = (engine.restock catalogs packages).generate id request := by
  refine composeCall_restock ?_ hstock hoff
  intro nested hcomponents
  have hnested : nested.components.bind (·.get? key) = some false := by
    rw [hcomponents]
    exact hoff
  exact runWithin_restock hstock hnested

/-- **A component that is switched off contributes nothing.** Where the switch of a key is off, a
select or generate block that is optional and has this key leaves the run as it is, and the run goes
on as if an empty text stood there. It makes no difference what is in the catalogs that only such
blocks ask, neither on the scene of one pattern nor in an engine, where recipes run inside each
other. The key of a selection inside a phrase counts for nothing. -/
theorem switched_off_irrelevant (key : String) :
    (∀ scene : Scene, scene.components.bind (·.get? key) = some false →
      (∀ block : Block, block.switchedBy key = true → ∀ index progress,
        scene.advance index progress block = .ok progress) ∧
      (∀ index progress (pattern : Pattern),
        scene.runFrom index progress pattern
          = scene.runFrom index progress (pattern.map (·.mute key))) ∧
      (∀ pattern : Pattern, scene.compose pattern = scene.compose (pattern.map (·.mute key))) ∧
      ∀ pattern catalogs packageCatalog,
        Scene.StockedAlike key pattern scene (scene.restock catalogs packageCatalog) →
          scene.compose pattern = (scene.restock catalogs packageCatalog).compose pattern) ∧
    (∀ (engine : Engine) (request : Request), request.components.get? key = some false →
      ∀ catalogs packages, engine.StockedAlike key (engine.restock catalogs packages) →
        ∀ id, engine.generate id request
          = (engine.restock catalogs packages).generate id request) ∧
    ∀ (scene : Scene) index progress preposition (block : SelectBlock),
      scene.advance index progress (.phrase preposition (.select block))
        = scene.advance index progress (.phrase preposition (.select block.unswitched)) := by
  refine ⟨?_, ?_, ?_⟩
  · intro scene hoff
    refine ⟨?_, ?_, ?_, ?_⟩
    · intro block hswitched index progress
      exact Scene.advance_of_switchedBy hoff hswitched index progress
    · intro index progress pattern
      exact (Scene.runFrom_map_mute hoff index progress pattern).symm
    · intro pattern
      exact (Scene.compose_map_mute hoff pattern).symm
    · intro pattern catalogs packageCatalog hstock
      exact Scene.compose_eq_of_stockedAlike hoff hoff (scene.restock_alike catalogs packageCatalog)
        hstock
  · intro engine request hoff catalogs packages hstock id
    exact generate_restock hstock hoff id
  · intro scene index progress preposition block
    exact scene.advance_phrase_unswitched index progress preposition block

end Engine

/-! ## A traveller without a place

The place is switched off, so the towns do not count, and neither do those in the recipe of the
guide. Behind a preposition the place is named all the same. -/

namespace Traveller

def ulm : Item := { text := .ofPairs [("en", "Ulm")] }

def anna : Item := { text := .ofPairs [("en", "Anna")] }

def place : SelectBlock where
  key := "towns"
  bindAs := some "Town"
  options := { isOptional := true, componentKey := some "place" }

def once : Block := .literal (.ofPairs [("en", "Once")]) {}

def guide : Recipe := ⟨"guide", [.select place, .select { key := "persons" }]⟩

def tale : Recipe :=
  ⟨"tale", [once, .select place, .generate { source := .recipe, key := some "guide" }]⟩

def engine : Engine where
  catalogs := .ofPairs [("persons", ⟨[anna]⟩), ("towns", ⟨[ulm]⟩)]
  recipes := .ofPairs [("guide", guide), ("tale", tale)]
  maxDepth := some 1

def request : Request where
  locale := "en"
  seed := some "s"
  components := .ofPairs [("place", false)]

/-- The same persons, and no towns. -/
def empty : Catalogs := .ofPairs [("persons", ⟨[anna]⟩), ("towns", ⟨[]⟩)]

theorem recipe_cases {id : String} {recipe : Recipe} (h : engine.findRecipe id = .ok recipe) :
    recipe = guide ∨ recipe = tale := by
  have hmem : (id, recipe) ∈ [("guide", guide), ("tale", tale)] :=
    Engine.mem_entries_of_findRecipe h
  simp only [List.mem_cons, List.not_mem_nil, or_false, Prod.mk.injEq] at hmem
  exact hmem.imp And.right And.right

/-- Nobody but the places asks for the towns. -/
theorem stockedAlike : engine.StockedAlike "place" (engine.restock empty .empty) := by
  intro id recipe hrecipe call block hblock hon asked hasked
  rcases recipe_cases hrecipe with rfl | rfl
  · simp only [guide, List.mem_cons, List.not_mem_nil, or_false] at hblock
    rcases hblock with rfl | rfl
    · cases hon
    · cases hasked
      rfl
  · simp only [tale, List.mem_cons, List.not_mem_nil, or_false] at hblock
    rcases hblock with rfl | rfl | rfl
    · cases hasked
    · cases hon
    · cases hasked

/-- The tale before the place. -/
def opened : Progress := { tokens := ["Once"] }

theorem tale_without_towns :
    request.components.get? "place" = some false ∧
    engine.StockedAlike "place" (engine.restock empty .empty) ∧
    (engine.generate "tale" request).map (·.text) = .ok "Once Anna" ∧
    engine.generate "tale" request = (engine.restock empty .empty).generate "tale" request ∧
    (engine.callScene (Engine.outermost "tale" request)).advance 1 opened (.select place)
      = .ok opened := by
  obtain ⟨hscene, hengine, _⟩ := Engine.switched_off_irrelevant "place"
  have hoff : request.components.get? "place" = some false := rfl
  obtain ⟨hadvance, _⟩ := hscene (engine.callScene (Engine.outermost "tale" request)) hoff
  exact ⟨hoff, stockedAlike, rfl, hengine engine request hoff empty .empty stockedAlike "tale",
    hadvance (.select place) rfl 1 opened⟩

def scene : Scene where
  catalogs := engine.catalogs
  rules := {}
  locale := "en"
  components := some (.ofPairs [("place", false)])

/-- Inside a phrase the place is resolved although it is switched off: it has a token and a binding,
and the towns decide what the run comes to. -/
theorem place_in_phrase :
    scene.components.bind (·.get? "place") = some false ∧
    scene.compose [once, .phrase "in" (.select place)]
      = .ok ⟨"Once in Ulm", ⟨[("Town", .item ulm)], by decide⟩⟩ ∧
    (scene.restock empty fun _ _ => none).compose [once, .phrase "in" (.select place)]
      = .ok ⟨"Once", .empty⟩ := by
  refine ⟨rfl, rfl, rfl⟩

end Traveller

end TextRecipes
