import TextRecipes.Proofs.Collections
import TextRecipes.Proofs.Composition.Failing

/-!
# Drawing a recipe from a package

A block that generates from a package chooses a collection among those that the package sees, and
draws one of its recipes. A collection is chosen only if it lists recipes (`Chooses`), so there is
always one to draw; otherwise it is one of three failures, each with the keys that could have been
asked for (`NoChoice`). What is drawn may still be a recipe that nobody knows, the fourth way to
fail (`PackageFails`).

* `chooses_or_noChoice`: a collection is chosen, or there is a reason why none is.
* `chooseCollection_eq_ok_iff`, `chooseCollection_eq_error_iff`: the choice among collections.
* `exists_drawn`: a collection that is chosen has a recipe to draw.
* `package_recipe_drawn`: what comes of a package, and that its failures end the run.
-/

namespace TextRecipes

/-- The collections that a package sees: its own and those without a package, in their order. -/
def Host.visible (host : Host) (package : String) : List Collection :=
  host.collections.filter fun c => c.package = none ∨ c.package = some package

/-- With a name, the first collection of this name is chosen, if it lists recipes; without a name,
the first that lists recipes. -/
inductive Chooses (visible : List Collection) : Option String → Collection → Prop
  | named {name : String} {chosen : Collection} (hfirst : FirstNamed name visible chosen)
      (hrecipes : chosen.recipes ≠ []) : Chooses visible (some name) chosen
  | unnamed {before after : List Collection} {chosen : Collection}
      (hsplit : visible = before ++ chosen :: after) (hbefore : ∀ c ∈ before, c.recipes = [])
      (hrecipes : chosen.recipes ≠ []) : Chooses visible none chosen

/-- No collection is chosen: none has the name, or the first that has it lists no recipes, or there
is no name and none lists any. -/
inductive NoChoice (package : String) (visible : List Collection) :
    Option String → ComposeError → Prop
  | unknown {name : String} (h : ∀ c ∈ visible, c.key ≠ name) :
      NoChoice package visible (some name)
        (.collectionNotFound (package ++ "/" ++ name) (visible.map (·.key)))
  | withoutRecipes {name : String} {first : Collection} (hfirst : FirstNamed name visible first)
      (hnone : first.recipes = []) :
      NoChoice package visible (some name)
        (.collectionWithoutRecipes (package ++ "/" ++ name)
          ((visible.filter fun c => c.recipes ≠ []).map (·.key)))
  | unnamed (h : ∀ c ∈ visible, c.recipes = []) :
      NoChoice package visible none
        (.collectionNotFound (package ++ "/*") (visible.map (·.key)))

/-- A recipe is drawn from the collection that is chosen. -/
structure Draws.Drawn (draws : Draws) (visible : List Collection) (name : Option String)
    (chosen : Collection) (id : String) : Prop where
  chooses : Chooses visible name chosen
  place : chosen.recipes[draws.index chosen.recipes.length]? = some id

/-- A package fails if no collection is chosen, or if the recipe that is drawn is not there. -/
inductive Host.PackageFails (host : Host) (draws : Draws) (package : String)
    (name : Option String) : ComposeError → Prop
  | noChoice {e : ComposeError} (h : NoChoice package (host.visible package) name e) :
      PackageFails host draws package name e
  | unknownRecipe {chosen : Collection} {id : String}
      (hdrawn : draws.Drawn (host.visible package) name chosen id)
      (hunknown : host.knows id = false) :
      PackageFails host draws package name (.recipeNotFound id host.recipeIds)

/-! ## Choosing a collection -/

variable {visible : List Collection} {name : Option String} {chosen : Collection}

theorem Collection.visibleFrom_eq_true {c : Collection} {package : String} :
    c.visibleFrom package = true ↔ c.package = none ∨ c.package = some package := by
  unfold visibleFrom
  cases c.package with
  | none => simp
  | some p => simp

/-- What a package sees are the collections without a package and its own. -/
theorem Host.visible_eq (host : Host) (package : String) :
    host.visible package = host.collections.filter (·.visibleFrom package) :=
  List.filter_congr fun _ _ =>
    Bool.eq_iff_iff.mpr (decide_eq_true_iff.trans Collection.visibleFrom_eq_true.symm)

theorem Collection.hasRecipes_eq_true {c : Collection} :
    c.hasRecipes = true ↔ c.recipes ≠ [] := by
  simp [hasRecipes]

/-- A search by name finds the first of that name. -/
theorem find?_key_eq_some {key : String} :
    visible.find? (·.key == key) = some chosen ↔ FirstNamed key visible chosen := by
  constructor
  · intro h
    obtain ⟨hkey, before, after, hsplit, hbefore⟩ := List.find?_eq_some_iff_append.mp h
    exact ⟨before, after, hsplit, eq_of_beq hkey, fun c hc => by simpa using hbefore c hc⟩
  · exact FirstNamed.find?

namespace Scene

theorem collectionKeys_hasRecipes (visible : List Collection) :
    collectionKeys (visible.filter (·.hasRecipes))
      = (visible.filter fun c => c.recipes ≠ []).map (·.key) :=
  congrArg collectionKeys
    (List.filter_congr fun _ _ =>
      Bool.eq_iff_iff.mpr (Collection.hasRecipes_eq_true.trans decide_eq_true_iff.symm))

/-- The collection that is to be chosen is chosen. -/
theorem chooseCollection_of_chooses {package : String} (h : Chooses visible name chosen) :
    chooseCollection package name visible = .ok chosen := by
  cases h with
  | named hfirst hrecipes =>
      rw [chooseCollection_of_firstNamed package hfirst,
        if_pos (Collection.hasRecipes_eq_true.mpr hrecipes)]
  | unnamed hsplit hbefore hrecipes =>
      have hfind : visible.find? (·.hasRecipes) = some chosen := by
        refine List.find?_eq_some_iff_append.mpr
          ⟨Collection.hasRecipes_eq_true.mpr hrecipes, _, _, hsplit, fun c hc => ?_⟩
        simp [Collection.hasRecipes, hbefore c hc]
      simp only [chooseCollection, hfind]

/-- Where none is to be chosen, the failure is the one that says why. -/
theorem chooseCollection_of_noChoice {package : String} {e : ComposeError}
    (h : NoChoice package visible name e) :
    chooseCollection package name visible = .error e := by
  cases h with
  | unknown h =>
      have hfind : visible.find? (·.key == _) = none :=
        List.find?_eq_none.mpr fun c hc => by simpa using h c hc
      simp only [chooseCollection, hfind, collectionKeys]
  | withoutRecipes hfirst hnone =>
      have hrecipes : ¬ _ = true := fun h => Collection.hasRecipes_eq_true.mp h hnone
      rw [chooseCollection_of_firstNamed package hfirst, if_neg hrecipes,
        collectionKeys_hasRecipes]
  | unnamed h =>
      have hfind : visible.find? (·.hasRecipes) = none :=
        List.find?_eq_none.mpr fun c hc => by simp [Collection.hasRecipes, h c hc]
      simp only [chooseCollection, hfind, collectionKeys]

/-- **There is a choice or a reason why there is none**, whatever the package sees. -/
theorem chooses_or_noChoice (package : String) (visible : List Collection)
    (name : Option String) :
    (∃ chosen, Chooses visible name chosen) ∨ ∃ e, NoChoice package visible name e := by
  cases name with
  | some name =>
      cases hfind : visible.find? (·.key == name) with
      | none =>
          refine .inr ⟨_, .unknown fun c hc => ?_⟩
          simpa using List.find?_eq_none.mp hfind c hc
      | some found =>
          have hfirst := find?_key_eq_some.mp hfind
          -- only the first of the name is asked, whatever a later one lists
          by_cases hrecipes : found.recipes = []
          · exact .inr ⟨_, .withoutRecipes hfirst hrecipes⟩
          · exact .inl ⟨found, .named hfirst hrecipes⟩
  | none =>
      cases hfind : visible.find? (·.hasRecipes) with
      | none =>
          refine .inr ⟨_, .unnamed fun c hc => ?_⟩
          simpa [Collection.hasRecipes] using List.find?_eq_none.mp hfind c hc
      | some found =>
          obtain ⟨hrecipes, before, after, hsplit, hbefore⟩ :=
            List.find?_eq_some_iff_append.mp hfind
          refine .inl ⟨found, .unnamed hsplit (fun c hc => ?_)
            (Collection.hasRecipes_eq_true.mp hrecipes)⟩
          simpa [Collection.hasRecipes] using hbefore c hc

/-- A collection is chosen just if it is the one to choose. One direction is enough for both, since
there is always a collection or a failure. -/
theorem chooseCollection_eq_ok_iff {package : String} :
    chooseCollection package name visible = .ok chosen ↔ Chooses visible name chosen := by
  constructor
  · intro h
    rcases chooses_or_noChoice package visible name with ⟨other, hother⟩ | ⟨e, he⟩
    · rw [chooseCollection_of_chooses hother] at h
      exact Except.ok.inj h ▸ hother
    · rw [chooseCollection_of_noChoice he] at h
      cases h
  · exact chooseCollection_of_chooses

theorem chooseCollection_eq_error_iff {package : String} {e : ComposeError} :
    chooseCollection package name visible = .error e ↔ NoChoice package visible name e := by
  constructor
  · intro h
    rcases chooses_or_noChoice package visible name with ⟨chosen, hchosen⟩ | ⟨other, hother⟩
    · rw [chooseCollection_of_chooses hchosen] at h
      cases h
    · rw [chooseCollection_of_noChoice hother] at h
      exact Except.error.inj h ▸ hother
  · exact chooseCollection_of_noChoice

/-! ## Drawing a recipe -/

variable {scene : Scene} {host : Host} {draws : Draws} {package id : String} {e : ComposeError}

theorem mem_of_chooses (h : Chooses visible name chosen) : chosen ∈ visible := by
  cases h with
  | named hfirst _ =>
      obtain ⟨before, after, rfl, _⟩ := hfirst
      exact List.mem_append_right _ List.mem_cons_self
  | unnamed hsplit _ _ => exact hsplit ▸ List.mem_append_right _ List.mem_cons_self

/-- A recipe can be drawn from whatever is chosen. -/
theorem length_pos_of_chooses (h : Chooses visible name chosen) : 0 < chosen.recipes.length := by
  cases h with
  | named _ hrecipes => exact List.length_pos_iff.mpr hrecipes
  | unnamed _ _ hrecipes => exact List.length_pos_iff.mpr hrecipes

/-- **There is a recipe to draw**, wherever the draw may fall. -/
theorem exists_drawn (h : Chooses visible name chosen) (draws : Draws) :
    ∃ id, draws.Drawn visible name chosen id := by
  have hlt : draws.index chosen.recipes.length < chosen.recipes.length :=
    draws.index_lt (length_pos_of_chooses h)
  exact ⟨_, h, List.getElem?_eq_getElem hlt⟩

theorem chooseRecipe_of_drawn (h : draws.Drawn visible name chosen id) :
    chooseRecipe draws chosen = id := by
  rw [chooseRecipe, List.getD_eq_getElem?_getD, h.place, Option.getD_some]

/-- The recipe that is drawn runs with the draws of the block. -/
theorem generateFromPackage_of_drawn (hhost : scene.host = some host)
    (h : draws.Drawn (host.visible package) name chosen id) :
    scene.generateFromPackage draws package name = scene.runRecipe draws id := by
  have hchoose : chooseCollection package name (host.visible package) = .ok chosen :=
    chooseCollection_of_chooses h.chooses
  simp only [generateFromPackage, hhost, ← host.visible_eq, hchoose, chooseRecipe_of_drawn h]

theorem runRecipe_of_unknown (hhost : scene.host = some host) (hunknown : host.knows id = false)
    (draws : Draws) : scene.runRecipe draws id = .error (.recipeNotFound id host.recipeIds) := by
  simp [runRecipe, hhost, hunknown]

/-- Each of the four failures is what comes of the package. -/
theorem generateFromPackage_of_fails (hhost : scene.host = some host)
    (h : host.PackageFails draws package name e) :
    scene.generateFromPackage draws package name = .error e := by
  cases h with
  | noChoice h =>
      have hchoose := chooseCollection_of_noChoice h
      simp only [generateFromPackage, hhost, ← host.visible_eq, hchoose]
  | unknownRecipe hdrawn hunknown =>
      rw [generateFromPackage_of_drawn hhost hdrawn, runRecipe_of_unknown hhost hunknown]

/-- A package fails, or a recipe is drawn that is there. -/
theorem packageFails_or_drawn (host : Host) (draws : Draws) (package : String)
    (name : Option String) :
    (∃ e, host.PackageFails draws package name e) ∨
      ∃ chosen id, draws.Drawn (host.visible package) name chosen id ∧ host.knows id = true := by
  rcases chooses_or_noChoice package (host.visible package) name with
    ⟨chosen, hchosen⟩ | ⟨e, he⟩
  · -- the collection may list a recipe that the engine does not have
    obtain ⟨id, hdrawn⟩ := exists_drawn hchosen draws
    cases hknown : host.knows id with
    | false => exact .inl ⟨_, .unknownRecipe hdrawn hknown⟩
    | true => exact .inr ⟨chosen, id, hdrawn, hknown⟩
  · exact .inl ⟨e, .noChoice he⟩

/-- What a block that generates from a package fails with ends the run, optional or not. -/
theorem compose_of_package_fails {pattern : Pattern} {index : Nat} {progress : Progress}
    {block : GenerateBlock} (hreached : scene.Reaches pattern index progress (.generate block))
    (hruns : scene.passesOver (.generate block) = false) (hsource : block.source = .package package)
    (hfails : scene.generateFromPackage (scene.forBlock index) package block.collection
      = .error e) :
    scene.compose pattern = .error (.inBlock index e) :=
  hreached.compose_eq_error hruns ((step_of_package hsource).mpr hfails)

/-- **What comes of a package.** It comes to one of the four failures, or a recipe is drawn that is
there, and then the recipe is run with the same draws. The collection that is chosen lists recipes,
so that there is one at the place drawn: for a seed it is the hash of the seed modulo their number.
And each of the failures ends the run, even if the block is optional. -/
theorem package_recipe_drawn (scene : Scene) (host : Host) (hhost : scene.host = some host)
    (package : String) (name : Option String) :
    (∀ draws : Draws, (∃ e, host.PackageFails draws package name e) ∨
      ∃ chosen id, draws.Drawn (host.visible package) name chosen id ∧ host.knows id = true) ∧
    (∀ draws e, host.PackageFails draws package name e →
      scene.generateFromPackage draws package name = .error e) ∧
    (∀ draws chosen id, draws.Drawn (host.visible package) name chosen id →
      scene.generateFromPackage draws package name = scene.runRecipe draws id) ∧
    (∀ chosen, Chooses (host.visible package) name chosen → 0 < chosen.recipes.length ∧
      ∀ draws : Draws, (∃ id, draws.Drawn (host.visible package) name chosen id) ∧
        draws.index chosen.recipes.length < chosen.recipes.length ∧
        ∀ seed, draws.seed = some seed → draws.index chosen.recipes.length
          = (Random.hash seed).toNat % chosen.recipes.length) ∧
    (∀ (pattern : Pattern) (index : Nat) (progress : Progress) (block : GenerateBlock)
      (e : ComposeError), scene.Reaches pattern index progress (.generate block) →
      scene.passesOver (.generate block) = false → block.source = .package package →
      block.collection = name → host.PackageFails (scene.forBlock index) package name e →
      scene.compose pattern = .error (.inBlock index e)) := by
  refine ⟨fun draws => packageFails_or_drawn host draws package name,
    fun draws e => generateFromPackage_of_fails hhost,
    fun draws chosen id => generateFromPackage_of_drawn hhost, ?_, ?_⟩
  · intro chosen hchooses
    have hpos := length_pos_of_chooses hchooses
    refine ⟨hpos, fun draws => ⟨exists_drawn hchooses draws, draws.index_lt hpos, ?_⟩⟩
    intro seed hseed
    -- chance has no part in a draw with a seed
    rw [Draws.index, hseed]
    rfl
  · intro pattern index progress block e hreached hruns hsource hname hfails
    refine compose_of_package_fails hreached hruns hsource ?_
    rw [hname]
    exact generateFromPackage_of_fails hhost hfails

end Scene

/-! ## Minstrels

The bards have songs, but list no recipe for them, and ballads, for which they list two, a lament
and a jig. There is another collection of ballads, without a package and without recipes. In the
inns a toast is given for which there is no recipe. -/

namespace Minstrels

def songs : Collection := { key := "songs", package := some "bards" }

def ballads : Collection :=
  { key := "ballads", package := some "bards", recipes := ["lament", "jig"] }

def oldBallads : Collection := { key := "ballads" }

def toasts : Collection := { key := "toasts", package := some "inns", recipes := ["health"] }

def host : Host where
  recipeIds := ["jig", "lament"]
  run := fun call => .ok ("a " ++ call.id)
  packageCatalog := fun _ _ => none
  packageCatalogKeys := fun _ => []
  collections := [songs, ballads, oldBallads, toasts]

def scene : Scene where
  seed := some "feast"
  catalogs := .empty
  rules := {}
  locale := "en"
  host := some host

/-- An optional block that generates from a package. -/
def sung (package : String) (name : Option String) : GenerateBlock :=
  { source := .package package, collection := name, options := { isOptional := true } }

theorem first_ballads : FirstNamed "ballads" (host.visible "bards") ballads :=
  ⟨[songs], [oldBallads], rfl, rfl, by decide⟩

theorem lament_drawn : scene.Drawn (host.visible "bards") (some "ballads") ballads "lament" :=
  ⟨.named first_ballads (by decide), by rfl⟩

/-- The second block of a pattern draws the other recipe. -/
theorem jig_drawn :
    (scene.forBlock 1).Drawn (host.visible "bards") (some "ballads") ballads "jig" :=
  ⟨.named first_ballads (by decide), by rfl⟩

/-- Each of the four failures ends the run, though the blocks are optional. -/
theorem lament_or_failure : scene.host = some host ∧
    scene.generateFromPackage scene.toDraws "bards" (some "ballads")
      = .ok (.generated ⟨"a lament", "en", "lament"⟩) ∧
    scene.generateFromPackage (scene.forBlock 1) "bards" (some "ballads")
      = .ok (.generated ⟨"a jig", "en", "jig"⟩) ∧
    (Random.hash "feast:b1").toNat % ballads.recipes.length = 1 ∧
    0 < ballads.recipes.length ∧
    scene.compose [.generate (sung "bards" (some "dirges"))]
      = .error (.inBlock 0 (.collectionNotFound "bards/dirges" ["songs", "ballads", "ballads"])) ∧
    scene.compose [.generate (sung "bards" (some "songs"))]
      = .error (.inBlock 0 (.collectionWithoutRecipes "bards/songs" ["ballads"])) ∧
    scene.compose [.generate (sung "nowhere" none)]
      = .error (.inBlock 0 (.collectionNotFound "nowhere/*" ["ballads"])) ∧
    scene.compose [.generate (sung "inns" none)]
      = .error (.inBlock 0 (.recipeNotFound "health" ["jig", "lament"])) := by
  have bards := fun name => Scene.package_recipe_drawn scene host rfl "bards" name
  obtain ⟨_, _, hdrawn, hchosen, _⟩ := bards (some "ballads")
  obtain ⟨_, _, _, _, hdirges⟩ := bards (some "dirges")
  obtain ⟨_, _, _, _, hsongs⟩ := bards (some "songs")
  obtain ⟨_, _, _, _, hnowhere⟩ := Scene.package_recipe_drawn scene host rfl "nowhere" none
  obtain ⟨_, _, _, _, hinns⟩ := Scene.package_recipe_drawn scene host rfl "inns" none
  obtain ⟨hpos, hplace⟩ := hchosen _ lament_drawn.chooses
  refine ⟨rfl, hdrawn _ _ _ lament_drawn, hdrawn _ _ _ jig_drawn, ?_, hpos, ?_, ?_, ?_, ?_⟩
  · obtain ⟨_, _, hhash⟩ := hplace (scene.forBlock 1)
    rw [← hhash "feast:b1" rfl]
    rfl
  · exact hdirges _ 0 {} _ _ ⟨rfl, rfl⟩ rfl rfl rfl (.noChoice (.unknown (by decide)))
  · have hfirst : FirstNamed "songs" (host.visible "bards") songs :=
      ⟨[], [ballads, oldBallads], rfl, rfl, nofun⟩
    exact hsongs _ 0 {} _ _ ⟨rfl, rfl⟩ rfl rfl rfl (.noChoice (.withoutRecipes hfirst rfl))
  · exact hnowhere _ 0 {} _ _ ⟨rfl, rfl⟩ rfl rfl rfl (.noChoice (.unnamed (by decide)))
  · have hsplit : host.visible "inns" = [oldBallads] ++ toasts :: [] := rfl
    have hchooses : Chooses (host.visible "inns") none toasts :=
      .unnamed hsplit (by decide) (by decide)
    exact hinns _ 0 {} _ _ ⟨rfl, rfl⟩ rfl rfl rfl (.unknownRecipe ⟨hchooses, rfl⟩ rfl)

end Minstrels

end TextRecipes
