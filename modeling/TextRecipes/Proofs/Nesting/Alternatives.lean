import Mathlib.Data.List.TakeWhile
import TextRecipes.Proofs.Nesting.CallPath

/-!
# The names that an error offers

If a name is not found, the error offers those that could have been given instead. A run that fails
so has failed at a look-up of one of its blocks, or of a recipe that runs in it (`MissesAt`,
`PathTo.missesAt`), and this look-up can be repeated with each of the names. Then something is found
(`finds_or_misleads`), but for two sorts of names (`Misleads`):

* a key of the engine's own catalogs with a colon in it, for such a key is read as that of a
  package's catalog;
* a collection in front of which the package sees another one of the same name that lists no
  recipes, for only the first of a name counts.
-/

namespace TextRecipes

/-! ## Look-ups -/

/-- Something is looked up by a name. -/
inductive LookUp where
  | catalog (key : String)
  | recipe (id : String)
  /-- A collection whose tags narrow a catalog. -/
  | collection (name : String)
  /-- A collection that a package sees and that a recipe is drawn from. -/
  | packaged (package : String) (name : Option String)

/-- The same look-up by another name. -/
def LookUp.named (name : String) : LookUp → LookUp
  | catalog _ => catalog name
  | recipe _ => recipe name
  | collection _ => collection name
  | packaged package _ => packaged package (some name)

/-- What is missing if a look-up fails. -/
inductive Missing where
  | catalog
  | recipe
  | collection
  | collectionWithRecipes
deriving DecidableEq

/-- What an error says is missing, with the names that it offers. -/
def ComposeError.missing? : ComposeError → Option (Missing × List String)
  | catalogNotFound _ available => some (.catalog, available)
  | recipeNotFound _ available => some (.recipe, available)
  | collectionNotFound _ available => some (.collection, available)
  | collectionWithoutRecipes _ available => some (.collectionWithRecipes, available)
  | _ => none

theorem ComposeError.innermost_eq_self {e : ComposeError} (h : e.isOwn = true) :
    e.innermost = e := by
  cases e with
  | inBlock _ _ => cases h
  | _ => rfl

namespace Engine

variable {engine : Engine} {run run' : RecipeCall → Except ComposeError String} {call : RecipeCall}
  {parts : Parts} {draws : Draws} {block : Block} {e : ComposeError} {kind : Missing}
  {available : List String} {sought : LookUp} {key package rest id name : String}

/-- What all runs of an engine look things up in. -/
def surroundings (engine : Engine) : Scene := engine.scene engine.refuse default

def packageKeys (engine : Engine) (package : String) : List String :=
  ((engine.packages.get? package).map (·.keys)).getD []

def visible (engine : Engine) (package : String) : List Collection :=
  engine.collections.filter (·.visibleFrom package)

/-- A look-up in the runs of an engine. -/
def lookUp (engine : Engine) : LookUp → Except ComposeError Unit
  | .catalog key => (engine.surroundings.findCatalog key).map fun _ => ()
  | .recipe id => (engine.findRecipe id).map fun _ => ()
  | .collection name =>
    (engine.surroundings.collectionClause { source := .catalog, collection := some name }).map
      fun _ => ()
  | .packaged package name =>
    (Scene.chooseCollection package name (engine.visible package)).map fun _ => ()

/-- A look-up fails because something of this kind is missing. -/
def Misses (engine : Engine) (kind : Missing) (sought : LookUp) : Prop :=
  ∃ e available, engine.lookUp sought = .error e ∧ e.missing? = some (kind, available)

/-- A look-up finds what it is for. -/
inductive Finds (engine : Engine) : Missing → LookUp → Prop
  | catalog {key : String} {catalog : Catalog}
      (h : engine.surroundings.findCatalog key = .ok catalog) : Finds engine .catalog (.catalog key)
  | recipe {id : String} (h : engine.recipes.contains id = true) : Finds engine .recipe (.recipe id)
  | collection {name : String} {first : Collection} (h : FirstNamed name engine.collections first) :
      Finds engine .collection (.collection name)
  | packaged {package name : String} {first : Collection}
      (h : FirstNamed name (engine.visible package) first) :
      Finds engine .collection (.packaged package (some name))
  | withRecipes {package name : String} {first : Collection}
      (h : FirstNamed name (engine.visible package) first) (hrecipes : first.recipes ≠ []) :
      Finds engine .collectionWithRecipes (.packaged package (some name))

/-- A name that is offered instead of the one of a look-up, although it is not found either. -/
inductive Misleads (engine : Engine) : Missing → LookUp → String → Prop
  /-- A key of the engine's own catalogs that reads as that of a package's catalog. -/
  | ownKey {key name package rest : String} (hown : Scene.packageKey? key = none)
      (hread : Scene.packageKey? name = some (package, rest))
      (hnone : engine.packaged? package rest = none) :
      Misleads engine .catalog (.catalog key) name
  /-- The first collection of the name lists no recipes. -/
  | firstOfName {package name : String} {asked : Option String} {first : Collection}
      (hfirst : FirstNamed name (engine.visible package) first) (hrecipes : first.recipes = []) :
      Misleads engine .collectionWithRecipes (.packaged package asked) name

/-! ### Catalogs -/

/-- A key is read up to its first colon, so what a package lists is read back as it was written. -/
theorem packageKey?_append (h : ':' ∉ package.toList) (rest : String) :
    Scene.packageKey? (package ++ ":" ++ rest) = some (package, rest) := by
  have hchars : (package ++ ":" ++ rest).toList = package.toList ++ ':' :: rest.toList := by simp
  have hpass : ∀ c ∈ package.toList, (c != ':') = true := by
    intro c hc
    simpa using fun heq : c = ':' => h (heq ▸ hc)
  rw [Scene.packageKey?, hchars, List.dropWhile_append_of_pos hpass,
    List.takeWhile_append_of_pos hpass]
  simp

theorem colon_not_mem_package (h : Scene.packageKey? key = some (package, rest)) :
    ':' ∉ package.toList := by
  unfold Scene.packageKey? at h
  split at h
  · cases h
  · cases h
    intro hmem
    rw [String.toList_ofList] at hmem
    have hpass := List.mem_takeWhile_imp hmem
    simp at hpass

/-- A key without a colon is looked up among the engine's own catalogs. -/
theorem findCatalog_own (h : Scene.packageKey? key = none) :
    engine.surroundings.findCatalog key = match engine.catalogs.get? key with
      | some catalog => .ok catalog
      | none => .error (.catalogNotFound key engine.catalogs.keys) := by
  simp only [Scene.findCatalog, h]
  rfl

/-- A key with a colon is looked up in the package that it names. -/
theorem findCatalog_packaged (h : Scene.packageKey? key = some (package, rest)) :
    engine.surroundings.findCatalog key = match engine.packaged? package rest with
      | some catalog => .ok catalog
      | none => .error (.catalogNotFound key
          ((engine.packageKeys package).map fun k => package ++ ":" ++ k)) := by
  simp only [Scene.findCatalog, h]
  rfl

/-! ### Collections -/

theorem collectionClause_scene {block : GenerateBlock} (hname : block.collection = some name) :
    (engine.scene run call).collectionClause block
      = match engine.collections.find? (·.key == name) with
        | some collection => .ok (block.clause.merge (.ofTags collection.tags))
        | none => .error (.collectionNotFound name (engine.collections.map (·.key))) := by
  simp only [Scene.collectionClause, hname]
  rfl

theorem generateFromPackage_scene (draws : Draws) (package : String) (asked : Option String) :
    (engine.scene run call).generateFromPackage draws package asked
      = match Scene.chooseCollection package asked (engine.visible package) with
        | .error e => .error e
        | .ok chosen =>
          (engine.scene run call).runRecipe draws (Scene.chooseRecipe draws chosen) :=
  rfl

/-! ### What is found -/

/-- Of all collections with a name there is a first. -/
theorem exists_firstNamed {collections : List Collection}
    (h : name ∈ collections.map (·.key)) : ∃ first, FirstNamed name collections first := by
  obtain ⟨collection, hmem, hkey⟩ := List.mem_map.mp h
  have hfound : (collections.find? (·.key == name)).isSome = true :=
    List.find?_isSome.mpr ⟨collection, hmem, beq_iff_eq.mpr hkey⟩
  obtain ⟨first, hfirst⟩ := Option.isSome_iff_exists.mp hfound
  exact ⟨first, find?_key_eq_some.mp hfirst⟩

/-- What is found is not missing. -/
theorem Finds.not_misses (h : engine.Finds kind sought) : ¬ engine.Misses kind sought := by
  rintro ⟨e, available, he, hmissing⟩
  cases h with
  | catalog h =>
      rw [lookUp, h] at he
      cases he
  | recipe h =>
      obtain ⟨recipe, hrecipe⟩ := exists_recipe h
      rw [lookUp, hrecipe] at he
      cases he
  | @collection name first h =>
      have hclause : engine.surroundings.askedClause?
          { source := .catalog, collection := some name } = some _ :=
        Scene.askedClause?_of_firstNamed _ rfl rfl h
      rw [lookUp, Scene.collectionClause_of_askedClause? hclause] at he
      cases he
  | packaged h =>
      -- the first collection of the name may list no recipes, but it is there
      rw [lookUp, Scene.chooseCollection_of_firstNamed _ h] at he
      split at he
      · cases he
      · cases he
        cases hmissing
  | withRecipes h hrecipes =>
      rw [lookUp, Scene.chooseCollection_of_firstNamed _ h,
        if_pos (Collection.hasRecipes_eq_true.mpr hrecipes)] at he
      cases he

/-- What a misleading name stands for is missing, too. -/
theorem Misleads.misses (h : engine.Misleads kind sought name) :
    engine.Misses kind (sought.named name) := by
  cases h with
  | @ownKey key _ package rest hown hread hnone =>
      have hfails : engine.surroundings.findCatalog name = _ := findCatalog_packaged hread
      rw [hnone] at hfails
      exact ⟨_, _, congrArg (Except.map fun _ => ()) hfails, rfl⟩
  | @firstOfName package _ asked first hfirst hrecipes =>
      have hfails : Scene.chooseCollection package (some name) (engine.visible package) = _ :=
        Scene.chooseCollection_of_noChoice (.withoutRecipes hfirst hrecipes)
      exact ⟨_, _, congrArg (Except.map fun _ => ()) hfails, rfl⟩

/-! ### What is offered -/

/-- The engine's own keys are offered as they are. One with a colon is looked up in a package. -/
theorem offered_own (hkey : Scene.packageKey? key = none) (hname : name ∈ engine.catalogs.keys) :
    engine.Misleads .catalog (.catalog key) name ∨ engine.Finds .catalog (.catalog name) := by
  cases hread : Scene.packageKey? name with
  | none =>
      obtain ⟨catalog, hcatalog⟩ := Option.isSome_iff_exists.mp (NameMap.mem_keys_iff.mp hname)
      right
      apply Finds.catalog
      rw [findCatalog_own hread, hcatalog]
  | some place =>
      obtain ⟨package, rest⟩ := place
      cases hpackaged : engine.packaged? package rest with
      | none => exact .inl (.ownKey hkey hread hpackaged)
      | some catalog =>
          right
          apply Finds.catalog
          rw [findCatalog_packaged hread, hpackaged]

/-- A package's keys are offered with the package in front, as they are looked up. -/
theorem offered_packaged (hkey : Scene.packageKey? key = some (package, rest))
    (hname : name ∈ (engine.packageKeys package).map fun k => package ++ ":" ++ k) :
    engine.Finds .catalog (.catalog name) := by
  obtain ⟨k, hk, rfl⟩ := List.mem_map.mp hname
  have hread := packageKey?_append (colon_not_mem_package hkey) k
  cases hpackage : engine.packages.get? package with
  | none =>
      rw [packageKeys, hpackage] at hk
      cases hk
  | some catalogs =>
      rw [packageKeys, hpackage] at hk
      obtain ⟨catalog, hcatalog⟩ := Option.isSome_iff_exists.mp (NameMap.mem_keys_iff.mp hk)
      have hpackaged : engine.packaged? package k = some catalog := by
        rw [packaged?, hpackage]
        exact hcatalog
      apply Finds.catalog
      rw [findCatalog_packaged hread, hpackaged]

/-- A key that is offered instead of another is found, or it is one of the engine's own with a colon
in it. -/
theorem offered_catalog (h : engine.surroundings.findCatalog key = .error e)
    (hmissing : e.missing? = some (kind, available)) (hname : name ∈ available) :
    engine.Misleads kind (.catalog key) name ∨ engine.Finds kind (.catalog name) := by
  cases hkey : Scene.packageKey? key with
  | none =>
      rw [findCatalog_own hkey] at h
      split at h
      · cases h
      · cases h
        cases hmissing
        exact offered_own hkey hname
  | some place =>
      rw [findCatalog_packaged hkey] at h
      split at h
      · cases h
      · cases h
        cases hmissing
        exact .inr (offered_packaged hkey hname)

/-- An id that is offered is found. -/
theorem offered_recipe (h : engine.findRecipe id = .error e)
    (hmissing : e.missing? = some (kind, available)) (hname : name ∈ available) :
    engine.Finds kind (.recipe name) := by
  obtain ⟨rfl, -⟩ := findRecipe_eq_error h
  cases hmissing
  exact .recipe (NameMap.mem_keys_iff.mp hname)

/-- A name that is offered instead of a collection is found. -/
theorem offered_collection
    (h : engine.surroundings.collectionClause { source := .catalog, collection := some id }
      = .error e) (hmissing : e.missing? = some (kind, available)) (hname : name ∈ available) :
    engine.Finds kind (.collection name) := by
  rw [surroundings, collectionClause_scene rfl] at h
  split at h
  · cases h
  · cases h
    cases hmissing
    obtain ⟨first, hfirst⟩ := exists_firstNamed hname
    exact .collection hfirst

/-- For a collection that lists no recipes those of the same package that list some are offered, but
the first of the name may be another one. -/
theorem offered_from_package {asked : Option String}
    (h : Scene.chooseCollection package asked (engine.visible package) = .error e)
    (hmissing : e.missing? = some (kind, available)) (hname : name ∈ available) :
    engine.Misleads kind (.packaged package asked) name ∨
      engine.Finds kind (.packaged package (some name)) := by
  cases Scene.chooseCollection_eq_error_iff.mp h with
  | unknown hunknown =>
      cases hmissing
      obtain ⟨first, hfirst⟩ := exists_firstNamed hname
      exact .inr (.packaged hfirst)
  | withoutRecipes hasked hnone =>
      cases hmissing
      obtain ⟨collection, hmem, hkey⟩ := List.mem_map.mp hname
      have hvisible : collection ∈ engine.visible package := (List.mem_filter.mp hmem).1
      obtain ⟨first, hfirst⟩ := exists_firstNamed (List.mem_map.mpr ⟨collection, hvisible, hkey⟩)
      by_cases hrecipes : first.recipes = []
      · exact .inl (.firstOfName hfirst hrecipes)
      · exact .inr (.withRecipes hfirst hrecipes)
  | unnamed hnone =>
      cases hmissing
      obtain ⟨first, hfirst⟩ := exists_firstNamed hname
      exact .inr (.packaged hfirst)

/-- **An offered name is found, or it misleads**, at whatever look-up. -/
theorem finds_or_misleads (h : engine.lookUp sought = .error e)
    (hmissing : e.missing? = some (kind, available)) (hname : name ∈ available) :
    engine.Misleads kind sought name ∨ engine.Finds kind (sought.named name) := by
  cases sought with
  | catalog key => exact offered_catalog (except_map_eq_error h) hmissing hname
  | recipe id => exact .inr (offered_recipe (except_map_eq_error h) hmissing hname)
  | collection id => exact .inr (offered_collection (except_map_eq_error h) hmissing hname)
  | packaged package asked => exact offered_from_package (except_map_eq_error h) hmissing hname

end Engine

/-! ## The look-up that a run fails at -/

/-- What a block looks up: the catalog of its request or the recipe that it runs, and before that
the collection that it names. -/
inductive Scene.LooksUp (scene : Scene) : Block → LookUp → Prop
  | catalog (block : Block) (request : CatalogRequest) (h : scene.request? block = some request) :
      LooksUp scene block (.catalog request.key)
  | recipe (block : Block) (id : String) (h : scene.Runs block id) :
      LooksUp scene block (.recipe id)
  | collection (block : GenerateBlock) (name : String) (hsource : block.source = .catalog)
      (hname : block.collection = some name) : LooksUp scene (.generate block) (.collection name)
  | packaged (block : GenerateBlock) (package : String)
      (hsource : block.source = .package package) :
      LooksUp scene (.generate block) (.packaged package block.collection)

namespace Engine

/-- The run of a call fails at a look-up: at that of the recipe asked for, at one of the block that
ends the run, or at one in the run of a recipe that this block runs. -/
inductive MissesAt (engine : Engine) : RecipeCall → ComposeError → LookUp → Prop where
  | asked (call : RecipeCall) (hunknown : engine.recipes.contains call.id = false) :
      MissesAt engine call (.recipeNotFound call.id engine.recipes.keys) (.recipe call.id)
  | inBlock (call : RecipeCall) (recipe : Recipe) (index : Nat) (progress : Progress)
      (block : Block) (cause : ComposeError) (sought : LookUp)
      (hrecipe : engine.findRecipe call.id = .ok recipe)
      (hends : (engine.callScene call).EndsRun recipe.pattern index progress block cause)
      (hlooks : (engine.callScene call).LooksUp block sought)
      (hfails : engine.lookUp sought = .error cause) :
      MissesAt engine call (.inBlock index cause) sought
  | nested (call : RecipeCall) (recipe : Recipe) (index : Nat) (progress : Progress) (block : Block)
      (id : String) (cause : ComposeError) (sought : LookUp)
      (hrecipe : engine.findRecipe call.id = .ok recipe)
      (hends : (engine.callScene call).EndsRun recipe.pattern index progress block cause)
      (hruns : (engine.callScene call).Runs block id)
      (hknown : engine.recipes.contains id = true)
      (hmisses : MissesAt engine ((engine.callScene call).nestedCall
        (block.selectionDraws (call.forBlock index)) id) cause sought) :
      MissesAt engine call (.inBlock index cause) sought

variable {engine : Engine} {run run' : RecipeCall → Except ComposeError String} {call : RecipeCall}
  {parts : Parts} {draws : Draws} {block : Block} {e : ComposeError} {sought : LookUp}
  {missing : Missing × List String}

/-- What a block looks up does not depend on what recipes come to. -/
theorem looksUp_scene (h : (engine.scene run call).LooksUp block sought) :
    (engine.scene run' call).LooksUp block sought := by
  cases h with
  | catalog block request h => exact .catalog block request h
  | recipe block id h =>
      refine .recipe block id ?_
      cases h with
      | named block id hnamed => exact .named block id hnamed
      | listed block package id collection hsource hchosen hlisted =>
          exact .listed block package id collection hsource hchosen hlisted
  | collection block name hsource hname => exact .collection block name hsource hname
  | packaged block package hsource => exact .packaged block package hsource

/-- Nothing is missing where only the selection fails. -/
theorem pick_missing {catalog : Catalog} {request : CatalogRequest} {clause : Clause}
    (h : Scene.pick catalog request parts draws clause = .error e) : e.missing? = none := by
  unfold Scene.pick at h
  split at h
  · cases h
  · next failure _ =>
      cases h
      cases failure <;> rfl

/-- A request can miss its catalog only. -/
theorem lookUp_of_request {request : CatalogRequest}
    (h : (engine.scene run call).selectFromCatalog parts draws request = .error e)
    (hmissing : e.missing? = some missing) :
    engine.lookUp (.catalog request.key) = .error e := by
  rcases Scene.selectFromCatalog_eq_error h with hnone | ⟨catalog, draws', clause, hfailed⟩
  · exact congrArg (Except.map fun _ => ()) hnone
  · rw [pick_missing hfailed] at hmissing
    cases hmissing

theorem lookUp_of_unknown {id : String} (hunknown : engine.recipes.contains id = false) :
    engine.lookUp (.recipe id) = .error (.recipeNotFound id engine.recipes.keys) := by
  have hnone : engine.recipes.get? id = none := by simpa [NameMap.contains] using hunknown
  rw [lookUp, findRecipe, hnone]
  rfl

/-- If recipes come to texts, a block that runs one can only miss the recipe. -/
theorem lookUp_of_runRecipe {id : String} (hrun : ∀ nested, ∃ text, run nested = .ok text)
    (h : (engine.scene run call).runRecipe draws id = .error e) :
    engine.lookUp (.recipe id) = .error e := by
  rw [runRecipe_scene] at h
  split at h
  · obtain ⟨text, htext⟩ := hrun ((engine.scene run call).nestedCall draws id)
    rw [htext] at h
    cases h
  · next hunknown =>
      cases h
      exact lookUp_of_unknown (by simpa using hunknown)

theorem lookUp_of_collectionClause {block : GenerateBlock}
    (h : (engine.scene run call).collectionClause block = .error e) :
    ∃ name, block.collection = some name ∧ engine.lookUp (.collection name) = .error e := by
  cases hname : block.collection with
  | none =>
      rw [Scene.collectionClause, hname] at h
      cases h
  | some name =>
      rw [collectionClause_scene hname] at h
      refine ⟨name, rfl, ?_⟩
      rw [lookUp, surroundings, collectionClause_scene rfl]
      split at h
      · cases h
      · exact congrArg (Except.map fun _ => ()) h

/-- A block that generates looks up a collection before it asks a catalog or runs a recipe. -/
theorem looksUp_of_generate {block : GenerateBlock}
    (hrequest : (engine.scene run call).request? (.generate block) = none)
    (hnested : (engine.scene run call).nested? draws (.generate block) = none)
    (h : (engine.scene run call).attemptGenerate parts draws block = .error e)
    (hmissing : e.missing? = some missing) :
    ∃ sought, (engine.scene run call).LooksUp (.generate block) sought ∧
      engine.lookUp sought = .error e := by
  cases hsource : block.source with
  | recipe =>
      cases hkey : block.key with
      | none =>
          simp only [Scene.attemptGenerate, hsource, hkey] at h
          cases h
          cases hmissing
      | some key =>
          simp only [Scene.nested?, hsource, hkey] at hnested
          cases hnested
  | catalog =>
      cases hkey : block.key with
      | none =>
          simp only [Scene.attemptGenerate, hsource, hkey] at h
          cases h
          cases hmissing
      | some key =>
          simp only [Scene.attemptGenerate, Scene.generateFromCatalog, hsource, hkey] at h
          cases hclause : (engine.scene run call).collectionClause block with
          | error cause =>
              rw [hclause] at h
              cases h
              obtain ⟨name, hname, hfails⟩ := lookUp_of_collectionClause hclause
              exact ⟨_, .collection block name hsource hname, hfails⟩
          | ok clause =>
              simp [Scene.request?, hsource, hkey,
                Scene.askedClause?_of_collectionClause hclause] at hrequest
  | package package =>
      cases hchoice : Scene.chooseCollection package block.collection (engine.visible package) with
      | error cause =>
          simp only [Scene.attemptGenerate, hsource, generateFromPackage_scene, hchoice] at h
          cases h
          exact ⟨_, .packaged block package hsource, congrArg (Except.map fun _ => ()) hchoice⟩
      | ok chosen =>
          have hchosen : (engine.scene run call).chosen? package block.collection = some chosen :=
            congrArg Except.toOption hchoice
          simp [Scene.nested?, hsource, hchosen] at hnested

/-- A block that fails because something is missing has looked it up, and the same look-up fails
outside the run. -/
theorem looksUp_of_attempt (hrun : ∀ nested, ∃ text, run nested = .ok text)
    (h : (engine.scene run call).attempt parts draws block = .error e)
    (hmissing : e.missing? = some missing) :
    ∃ sought, (engine.scene run call).LooksUp block sought ∧ engine.lookUp sought = .error e := by
  cases hrequest : (engine.scene run call).request? block with
  | some request =>
      rw [Scene.attempt_of_request? hrequest] at h
      exact ⟨_, .catalog block request hrequest, lookUp_of_request h hmissing⟩
  | none =>
      cases hnested : (engine.scene run call).nested? draws block with
      | some id =>
          rw [Scene.attempt_of_nested hnested] at h
          exact ⟨_, .recipe block id (Scene.runs_of_nested? hnested),
            lookUp_of_runRecipe hrun (except_map_eq_error h)⟩
      | none =>
          -- neither a request nor a recipe: only a block that generates can fail
          cases block with
          | generate block => exact looksUp_of_generate hrequest hnested h hmissing
          | select block =>
              cases hsource : block.source with
              | catalog => simp [Scene.request?, hsource] at hrequest
              | recipe => simp [Scene.nested?, hsource] at hnested
          | phrase preposition target =>
              cases target with
              | bound name => cases h
              | select block =>
                  cases hsource : block.source with
                  | catalog => simp [Scene.request?, hsource] at hrequest
                  | recipe => simp [Scene.nested?, hsource] at hnested
          | literal text options => cases h
          | reference name => cases h

/-- **An error for a name that is not found comes from a look-up** of the run. -/
theorem PathTo.missesAt (h : engine.PathTo call e)
    (hmissing : e.innermost.missing? = some missing) :
    ∃ sought, engine.MissesAt call e sought ∧ engine.lookUp sought = .error e.innermost := by
  induction h with
  | raised call recipe index progress block cause hrecipe hends hown hitself =>
      have hinner : cause.innermost = cause :=
        ComposeError.innermost_eq_self (Scene.isOwn_of_canRaise hown)
      have hcause : cause.missing? = some missing := hinner ▸ hmissing
      -- whatever recipes come to, the block fails so: also if all of them come to texts
      obtain ⟨sought, hlooks, hfails⟩ :=
        looksUp_of_attempt (fun _ => ⟨"", rfl⟩) (hitself fun _ => .ok "") hcause
      refine ⟨sought, .inBlock call recipe index progress block cause sought hrecipe hends
        (looksUp_scene hlooks) hfails, ?_⟩
      rw [ComposeError.innermost, hinner, hfails]
  | refused call recipe index progress block id _ _ _ _ _ => cases hmissing
  | nested call recipe index progress block id cause hrecipe hends hruns hknown _ ih =>
      obtain ⟨sought, hmisses, hfails⟩ := ih hmissing
      exact ⟨sought, .nested call recipe index progress block id cause sought hrecipe hends hruns
        hknown hmisses, hfails⟩

/-- **Offered names are found, unless they mislead.** A request that fails since a name is not found
has failed at a look-up of its run. For each name that the error offers, this look-up can be
repeated. It fails for the same reason just if the name misleads, and finds something otherwise. -/
theorem offered_names_found (engine : Engine) (id : String) (request : Request) (e : ComposeError)
    (kind : Missing) (available : List String) (hfails : engine.generate id request = .error e)
    (hmissing : e.innermost.missing? = some (kind, available)) :
    ∃ sought, engine.MissesAt (outermost id request) e sought ∧
      engine.lookUp sought = .error e.innermost ∧
      ∀ name ∈ available,
        (engine.Misses kind (sought.named name) ↔ engine.Misleads kind sought name) ∧
        (¬ engine.Misleads kind sought name → engine.Finds kind (sought.named name)) := by
  have hsought : ∃ sought, engine.MissesAt (outermost id request) e sought ∧
      engine.lookUp sought = .error e.innermost := by
    rcases composeCall_eq_error hfails with ⟨rfl, hunknown⟩ | ⟨hknown, _⟩
    · exact ⟨.recipe id, .asked (outermost id request) hunknown, lookUp_of_unknown hunknown⟩
    · exact (pathTo_of_composeCall hknown hfails).missesAt hmissing
  obtain ⟨sought, hmisses, hlookUp⟩ := hsought
  refine ⟨sought, hmisses, hlookUp, ?_⟩
  intro name hname
  have hoffered := finds_or_misleads hlookUp hmissing hname
  refine ⟨⟨?_, Misleads.misses⟩, fun hnot => hoffered.resolve_left hnot⟩
  intro hagain
  exact hoffered.resolve_right fun hfinds => hfinds.not_misses hagain

end Engine

/-! ## A library of heroes

A catalog of names has a key that reads as that of a package `fantasy`, which is not there. Gems are
listed twice, at first without recipes. -/

namespace Heroes

def recipes : List Recipe :=
  [⟨"hero", [.select { key := "names" }]⟩, ⟨"elf", [.select { key := "fantasy:names" }]⟩,
    ⟨"praise", [.generate { source := .package "shop", collection := some "gem" }]⟩,
    ⟨"cool", [.literal (.ofPairs [("en", "cool")]) {}]⟩]

def engine : Engine where
  catalogs := .ofPairs [("fantasy:names", ⟨[{ text := .ofPairs [("en", "Elandor")] }]⟩)]
  recipes := .ofPairs (recipes.map fun r => (r.id, r))
  collections := [{ key := "gem", tags := ["red"] },
    { key := "gem", tags := ["green"], recipes := ["cool"] }]

def request : Request where
  locale := "en"
  seed := some "s"

/-- The only name that is offered for the hero's catalog. -/
theorem hero_offered : engine.generate "hero" request
      = .error (.inBlock 0 (.catalogNotFound "names" ["fantasy:names"])) ∧
    ∃ sought, engine.MissesAt (Engine.outermost "hero" request)
        (.inBlock 0 (.catalogNotFound "names" ["fantasy:names"])) sought ∧
      engine.lookUp sought = .error (.catalogNotFound "names" ["fantasy:names"]) ∧
      (engine.Misses .catalog (sought.named "fantasy:names") ↔
        engine.Misleads .catalog sought "fantasy:names") := by
  have hfails : engine.generate "hero" request
      = .error (.inBlock 0 (.catalogNotFound "names" ["fantasy:names"])) := by rfl
  obtain ⟨sought, hmisses, hlookUp, hoffered⟩ :=
    Engine.offered_names_found engine "hero" request _ .catalog ["fantasy:names"] hfails rfl
  exact ⟨hfails, sought, hmisses, hlookUp, (hoffered "fantasy:names" List.mem_cons_self).1⟩

/-- The key of the names is offered, but not found, and for gems without recipes just these gems are
offered. -/
theorem elf_and_gems_offered :
    engine.generate "hero" request
      = .error (.inBlock 0 (.catalogNotFound "names" ["fantasy:names"])) ∧
    engine.MissesAt (Engine.outermost "hero" request)
      (.inBlock 0 (.catalogNotFound "names" ["fantasy:names"])) (.catalog "names") ∧
    engine.Misses .catalog ((LookUp.catalog "names").named "fantasy:names") ∧
    engine.generate "elf" request = .error (.inBlock 0 (.catalogNotFound "fantasy:names" [])) ∧
    engine.generate "praise" request
      = .error (.inBlock 0 (.collectionWithoutRecipes "shop/gem" ["gem"])) ∧
    engine.MissesAt (Engine.outermost "praise" request)
      (.inBlock 0 (.collectionWithoutRecipes "shop/gem" ["gem"])) (.packaged "shop" (some "gem")) ∧
    engine.Misses .collectionWithRecipes
      ((LookUp.packaged "shop" (some "gem")).named "gem") := by
  refine ⟨by rfl, ?_, ⟨_, _, rfl, rfl⟩, by rfl, by rfl, ?_, ⟨_, _, rfl, rfl⟩⟩
  · have hlooks : (engine.callScene (Engine.outermost "hero" request)).LooksUp
        (.select { key := "names" }) (.catalog "names") :=
      .catalog _ (SelectBlock.request { key := "names" }) rfl
    exact .inBlock _ _ 0 {} _ _ _ rfl ⟨⟨rfl, rfl⟩, rfl, rfl, rfl⟩ hlooks rfl
  · exact .inBlock _ _ 0 {} _ _ _ rfl ⟨⟨rfl, rfl⟩, rfl, rfl, rfl⟩ (.packaged _ _ rfl) rfl

end Heroes

end TextRecipes
