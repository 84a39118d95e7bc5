import TextRecipes.Proofs.Assembly.Files
import TextRecipes.Proofs.Composition.Attempt

/-!
# Which of several collections counts

An engine keeps all collections that it is given, those of its collection file last
(`Engine.collections_of_assemble`). A name that several of them have stands for the first
(`FirstNamed`): a block that narrows a catalog by it asks for the tags of the first, and a block
that draws a recipe from it draws from the first that its package sees
(`Engine.first_collection_counts`).

It is the other way round with catalogs, recipes and rules, where the last of a name replaces what
was there before.
-/

namespace TextRecipes

/-! ## The collections of an engine -/

namespace Provision

def givenCollections : Provision → List Collection
  | .collections given => given
  | _ => []

def collectionPlace? : Provision → Option Path
  | .collectionFile path => some path
  | _ => none

end Provision

namespace FileTree

/-- What a collection file holds. A place where nothing is holds nothing. -/
def collectionsAt (tree : FileTree) : Option Path → Except AssemblyError (List Collection)
  | none => .ok []
  | some path => if tree.contains path then tree.readData Notation.collections path else .ok []

/-- All collections that provisions provide: those given directly, in order, and then those of the
collection file that is named last. -/
def providedCollections (tree : FileTree) (provisions : List Provision) :
    Except AssemblyError (List Collection) :=
  (tree.collectionsAt (provisions.filterMap (·.collectionPlace?)).getLast?).map fun loaded =>
    provisions.flatMap (·.givenCollections) ++ loaded

end FileTree

section

variable {tree : FileTree} {provisions : List Provision} {engine engine' : Engine}

/-- Provisions add their collections at the end. -/
theorem Plan.collections_ofProvisions :
    (Plan.ofProvisions provisions).given.collections
      = provisions.flatMap (·.givenCollections) := by
  have hadd : ∀ (plan : Plan) (provision : Provision), (plan.add provision).given.collections
      = plan.given.collections ++ provision.givenCollections := by
    intro plan provision
    cases provision with
    | collections given => rfl
    | _ => exact (List.append_nil _).symm
  exact foldl_append (·.given.collections) (·.givenCollections) hadd {} provisions

/-- Of the places for a collection file the last counts. -/
theorem Plan.collectionFile_ofProvisions :
    (Plan.ofProvisions provisions).collectionFile
      = (provisions.filterMap (·.collectionPlace?)).getLast? :=
  ofProvisions_or (·.collectionFile) (·.collectionPlace?)
    (fun _ provision => by cases provision <;> rfl) rfl provisions

theorem FileTree.collectionsAt_eq (place : Option Path) :
    tree.collectionsAt place
      = (tree.foundAt (tree.readData Notation.collections) place).map (·.getD []) := by
  cases place with
  | none => rfl
  | some path =>
      dsimp only [collectionsAt, foundAt]
      split
      · cases tree.readData Notation.collections path <;> rfl
      · rfl

/-- The collection file adds its collections at the end. -/
theorem FileTree.addFrom_collectionFile {place : Option Path}
    (h : tree.addFrom place (tree.readData Notation.collections) Engine.addCollections engine
      = .ok engine') :
    ∃ loaded, tree.collectionsAt place = .ok loaded ∧
      engine'.collections = engine.collections ++ loaded := by
  obtain ⟨found, hfound, rfl⟩ := addFrom_eq_ok h
  refine ⟨found.getD [], by rw [collectionsAt_eq, hfound]; rfl, ?_⟩
  cases found with
  | none => exact (List.append_nil _).symm
  | some loaded => rfl

/-- **An engine keeps all collections**, in the order in which they are provided. -/
theorem Engine.collections_of_assemble (h : Engine.assemble tree provisions = .ok engine) :
    tree.providedCollections provisions = .ok engine.collections := by
  obtain ⟨stages⟩ := Plan.engine_eq_ok h
  -- of the five sorts of files only one touches the collections
  obtain ⟨loaded, hloaded, hkept⟩ := FileTree.addFrom_collectionFile stages.collections
  have hall : engine.collections = provisions.flatMap (·.givenCollections) ++ loaded := by
    calc engine.collections
        = stages.withCollections.collections :=
          FileTree.frame_addFrom (·.collections) (fun _ => rfl) stages.rules
      _ = stages.withRecipes.collections ++ loaded := hkept
      _ = stages.withPackages.collections ++ loaded := by
          rw [FileTree.frame_addFrom (·.collections) (fun _ => rfl) stages.recipes]
      _ = stages.withCatalogs.collections ++ loaded := by
          rw [FileTree.frame_packageFolders (·.collections) (fun _ _ _ => rfl) stages.packages]
      _ = (Plan.ofProvisions provisions).given.collections ++ loaded := by
          rw [FileTree.frame_addFrom (·.collections) (fun _ => rfl) stages.catalogs]
      _ = provisions.flatMap (·.givenCollections) ++ loaded := by
          rw [Plan.collections_ofProvisions]
  rw [FileTree.providedCollections, ← Plan.collectionFile_ofProvisions, hloaded, hall]
  rfl

end

/-! ## Collections of one name -/

/-- The first of some collections that has the name. -/
def FirstNamed (name : String) (collections : List Collection) (first : Collection) : Prop :=
  ∃ before after, collections = before ++ first :: after ∧ first.key = name ∧
    ∀ c ∈ before, c.key ≠ name

/-- The last of some collections that has the name. -/
def LastNamed (name : String) (collections : List Collection) (last : Collection) : Prop :=
  ∃ before after, collections = before ++ last :: after ∧ last.key = name ∧
    ∀ c ∈ after, c.key ≠ name

variable {name : String} {collections : List Collection} {first : Collection}

/-- A search by name finds the first of that name. -/
theorem FirstNamed.find? (h : FirstNamed name collections first) :
    collections.find? (·.key == name) = some first := by
  obtain ⟨before, after, rfl, rfl, hbefore⟩ := h
  refine List.find?_eq_some_iff_append.mpr ⟨beq_self_eq_true _, before, after, rfl, fun c hc => ?_⟩
  rw [Bool.not_eq_true', beq_eq_false_iff_ne]
  exact hbefore c hc

namespace Scene

/-- A block asks for the tags of the first collection of the name. -/
theorem askedClause?_of_firstNamed (scene : Scene) {host : Host} {block : GenerateBlock}
    (hhost : scene.host = some host) (hname : block.collection = some name)
    (hfirst : FirstNamed name host.collections first) :
    scene.askedClause? block = some (block.clause.merge (.ofTags first.tags)) := by
  simp only [askedClause?, hname, namedCollection?, hhost, Option.bind_some, hfirst.find?,
    Option.map_some]

/-- A package is drawn from the first collection of the name, whether it lists recipes or not. -/
theorem chooseCollection_of_firstNamed (package : String) {visible : List Collection}
    (hfirst : FirstNamed name visible first) :
    chooseCollection package (some name) visible
      = if first.hasRecipes then .ok first
        else .error (.collectionWithoutRecipes (package ++ "/" ++ name)
          (collectionKeys (visible.filter (·.hasRecipes)))) := by
  simp only [chooseCollection, hfirst.find?]

end Scene

/-- Clauses that are narrowed by tags differ if the tags do. -/
theorem Clause.merge_ofTags_inj {clause : Clause} {a b : List String} :
    clause.merge (.ofTags a) = clause.merge (.ofTags b) ↔ a = b := by
  constructor
  · intro h
    exact List.append_cancel_left (congrArg Clause.tags h)
  · rintro rfl
    rfl

namespace Engine

/-- **The first collection counts.** Let an engine be assembled from provisions. In the run of any
call, a block that narrows a catalog by a collection asks for the tags of the first provided one of
its name; so a later one decides only if it has the same tags. And a block that draws from a
collection of a package draws from the first of its name that the package sees, or fails if that one
lists no recipes. -/
theorem first_collection_counts (tree : FileTree) (provisions : List Provision) (engine : Engine)
    (hassemble : Engine.assemble tree provisions = .ok engine) :
    ∃ provided, tree.providedCollections provisions = .ok provided ∧
      ∀ run call parts draws (block : GenerateBlock) name, block.collection = some name →
        (∀ key first, block.source = .catalog → block.key = some key →
          FirstNamed name provided first →
          (engine.scene run call).attempt parts draws (.generate block)
              = (engine.scene run call).selectFromCatalog parts draws
                  (block.request key (block.clause.merge (.ofTags first.tags))) ∧
            ∀ other : Collection, (engine.scene run call).request? (.generate block)
                = some (block.request key (block.clause.merge (.ofTags other.tags))) ↔
              first.tags = other.tags) ∧
        (∀ package first, block.source = .package package →
          FirstNamed name (provided.filter (·.visibleFrom package)) first →
          (engine.scene run call).attempt parts draws (.generate block)
            = if first.hasRecipes then
                ((engine.scene run call).runRecipe draws (Scene.chooseRecipe draws first)).map some
              else .error (.collectionWithoutRecipes (package ++ "/" ++ name)
                (Scene.collectionKeys
                  ((provided.filter (·.visibleFrom package)).filter (·.hasRecipes))))) := by
  refine ⟨engine.collections, collections_of_assemble hassemble,
    fun run call parts draws block name hname => ⟨?_, ?_⟩⟩
  · intro key first hsource hkey hfirst
    have hclause := Scene.askedClause?_of_firstNamed (engine.scene run call) rfl hname hfirst
    have hrequest : (engine.scene run call).request? (.generate block)
        = some (block.request key (block.clause.merge (.ofTags first.tags))) := by
      simp only [Scene.request?, hsource, hkey, hclause, Option.map_some]
    refine ⟨Scene.attempt_of_request? hrequest, fun other => ?_⟩
    rw [hrequest, Option.some_inj, ← Clause.merge_ofTags_inj]
    constructor
    · intro h
      exact congrArg CatalogRequest.clause h
    · intro h
      rw [h]
  · intro package first hsource hfirst
    have hchoice := Scene.chooseCollection_of_firstNamed package hfirst
    have hgenerate : (engine.scene run call).attempt parts draws (.generate block)
        = ((engine.scene run call).generateFromPackage draws package (some name)).map some := by
      simp only [Scene.attempt, Scene.attemptGenerate, hsource, hname]
    have hhost : (engine.scene run call).host = some (engine.host run) := rfl
    have hcollections : (engine.host run).collections = engine.collections := rfl
    rw [hgenerate, Scene.generateFromPackage, hhost]
    simp only [hcollections, hchoice]
    cases first.hasRecipes <;> rfl

end Engine

/-! ## A jeweller

Gems are to be red, and then they are to be green. The shop still sells the red one, and praises
it. -/

namespace Jeweller

def ruby : Item := { text := .ofPairs [("en", "ruby")], tags := .ofList ["red"] }

def jade : Item := { text := .ofPairs [("en", "jade")], tags := .ofList ["green"] }

def red : Collection := { key := "gem", tags := ["red"], recipes := ["fiery"] }

def green : Collection := { key := "gem", tags := ["green"], recipes := ["cool"] }

def sale : GenerateBlock :=
  { source := .catalog, key := some "gems", collection := some "gem", bindAs := some "Gem" }

def praise : GenerateBlock := { source := .package "shop", collection := some "gem" }

def recipes : List Recipe :=
  [⟨"sale", [.generate sale]⟩, ⟨"praise", [.generate praise]⟩,
    ⟨"fiery", [.literal (.ofPairs [("en", "fiery")]) {}]⟩,
    ⟨"cool", [.literal (.ofPairs [("en", "cool")]) {}]⟩]

def provisions : List Provision :=
  [.catalog "gems" ⟨[ruby, jade]⟩, .collections [red], .collections [green], .recipes recipes,
    .maxDepth 1]

def engine : Engine where
  catalogs := .ofPairs [("gems", ⟨[ruby, jade]⟩)]
  recipes := .ofPairs (recipes.map fun r => (r.id, r))
  collections := [red, green]
  maxDepth := some 1

def request : Request := { locale := "en" }

def result : Composition := ⟨"ruby", ⟨[("Gem", .item ruby)], by decide⟩⟩

def scene : Scene := engine.scene engine.run (Engine.outermost "sale" request)

theorem assembled : Engine.assemble {} provisions = .ok engine := rfl

theorem provided : FileTree.providedCollections {} provisions = .ok [red, green] := rfl

theorem first_gem : FirstNamed "gem" [red, green] red :=
  ⟨[], [green], rfl, rfl, fun _ hc => absurd hc List.not_mem_nil⟩

theorem last_gem : LastNamed "gem" [red, green] green :=
  ⟨[red], [], rfl, rfl, fun _ hc => absurd hc List.not_mem_nil⟩

/-- A red gem is sold and praised by the red recipe, though the last collection is the green one. -/
theorem last_gem_overlooked : Engine.assemble {} provisions = .ok engine ∧
    FileTree.providedCollections {} provisions = .ok [red, green] ∧
    LastNamed "gem" [red, green] green ∧
    engine.generate "sale" request = .ok result ∧ (Clause.ofTags green.tags).admits ruby = false ∧
    LastNamed "gem" ([red, green].filter (·.visibleFrom "shop")) green ∧
    engine.generate "praise" request = .ok ⟨"fiery", .empty⟩ ∧ "fiery" ∉ green.recipes :=
  ⟨assembled, provided, last_gem, rfl, rfl, last_gem, rfl, by decide⟩

theorem first_gem_counts : Engine.assemble {} provisions = .ok engine ∧
    scene.attempt .empty scene.toDraws (.generate sale)
      = scene.selectFromCatalog .empty scene.toDraws (sale.request "gems" (.ofTags ["red"])) ∧
    scene.attempt .empty scene.toDraws (.generate praise)
      = (scene.runRecipe scene.toDraws "fiery").map some := by
  obtain ⟨all, hall, hcounts⟩ := Engine.first_collection_counts {} provisions engine assembled
  obtain rfl : [red, green] = all := Except.ok.inj (provided.symm.trans hall)
  have hsale := hcounts engine.run (Engine.outermost "sale" request) .empty scene.toDraws sale "gem"
    rfl
  have hpraise := hcounts engine.run (Engine.outermost "sale" request) .empty scene.toDraws praise
    "gem" rfl
  exact ⟨assembled, (hsale.1 "gems" red rfl rfl first_gem).1, hpraise.2 "shop" red rfl first_gem⟩

end Jeweller

end TextRecipes
