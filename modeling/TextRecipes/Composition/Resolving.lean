import TextRecipes.Agreeing
import TextRecipes.Composition.Scene
import TextRecipes.Recipe
import TextRecipes.Selection

/-!
# Resolving a block to a part

A select or generate block resolves to an item of a catalog or to the text of a recipe, or it is
left out. It is left out if the agreement says so, or if it is optional and fails; blocks that
generate from a package must give text and are never left out.

What a block comes to before its failure may leave it out is its attempt (`attemptSelect`,
`attemptGenerate`).
-/

namespace TextRecipes

/-- A selection from a catalog, as a block asks for it. -/
structure CatalogRequest where
  key : String
  clause : Clause
  distinctFrom : List String
  agreement : Option Agreement

def SelectBlock.request (block : SelectBlock) : CatalogRequest where
  key := block.key
  clause := block.clause
  distinctFrom := block.distinctFrom
  agreement := block.options.agreeWith

def GenerateBlock.request (block : GenerateBlock) (key : String) (clause : Clause) :
    CatalogRequest where
  key := key
  clause := clause
  distinctFrom := block.distinctFrom
  agreement := block.options.agreeWith

/-- Whether a generate block can be left out at all. It cannot if it lacks its key or generates
from a package. -/
def GenerateBlock.canBeLeftOut (block : GenerateBlock) : Bool :=
  match block.source with
  | .recipe => block.key.isSome
  | .catalog => block.key.isSome
  | .package _ => false

namespace Scene

/-- The identities of the parts bound to the given aliases. Aliases without a part count for
nothing. -/
def boundIdentities (parts : Parts) (aliases : List String) : List Identity :=
  (aliases.filterMap fun name => (parts.get? name).map Part.identity).eraseDups

def selectionError (request : CatalogRequest) (clause : Clause) : SelectionError → ComposeError
  | .noItems => .catalogEmpty request.key
  | .noMatch _ items => .noMatch request.key clause items
  | .allExcluded attempts _ => .allExcluded request.key clause attempts request.distinctFrom

/-- An item of the catalog that `clause` admits and that differs from the parts of the request's
aliases. -/
def pick (catalog : Catalog) (request : CatalogRequest) (parts : Parts) (draws : Draws)
    (clause : Clause) : Except ComposeError Part :=
  match Selection.select catalog.items
      { clause, excluded := boundIdentities parts request.distinctFrom, toDraws := draws } with
  | .ok candidate => .ok (.item candidate.1)
  | .error e => .error (selectionError request clause e)

/-- The part that an agreeing selection ends with: `base` narrowed by the agreement, and if
nothing is found what the fallback says. -/
def pickAgreeing (catalog : Catalog) (request : CatalogRequest) (parts : Parts) (draws : Draws)
    (base : Clause) (agreement : Agreement) : Except ComposeError (Option Part) :=
  match pick catalog request parts draws (base.merge (agreement.clause parts)) with
  | .ok part => .ok (some part)
  | .error e =>
    match agreement.fallback with
    | none => .error e
    | some .fail => .error e
    | some .skip => .ok none
    | some (.retryWith clause) =>
      (pick catalog request parts draws.again (base.merge clause)).map some

def selectFromCatalog (scene : Scene) (parts : Parts) (draws : Draws)
    (request : CatalogRequest) : Except ComposeError (Option Part) :=
  match scene.findCatalog request.key with
  | .error e => .error e
  | .ok catalog =>
    let base := scene.narrow request.key request.clause
    match request.agreement with
    | none => (pick catalog request parts draws base).map some
    | some agreement => pickAgreeing catalog request parts draws base agreement

/-- The call that runs a recipe inside the scene: one level deeper, with the same locale and the
same filters and switches. -/
def nestedCall (scene : Scene) (draws : Draws) (id : String) : RecipeCall where
  toDraws := draws
  id := id
  locale := scene.locale
  filters := scene.filters
  components := scene.components
  depth := scene.depth + 1

def runRecipe (scene : Scene) (draws : Draws) (id : String) : Except ComposeError Part :=
  match scene.host with
  | none => .error (.missingHost .runRecipes)
  | some host =>
    if host.knows id then
      match host.run (scene.nestedCall draws id) with
      | .ok text => .ok (.generated ⟨text, scene.locale, id⟩)
      | .error e => .error e
    else .error (.recipeNotFound id host.recipeIds)

def collectionKeys (collections : List Collection) : List String := collections.map (·.key)

/-- The collection that a block asks for among those visible from its package: the first with the
name, which must list recipes, or without a name the first that lists recipes. -/
def chooseCollection (package : String) (name : Option String) (visible : List Collection) :
    Except ComposeError Collection :=
  match name with
  | some name =>
    match visible.find? (·.key == name) with
    | none => .error (.collectionNotFound (package ++ "/" ++ name) (collectionKeys visible))
    | some found =>
      if found.hasRecipes then .ok found
      else
        .error (.collectionWithoutRecipes (package ++ "/" ++ name)
          (collectionKeys (visible.filter (·.hasRecipes))))
  | none =>
    match visible.find? (·.hasRecipes) with
    | some found => .ok found
    | none => .error (.collectionNotFound (package ++ "/*") (collectionKeys visible))

def chooseRecipe (draws : Draws) (chosen : Collection) : String :=
  chosen.recipes.getD (draws.index chosen.recipes.length) ""

/-- The text of a recipe that is drawn from a collection visible from the package. -/
def generateFromPackage (scene : Scene) (draws : Draws) (package : String)
    (collection : Option String) : Except ComposeError Part :=
  match scene.host with
  | none => .error (.missingHost .collections)
  | some host =>
    match chooseCollection package collection
        (host.collections.filter (·.visibleFrom package)) with
    | .error e => .error e
    | .ok chosen => scene.runRecipe draws (chooseRecipe draws chosen)

/-- The clause of a generate block together with the tags of the collection that it names. -/
def collectionClause (scene : Scene) (block : GenerateBlock) : Except ComposeError Clause :=
  match block.collection with
  | none => .ok block.clause
  | some name =>
    match scene.host with
    | none => .error (.missingHost .collections)
    | some host =>
      match host.collections.find? (·.key == name) with
      | some collection => .ok (block.clause.merge (.ofTags collection.tags))
      | none => .error (.collectionNotFound name (collectionKeys host.collections))

/-- An optional block that fails is left out. -/
def leaveOut (options : BlockOptions) (resolved : Except ComposeError (Option Part)) :
    Except ComposeError (Option Part) :=
  match resolved with
  | .ok part => .ok part
  | .error e => if options.isOptional then .ok none else .error e

/-- What a select block comes to if failures leave nothing out. -/
def attemptSelect (scene : Scene) (parts : Parts) (draws : Draws) (block : SelectBlock) :
    Except ComposeError (Option Part) :=
  match block.source with
  | .catalog => scene.selectFromCatalog parts draws block.request
  | .recipe => (scene.runRecipe draws block.key).map some

def resolveSelect (scene : Scene) (parts : Parts) (draws : Draws) (block : SelectBlock) :
    Except ComposeError (Option Part) :=
  leaveOut block.options (scene.attemptSelect parts draws block)

/-- The part that a generate block with a key resolves to when it selects from a catalog. -/
def generateFromCatalog (scene : Scene) (parts : Parts) (draws : Draws)
    (block : GenerateBlock) (key : String) : Except ComposeError (Option Part) :=
  match scene.collectionClause block with
  | .error e => .error e
  | .ok clause => scene.selectFromCatalog parts draws (block.request key clause)

/-- A block that lacks the key that its source needs. -/
def keyMissing (source : String) : ComposeError :=
  .malformedBlock ("generate from " ++ source ++ " needs a key")

def attemptGenerate (scene : Scene) (parts : Parts) (draws : Draws) (block : GenerateBlock) :
    Except ComposeError (Option Part) :=
  match block.source, block.key with
  | .recipe, some key => (scene.runRecipe draws key).map some
  | .recipe, none => .error (keyMissing "Recipe")
  | .catalog, some key => scene.generateFromCatalog parts draws block key
  | .catalog, none => .error (keyMissing "Catalog")
  | .package name, _ => (scene.generateFromPackage draws name block.collection).map some

def resolveGenerate (scene : Scene) (parts : Parts) (draws : Draws) (block : GenerateBlock) :
    Except ComposeError (Option Part) :=
  let attempt := scene.attemptGenerate parts draws block
  if block.canBeLeftOut then leaveOut block.options attempt else attempt

end Scene

end TextRecipes
