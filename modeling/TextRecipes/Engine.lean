import TextRecipes.Composition.Run

/-!
# The engine

A library of catalogs, packages, recipes, collections and language rules that runs its recipes by
id. While a recipe runs, the engine is its host, so recipes may run each other. A nesting limit
keeps recipes that run each other in a circle from going on for ever.

Nested runs are counted in levels: `runWithin` is given the number of levels that are still
there, and hands a call for which none is left to `beyond`. With a limit `m` there are `m` levels
below the outermost recipe, and the depth check of the engine refuses whatever lies below them.

Without a limit, recipes in a circle may go on for ever, and then there is no result to speak of.
They are followed for as many levels as there are recipes, which is enough for recipes that do not
run in a circle, and for `spareLevels` more. That number is not part of what an engine is made of,
and the statements about runs hold for every value of it.
-/

namespace TextRecipes

/-- A library of recipes and of everything that they use. -/
structure Engine where
  catalogs : Catalogs := .empty
  /-- The catalogs of each package. -/
  packages : NameMap Catalogs := .empty
  recipes : NameMap Recipe := .empty
  collections : List Collection := []
  rules : Language.Rules := {}
  /-- How many recipes may run around a recipe. -/
  maxDepth : Option Nat := none
  /-- How many levels more than there are recipes are followed if there is no limit. -/
  spareLevels : Nat := 10000
deriving Inhabited

structure Request extends Draws where
  locale : String
  filters : Filters := .empty
  components : Components := .empty
deriving Inhabited

def Request.variant (request : Request) (index : Nat) : Request :=
  { request with toDraws := request.toDraws.forVariant index }

namespace Engine

/-- How many levels of recipes there are below the outermost one. -/
def nestingLimit (engine : Engine) : Nat :=
  engine.maxDepth.getD (engine.recipes.size + engine.spareLevels)

def findRecipe (engine : Engine) (id : String) : Except ComposeError Recipe :=
  match engine.recipes.get? id with
  | some recipe => .ok recipe
  | none => .error (.recipeNotFound id engine.recipes.keys)

/-- The engine as the host of a run; `run` runs the recipes nested in it. -/
def host (engine : Engine) (run : RecipeCall → Except ComposeError String) : Host where
  recipeIds := engine.recipes.keys
  knows := engine.recipes.contains
  run := run
  packageCatalog := fun package key => (engine.packages.get? package).bind (·.get? key)
  packageCatalogKeys := fun package => ((engine.packages.get? package).map (·.keys)).getD []
  collections := engine.collections

def scene (engine : Engine) (run : RecipeCall → Except ComposeError String) (call : RecipeCall) :
    Scene where
  toDraws := call.toDraws
  catalogs := engine.catalogs
  rules := engine.rules
  locale := call.locale
  filters := call.filters
  components := call.components
  host := some (engine.host run)
  depth := call.depth

/-- The composition of a recipe call, without regard to its depth. -/
def composeCall (engine : Engine) (run : RecipeCall → Except ComposeError String)
    (call : RecipeCall) : Except ComposeError Composition :=
  match engine.findRecipe call.id with
  | .error e => .error e
  | .ok recipe => (engine.scene run call).compose recipe.pattern

def exceeds (engine : Engine) (call : RecipeCall) : Bool :=
  engine.maxDepth.any fun limit => decide (limit < call.depth)

def refuse (engine : Engine) (call : RecipeCall) : Except ComposeError String :=
  .error (.tooDeep call.id engine.nestingLimit)

/-- The answer of `run` to a call, unless it lies deeper than the engine allows. -/
def guarded (engine : Engine) (run : RecipeCall → Except ComposeError String)
    (call : RecipeCall) : Except ComposeError String :=
  if engine.exceeds call then engine.refuse call else run call

/-- The text of a recipe call that has `levels` levels left for itself and all nested in it.
Calls for which no level is left go to `beyond`. -/
def runWithin (engine : Engine) (beyond : RecipeCall → Except ComposeError String) :
    (levels : Nat) → RecipeCall → Except ComposeError String
  | 0 => engine.guarded beyond
  | levels + 1 => engine.guarded fun call =>
    (engine.composeCall (engine.runWithin beyond levels) call).map (·.text)

def run (engine : Engine) (call : RecipeCall) : Except ComposeError String :=
  engine.runWithin engine.refuse (engine.nestingLimit + 1) call

def outermost (id : String) (request : Request) : RecipeCall where
  toDraws := request.toDraws
  id := id
  locale := request.locale
  filters := some request.filters
  components := some request.components

/-- The composition of a request with `levels` levels of nested recipes. Calls below them go to
`beyond`. -/
def generateWithin (engine : Engine) (beyond : RecipeCall → Except ComposeError String)
    (levels : Nat) (id : String) (request : Request) : Except ComposeError Composition :=
  engine.composeCall (engine.runWithin beyond levels) (outermost id request)

/-- The composition that a recipe makes for a request. -/
def generate (engine : Engine) (id : String) (request : Request) :
    Except ComposeError Composition :=
  engine.generateWithin engine.refuse engine.nestingLimit id request

/-- The compositions of `count` variants of a request, or the error of the first that fails. -/
def variants (engine : Engine) (id : String) (request : Request) (count : Nat) :
    Except ComposeError (List Composition) :=
  (List.range count).mapM fun i => engine.generate id (request.variant i)

end Engine

end TextRecipes
