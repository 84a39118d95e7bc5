import TextRecipes.Collection
import TextRecipes.Composition.Error
import TextRecipes.Language.Rules
import TextRecipes.Seed

/-!
# What a run reads

A pattern is run on a scene: catalogs, language rules, a locale, a seed, and what the caller asks
for besides. Everything beyond that, such as other recipes, the catalogs of packages and the
collections, comes from the host of the run, if it has one.

The depths of calls and scenes have no greatest value here. A machine counts them in a word, which
would overflow at the last number that it holds; but a run counts from zero, one for each recipe
inside another, and never comes there.
-/

namespace TextRecipes

/-- Clauses by catalog key: each narrows all selections from its catalog. -/
abbrev Filters := NameMap Clause

/-- Switches by component key: `false` turns the optional blocks with this key off. -/
abbrev Components := NameMap Bool

/-- The request to run a recipe inside another. -/
structure RecipeCall extends Draws where
  id : String
  locale : String
  filters : Option Filters := none
  components : Option Components := none
  /-- How many recipes are running around it. -/
  depth : Nat := 0
deriving Inhabited

/-- What a run may ask of its surroundings. -/
structure Host where
  /-- The ids of all recipes, in order. -/
  recipeIds : List String
  /-- Whether there is a recipe with an id. -/
  knows : String → Bool := fun id => recipeIds.contains id
  /-- The text of a recipe. -/
  run : RecipeCall → Except ComposeError String
  /-- The catalog of a package under a key. -/
  packageCatalog : String → String → Option Catalog
  /-- The keys of a package's catalogs, in order. -/
  packageCatalogKeys : String → List String
  collections : List Collection

/-- What a pattern is run on. -/
structure Scene extends Draws where
  catalogs : Catalogs
  rules : Language.Rules
  locale : String
  filters : Option Filters := none
  components : Option Components := none
  host : Option Host := none
  /-- How many recipes are running around the pattern. -/
  depth : Nat := 0

namespace Scene

/-- The package and the catalog of a key such as `fantasy:names`; a key without a colon belongs
to no package. -/
def packageKey? (key : String) : Option (String × String) :=
  match key.toList.dropWhile (· != ':') with
  | [] => none
  | _ :: rest => some (String.ofList (key.toList.takeWhile (· != ':')), String.ofList rest)

def findCatalog (scene : Scene) (key : String) : Except ComposeError Catalog :=
  match packageKey? key with
  | none =>
    match scene.catalogs.get? key with
    | some catalog => .ok catalog
    | none => .error (.catalogNotFound key scene.catalogs.keys)
  | some (package, name) =>
    match scene.host with
    | none => .error (.missingHost .packageCatalogs)
    | some host =>
      match host.packageCatalog package name with
      | some catalog => .ok catalog
      | none =>
        .error (.catalogNotFound key
          ((host.packageCatalogKeys package).map fun k => package ++ ":" ++ k))

/-- A clause for the catalog at `key`, narrowed by what the caller asks for. -/
def narrow (scene : Scene) (key : String) (clause : Clause) : Clause :=
  match scene.filters.bind (·.get? key) with
  | some asked => clause.merge asked
  | none => clause

end Scene

end TextRecipes
