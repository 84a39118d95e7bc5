import TextRecipes.Clause

/-!
# Errors of a run

Why a run of a pattern fails. Each cause carries what its message says; the path of blocks that
leads to it is wrapped around it, one block for each pattern that was running.
-/

namespace TextRecipes

/-- What a run can need from its host. -/
inductive Capability where
  | runRecipes
  | packageCatalogs
  | collections
deriving DecidableEq, Inhabited

def Capability.name : Capability → String
  | runRecipes => "execute_recipe"
  | packageCatalogs => "package_catalog"
  | collections => "collections"

/-- Why a run fails. -/
inductive ComposeError where
  /-- The catalog has no items. -/
  | catalogEmpty (catalog : String)
  /-- The clause admits no item of the catalog. -/
  | noMatch (catalog : String) (clause : Clause) (items : Nat)
  /-- All draws gave a part that one of the aliases is bound to. -/
  | allExcluded (catalog : String) (clause : Clause) (attempts : Nat) (aliases : List String)
  | catalogNotFound (key : String) (available : List String)
  | recipeNotFound (id : String) (available : List String)
  | collectionNotFound (query : String) (available : List String)
  /-- The collection that was asked for names no recipe. -/
  | collectionWithoutRecipes (query : String) (available : List String)
  /-- The run has no host. -/
  | missingHost (needed : Capability)
  | malformedBlock (reason : String)
  /-- The recipe would run deeper inside others than the limit allows. -/
  | tooDeep (recipe : String) (limit : Nat)
  /-- The failure of the block at `index`. -/
  | inBlock (index : Nat) (cause : ComposeError)
deriving DecidableEq, Inhabited

namespace ComposeError

/-- The cause without the blocks around it. -/
def innermost : ComposeError → ComposeError
  | inBlock _ cause => cause.innermost
  | e => e

/-- The indices of the blocks around the cause, outermost first. -/
def path : ComposeError → List Nat
  | inBlock index cause => index :: cause.path
  | _ => []

/-- The names that a message offers instead of the one that was not found. -/
def offered (available : List String) : String :=
  if available.isEmpty then "(none)" else ", ".intercalate available

def message : ComposeError → String
  | catalogEmpty catalog => "catalog '" ++ catalog ++ "' is empty"
  | noMatch catalog clause items =>
    "no item in catalog '" ++ catalog ++ "' matches " ++ clause.display ++ " (" ++ toString items
      ++ " items checked)"
  | allExcluded catalog clause attempts aliases =>
    "no item in catalog '" ++ catalog ++ "' matching " ++ clause.display ++ " differs from ["
      ++ ", ".intercalate aliases ++ "] after " ++ toString attempts ++ " attempts"
  | catalogNotFound key available =>
    "catalog '" ++ key ++ "' not found (available: " ++ offered available ++ ")"
  | recipeNotFound id available =>
    "recipe '" ++ id ++ "' not found (available: " ++ offered available ++ ")"
  | collectionNotFound query available =>
    "collection '" ++ query ++ "' not found (available: " ++ offered available ++ ")"
  | collectionWithoutRecipes query available =>
    "collection '" ++ query ++ "' lists no recipes (collections with recipes: "
      ++ offered available ++ ")"
  | missingHost needed => "a generation context providing " ++ needed.name ++ " is required"
  | malformedBlock reason => "malformed block: " ++ reason
  | tooDeep recipe limit =>
    "recipe '" ++ recipe ++ "' exceeds the maximum nesting depth of " ++ toString limit
  | inBlock index cause => "block " ++ toString index ++ ": " ++ cause.message

end ComposeError

end TextRecipes
