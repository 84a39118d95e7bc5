/-!
# Collections

A collection names a group of recipes, and tags that narrow a catalog. One that belongs to a
package is seen from that package only; one without a package is seen from everywhere.
-/

namespace TextRecipes

/-- A named group of recipes. -/
structure Collection where
  key : String
  /-- The package it belongs to. -/
  package : Option String := none
  /-- Tags asked for when the collection is used with a catalog. -/
  tags : List String := []
  /-- The ids of the recipes to choose from. -/
  recipes : List String := []
deriving DecidableEq, Inhabited

namespace Collection

def visibleFrom (c : Collection) (package : String) : Bool :=
  match c.package with
  | none => true
  | some p => p == package

def hasRecipes (c : Collection) : Bool := !c.recipes.isEmpty

end Collection

end TextRecipes
