import TextRecipes.Gram
import TextRecipes.Locale
import TextRecipes.NameSet
import TextRecipes.Random.Hash

/-!
# Catalog items

An item is a candidate for a place in a text: its text per locale, tags and kinds to filter by, a
weight for the draw, and grammatical values. Two items count as the same if they have the same
identity, the hash of a written form: of the explicit id if the item has one, else of its texts,
tags and kinds in order.
-/

namespace TextRecipes

/-- The identity of a part, by which repetitions are recognised. -/
structure Identity where
  /-- The hash of the part's written form. -/
  hash : UInt64
deriving DecidableEq, Inhabited

def Identity.ofForm (s : String) : Identity := ⟨Random.hash s⟩

/-- A candidate text of a catalog. -/
structure Item where
  /-- The explicit identity, if there is one. -/
  id : Option String := none
  /-- The text per locale. -/
  text : LocalizedText
  tags : NameSet := .empty
  kinds : NameSet := .empty
  /-- How often the item is drawn, relative to others. -/
  weight : Float := 1
  /-- Grammatical values by name. -/
  gram : GramTable := []
deriving Inhabited

namespace Item

/-- The weight that the draw uses: a weight that is not a positive finite number counts as one. -/
def effectiveWeight (item : Item) : Float :=
  if item.weight.isFinite && decide (0 < item.weight) then item.weight else 1

/-- Stands between the parts of a written form. -/
def separator : String := "\u001f"

/-- The names of a set in order, set apart by separators. -/
def nameList (names : NameSet) : String := separator.intercalate names.toList

/-- The texts of an item with their locales, each closed by a separator. -/
def textList (text : LocalizedText) : String :=
  String.join (text.entries.map fun e => e.1 ++ "=" ++ e.2 ++ separator)

def form (item : Item) : String :=
  match item.id with
  | some id => "id:" ++ id
  | none =>
    "text:" ++ textList item.text ++ "|tags:" ++ nameList item.tags
      ++ "|kinds:" ++ nameList item.kinds

def identity (item : Item) : Identity := .ofForm item.form

end Item

structure Catalog where
  items : List Item
deriving Inhabited

abbrev Catalogs := NameMap Catalog

end TextRecipes
