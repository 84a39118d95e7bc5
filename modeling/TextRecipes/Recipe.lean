import TextRecipes.Agreement

/-!
# Recipes

A recipe is a named pattern, an ordered list of blocks. A block selects an item, generates text
by another recipe, stands for a fixed text, puts a preposition before a part, or repeats a part
that was bound earlier.
-/

namespace TextRecipes

/-- What all selecting blocks and literals may ask for besides. -/
structure BlockOptions where
  /-- A failure leaves the block out instead of ending the run. -/
  isOptional : Bool := false
  /-- The block binds its alias and shows no text. -/
  hidden : Bool := false
  /-- The switch that can turn an optional block off. -/
  componentKey : Option String := none
  /-- A literal shows its text only if this alias is bound. -/
  optionalWith : Option String := none
  /-- The earlier selection to agree with. -/
  agreeWith : Option Agreement := none
deriving Inhabited

/-- What the key of a select block names. -/
inductive SelectSource where
  | catalog
  | recipe
deriving DecidableEq, Inhabited

/-- Selects an item of a catalog, or runs a recipe. -/
structure SelectBlock where
  source : SelectSource := .catalog
  key : String
  clause : Clause := {}
  /-- The aliases whose parts must not be selected again. -/
  distinctFrom : List String := []
  /-- The alias that the part is bound to. -/
  bindAs : Option String := none
  /-- The name of the transform of the part's text. -/
  transform : Option String := none
  options : BlockOptions := {}
deriving Inhabited

/-- Where a generate block gets its text from. -/
inductive GenerateSource where
  | recipe
  | catalog
  /-- A recipe chosen from a collection of the package. -/
  | package (name : String)
deriving DecidableEq, Inhabited

/-- Generates text by a recipe, a catalog or a package. -/
structure GenerateBlock where
  source : GenerateSource
  key : Option String := none
  collection : Option String := none
  clause : Clause := {}
  /-- The aliases whose parts must not be selected again. -/
  distinctFrom : List String := []
  /-- The alias that the part is bound to. -/
  bindAs : Option String := none
  /-- The name of the transform of the part's text. -/
  transform : Option String := none
  options : BlockOptions := {}
deriving Inhabited

/-- What a preposition stands before. -/
inductive PhraseTarget where
  /-- The part bound to an alias. -/
  | bound (name : String)
  /-- A part selected in place. -/
  | select (block : SelectBlock)
deriving Inhabited

/-- One instruction of a pattern. -/
inductive Block where
  | select (block : SelectBlock)
  | generate (block : GenerateBlock)
  /-- A fixed text per locale. -/
  | literal (text : LocalizedText) (options : BlockOptions)
  /-- A preposition and what it stands before. -/
  | phrase (preposition : String) (target : PhraseTarget)
  /-- The text of the part bound to an alias. -/
  | reference (name : String)
deriving Inhabited

/-- The options of a block. Phrases and references have none. -/
def Block.options? : Block → Option BlockOptions
  | select b => some b.options
  | generate b => some b.options
  | literal _ options => some options
  | phrase _ _ => none
  | reference _ => none

abbrev Pattern := List Block

structure Recipe where
  id : String
  pattern : Pattern
deriving Inhabited

end TextRecipes
