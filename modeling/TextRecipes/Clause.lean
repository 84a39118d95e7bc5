import TextRecipes.Item

/-!
# Where clauses

A clause filters catalog items by kinds and tags. An empty list asks for nothing. Merging two
clauses asks for what both ask for: the tag lists are put together, and of the kinds those that
both allow remain. If both restrict the kinds and allow none in common, the merged clause is
marked as conflicting, since an empty list of kinds would let everything pass.
-/

namespace TextRecipes

/-- A filter over catalog items. -/
structure Clause where
  /-- The item has one of these kinds. -/
  kinds : List String := []
  /-- The item has all of these tags. -/
  tags : List String := []
  /-- The item has one of these tags. -/
  anyOfTags : List String := []
  /-- The item has none of these tags. -/
  noneOfTags : List String := []
  /-- No item can match, since the kinds asked for exclude each other. -/
  kindsConflict : Bool := false
deriving DecidableEq, Inhabited

namespace Clause

def all : Clause := {}

def ofTags (tags : List String) : Clause := { tags }

def isEmpty (c : Clause) : Bool :=
  !c.kindsConflict && c.kinds.isEmpty && c.tags.isEmpty && c.anyOfTags.isEmpty
    && c.noneOfTags.isEmpty

/-- Whether one of the wanted names is in the set; if none is wanted, any set will do. -/
def meets (wanted : List String) (present : NameSet) : Bool :=
  wanted.isEmpty || wanted.any present.contains

/-- Whether an item passes the clause. -/
def admits (c : Clause) (item : Item) : Bool :=
  !c.kindsConflict
    && meets c.kinds item.kinds
    && c.tags.all item.tags.contains
    && meets c.anyOfTags item.tags
    && !c.noneOfTags.any item.tags.contains

/-- The kinds that both lists allow, where an empty list allows all. -/
def mergeKinds (a b : List String) : List String :=
  if a.isEmpty then b
  else if b.isEmpty then a
  else a.filter b.contains

/-- The clause that asks for what both clauses ask for. -/
def merge (a b : Clause) : Clause where
  kinds := mergeKinds a.kinds b.kinds
  tags := a.tags ++ b.tags
  anyOfTags := a.anyOfTags ++ b.anyOfTags
  noneOfTags := a.noneOfTags ++ b.noneOfTags
  kindsConflict := a.kindsConflict || b.kindsConflict
    || (!a.kinds.isEmpty && !b.kinds.isEmpty && (mergeKinds a.kinds b.kinds).isEmpty)

/-- The text of one list of a clause; an empty list has none. -/
def listText (name : String) (values : List String) : List String :=
  if values.isEmpty then [] else [name ++ ": [" ++ ", ".intercalate values ++ "]"]

def display (c : Clause) : String :=
  let conflict := if c.kindsConflict then ["kinds: conflicting"] else []
  let lists := listText "kinds" c.kinds ++ listText "tags" c.tags
    ++ listText "any_of_tags" c.anyOfTags ++ listText "none_of_tags" c.noneOfTags
  "\x7b" ++ ", ".intercalate (conflict ++ lists) ++ "\x7d"

end Clause

end TextRecipes
