import TextRecipes.Decimal.Text
import TextRecipes.NameMap

/-!
# Grammatical values

What an item says about its grammar (gender, number, forms) is a table of values under names. A
value may again be such a table, and a dotted path such as `forms.gender` leads through tables
only. Simple values have a text by which rules refer to them.
-/

namespace TextRecipes

inductive Gram where
  | bool (b : Bool)
  | int (n : Int)
  | float (x : Float)
  | text (s : String)
  | list (values : List Gram)
  | table (entries : List (String × Gram))
deriving Inhabited

/-- A table of grammatical values, in order of the names. -/
abbrev GramTable := List (String × Gram)

namespace Gram

/-- The text of a value that rules can refer to. Lists and tables have none. -/
def key? : Gram → Option String
  | bool b => some (if b then "true" else "false")
  | int n => some (toString n)
  | float x => some (Decimal.write x)
  | text s => some s
  | list _ => none
  | table _ => none

/-- The names of a dotted path. An empty path is one empty name. -/
def pathNames (path : String) : List String := (path.toList.splitOn '.').map String.ofList

/-- The value that a list of names leads to. All but the last name must be those of tables. -/
def follow (entries : GramTable) : List String → Option Gram
  | [] => none
  | [name] => entries.lookup name
  | name :: rest =>
    match entries.lookup name with
    | some (table inner) => follow inner rest
    | _ => none

def lookupPath (entries : GramTable) (path : String) : Option Gram :=
  follow entries (pathNames path)

end Gram

end TextRecipes
