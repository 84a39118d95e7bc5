/-!
# Faults of data texts

What can be wrong with a data text. Three faults concern the shape of the data and say which name
they are about; every other fault, of the notation itself or of a value of the wrong sort, is
just malformed.
-/

namespace TextRecipes.Notation

inductive Fault where
  | malformed
  /-- The record ended without a field that it must have. -/
  | missingField (field record : String)
  /-- The record has a field twice. -/
  | repeatedField (field record : String)
  /-- The variant is none of those that the choice allows. -/
  | unknownVariant (variant choice : String) (allowed : List String)
deriving DecidableEq, Inhabited

def startsName (c : Char) : Bool := c.isAlpha || c == '_'

def continuesName (c : Char) : Bool := c.isAlphanum || c == '_'

/-- A name that is announced as such may also contain points and signs. -/
def continuesRawName (c : Char) : Bool :=
  continuesName c || c == '.' || c == '+' || c == '-'

/-- A name as messages quote it. One that would not be read as a plain name is announced. -/
def quoteName (name : String) : String :=
  let plain := name.toList.head?.any startsName && name.toList.all continuesName
  "\u0060" ++ (if plain then name else "r#" ++ name) ++ "\u0060"

/-- The variants that a choice allows, as messages list them. -/
def offeredVariants : List String → String
  | [] => "there are no variants"
  | [a] => "expected " ++ quoteName a ++ " instead"
  | [a, b] => "expected either " ++ quoteName a ++ " or " ++ quoteName b ++ " instead"
  | names => "expected one of " ++ ", ".intercalate (names.map quoteName) ++ " instead"

/-- The message of a fault that concerns the shape of the data. -/
def Fault.message? : Fault → Option String
  | malformed => none
  | missingField field record =>
    some ("Unexpected missing field " ++ quoteName field ++ " in " ++ quoteName record)
  | repeatedField field record =>
    some ("Unexpected duplicate field " ++ quoteName field ++ " in " ++ quoteName record)
  | unknownVariant variant choice allowed =>
    some ("Unexpected variant named " ++ quoteName variant ++ "in enum " ++ quoteName choice
      ++ ", " ++ offeredVariants allowed)

end TextRecipes.Notation
