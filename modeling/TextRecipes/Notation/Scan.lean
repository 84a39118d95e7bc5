import TextRecipes.Notation.Fault

/-!
# Scanning a data text

The small steps of reading: passing over blanks and comments, taking a mark, a word or a name. A
scanner takes characters off the front of a text and leaves the rest, or stops with a fault.
-/

namespace TextRecipes.Notation

/-- Takes something off the front of a text. -/
abbrev Scanner := StateT (List Char) (Except Fault)

def malformed {α : Type} : Scanner α := throw .malformed

/-- The characters that separate without meaning anything. -/
def separates (c : Char) : Bool := c == ' ' || c == '\t' || c == '\n' || c == '\r'

/-- Where in a gap between two symbols a text is. -/
inductive Gap where
  | blank
  /-- In a comment that ends with its line. -/
  | line
  /-- In a comment inside `outer` further ones. -/
  | block (outer : Nat)

/-- What follows the gap. A comment that is not closed is no gap, and neither is a stroke that
begins no comment. -/
def afterGap : Gap → List Char → Option (List Char)
  | .blank, [] => some []
  | .blank, '/' :: '/' :: rest => afterGap .line rest
  | .blank, '/' :: '*' :: rest => afterGap (.block 0) rest
  | .blank, c :: rest =>
    if separates c then afterGap .blank rest
    else if c == '/' then none
    else some (c :: rest)
  | .line, [] => some []
  | .line, c :: rest => if c == '\n' then afterGap .blank rest else afterGap .line rest
  | .block _, [] => none
  | .block outer, '/' :: '*' :: rest => afterGap (.block (outer + 1)) rest
  | .block 0, '*' :: '/' :: rest => afterGap .blank rest
  | .block (outer + 1), '*' :: '/' :: rest => afterGap (.block outer) rest
  | .block outer, _ :: rest => afterGap (.block outer) rest

/-- Passes over blanks and comments. -/
def gap : Scanner Unit := do
  match afterGap .blank (← get) with
  | some rest => set rest
  | none => malformed

/-- Whether the text goes on with `c`. -/
def ahead (c : Char) : Scanner Bool := return (← get).head? == some c

/-- Takes `symbol` if the text goes on with it, and says whether it did. -/
def symbol (symbol : String) : Scanner Bool := do
  let cs ← get
  let length := symbol.toList.length
  if symbol.toList.isPrefixOf cs then
    set (cs.drop length)
    return true
  else
    return false

def expect (s : String) : Scanner Unit := do
  if !(← symbol s) then malformed

/-- Takes `word` if the text goes on with it and it ends there, and says whether it did. -/
def word (word : String) : Scanner Bool := do
  let cs ← get
  let rest := cs.drop word.toList.length
  if word.toList.isPrefixOf cs && !rest.head?.any continuesName then
    set rest
    return true
  else
    return false

/-- Takes a comma with the gaps around it, and says whether there was one. -/
def comma : Scanner Bool := do
  gap
  if ← symbol "," then
    gap
    return true
  else
    return false

/-- A name at the front of a text, and what follows it. A name that goes on with a point or a sign
has to be announced by `r#`. A quoted text may also begin with an r, and is no name; neither is
an r that ends the text. -/
def splitName? : List Char → Option (String × List Char)
  | ['r'] => none
  | 'r' :: '\x22' :: _ => none
  | 'r' :: '#' :: rest =>
    let name := rest.takeWhile continuesRawName
    if name.isEmpty then none else some (String.ofList name, rest.dropWhile continuesRawName)
  | c :: rest =>
    let name := (c :: rest).takeWhile continuesName
    let after := (c :: rest).dropWhile continuesName
    if startsName c && !after.head?.any continuesRawName then some (String.ofList name, after)
    else none
  | [] => none

def name : Scanner String := do
  match splitName? (← get) with
  | some (name, rest) =>
    set rest
    return name
  | none => malformed

/-- Repeats `step` on the entries of a list, which commas separate, up to the symbol that closes
it. The closing symbol is left. A comma may follow the last entry; an entry that no comma sets
apart from the one before it is malformed. -/
def entries {σ : Type} (close : Char) (step : σ → Scanner σ) :
    (bound : Nat) → (separated : Bool) → σ → Scanner σ
  | 0, _, _ => malformed
  | bound + 1, separated, state => do
    gap
    if ← ahead close then return state
    if !separated then malformed
    let state ← step state
    let separated ← comma
    entries close step bound separated state

/-- Repeats `step` on the entries of a list. Each takes at least one character, which bounds
them. -/
def eachEntry {σ : Type} (close : Char) (step : σ → Scanner σ) (state : σ) : Scanner σ := do
  entries close step ((← get).length + 1) true state

end TextRecipes.Notation
