import TextRecipes.Gram
import TextRecipes.Notation.Number

/-!
# Values of any sort

Grammatical values may be of any sort, and so may fields that no record knows, which are passed
over. Values nest, and there is a bound to it: a reader is given the room that is left, each value
with parts takes one for itself and one for its parts.
-/

namespace TextRecipes.Notation

/-- A value whose sort shows only when it is read. -/
inductive Value where
  | unit
  | none
  | bool (b : Bool)
  | whole (n : Int)
  | fraction (x : Float)
  | char (c : Char)
  | text (s : String)
  | some (value : Value)
  | list (values : List Value)
  | table (entries : List (Value × Value))
deriving Inhabited

namespace Value

/-- Takes a number: whole if it can be, else a fraction. -/
def number : Scanner Value := do
  let cs ← get
  match if looksFractional cs then Option.none else splitWhole? cs with
  | Option.some (n, rest) =>
    set rest
    return whole n
  | Option.none => return fraction (← Notation.fraction)

/-- Takes the values of a list up to the symbol that closes it. -/
def listBody (close : Char) (part : Scanner Value) : Scanner Value := do
  let values ← eachEntry close (fun values => return (← part) :: values) []
  return list values.reverse

/-- Takes the entries of a table up to the symbol that closes it. -/
def tableBody (close : Char) (key part : Scanner Value) : Scanner Value := do
  let entry := fun entries => do
    let k ← key
    gap
    expect ":"
    gap
    return (k, ← part) :: entries
  let entries ← eachEntry close entry []
  return table entries.reverse

/-- Whether what stands in round brackets at the front of a text are fields with names. -/
def holdsFields : Scanner Bool := do
  let start ← get
  expect "("
  gap
  let fields ← do
    match splitName? (← get) with
    | Option.none => pure false
    | Option.some (_, rest) =>
      set rest
      gap
      match ← get with
      | [] => malformed
      | c :: _ => pure (c == ':')
  set start
  return fields

/-- Takes what stands in round brackets: a table if it holds fields, else a list. -/
def group (part : Scanner Value) : Scanner Value := do
  let fields ← holdsFields
  expect "("
  let value ← if fields then tableBody ')' (return text (← name)) part else listBody ')' part
  expect ")"
  return value

/-- Takes a value. `brackets` says whether it may have parts, `inside` takes the value inside
`Some`, and `part` takes a part. -/
def one (brackets : Bool) (inside part : Scanner Value) : Scanner Value := do
  let guarded := fun (s : Scanner Value) => if brackets then s else malformed
  if ← word "true" then return bool true
  else if ← word "false" then return bool false
  else if ← word "Some" then
    gap
    if ← symbol "(" then
      gap
      let value ← inside
      let _ ← comma
      expect ")"
      return some value
    else return some (← inside)
  else if ← word "None" then return none
  else if ← symbol "()" then return unit
  else if ← word "inf" then return fraction (1 / 0)
  else if ← word "-inf" then return fraction (-1 / 0)
  else if ← word "NaN" then return fraction (0 / 0)
  else
    match splitName? (← get) with
    | Option.some (_, rest) =>
      set rest
      gap
      if ← ahead '(' then guarded (group part) else return unit
    | Option.none =>
      match (← get).head? with
      | Option.none => malformed
      | Option.some c =>
        if c == '(' then guarded (group part)
        else if c == '[' then guarded do
          expect "["
          let value ← listBody ']' part
          expect "]"
          return value
        else if c == '\x7b' then guarded do
          expect "\x7b"
          let value ← tableBody '\x7d' part part
          expect "\x7d"
          return value
        else if c.isDigit || c == '+' || c == '-' then number
        else if c == '.' then return fraction (← Notation.fraction)
        else if c == '\x22' || c == 'r' then return text (← quoted)
        else if c == '\x27' then return char (← quotedChar)
        else malformed

/-- Takes a value, with room for values to nest. Without room a value has no parts, and with room
for one its brackets are empty. -/
def scan : (room : Nat) → Scanner Value
  | 0 => one false malformed malformed
  | 1 => one true (scan 0) malformed
  | room + 2 => one true (scan (room + 1)) (scan room)

def skip (room : Nat) : Scanner Unit := do
  let _ ← scan room

end Value

/-! ## Grammatical values -/

mutual

/-- The grammatical value that a value stands for. Single characters, nothing at all and optional
values are no grammatical values; a whole number beyond 64 signed bits is a fraction. -/
def gram? : Value → Option Gram
  | .bool b => some (.bool b)
  | .whole n => some (if n < signedLimit then .int n else .float (Float.ofInt n))
  | .fraction x => some (.float x)
  | .text s => some (.text s)
  | .list values => (gramList? values).map .list
  | .table entries => (gramTable? entries).map fun es => .table (Entries.ofPairs es)
  | .unit => none
  | .none => none
  | .char _ => none
  | .some _ => none

def gramList? : List Value → Option (List Gram)
  | [] => some []
  | v :: rest => do return (← gram? v) :: (← gramList? rest)

def gramTable? : List (Value × Value) → Option (List (String × Gram))
  | [] => some []
  | (.text k, v) :: rest => do return (k, ← gram? v) :: (← gramTable? rest)
  | _ => none

end

end TextRecipes.Notation
