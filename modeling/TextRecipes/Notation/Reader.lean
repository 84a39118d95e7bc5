import TextRecipes.NameMap
import TextRecipes.Notation.Value

/-!
# Readers

A reader takes a value of a known type off a text. Which notation it accepts follows from the type:
lists in square brackets, tables in braces, records in round brackets with an optional name in
front, choices by the name of a variant, and optional values with or without `Some`. Records may
have fields that the type does not know; they are passed over.

Like values of any sort, the values that a reader takes may nest only so far, and a reader is given
the room that is left.
-/

namespace TextRecipes.Notation

/-- Takes a value of type `α`, with room for values to nest. -/
abbrev Reader (α : Type) := (room : Nat) → Scanner α

namespace Reader

variable {α β σ : Type}

/-- Reads one level further in. -/
def inside (reader : Reader α) : Reader α
  | 0 => malformed
  | room + 1 => reader room

def bool : Reader Bool := fun _ => do
  if ← word "true" then return true
  else if ← word "false" then return false
  else malformed

def text : Reader String := fun _ => quoted

def float : Reader Float := fun _ => fraction

def list (entry : Reader α) : Reader (List α) := fun room => do
  expect "["
  let body : Reader (List α) := fun room =>
    eachEntry ']' (fun values => return (← entry.inside room) :: values) []
  let values ← body.inside room
  expect "]"
  return values.reverse

/-- The entries of a table, in the order in which they are written. -/
def pairs (entry : Reader α) : Reader (List (String × α)) := fun room => do
  expect "\x7b"
  let body : Reader (List (String × α)) := fun room =>
    let pair := fun values => do
      let key ← text.inside room
      gap
      expect ":"
      gap
      return (key, ← entry.inside room) :: values
    eachEntry '\x7d' pair []
  let values ← body.inside room
  expect "\x7d"
  return values.reverse

/-- A table. Of two entries with the same name the later one counts. -/
def table (entry : Reader α) : Reader (NameMap α) := fun room =>
  return .ofPairs (← pairs entry room)

/-- An optional value: `None`, `Some(…)`, or the value itself. A value may also follow `Some`
without brackets, and then no gap need set them apart. -/
def option (value : Reader α) : Reader (Option α) := fun room => do
  if ← symbol "None" then return none
  else if ← symbol "Some" then
    gap
    if ← symbol "(" then
      gap
      let x ← value.inside room
      let _ ← comma
      expect ")"
      return some x
    else return some (← value.inside room)
  else return some (← value.inside room)

/-- The value that a reader takes, changed by `f`, or malformed if `f` refuses it. -/
def refine (reader : Reader α) (f : α → Option β) : Reader β := fun room => do
  match f (← reader room) with
  | some y => return y
  | none => malformed

/-! ## Records -/

/-- A field of a record that is put together in a draft of type `σ`. -/
structure RecordField (σ : Type) where
  name : String
  /-- Whether the record must have the field. -/
  required : Bool
  /-- Takes the field's value and says what it makes of the draft. -/
  reader : Reader (σ → σ)

def required (name : String) (reader : Reader α) (put : α → σ → σ) : RecordField σ :=
  ⟨name, true, fun room => return put (← reader room)⟩

def optional (name : String) (reader : Reader α) (put : α → σ → σ) : RecordField σ :=
  ⟨name, false, fun room => return put (← reader room)⟩

/-- A draft with the names of the fields that it got so far. -/
structure Draft (σ : Type) where
  seen : List String
  value : σ

/-- Takes one field of the record called `record`. -/
def field (record : String) (fields : List (RecordField σ)) (room : Nat) (draft : Draft σ) :
    Scanner (Draft σ) := do
  let key ← inside (fun _ => name) room
  match fields.find? (·.name == key) with
  | some field =>
    if draft.seen.contains key then throw (.repeatedField key record)
    gap
    expect ":"
    gap
    let put ← field.reader.inside room
    return ⟨key :: draft.seen, put draft.value⟩
  | none =>
    gap
    expect ":"
    gap
    inside Value.skip room
    return draft

/-- The fields of a record up to its closing bracket, which is left. -/
def fieldsOf (record : String) (fields : List (RecordField σ)) (blank : σ) : Reader σ :=
  inside fun room => do
    let draft ← eachEntry ')' (field record fields room) ⟨[], blank⟩
    match fields.find? fun f => f.required && !draft.seen.contains f.name with
    | some missing => throw (.missingField missing.name record)
    | none => return draft.value

/-- Takes what `content` reads between round brackets. -/
def bracketed (content : Reader α) : Reader α := fun room => do
  gap
  expect "("
  let x ← content room
  let _ ← comma
  expect ")"
  return x

def recordName (record : String) : Scanner Unit := do
  if (← get).head?.any continuesName then
    if (← name) != record then malformed

/-- A record: its fields in round brackets, possibly after its name. -/
def record (record : String) (fields : List (RecordField σ)) (blank : σ) : Reader σ :=
  fun room => do
    recordName record
    bracketed (fieldsOf record fields blank) room

/-! ## Choices -/

/-- A choice by the name of a variant; each variant says how its content is read. -/
def choice (choice : String) (variants : List (String × Reader α)) : Reader α :=
  inside fun room => do
    gap
    let variant ← inside (fun _ => name) room
    match variants.lookup variant with
    | some reader => reader room
    | none => throw (.unknownVariant variant choice (variants.map (·.1)))

/-- A variant without content. -/
def constant (x : α) : Reader α := fun _ => return x

/-- A variant whose content is one value. -/
def holding (content : Reader α) (make : α → β) : Reader β :=
  bracketed fun room => do
    gap
    return make (← content.inside room)

/-- A variant whose content is a record, written without the record's own brackets. -/
def holdingRecord (variant : String) (fields : List (RecordField σ)) (blank : σ) (make : σ → β) :
    Reader β :=
  holding (fieldsOf variant fields blank) make

/-- A variant with fields of its own. -/
def withFields (variant : String) (fields : List (RecordField σ)) (blank : σ) (make : σ → β) :
    Reader β :=
  bracketed fun room => return make (← fieldsOf variant fields blank room)

end Reader

/-! ## Whole texts -/

/-- The extensions that a text may ask for at its beginning. All of them are always on. -/
def extensions : List String := ["unwrap_newtypes", "implicit_some", "unwrap_variant_newtypes"]

/-- Takes the names of extensions, which commas separate. -/
def extensionNames : (bound : Nat) → Scanner Unit
  | 0 => malformed
  | bound + 1 => do
    if !extensions.contains (← name) then malformed
    let separated ← comma
    let more := (← get).head?.any continuesName
    if more then
      if separated then extensionNames bound else malformed

/-- Takes symbols that gaps may separate. -/
def symbols : List String → Scanner Unit
  | [] => return
  | s :: rest => do
    expect s
    gap
    symbols rest

/-- Passes over the lines that ask for extensions. -/
def header : (bound : Nat) → Scanner Unit
  | 0 => malformed
  | bound + 1 => do
    gap
    if ← ahead '#' then
      symbols ["#", "!", "[", "enable", "("]
      extensionNames bound
      gap
      symbols [")", "]"]
      header bound

/-- How far values may nest. -/
def roomAtStart : Nat := 128

def parse {α : Type} (reader : Reader α) (s : String) : Except Fault α := do
  let whole : Scanner α := do
    header (s.toList.length + 1)
    let x ← reader roomAtStart
    gap
    if !(← get).isEmpty then malformed
    return x
  return (← whole.run s.toList).1

end TextRecipes.Notation
