import TextRecipes.Notation.Scan

/-!
# Quoted texts and characters

A text stands between double quotes, with escapes for the characters that could not stand there
otherwise; or it is raw, `r#"…"#`, and ends at the first quote followed by as many hashes as it
began with. A single character stands between single quotes.
-/

namespace TextRecipes.Notation

def hexValue? (c : Char) : Option Nat :=
  if c.isDigit then some (c.toNat - '0'.toNat)
  else if 'a' ≤ c && c ≤ 'f' then some (c.toNat - 'a'.toNat + 10)
  else if 'A' ≤ c && c ≤ 'F' then some (c.toNat - 'A'.toNat + 10)
  else none

def hexNumber? (digits : List Char) : Option Nat :=
  digits.foldlM (fun n c => (hexValue? c).map (16 * n + ·)) 0

def character? (code : Nat) : Option Char :=
  if code.isValidChar then some (Char.ofNat code) else none

def simpleEscapes : List (Char × Char) :=
  [('\x27', '\x27'), ('\x22', '\x22'), ('\\', '\\'), ('n', '\n'), ('r', '\r'), ('t', '\t'),
   ('0', '\x00')]

/-- The character that an escape stands for, given what follows the backslash, and what follows
the escape. -/
def escape? : List Char → Option (Char × List Char)
  | 'x' :: a :: b :: rest => do
    let code ← hexNumber? [a, b]
    return (Char.ofNat code, rest)
  | 'u' :: '\x7b' :: rest =>
    let digits := rest.takeWhile fun c => (hexValue? c).isSome
    match rest.drop digits.length with
    | '\x7d' :: after => do
      if digits.isEmpty || 6 < digits.length then none
      else
        let c ← character? (← hexNumber? digits)
        return (c, after)
    | _ => none
  | c :: rest => (simpleEscapes.lookup c).map fun meant => (meant, rest)
  | [] => none

/-- The text up to the closing quote, escapes replaced, and what follows the quote. -/
def untilQuote? : (bound : Nat) → List Char → Option (List Char × List Char)
  | 0, _ => none
  | _, [] => none
  | bound + 1, c :: rest =>
    if c == '\x22' then some ([], rest)
    else if c == '\\' then do
      let (meant, rest) ← escape? rest
      let (text, after) ← untilQuote? bound rest
      return (meant :: text, after)
    else do
      let (text, after) ← untilQuote? bound rest
      return (c :: text, after)

/-- The text up to the first quote that the given hashes follow, and what follows them. -/
def untilRawQuote? (hashes : List Char) : List Char → Option (List Char × List Char)
  | [] => none
  | c :: rest =>
    if c == '\x22' && hashes.isPrefixOf rest then some ([], rest.drop hashes.length)
    else (untilRawQuote? hashes rest).map fun split => (c :: split.1, split.2)

def quoted : Scanner String := do
  let split? ← do
    if ← symbol "\"" then
      let cs ← get
      pure (untilQuote? (cs.length + 1) cs)
    else
      expect "r"
      let hashes := (← get).takeWhile (· == '#')
      set ((← get).drop hashes.length)
      expect "\""
      pure (untilRawQuote? hashes (← get))
  match split? with
  | some (text, rest) =>
    set rest
    return String.ofList text
  | none => malformed

def quotedChar : Scanner Char := do
  expect "'"
  let c ← match (← get) with
    | '\\' :: rest =>
      match escape? rest with
      | some (meant, after) =>
        set after
        pure meant
      | none => malformed
    | c :: rest =>
      if c == '\x27' then malformed
      else
        set rest
        pure c
    | [] => malformed
  expect "'"
  return c

end TextRecipes.Notation
