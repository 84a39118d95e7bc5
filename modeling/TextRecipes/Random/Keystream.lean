/-!
# The key stream

ChaCha with eight rounds as a source of numbers. A 64-bit number is expanded to the eight words
of the key; the stream is the blocks of the counter 0, 1, 2, …, one after the other, with the two
nonce words zero.
-/

namespace TextRecipes.Random

/-- The sixteen words that the rounds work on. -/
abbrev Block := Vector UInt32 16

/-- The bits of `x` moved up by `n` places, those that leave at the top entering at the bottom. -/
def rotateLeft (x n : UInt32) : UInt32 := (x <<< n) ||| (x >>> (32 - n))

/-- The bits of `x` moved down by `n` places, those that leave at the bottom entering at the top. -/
def rotateRight (x n : UInt32) : UInt32 := (x >>> n) ||| (x <<< (32 - n))

/-- The quarter round on four words of a block. -/
def quarterRound (a b c d : Fin 16) (s : Block) : Block :=
  let s := s.set a (s[a] + s[b])
  let s := s.set d (rotateLeft (s[d] ^^^ s[a]) 16)
  let s := s.set c (s[c] + s[d])
  let s := s.set b (rotateLeft (s[b] ^^^ s[c]) 12)
  let s := s.set a (s[a] + s[b])
  let s := s.set d (rotateLeft (s[d] ^^^ s[a]) 8)
  let s := s.set c (s[c] + s[d])
  s.set b (rotateLeft (s[b] ^^^ s[c]) 7)

/-- One round on the columns and one on the diagonals. -/
def doubleRound (s : Block) : Block :=
  quarterRound 3 4 9 14 <| quarterRound 2 7 8 13 <|
  quarterRound 1 6 11 12 <| quarterRound 0 5 10 15 <|
  quarterRound 3 7 11 15 <| quarterRound 2 6 10 14 <|
  quarterRound 1 5 9 13 <| quarterRound 0 4 8 12 s

/-- The key words drawn from a state: the state advances by a linear step, and each word is taken
from its high bits and rotated by its top five. -/
def keyWords (state : UInt64) : Nat → List UInt32
  | 0 => []
  | n + 1 =>
    let state := state * 6364136223846793005 + 11634580027462260723
    let word := (((state >>> 18) ^^^ state) >>> 27).toUInt32
    let turns := (state >>> 59).toUInt32
    rotateRight word turns :: keyWords state n

def constantWords : List UInt32 := [0x61707865, 0x3320646E, 0x79622D32, 0x6B206574]

def startBlock (key : List UInt32) (counter : UInt64) : Block :=
  let words := constantWords ++ key ++ [counter.toUInt32, (counter >>> 32).toUInt32, 0, 0]
  Vector.ofFn fun i => words.getD i 0

/-- The block of the stream at `counter`: eight rounds, and the starting words added. -/
def streamBlock (key : List UInt32) (counter : UInt64) : Block :=
  let start := startBlock key counter
  (doubleRound (doubleRound (doubleRound (doubleRound start)))).zipWith (· + ·) start

/-- The word of the stream at position `i`. -/
def streamWord (key : List UInt32) (i : Nat) : UInt32 :=
  (streamBlock key (.ofNat (i / 16))).get ⟨i % 16, Nat.mod_lt i (by decide)⟩

/-- The number at position `i` of the stream that `start` keys: two words, the low one first. -/
def draw (start : UInt64) (i : Nat) : UInt64 :=
  let key := keyWords start 8
  (streamWord key (2 * i)).toUInt64 ||| ((streamWord key (2 * i + 1)).toUInt64 <<< 32)

/-- A number as a fraction of its range, uniform in `[0, 1)`: its upper 53 bits. -/
def fraction (n : UInt64) : Float := (n >>> 11).toFloat * (1.0 / 9007199254740992.0)

end TextRecipes.Random
