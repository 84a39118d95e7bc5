/-!
# Hashing text

The 64-bit FNV-1a hash: the bytes of the text in UTF-8, each mixed into the state by an exclusive
or and a multiplication. Seeds become numbers and parts get their identity through it.
-/

namespace TextRecipes.Random

/-- The state before the first byte. -/
def hashBasis : UInt64 := 0xCBF29CE484222325

/-- The factor of each step. -/
def hashPrime : UInt64 := 0x100000001B3

def hashStep (state : UInt64) (byte : UInt8) : UInt64 := (state ^^^ byte.toUInt64) * hashPrime

def utf8 (s : String) : List UInt8 := s.toList.flatMap String.utf8EncodeChar

def hash (s : String) : UInt64 := (utf8 s).foldl hashStep hashBasis

end TextRecipes.Random
