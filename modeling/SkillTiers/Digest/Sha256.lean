/-
# The SHA-256 digest

A message is padded to whole blocks of sixteen 32-bit words. Each block is
stretched to sixty-four words, which are mixed one by one into a chain of eight
words; the chain after the last block is the digest.
-/

import SkillTiers.Text.Hex

namespace SkillTiers

namespace Sha256

/-- The eight words carried from block to block. -/
structure Chain where
  a : UInt32
  b : UInt32
  c : UInt32
  d : UInt32
  e : UInt32
  f : UInt32
  g : UInt32
  h : UInt32

/-- The chain before the first block: the fractions of the square roots of the
first eight primes. -/
def start : Chain :=
  ⟨0x6a09e667, 0xbb67ae85, 0x3c6ef372, 0xa54ff53a,
    0x510e527f, 0x9b05688c, 0x1f83d9ab, 0x5be0cd19⟩

/-- The word mixed in with each round: the fractions of the cube roots of the
first sixty-four primes. -/
def roundWords : List UInt32 := [
  0x428a2f98, 0x71374491, 0xb5c0fbcf, 0xe9b5dba5, 0x3956c25b, 0x59f111f1, 0x923f82a4,
  0xab1c5ed5, 0xd807aa98, 0x12835b01, 0x243185be, 0x550c7dc3, 0x72be5d74, 0x80deb1fe,
  0x9bdc06a7, 0xc19bf174, 0xe49b69c1, 0xefbe4786, 0x0fc19dc6, 0x240ca1cc, 0x2de92c6f,
  0x4a7484aa, 0x5cb0a9dc, 0x76f988da, 0x983e5152, 0xa831c66d, 0xb00327c8, 0xbf597fc7,
  0xc6e00bf3, 0xd5a79147, 0x06ca6351, 0x14292967, 0x27b70a85, 0x2e1b2138, 0x4d2c6dfc,
  0x53380d13, 0x650a7354, 0x766a0abb, 0x81c2c92e, 0x92722c85, 0xa2bfe8a1, 0xa81a664b,
  0xc24b8b70, 0xc76c51a3, 0xd192e819, 0xd6990624, 0xf40e3585, 0x106aa070, 0x19a4c116,
  0x1e376c08, 0x2748774c, 0x34b0bcb5, 0x391c0cb3, 0x4ed8aa4a, 0x5b9cca4f, 0x682e6ff3,
  0x748f82ee, 0x78a5636f, 0x84c87814, 0x8cc70208, 0x90befffa, 0xa4506ceb, 0xbef9a3f7,
  0xc67178f2
]

/-- A word rotated to the right. -/
def rotate (word count : UInt32) : UInt32 :=
  (word >>> count) ||| (word <<< (32 - count))

/-- The word that follows sixteen words, given newest first. -/
def nextWord (newest : List UInt32) : UInt32 :=
  let word (back : Nat) : UInt32 := newest.getD (back - 1) 0
  let old := word 15
  let recent := word 2
  word 16 + (rotate old 7 ^^^ rotate old 18 ^^^ (old >>> 3)) + word 7
    + (rotate recent 17 ^^^ rotate recent 19 ^^^ (recent >>> 10))

/-- The words, given newest first, with `count` more. -/
def stretch : Nat → List UInt32 → List UInt32
  | 0, newest => newest
  | count + 1, newest => stretch count (nextWord newest :: newest)

/-- One round: a word of the block and a round word mixed into the chain. -/
def mix (chain : Chain) (words : UInt32 × UInt32) : Chain :=
  let choice := (chain.e &&& chain.f) ^^^ (~~~chain.e &&& chain.g)
  let majority :=
    (chain.a &&& chain.b) ^^^ (chain.a &&& chain.c) ^^^ (chain.b &&& chain.c)
  let first := chain.h
    + (rotate chain.e 6 ^^^ rotate chain.e 11 ^^^ rotate chain.e 25)
    + choice + words.1 + words.2
  let second :=
    (rotate chain.a 2 ^^^ rotate chain.a 13 ^^^ rotate chain.a 22) + majority
  ⟨first + second, chain.a, chain.b, chain.c, chain.d + first, chain.e, chain.f, chain.g⟩

/-- The chain after a block of sixteen words. -/
def absorb (chain : Chain) (block : List UInt32) : Chain :=
  let mixed := ((stretch 48 block.reverse).reverse.zip roundWords).foldl mix chain
  ⟨chain.a + mixed.a, chain.b + mixed.b, chain.c + mixed.c, chain.d + mixed.d,
    chain.e + mixed.e, chain.f + mixed.f, chain.g + mixed.g, chain.h + mixed.h⟩

/-- The message with the mark bit, zeros, and its length in bits. -/
def pad (message : List UInt8) : List UInt8 :=
  let zeros := (119 - message.length % 64) % 64
  let bits := 8 * message.length
  let length := [56, 48, 40, 32, 24, 16, 8, 0].map fun shift => UInt8.ofNat (bits >>> shift)
  message ++ 0x80 :: (List.replicate zeros 0 ++ length)

/-- Four bytes to a word, the highest first. -/
def words : List UInt8 → List UInt32
  | a :: b :: c :: d :: rest =>
    ((a.toUInt32 <<< 24) ||| (b.toUInt32 <<< 16) ||| (c.toUInt32 <<< 8) ||| d.toUInt32)
      :: words rest
  | _ => []

/-- The chain after `count` blocks of words. -/
def absorbAll : Nat → Chain → List UInt32 → Chain
  | 0, chain, _ => chain
  | count + 1, chain, rest =>
    absorbAll count (absorb chain (rest.take 16)) (rest.drop 16)

/-- The digest of a message in hexadecimal. -/
def hexDigest (message : List UInt8) : List Char :=
  let padded := words (pad message)
  let chain := absorbAll (padded.length / 16) start padded
  [chain.a, chain.b, chain.c, chain.d, chain.e, chain.f, chain.g, chain.h].flatMap
    fun word => hexChars 8 word.toNat

end Sha256

end SkillTiers
