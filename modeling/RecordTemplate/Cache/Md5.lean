/-
  RecordTemplate.Cache.Md5

  The MD5 hash of bytes: the message is padded to blocks of sixty-four bytes, and each block
  goes through sixty-four steps on four words of thirty-two bits.
-/

import RecordTemplate.Text.Quoted

namespace RecordTemplate.Cache.Md5

/-! ## Words and bytes -/

/-- The number with the given bytes, lowest first. -/
def wordOfBytes (bytes : List UInt8) : UInt32 :=
  bytes.foldr (fun b w => (w <<< 8) ||| b.toUInt32) 0

/-- The lowest `n` bytes of a number, lowest first. -/
def bytesOfNat : Nat → Nat → List UInt8
  | 0, _ => []
  | n + 1, k => UInt8.ofNat k :: bytesOfNat n (k / 256)

/-- Pieces of `n` items, the last of which may be shorter; at most `count` pieces. -/
def chunks {α : Type} (n : Nat) : Nat → List α → List (List α)
  | 0, _ => []
  | count + 1, items => if items.isEmpty then [] else items.take n :: chunks n count (items.drop n)

def rotateLeft (w : UInt32) (n : UInt32) : UInt32 := (w <<< n) ||| (w >>> (32 - n))

/-! ## Padding -/

/-- A message with one bit set behind it, zeros, and its length in bits, in whole blocks. -/
def padding (message : List UInt8) : List UInt8 :=
  -- the length takes the last eight bytes of the last block
  let zeros := (119 - message.length % 64) % 64
  message ++ 0x80 :: List.replicate zeros 0 ++ bytesOfNat 8 (8 * message.length)

/-! ## Steps -/

/-- The constants of the steps. -/
def constants : Array UInt32 := #[
    0xd76aa478, 0xe8c7b756, 0x242070db, 0xc1bdceee, 0xf57c0faf, 0x4787c62a,
    0xa8304613, 0xfd469501, 0x698098d8, 0x8b44f7af, 0xffff5bb1, 0x895cd7be,
    0x6b901122, 0xfd987193, 0xa679438e, 0x49b40821, 0xf61e2562, 0xc040b340,
    0x265e5a51, 0xe9b6c7aa, 0xd62f105d, 0x02441453, 0xd8a1e681, 0xe7d3fbc8,
    0x21e1cde6, 0xc33707d6, 0xf4d50d87, 0x455a14ed, 0xa9e3e905, 0xfcefa3f8,
    0x676f02d9, 0x8d2a4c8a, 0xfffa3942, 0x8771f681, 0x6d9d6122, 0xfde5380c,
    0xa4beea44, 0x4bdecfa9, 0xf6bb4b60, 0xbebfbc70, 0x289b7ec6, 0xeaa127fa,
    0xd4ef3085, 0x04881d05, 0xd9d4d039, 0xe6db99e5, 0x1fa27cf8, 0xc4ac5665,
    0xf4292244, 0x432aff97, 0xab9423a7, 0xfc93a039, 0x655b59c3, 0x8f0ccc92,
    0xffeff47d, 0x85845dd1, 0x6fa87e4f, 0xfe2ce6e0, 0xa3014314, 0x4e0811a1,
    0xf7537e82, 0xbd3af235, 0x2ad7d2bb, 0xeb86d391]

/-- The rotations of the steps, four for every round. -/
def rotations : Array UInt32 := #[7, 12, 17, 22, 5, 9, 14, 20, 4, 11, 16, 23, 6, 10, 15, 21]

/-- The words that a block is mixed into. -/
structure Digest where
  a : UInt32
  b : UInt32
  c : UInt32
  d : UInt32
  deriving DecidableEq, Repr

def initial : Digest := ⟨0x67452301, 0xefcdab89, 0x98badcfe, 0x10325476⟩

/-- The mixing function of a step, and the word of the block that the step takes. -/
def mix (s : Digest) (i : Nat) : UInt32 × Nat :=
  if i < 16 then ((s.b &&& s.c) ||| (~~~s.b &&& s.d), i)
  else if i < 32 then ((s.d &&& s.b) ||| (~~~s.d &&& s.c), (5 * i + 1) % 16)
  else if i < 48 then (s.b ^^^ s.c ^^^ s.d, (3 * i + 5) % 16)
  else (s.c ^^^ (s.b ||| ~~~s.d), (7 * i) % 16)

def step (block : Array UInt32) (s : Digest) (i : Nat) : Digest :=
  let (f, g) := mix s i
  let sum := s.a + f + constants.getD i 0 + block.getD g 0
  ⟨s.d, s.b + rotateLeft sum (rotations.getD (4 * (i / 16) + i % 4) 0), s.b, s.c⟩

/-- A block of sixteen words mixed into a digest. -/
def absorb (s : Digest) (block : Array UInt32) : Digest :=
  let t := (List.range 64).foldl (step block) s
  ⟨s.a + t.a, s.b + t.b, s.c + t.c, s.d + t.d⟩

/-! ## The hash -/

/-- The blocks of a padded message. -/
def blocks (message : List UInt8) : List (Array UInt32) :=
  let padded := padding message
  (chunks 64 (padded.length / 64) padded).map fun block =>
    ((chunks 4 16 block).map wordOfBytes).toArray

/-- The hash of a message in hexadecimal. -/
def hexDigest (message : List UInt8) : List Char :=
  let s := (blocks message).foldl absorb initial
  ([s.a, s.b, s.c, s.d].flatMap fun w => bytesOfNat 4 w.toNat).flatMap fun b =>
    Text.hex 2 b.toNat

end RecordTemplate.Cache.Md5
