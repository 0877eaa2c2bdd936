import DirectoryLogin.Arithmetic

/-!
# Digests

The family of digests SHA-2. A text is padded to whole blocks of sixteen words, and each block is
stirred into a state of eight words in many rounds. The members of the family differ in the length
of the words, the number of rounds, the amounts by which words are turned, and the first state.
-/

namespace DirectoryLogin.Digest

/-- The state of a digest with words of `w` bits. -/
structure State (w : Nat) where
  a : BitVec w
  b : BitVec w
  c : BitVec w
  d : BitVec w
  e : BitVec w
  f : BitVec w
  g : BitVec w
  h : BitVec w
  deriving DecidableEq

abbrev Block (w : Nat) := Vector (BitVec w) 16

/-- A digest with words of `w` bits. -/
structure Sha2 (w : Nat) where
  /-- The constant of each round. -/
  constants : List (BitVec w)
  start : State w
  /-- The amounts by which the words `a` and `e` are turned in a round. -/
  turnsOfA : Nat × Nat × Nat
  turnsOfE : Nat × Nat × Nat
  /-- The amounts by which two words before a new word are turned, and then shifted. -/
  turnsOfEarly : Nat × Nat × Nat
  turnsOfLate : Nat × Nat × Nat
  /-- The number of octets in a digest. -/
  size : Nat

namespace Sha2

variable {w : Nat}

def turned (amounts : Nat × Nat × Nat) (x : BitVec w) : BitVec w :=
  x.rotateRight amounts.1 ^^^ x.rotateRight amounts.2.1 ^^^ x.rotateRight amounts.2.2

def shifted (amounts : Nat × Nat × Nat) (x : BitVec w) : BitVec w :=
  x.rotateRight amounts.1 ^^^ x.rotateRight amounts.2.1 ^^^ x >>> amounts.2.2

/-- One round, with the sum of its constant and its word. -/
def round (kind : Sha2 w) (s : State w) (input : BitVec w) : State w :=
  let chosen := (s.e &&& s.f) ^^^ (~~~s.e &&& s.g)
  let first := s.h + turned kind.turnsOfE s.e + chosen + input
  let majority := (s.a &&& s.b) ^^^ (s.a &&& s.c) ^^^ (s.b &&& s.c)
  ⟨first + turned kind.turnsOfA s.a + majority, s.a, s.b, s.c, s.d + first, s.e, s.f, s.g⟩

def nextWord (kind : Sha2 w) (words : Block w) : BitVec w :=
  words[0] + shifted kind.turnsOfEarly words[1] + words[9] + shifted kind.turnsOfLate words[14]

/-- The sixteen words one further on. -/
def advance (kind : Sha2 w) (words : Block w) : Block w :=
  Vector.ofFn fun i => if h : i.val + 1 < 16 then words[i.val + 1] else kind.nextWord words

def rounds (kind : Sha2 w) : List (BitVec w) → Block w → State w → State w
  | [], _, s => s
  | constant :: rest, words, s =>
      kind.rounds rest (kind.advance words) (kind.round s (constant + words[0]))

def absorb (kind : Sha2 w) (s : State w) (words : Block w) : State w :=
  let t := kind.rounds kind.constants words s
  ⟨s.a + t.a, s.b + t.b, s.c + t.c, s.d + t.d, s.e + t.e, s.f + t.f, s.g + t.g, s.h + t.h⟩

def block (octets : List UInt8) : Block w :=
  Vector.ofFn fun i => BitVec.ofNat w (Octets.natural ((octets.drop (w / 8 * i)).take (w / 8)))

/-- The text with a mark at its end, padded to whole blocks, the last of which ends with its length
in bits. A block has `2 * w` octets. -/
def padded (w : Nat) (text : List UInt8) : List UInt8 :=
  let zeros := 2 * w - 1 - (text.length + w / 4) % (2 * w)
  text ++ 0x80 :: List.replicate zeros 0 ++ Octets.bigEndian (w / 4) (8 * text.length)

def absorbAll (kind : Sha2 w) (s : State w) (text : List UInt8) : Nat → State w
  | 0 => s
  | blocks + 1 => kind.absorbAll (kind.absorb s (block text)) (text.drop (2 * w)) blocks

def digest (kind : Sha2 w) (text : List UInt8) : List UInt8 :=
  let whole := padded w text
  let s := kind.absorbAll kind.start whole (whole.length / (2 * w))
  let octets := [s.a, s.b, s.c, s.d, s.e, s.f, s.g, s.h].flatMap fun x =>
    Octets.bigEndian (w / 8) x.toNat
  octets.take kind.size

/-- The first 64 bits behind the point of the cube roots of the first eighty primes. -/
def cubeRoots : List (BitVec 64) := [
  0x428a2f98d728ae22, 0x7137449123ef65cd, 0xb5c0fbcfec4d3b2f, 0xe9b5dba58189dbbc,
  0x3956c25bf348b538, 0x59f111f1b605d019, 0x923f82a4af194f9b, 0xab1c5ed5da6d8118,
  0xd807aa98a3030242, 0x12835b0145706fbe, 0x243185be4ee4b28c, 0x550c7dc3d5ffb4e2,
  0x72be5d74f27b896f, 0x80deb1fe3b1696b1, 0x9bdc06a725c71235, 0xc19bf174cf692694,
  0xe49b69c19ef14ad2, 0xefbe4786384f25e3, 0x0fc19dc68b8cd5b5, 0x240ca1cc77ac9c65,
  0x2de92c6f592b0275, 0x4a7484aa6ea6e483, 0x5cb0a9dcbd41fbd4, 0x76f988da831153b5,
  0x983e5152ee66dfab, 0xa831c66d2db43210, 0xb00327c898fb213f, 0xbf597fc7beef0ee4,
  0xc6e00bf33da88fc2, 0xd5a79147930aa725, 0x06ca6351e003826f, 0x142929670a0e6e70,
  0x27b70a8546d22ffc, 0x2e1b21385c26c926, 0x4d2c6dfc5ac42aed, 0x53380d139d95b3df,
  0x650a73548baf63de, 0x766a0abb3c77b2a8, 0x81c2c92e47edaee6, 0x92722c851482353b,
  0xa2bfe8a14cf10364, 0xa81a664bbc423001, 0xc24b8b70d0f89791, 0xc76c51a30654be30,
  0xd192e819d6ef5218, 0xd69906245565a910, 0xf40e35855771202a, 0x106aa07032bbd1b8,
  0x19a4c116b8d2d0c8, 0x1e376c085141ab53, 0x2748774cdf8eeb99, 0x34b0bcb5e19b48a8,
  0x391c0cb3c5c95a63, 0x4ed8aa4ae3418acb, 0x5b9cca4f7763e373, 0x682e6ff3d6b2b8a3,
  0x748f82ee5defb2fc, 0x78a5636f43172f60, 0x84c87814a1f0ab72, 0x8cc702081a6439ec,
  0x90befffa23631e28, 0xa4506cebde82bde9, 0xbef9a3f7b2c67915, 0xc67178f2e372532b,
  0xca273eceea26619c, 0xd186b8c721c0c207, 0xeada7dd6cde0eb1e, 0xf57d4f7fee6ed178,
  0x06f067aa72176fba, 0x0a637dc5a2c898a6, 0x113f9804bef90dae, 0x1b710b35131c471b,
  0x28db77f523047d84, 0x32caab7b40c72493, 0x3c9ebe0a15c9bebc, 0x431d67c49c100d4c,
  0x4cc5d4becb3e42b6, 0x597f299cfc657e2a, 0x5fcb6fab3ad6faec, 0x6c44198c4a475817]

def ofWords (words : Vector (BitVec w) 8) : State w :=
  ⟨words[0], words[1], words[2], words[3], words[4], words[5], words[6], words[7]⟩

/-- The first 64 bits behind the point of the square roots of the first eight primes. -/
def squareRoots : Vector (BitVec 64) 8 := #v[
  0x6a09e667f3bcc908, 0xbb67ae8584caa73b, 0x3c6ef372fe94f82b, 0xa54ff53a5f1d36f1,
  0x510e527fade682d1, 0x9b05688c2b3e6c1f, 0x1f83d9abfb41bd6b, 0x5be0cd19137e2179]

def nextSquareRoots : Vector (BitVec 64) 8 := #v[
  0xcbbb9d5dc1059ed8, 0x629a292a367cd507, 0x9159015a3070dd17, 0x152fecd8f70e5939,
  0x67332667ffc00b31, 0x8eb44a8768581511, 0xdb0c2e0d64f98fa7, 0x47b5481dbefa4fa4]

end Sha2

def sha512 : Sha2 64 where
  constants := Sha2.cubeRoots
  start := Sha2.ofWords Sha2.squareRoots
  turnsOfA := (28, 34, 39)
  turnsOfE := (14, 18, 41)
  turnsOfEarly := (1, 8, 7)
  turnsOfLate := (19, 61, 6)
  size := 64

def sha384 : Sha2 64 :=
  { sha512 with
    start := Sha2.ofWords Sha2.nextSquareRoots
    size := 48 }

def sha256 : Sha2 32 where
  constants := (Sha2.cubeRoots.take 64).map (·.extractLsb' 32 32)
  start := Sha2.ofWords (Sha2.squareRoots.map (·.extractLsb' 32 32))
  turnsOfA := (2, 13, 22)
  turnsOfE := (6, 11, 25)
  turnsOfEarly := (7, 18, 3)
  turnsOfLate := (17, 19, 10)
  size := 32

end DirectoryLogin.Digest
