import CallJournal.Metadata

/-! The SHA-2 family and the keyed digests built on it, for both word widths. -/

namespace CallJournal.Token

/-- One member of the family, over words of the given width. -/
structure Sha2 (width : Nat) where
  /-- One constant for each round. -/
  constants : List (BitVec width)
  start : List (BitVec width)
  /-- Rotations of the first and fifth working word in a round. -/
  upper : Nat × Nat × Nat
  lower : Nat × Nat × Nat
  /-- Two rotations and a shift each, by which earlier words enter the schedule. -/
  older : Nat × Nat × Nat
  newer : Nat × Nat × Nat
  /-- How many octets of the last state are the digest. -/
  size : Nat

namespace Sha2

variable {width : Nat}

structure State (width : Nat) where
  a : BitVec width
  b : BitVec width
  c : BitVec width
  d : BitVec width
  e : BitVec width
  f : BitVec width
  g : BitVec width
  h : BitVec width

def State.ofList : List (BitVec width) → State width
  | [a, b, c, d, e, f, g, h] => ⟨a, b, c, d, e, f, g, h⟩
  | _ => ⟨0, 0, 0, 0, 0, 0, 0, 0⟩

def State.toList (state : State width) : List (BitVec width) :=
  [state.a, state.b, state.c, state.d, state.e, state.f, state.g, state.h]

def State.add (left right : State width) : State width :=
  ⟨left.a + right.a, left.b + right.b, left.c + right.c, left.d + right.d,
    left.e + right.e, left.f + right.f, left.g + right.g, left.h + right.h⟩

def rotations (turns : Nat × Nat × Nat) (word : BitVec width) : BitVec width :=
  word.rotateRight turns.1 ^^^ word.rotateRight turns.2.1 ^^^ word.rotateRight turns.2.2

def shifted (turns : Nat × Nat × Nat) (word : BitVec width) : BitVec width :=
  word.rotateRight turns.1 ^^^ word.rotateRight turns.2.1 ^^^ (word >>> turns.2.2)

/-- One round, with its constant and its word of the schedule. -/
def round (family : Sha2 width) (state : State width) (constant word : BitVec width) :
    State width :=
  let choice := (state.e &&& state.f) ^^^ (~~~state.e &&& state.g)
  let majority := (state.a &&& state.b) ^^^ (state.a &&& state.c) ^^^ (state.b &&& state.c)
  let first := state.h + rotations family.lower state.e + choice + constant + word
  let second := rotations family.upper state.a + majority
  ⟨first + second, state.a, state.b, state.c, state.d + first, state.e, state.f, state.g⟩

/-- Sixteen words of the schedule slide over the rounds; each round uses the first of them. -/
def rounds (family : Sha2 width) :
    List (BitVec width) → List (BitVec width) → State width → State width
  | [], _, state => state
  | _ :: _, [], state => state
  | constant :: constants, word :: words, state =>
    let next := shifted family.newer (words.getD 13 0) + words.getD 8 0 +
      shifted family.older (words.getD 0 0) + word
    family.rounds constants (words ++ [next]) (family.round state constant word)

def compress (family : Sha2 width) (state : State width) (block : List (BitVec width)) :
    State width :=
  state.add (family.rounds family.constants block state)

/-- The number that some octets are, the highest first. -/
def number (octets : Octets) : Nat :=
  octets.foldl (fun value octet => value * 256 + octet.toNat) 0

/-- The octets of a number, the highest first. -/
def octets (count value : Nat) : Octets :=
  (List.range count).map fun index => UInt8.ofNat (value >>> (8 * (count - 1 - index)))

/-- The parts of the given size, in order; `fuel` bounds their number. -/
def parts (size : Nat) : Nat → Octets → List Octets
  | 0, _ => []
  | fuel + 1, message =>
    if message.isEmpty then [] else message.take size :: parts size fuel (message.drop size)

def wordSize (width : Nat) : Nat := width / 8

def blockSize (width : Nat) : Nat := 16 * wordSize width

/-- Fills a message to whole blocks: a one bit, zeros, and its length in bits over two words. -/
def fill (width : Nat) (message : Octets) : Octets :=
  let block := blockSize width
  let tail := 2 * wordSize width
  let zeros := (block - (message.length + 1 + tail) % block) % block
  message ++ 0x80 :: List.replicate zeros 0 ++ octets tail (message.length * 8)

def digest (family : Sha2 width) (message : Octets) : Octets :=
  let filled := fill width message
  let blocks := parts (blockSize width) filled.length filled
  let words (block : Octets) : List (BitVec width) :=
    (parts (wordSize width) block.length block).map fun part => BitVec.ofNat width (number part)
  let last := blocks.foldl (fun state block => family.compress state (words block))
    (State.ofList family.start)
  (last.toList.flatMap fun word => octets (wordSize width) word.toNat).take family.size

def constants32 : List (BitVec 32) :=
  [0x428a2f98, 0x71374491, 0xb5c0fbcf, 0xe9b5dba5, 0x3956c25b, 0x59f111f1, 0x923f82a4, 0xab1c5ed5,
    0xd807aa98, 0x12835b01, 0x243185be, 0x550c7dc3, 0x72be5d74, 0x80deb1fe, 0x9bdc06a7, 0xc19bf174,
    0xe49b69c1, 0xefbe4786, 0x0fc19dc6, 0x240ca1cc, 0x2de92c6f, 0x4a7484aa, 0x5cb0a9dc, 0x76f988da,
    0x983e5152, 0xa831c66d, 0xb00327c8, 0xbf597fc7, 0xc6e00bf3, 0xd5a79147, 0x06ca6351, 0x14292967,
    0x27b70a85, 0x2e1b2138, 0x4d2c6dfc, 0x53380d13, 0x650a7354, 0x766a0abb, 0x81c2c92e, 0x92722c85,
    0xa2bfe8a1, 0xa81a664b, 0xc24b8b70, 0xc76c51a3, 0xd192e819, 0xd6990624, 0xf40e3585, 0x106aa070,
    0x19a4c116, 0x1e376c08, 0x2748774c, 0x34b0bcb5, 0x391c0cb3, 0x4ed8aa4a, 0x5b9cca4f, 0x682e6ff3,
    0x748f82ee, 0x78a5636f, 0x84c87814, 0x8cc70208, 0x90befffa, 0xa4506ceb, 0xbef9a3f7, 0xc67178f2]

def constants64 : List (BitVec 64) :=
  [0x428a2f98d728ae22, 0x7137449123ef65cd, 0xb5c0fbcfec4d3b2f, 0xe9b5dba58189dbbc,
    0x3956c25bf348b538, 0x59f111f1b605d019, 0x923f82a4af194f9b, 0xab1c5ed5da6d8118,
    0xd807aa98a3030242, 0x12835b0145706fbe, 0x243185be4ee4b28c, 0x550c7dc3d5ffb4e2,
    0x72be5d74f27b896f, 0x80deb1fe3b1696b1, 0x9bdc06a725c71235, 0xc19bf174cf692694,
    0xe49b69c19ef14ad2, 0xefbe4786384f25e3, 0x0fc19dc68b8cd5b5, 0x240ca1cc77ac9c65,
    0x2de92c6f592b0275, 0x4a7484aa6ea6e483, 0x5cb0a9dcbd41fbd4, 0x76f988da831153b5,
    0x983e5152ee66dfab, 0xa831c66d2db43210, 0xb00327c898fb213f, 0xbf597fc7beef0ee4,
    0xc6e00bf33da88fc2, 0xd5a79147930aa725, 0x06ca6351e003826f, 0x142929670a0e6e70,
    0x27b70a8546d22ffc, 0x2e1b21385c26c926, 0x4d2c6dfc5ac42aed, 0x53380d139d95b3df,
    0x650a73548baf63de, 0x766a0abb3c77b2a8, 0x81c2c92e47edaee6, 0x92722c851482353b,
    0xa2bfe8a14cf10364, 0xa81a664bbc423001, 0xc24b8b70d0f89791, 0xc76c51a30654be30,
    0xd192e819d6ef5218, 0xd69906245565a910, 0xf40e35855771202a, 0x106aa07032bbd1b8,
    0x19a4c116b8d2d0c8, 0x1e376c085141ab53, 0x2748774cdf8eeb99, 0x34b0bcb5e19b48a8,
    0x391c0cb3c5c95a63, 0x4ed8aa4ae3418acb, 0x5b9cca4f7763e373, 0x682e6ff3d6b2b8a3,
    0x748f82ee5defb2fc, 0x78a5636f43172f60, 0x84c87814a1f0ab72, 0x8cc702081a6439ec,
    0x90befffa23631e28, 0xa4506cebde82bde9, 0xbef9a3f7b2c67915, 0xc67178f2e372532b,
    0xca273eceea26619c, 0xd186b8c721c0c207, 0xeada7dd6cde0eb1e, 0xf57d4f7fee6ed178,
    0x06f067aa72176fba, 0x0a637dc5a2c898a6, 0x113f9804bef90dae, 0x1b710b35131c471b,
    0x28db77f523047d84, 0x32caab7b40c72493, 0x3c9ebe0a15c9bebc, 0x431d67c49c100d4c,
    0x4cc5d4becb3e42b6, 0x597f299cfc657e2a, 0x5fcb6fab3ad6faec, 0x6c44198c4a475817]

def start256 : List (BitVec 32) :=
  [0x6a09e667, 0xbb67ae85, 0x3c6ef372, 0xa54ff53a, 0x510e527f, 0x9b05688c, 0x1f83d9ab, 0x5be0cd19]

def start384 : List (BitVec 64) :=
  [0xcbbb9d5dc1059ed8, 0x629a292a367cd507, 0x9159015a3070dd17, 0x152fecd8f70e5939,
    0x67332667ffc00b31, 0x8eb44a8768581511, 0xdb0c2e0d64f98fa7, 0x47b5481dbefa4fa4]

def start512 : List (BitVec 64) :=
  [0x6a09e667f3bcc908, 0xbb67ae8584caa73b, 0x3c6ef372fe94f82b, 0xa54ff53a5f1d36f1,
    0x510e527fade682d1, 0x9b05688c2b3e6c1f, 0x1f83d9abfb41bd6b, 0x5be0cd19137e2179]

end Sha2

def sha256 : Sha2 32 :=
  ⟨Sha2.constants32, Sha2.start256, (2, 13, 22), (6, 11, 25), (7, 18, 3), (17, 19, 10), 32⟩

def sha384 : Sha2 64 :=
  ⟨Sha2.constants64, Sha2.start384, (28, 34, 39), (14, 18, 41), (1, 8, 7), (19, 61, 6), 48⟩

def sha512 : Sha2 64 :=
  ⟨Sha2.constants64, Sha2.start512, (28, 34, 39), (14, 18, 41), (1, 8, 7), (19, 61, 6), 64⟩

/-- The digest of a message under a secret. A secret longer than a block is digested first. -/
def Sha2.keyed {width : Nat} (family : Sha2 width) (secret message : Octets) : Octets :=
  let block := Sha2.blockSize width
  let short := if block < secret.length then family.digest secret else secret
  let key := short ++ List.replicate (block - short.length) 0
  let inner := family.digest (key.map (· ^^^ 0x36) ++ message)
  family.digest (key.map (· ^^^ 0x5c) ++ inner)

end CallJournal.Token
