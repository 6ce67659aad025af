import Docket.Power
/-!
The SHA-224 digest of a list of octets, as a number below 2 ^ 224.

The message is padded to blocks of sixteen words. A block drives sixty-four rounds over eight
registers; the words of the rounds are the head of a window of sixteen words that slides along the
message schedule.
-/

namespace Docket.Sha224

/-- The round constants: 32 bits of the fractional parts of the cube roots of 64 primes. -/
def roundConstants : List UInt32 := [
  0x428a2f98, 0x71374491, 0xb5c0fbcf, 0xe9b5dba5, 0x3956c25b, 0x59f111f1, 0x923f82a4, 0xab1c5ed5,
  0xd807aa98, 0x12835b01, 0x243185be, 0x550c7dc3, 0x72be5d74, 0x80deb1fe, 0x9bdc06a7, 0xc19bf174,
  0xe49b69c1, 0xefbe4786, 0x0fc19dc6, 0x240ca1cc, 0x2de92c6f, 0x4a7484aa, 0x5cb0a9dc, 0x76f988da,
  0x983e5152, 0xa831c66d, 0xb00327c8, 0xbf597fc7, 0xc6e00bf3, 0xd5a79147, 0x06ca6351, 0x14292967,
  0x27b70a85, 0x2e1b2138, 0x4d2c6dfc, 0x53380d13, 0x650a7354, 0x766a0abb, 0x81c2c92e, 0x92722c85,
  0xa2bfe8a1, 0xa81a664b, 0xc24b8b70, 0xc76c51a3, 0xd192e819, 0xd6990624, 0xf40e3585, 0x106aa070,
  0x19a4c116, 0x1e376c08, 0x2748774c, 0x34b0bcb5, 0x391c0cb3, 0x4ed8aa4a, 0x5b9cca4f, 0x682e6ff3,
  0x748f82ee, 0x78a5636f, 0x84c87814, 0x8cc70208, 0x90befffa, 0xa4506ceb, 0xbef9a3f7, 0xc67178f2]

/-- The eight working registers, which are also the chaining value. -/
structure Registers where
  a : UInt32
  b : UInt32
  c : UInt32
  d : UInt32
  e : UInt32
  f : UInt32
  g : UInt32
  h : UInt32

def initial : Registers :=
  ⟨0xc1059ed8, 0x367cd507, 0x3070dd17, 0xf70e5939, 0xffc00b31, 0x68581511, 0x64f98fa7, 0xbefa4fa4⟩

def rotateRight (word : UInt32) (amount : UInt32) : UInt32 :=
  (word >>> amount) ||| (word <<< (32 - amount))

def choose (x y z : UInt32) : UInt32 := (x &&& y) ^^^ (~~~x &&& z)

def majority (x y z : UInt32) : UInt32 := (x &&& y) ^^^ (x &&& z) ^^^ (y &&& z)

def bigSigma0 (x : UInt32) : UInt32 := rotateRight x 2 ^^^ rotateRight x 13 ^^^ rotateRight x 22

def bigSigma1 (x : UInt32) : UInt32 := rotateRight x 6 ^^^ rotateRight x 11 ^^^ rotateRight x 25

def smallSigma0 (x : UInt32) : UInt32 := rotateRight x 7 ^^^ rotateRight x 18 ^^^ (x >>> 3)

def smallSigma1 (x : UInt32) : UInt32 := rotateRight x 17 ^^^ rotateRight x 19 ^^^ (x >>> 10)

def round (r : Registers) (constant word : UInt32) : Registers :=
  let t1 := r.h + bigSigma1 r.e + choose r.e r.f r.g + constant + word
  let t2 := bigSigma0 r.a + majority r.a r.b r.c
  ⟨t1 + t2, r.a, r.b, r.c, r.d + t1, r.e, r.f, r.g⟩

def slide (window : List UInt32) : List UInt32 :=
  match window with
  | w0 :: rest =>
      -- `rest` starts one word after `w0`, so the word `i` places after `w0` is `word (i - 1)`.
      let word (i : Nat) := rest.getD i 0
      rest ++ [smallSigma1 (word 13) + word 8 + smallSigma0 (word 0) + w0]
  | [] => []

def compress (before : Registers) (block : List UInt32) : Registers :=
  let (after, _) := roundConstants.foldl
    (fun (r, window) constant => (round r constant (window.headD 0), slide window)) (before, block)
  ⟨before.a + after.a, before.b + after.b, before.c + after.c, before.d + after.d,
   before.e + after.e, before.f + after.f, before.g + after.g, before.h + after.h⟩

/-- The octets of a number, `count` of them, the most significant first. -/
def bigEndian (count : Nat) (n : Nat) : List UInt8 :=
  (List.range count).reverse.map fun i => UInt8.ofNat (n >>> (8 * i))

/-- The message, a one bit, zeros up to a multiple of 64 octets, and the length in bits. -/
def pad (octets : List UInt8) : List UInt8 :=
  let length := octets.length
  let zeros := (119 - length % 64) % 64
  octets ++ 0x80 :: List.replicate zeros 0 ++ bigEndian 8 (8 * length)

/-- Words of four octets; octets that do not fill a word are left out. -/
def wordsOf : List UInt8 → List UInt32
  | a :: b :: c :: d :: rest =>
      ((a.toUInt32 <<< 24) ||| (b.toUInt32 <<< 16) ||| (c.toUInt32 <<< 8) ||| d.toUInt32)
        :: wordsOf rest
  | _ => []

/-- Runs through the blocks of a list of words. `count` blocks are read. -/
def compressBlocks (count : Nat) (r : Registers) (words : List UInt32) : Registers :=
  match count with
  | 0 => r
  | n + 1 => compressBlocks n (compress r (words.take 16)) (words.drop 16)

/-- The digest: seven of the eight registers, the first one most significant. -/
def digest (octets : List UInt8) : Nat :=
  let words := wordsOf (pad octets)
  let r := compressBlocks (words.length / 16) initial words
  [r.a, r.b, r.c, r.d, r.e, r.f, r.g].foldl (fun n word => n * 2 ^ 32 + word.toNat) 0

theorem digest_lt (octets : List UInt8) : digest octets < 2 ^ 224 := by
  simp only [digest, List.foldl]
  generalize compressBlocks _ _ _ = r
  have ha := r.a.toNat_lt
  have hb := r.b.toNat_lt
  have hc := r.c.toNat_lt
  have hd := r.d.toNat_lt
  have he := r.e.toNat_lt
  have hf := r.f.toNat_lt
  have hg := r.g.toNat_lt
  omega

end Docket.Sha224
