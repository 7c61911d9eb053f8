import FixFirst.Digest.Bytes

/-!
# SHA-256

The digest behind fingerprints and their short keys.
-/

namespace FixFirst.Digest.Sha256

/-- The initial chaining words. -/
def initial : Array UInt32 :=
  #[0x6a09e667, 0xbb67ae85, 0x3c6ef372, 0xa54ff53a, 0x510e527f, 0x9b05688c, 0x1f83d9ab, 0x5be0cd19]

/-- The constant of each of the 64 rounds. -/
def constants : Array UInt32 :=
  #[0x428a2f98, 0x71374491, 0xb5c0fbcf, 0xe9b5dba5, 0x3956c25b, 0x59f111f1, 0x923f82a4, 0xab1c5ed5,
    0xd807aa98, 0x12835b01, 0x243185be, 0x550c7dc3, 0x72be5d74, 0x80deb1fe, 0x9bdc06a7, 0xc19bf174,
    0xe49b69c1, 0xefbe4786, 0x0fc19dc6, 0x240ca1cc, 0x2de92c6f, 0x4a7484aa, 0x5cb0a9dc, 0x76f988da,
    0x983e5152, 0xa831c66d, 0xb00327c8, 0xbf597fc7, 0xc6e00bf3, 0xd5a79147, 0x06ca6351, 0x14292967,
    0x27b70a85, 0x2e1b2138, 0x4d2c6dfc, 0x53380d13, 0x650a7354, 0x766a0abb, 0x81c2c92e, 0x92722c85,
    0xa2bfe8a1, 0xa81a664b, 0xc24b8b70, 0xc76c51a3, 0xd192e819, 0xd6990624, 0xf40e3585, 0x106aa070,
    0x19a4c116, 0x1e376c08, 0x2748774c, 0x34b0bcb5, 0x391c0cb3, 0x4ed8aa4a, 0x5b9cca4f, 0x682e6ff3,
    0x748f82ee, 0x78a5636f, 0x84c87814, 0x8cc70208, 0x90befffa, 0xa4506ceb, 0xbef9a3f7, 0xc67178f2]

/-- Rotation to the right. -/
def rotate (word : UInt32) (count : UInt32) : UInt32 := (word >>> count) ||| (word <<< (32 - count))

/-- The 64 words that a block of sixteen is expanded to. -/
def expand (block : Array UInt32) : Array UInt32 :=
  (List.range 48).foldl
    (fun words step =>
      let early := words.getD (step + 1) 0
      let late := words.getD (step + 14) 0
      let first := rotate early 7 ^^^ rotate early 18 ^^^ (early >>> 3)
      let second := rotate late 17 ^^^ rotate late 19 ^^^ (late >>> 10)
      words.push (words.getD step 0 + first + words.getD (step + 9) 0 + second))
    block

/-- The eight working words. -/
structure Working where
  a : UInt32
  b : UInt32
  c : UInt32
  d : UInt32
  e : UInt32
  f : UInt32
  g : UInt32
  h : UInt32

/-- One round with its constant and its word of the block. -/
def Working.step (w : Working) (constant word : UInt32) : Working :=
  let rotated := rotate w.e 6 ^^^ rotate w.e 11 ^^^ rotate w.e 25
  let choice := (w.e &&& w.f) ^^^ (~~~w.e &&& w.g)
  let first := w.h + rotated + choice + constant + word
  let mixed := rotate w.a 2 ^^^ rotate w.a 13 ^^^ rotate w.a 22
  let majority := (w.a &&& w.b) ^^^ (w.a &&& w.c) ^^^ (w.b &&& w.c)
  ⟨first + (mixed + majority), w.a, w.b, w.c, w.d + first, w.e, w.f, w.g⟩

/-- Folds a block of 64 bytes into the chaining words. -/
def compress (chain : Array UInt32) (bytes : List UInt8) : Array UInt32 :=
  let words := expand ((pieces 4 16 bytes).map wordOfHigh).toArray
  let at0 (index : Nat) : UInt32 := chain.getD index 0
  let start : Working := ⟨at0 0, at0 1, at0 2, at0 3, at0 4, at0 5, at0 6, at0 7⟩
  let w := (List.range 64).foldl
    (fun w index => w.step (constants.getD index 0) (words.getD index 0)) start
  #[at0 0 + w.a, at0 1 + w.b, at0 2 + w.c, at0 3 + w.d, at0 4 + w.e, at0 5 + w.f, at0 6 + w.g, at0 7 + w.h]

/-- A message with its end mark and its length in bits, a multiple of 64 bytes long. -/
def padded (bytes : List UInt8) : List UInt8 :=
  let gap := (119 - bytes.length % 64) % 64
  let bits := (8 * bytes.length).toUInt64
  bytes ++ 0x80 :: List.replicate gap 0 ++ (lowBytes bits).reverse

/-- The 32 bytes of the digest. -/
def digest (bytes : List UInt8) : List UInt8 :=
  let message := padded bytes
  ((pieces 64 (message.length + 1) message).foldl compress initial).toList.flatMap highBytes

/-- The digest of bytes, in hexadecimal. -/
def hexDigest (bytes : List UInt8) : String := hex (digest bytes)

end FixFirst.Digest.Sha256
