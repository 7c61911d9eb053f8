import FixFirst.Digest.Bytes

/-!
# BLAKE2b

The digest of file contents: BLAKE2b without a key, of sixteen bytes.
-/

namespace FixFirst.Digest.Blake2b

/-- The initial chaining words. -/
def initial : Array UInt64 :=
  #[0x6a09e667f3bcc908, 0xbb67ae8584caa73b, 0x3c6ef372fe94f82b, 0xa54ff53a5f1d36f1,
    0x510e527fade682d1, 0x9b05688c2b3e6c1f, 0x1f83d9abfb41bd6b, 0x5be0cd19137e2179]

/-- The order in which a round takes the words of a block. -/
def schedule : Array (Array Nat) :=
  #[#[0, 1, 2, 3, 4, 5, 6, 7, 8, 9, 10, 11, 12, 13, 14, 15],
    #[14, 10, 4, 8, 9, 15, 13, 6, 1, 12, 0, 2, 11, 7, 5, 3],
    #[11, 8, 12, 0, 5, 2, 15, 13, 10, 14, 3, 6, 7, 1, 9, 4],
    #[7, 9, 3, 1, 13, 12, 11, 14, 2, 6, 5, 10, 4, 0, 15, 8],
    #[9, 0, 5, 7, 2, 4, 10, 15, 14, 1, 11, 12, 6, 8, 3, 13],
    #[2, 12, 6, 10, 0, 11, 8, 3, 4, 13, 7, 5, 15, 14, 1, 9],
    #[12, 5, 1, 15, 14, 13, 4, 10, 0, 7, 6, 3, 9, 2, 8, 11],
    #[13, 11, 7, 14, 12, 1, 3, 9, 5, 0, 15, 4, 8, 6, 2, 10],
    #[6, 15, 14, 9, 11, 3, 0, 8, 12, 2, 13, 7, 1, 4, 10, 5],
    #[10, 2, 8, 4, 7, 6, 1, 5, 15, 11, 9, 14, 3, 12, 13, 0]]

/-- The four positions that each of the eight mixing steps of a round works on. -/
def lanes : List (Nat × Nat × Nat × Nat) :=
  [(0, 4, 8, 12), (1, 5, 9, 13), (2, 6, 10, 14), (3, 7, 11, 15),
   (0, 5, 10, 15), (1, 6, 11, 12), (2, 7, 8, 13), (3, 4, 9, 14)]

/-- Rotation to the right. -/
def rotate (word : UInt64) (count : UInt64) : UInt64 := (word >>> count) ||| (word <<< (64 - count))

/-- Mixes two words of the block into four words of the state. -/
def mix (state : Array UInt64) (lane : Nat × Nat × Nat × Nat) (x y : UInt64) : Array UInt64 :=
  let (ia, ib, ic, id) := lane
  let a := state.getD ia 0 + state.getD ib 0 + x
  let d := rotate (state.getD id 0 ^^^ a) 32
  let c := state.getD ic 0 + d
  let b := rotate (state.getD ib 0 ^^^ c) 24
  let a := a + b + y
  let d := rotate (d ^^^ a) 16
  let c := c + d
  let b := rotate (b ^^^ c) 63
  (((state.setIfInBounds ia a).setIfInBounds ib b).setIfInBounds ic c).setIfInBounds id d

/-- One of the twelve rounds. -/
def round (block : Array UInt64) (state : Array UInt64) (index : Nat) : Array UInt64 :=
  let order := schedule.getD (index % 10) #[]
  lanes.zipIdx.foldl
    (fun state (lane, step) =>
      mix state lane (block.getD (order.getD (2 * step) 0) 0)
        (block.getD (order.getD (2 * step + 1) 0) 0))
    state

/-- Folds a block into the chaining words; `count` bytes have been taken with it. -/
def compress (chain : Array UInt64) (bytes : List UInt8) (count : Nat) (last : Bool) : Array UInt64 :=
  let block := ((pieces 8 16 (padBlock 128 bytes)).map wordOfLow).toArray
  let tail := (((initial.modify 4 (· ^^^ count.toUInt64)).modify 5
    (· ^^^ (count >>> 64).toUInt64)).modify 6 (fun word => if last then ~~~word else word))
  let state := (List.range 12).foldl (round block) (chain ++ tail)
  (Array.range 8).map fun index =>
    chain.getD index 0 ^^^ state.getD index 0 ^^^ state.getD (index + 8) 0

/-- The digest size in bytes. -/
def size : Nat := 16

/-- The sixteen bytes of the digest. -/
def digest (bytes : List UInt8) : List UInt8 :=
  let start := initial.modify 0 (· ^^^ (0x01010000 ||| size.toUInt64))
  let blocks := match pieces 128 (bytes.length + 1) bytes with
    | [] => [[]]
    | full => full
  let (chain, _) := blocks.zipIdx.foldl
    (fun (chain, taken) (block, index) =>
      let taken := taken + block.length
      (compress chain block taken (index + 1 == blocks.length), taken))
    (start, 0)
  (chain.toList.flatMap lowBytes).take size

/-- The digest of bytes, in hexadecimal. -/
def hexDigest (bytes : List UInt8) : String := hex (digest bytes)

end FixFirst.Digest.Blake2b
