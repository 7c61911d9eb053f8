/-!
# Bytes

Blocks of bytes as machine words, and the hexadecimal text of bytes.
-/

namespace FixFirst.Digest

/-- The bytes of a text. -/
def textBytes (text : String) : List UInt8 := text.toUTF8.toList

/-- The two lower-case hexadecimal digits of a byte. -/
def hexByte (byte : UInt8) : List Char :=
  [Nat.digitChar (byte.toNat / 16), Nat.digitChar (byte.toNat % 16)]

/-- Bytes in hexadecimal. -/
def hex (bytes : List UInt8) : String := String.ofList (bytes.flatMap hexByte)

/-- The first `size` bytes, filled up with zeros. -/
def padBlock (size : Nat) (bytes : List UInt8) : List UInt8 :=
  let block := bytes.take size
  block ++ List.replicate (size - block.length) 0

/-- Cuts bytes into pieces of `size`, at most `fuel` of them. -/
def pieces (size : Nat) : Nat → List UInt8 → List (List UInt8)
  | 0, _ => []
  | fuel + 1, bytes =>
    if bytes.isEmpty then [] else bytes.take size :: pieces size fuel (bytes.drop size)

/-- The word whose least significant byte comes first. -/
def wordOfLow (bytes : List UInt8) : UInt64 :=
  bytes.foldr (fun byte word => (word <<< 8) ||| byte.toUInt64) 0

/-- The word whose most significant byte comes first. -/
def wordOfHigh (bytes : List UInt8) : UInt32 :=
  bytes.foldl (fun word byte => (word <<< 8) ||| byte.toUInt32) 0

/-- The eight bytes of a word, the least significant first. -/
def lowBytes (word : UInt64) : List UInt8 :=
  (List.range 8).map fun index => (word >>> (8 * index.toUInt64)).toUInt8

/-- The four bytes of a word, the most significant first. -/
def highBytes (word : UInt32) : List UInt8 :=
  (List.range 4).map fun index => (word >>> (24 - 8 * index.toUInt32)).toUInt8

end FixFirst.Digest
