import DrawStyle.Text.CharSet

/-!
How the characters of a range are spelled in bytes.

A range is cut until all spellings of a piece have as many bytes as each other and every byte
takes any value of a range of its own, independent of the other bytes.
-/

namespace DrawStyle

abbrev Word := List UInt8

def Text.spelled (t : Text) : Word := t.flatMap String.utf8EncodeChar

structure ByteRange where
  first : UInt8
  last : UInt8
deriving DecidableEq, Repr

namespace CharRange

/-- A range without the numbers in it that belong to no character. -/
def cutAtSurrogates (r : CharRange) : List CharRange :=
  if r.first < 0xE000 ∧ 0xD7FF < r.last then
    [⟨r.first, 0xD7FF⟩, ⟨0xE000, r.last⟩].filter fun r => r.first ≤ r.last
  else [r]

def cutBehind (n : Nat) (r : CharRange) : List CharRange :=
  if r.first ≤ n ∧ n < r.last then [⟨r.first, n⟩, ⟨n + 1, r.last⟩] else [r]

/-- A range in pieces that either lie in one block or are made of whole blocks, where blocks hold
so many code points. -/
def cutAtBlocks (block : Nat) (r : CharRange) : List CharRange :=
  let inner := (r.first + block - 1) / block * block
  let outer := (r.last + 1) / block * block
  if outer < inner then [r]
  else
    ([(r.first, inner), (inner, outer), (outer, r.last + 1)].filter fun (first, past) =>
      first < past).map fun (first, past) => ⟨first, past - 1⟩

/-- The bytes of the characters of a range, in ascending order. The first 128 characters take one
byte, those below 0x800 two and those below 0x10000 three; each byte but the first tells 64
characters apart. -/
def spellings (r : CharRange) : List (List ByteRange) :=
  let pieces := ((r.cutAtSurrogates.flatMap (cutBehind 0x7F)).flatMap (cutBehind 0x7FF)).flatMap
    (cutBehind 0xFFFF)
  pieces.flatMap fun r =>
    let blocks := if r.last ≤ 0x7F then [r] else
      ((r.cutAtBlocks 0x40).flatMap (cutAtBlocks 0x1000)).flatMap (cutAtBlocks 0x40000)
    blocks.map fun r =>
      List.zipWith ByteRange.mk (String.utf8EncodeChar (.ofNat r.first))
        (String.utf8EncodeChar (.ofNat r.last))

end CharRange

def CharSet.spellings (s : CharSet) : List (List ByteRange) := s.ranges.flatMap CharRange.spellings

end DrawStyle
