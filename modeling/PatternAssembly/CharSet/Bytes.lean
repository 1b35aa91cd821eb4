import PatternAssembly.CharSet

/-!
# Sets of characters byte by byte

In UTF-8 a range of characters is a few products of ranges of bytes: the range is cut where
the number of bytes changes, and wherever a byte in front of others changes while these do not
run through all their values.

## Main definitions

* `CharSet.blocks`: a range cut so that each part is a product
* `CharSet.byteStrings`: the products of byte ranges of a set
-/
namespace PatternAssembly

/-- The bytes from the first to the second component. -/
abbrev ByteRange := Nat × Nat

/-- The bytes of a text. -/
def bytesOf (cs : List Char) : List Nat :=
  cs.flatMap fun c => (String.utf8EncodeChar c).map UInt8.toNat

namespace CharSet

/-- The range from `lo` to `hi`, cut at multiples of `size` unless it lies between two of
them; what begins and ends at multiples is cut at multiples of 64 times that, up to `levels`
times. -/
def blocks : (levels : Nat) → (size lo hi : Nat) → List (Nat × Nat)
  | 0, _, lo, hi => [(lo, hi)]
  | levels + 1, size, lo, hi =>
    if lo / size = hi / size then [(lo, hi)]
    else
      let first := (lo + size - 1) / size * size
      let stop := (hi + 1) / size * size
      (if lo < first then [(lo, first - 1)] else [])
        ++ (if first < stop then blocks levels (size * 64) first (stop - 1) else [])
        ++ (if stop ≤ hi then [(stop, hi)] else [])

/-- The ranges of code points within which characters have equally many bytes. -/
def encodedLengths : List (Nat × Nat) :=
  [(0, 0x7F), (0x80, 0x7FF), (0x800, 0xD7FF), (0xE000, 0xFFFF), (0x10000, 0x10FFFF)]

/-- The products of byte ranges of a range of code points. -/
def byteStringsOf (lo hi : Nat) : List (List ByteRange) :=
  encodedLengths.flatMap fun part =>
    let lo := max lo part.1
    let hi := min hi part.2
    if hi < lo then []
    else if hi < 0x80 then [[(lo, hi)]]
    else (blocks 3 64 lo hi).map fun block =>
      (bytesOf [Char.ofNat block.1]).zip (bytesOf [Char.ofNat block.2])

/-- The products of byte ranges of a set, in ascending order. -/
def byteStrings (s : CharSet) : List (List ByteRange) :=
  s.pieces.flatMap fun piece => byteStringsOf piece.1 piece.2

/-- The set holds ASCII characters only. -/
def isAscii (s : CharSet) : Bool := s.pieces.all (·.2 < 0x80)

end CharSet

end PatternAssembly
