/-!
Contract: ranges of characters as sequences of byte ranges.

The UTF-8 encodings of a range of characters are the byte sequences that one of
a few sequences of byte ranges admits. The range is cut where the length of the
encoding changes and where the last bytes do not run through all their values.

Owns: the cuts, and the sequences they give, in ascending order.
Does not own: sets of characters.
-/

namespace Traceability.Text

/-- Bytes from the first to the last, both included. -/
structure ByteRange where
  first : UInt8
  last : UInt8
deriving DecidableEq, Repr

namespace ByteRange

def contains (range : ByteRange) (byte : UInt8) : Bool :=
  range.first ≤ byte && byte ≤ range.last

/-- Pieces in which the last bytes run through all their values unless all
other bytes are fixed. `blocks` are the numbers of characters that share all
but their last byte, their last two bytes, and so on. -/
def alignedPieces (blocks : List Nat) (first last : Nat) : List (Nat × Nat) :=
  match blocks with
  | [] => if first ≤ last then [(first, last)] else []
  | block :: wider =>
      if last < first then []
      else if first / block = last / block then alignedPieces wider first last
      else
        let start := if first % block = 0 then first else (first / block + 1) * block
        let stop := if last % block = block - 1 then last + 1 else last / block * block
        let head := if first < start then [(first, start - 1)] else []
        let tail := if stop ≤ last then [(stop, last)] else []
        let middle := if start < stop then alignedPieces wider start (stop - 1) else []
        head ++ middle ++ tail

/-- The characters whose encodings have one, two, three and four bytes; the
surrogates are none. -/
def encodedAlike : List (Nat × Nat) :=
  [(0, 0x7F), (0x80, 0x7FF), (0x800, 0xD7FF), (0xE000, 0xFFFF), (0x10000, 0x10FFFF)]

/-- The byte ranges between the encodings of two characters. -/
def between (first last : Nat) : List ByteRange :=
  (String.utf8EncodeChar (Char.ofNat first)).zipWith ByteRange.mk
    (String.utf8EncodeChar (Char.ofNat last))

/-- The sequences of byte ranges that encode the characters of a range. -/
def sequencesOf (first last : Nat) : List (List ByteRange) :=
  encodedAlike.flatMap fun (lowest, highest) =>
    let pieces :=
      if highest ≤ 0x7F then
        if max first lowest ≤ min last highest then [(max first lowest, min last highest)] else []
      else alignedPieces [0x40, 0x1000, 0x40000] (max first lowest) (min last highest)
    pieces.map fun (low, high) => between low high

end ByteRange

end Traceability.Text
