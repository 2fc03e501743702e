import GcodeTemplate.CharSet

/-!
# The bytes of code points

In UTF-8 a code point takes one to four bytes.  The code points of a range are
those whose bytes lie, one after the other, in the ranges of one of some
sequences.  Sequences with the same beginning share it in a tree.
-/

namespace GcodeTemplate.Regex

/-- The directions in which bytes can be read. -/
inductive Direction where
  | forward
  | backward
deriving DecidableEq, Repr

/-- Consecutive bytes, each of which has to lie in a range. -/
abbrev ByteSequence : Type :=
  List CodeRange

/-- How many bytes follow the first one of a code point. -/
def continuationCount (code : Nat) : Nat :=
  if code ≤ 0x7F then
    0
  else if code ≤ 0x7FF then
    1
  else if code ≤ 0xFFFF then
    2
  else
    3

/-- What the first byte of a code point has in front of its bits, if `count` bytes follow. -/
def leadMark (count : Nat) : Nat :=
  match count with
  | 0 => 0
  | 1 => 0xC0
  | 2 => 0xE0
  | _ => 0xF0

/-- What every byte but the first one of a code point has in front of its six bits. -/
def continuationMark : Nat :=
  0x80

/-- The bytes that follow the first one. -/
def continuation : CodeRange :=
  ⟨continuationMark, continuationMark + 63⟩

/--
The bytes of the code points from `first` to `last`, where a first byte that
begins with a mark is followed by `count` others of six bits.
-/
def byteSequences : (mark count first last : Nat) → List ByteSequence
  | mark, 0, first, last => [[⟨mark + first, mark + last⟩]]
  | mark, count + 1, first, last =>
      let block := 1 <<< (6 * (count + 1))
      let lower := first / block
      let upper := last / block
      let inBlock (lead first last : Nat) : List ByteSequence :=
        (byteSequences continuationMark count first last).map
          (⟨mark + lead, mark + lead⟩ :: ·)
      if lower = upper then
        inBlock lower (first % block) (last % block)
      else
        let startsInside := first % block ≠ 0
        let stopsInside := last % block ≠ block - 1
        let firstWhole := if startsInside then lower + 1 else lower
        let pastWhole := if stopsInside then upper else upper + 1
        (if startsInside then inBlock lower (first % block) (block - 1) else []) ++
          (if firstWhole < pastWhole then
            [⟨mark + firstWhole, mark + pastWhole - 1⟩ ::
              List.replicate (count + 1) continuation]
          else
            []) ++
          if stopsInside then inBlock upper 0 (last % block) else []

/-- The code points that take one byte, two bytes and so on; surrogates have no bytes. -/
def encodable : List CodeRange :=
  [⟨0, 0x7F⟩, ⟨0x80, 0x7FF⟩, ⟨0x800, 0xD7FF⟩, ⟨0xE000, 0xFFFF⟩, ⟨0x10000, 0x10FFFF⟩]

/-- The bytes of the code points in a range. -/
def rangeSequences (range : CodeRange) : List ByteSequence :=
  (encodable.flatMap range.within).flatMap fun part =>
    let count := continuationCount part.first
    byteSequences (leadMark count) count part.first part.last

/-- Byte sequences that share their beginnings. -/
inductive ByteTree where
  /-- No bytes are left to read. -/
  | leaf
  /-- A byte in a range with what follows it, and the sequences that begin otherwise. -/
  | branch (bytes : CodeRange) (after others : ByteTree)
deriving Repr

namespace ByteTree

/-- Add a sequence in front of the others. -/
def add : ByteSequence → ByteTree → ByteTree
  | [], tree => tree
  | bytes :: rest, leaf => branch bytes (add rest leaf) leaf
  | bytes :: rest, branch first after others =>
      if bytes = first then
        branch first (add rest after) others
      else
        branch bytes (add rest leaf) (branch first after others)

/-- The tree of some sequences; neighbours share their beginnings. -/
def ofSequences (sequences : List ByteSequence) : ByteTree :=
  sequences.foldr add leaf

end ByteTree

/-- Code points in ascending ranges, with the bytes that they take. -/
structure EncodedSet where
  ranges : List CodeRange
  sequences : List ByteSequence
  tree : ByteTree

namespace EncodedSet

/-- The set of the code points in some ranges. -/
def ofRanges (ranges : List CodeRange) : EncodedSet where
  ranges := ranges
  sequences := ranges.flatMap rangeSequences
  tree := .ofSequences (ranges.flatMap rangeSequences)

/-- Whether all code points belong to ASCII. -/
def isAscii (set : EncodedSet) : Bool :=
  set.ranges.all fun range => range.last ≤ 0x7F

end EncodedSet

end GcodeTemplate.Regex
