import GcodeTemplate.CharSet

/-!
# Tables of characters

Sets of characters are written as numbers in base 36: in turn the number of code
points that are left out and the number of those that follow and belong to the
set.  Names of sets are compared without regard to case, blanks, hyphens and
underscores.
-/

namespace GcodeTemplate.Unicode

/-- The value of a digit in base 36. -/
def digitValue (c : Char) : Nat :=
  if c.isDigit then c.toNat - '0'.toNat else c.toNat - 'a'.toNat + 10

/-- The number that digits in base 36 denote. -/
def number (digits : List Char) : Nat :=
  digits.foldl (fun value c => 36 * value + digitValue c) 0

/-- The words between the blanks of a text. -/
def words (text : List Char) : List (List Char) :=
  text.splitBy fun c next => c != ' ' && next != ' '

/-- The numbers of some lines. -/
def numbers (lines : List String) : List Nat :=
  lines.flatMap fun line =>
    ((words line.toList).filter (· != [' '])).map number

/-- The ranges that numbers stand for which begin at a code point. -/
def rangesFrom : (next : Nat) → List Nat → List CodeRange
  | next, gap :: count :: rest =>
      ⟨next + gap, next + gap + count - 1⟩ :: rangesFrom (next + gap + count) rest
  | _, _ => []

/-- The set that some lines stand for. -/
def decode (lines : List String) : CharSet :=
  ⟨rangesFrom 0 (numbers lines)⟩

/-- A set with its names. -/
structure NamedSet where
  names : List String
  set : CharSet

/-- A name without what does not count in it. -/
def stripped (name : List Char) : List Char :=
  (name.filter fun c => ! [' ', '_', '-'].contains c && c.toNat < 0x80).map (·.toLower)

/--
The form in which names are compared.  The letters `is` in front do not count
either, except in the name of a property that would be left with one letter.
-/
def normalized (name : String) : List Char :=
  match name.toList with
  | first :: second :: rest =>
      if first.toLower == 'i' && second.toLower == 's' then
        let shortened := stripped rest
        if shortened == ['c'] then ['i', 's', 'c'] else shortened
      else
        stripped (first :: second :: rest)
  | short => stripped short

/-- Whether a name is one of some names. -/
def isAnyName (names : List String) (name : String) : Bool :=
  let wanted := normalized name
  names.any (normalized · == wanted)

namespace NamedSet

/-- Whether a set has a given name. -/
def isNamed (entry : NamedSet) (name : String) : Bool :=
  isAnyName entry.names name

/-- The first one of some sets that has a given name. -/
def withName? (name : String) (sets : List NamedSet) : Option NamedSet :=
  sets.find? (·.isNamed name)

/-- The characters of the first one of some sets that has a given name. -/
def find? (name : String) (sets : List NamedSet) : Option CharSet :=
  (withName? name sets).map (·.set)

/-- The union of the sets that have one of some names, written exactly like that. -/
def union (names : List String) (sets : List NamedSet) : CharSet :=
  .unions ((sets.filter fun entry => entry.names.any names.contains).map (·.set))

end NamedSet

end GcodeTemplate.Unicode
