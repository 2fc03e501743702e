/-!
# Regular expressions as they are written

The parts of a regular expression in the order in which they are written.  What
they mean depends on the flags that are set where they stand.
-/

namespace GcodeTemplate.Regex

/-- The switches of the meaning of a regular expression. -/
inductive Flag where
  /-- Letters stand for their other cases too. -/
  | insensitive
  /-- The anchors of lines match at every line. -/
  | multiLine
  /-- A dot matches the end of a line too. -/
  | dotAll
  /-- Repetitions prefer the opposite of what is written. -/
  | swapGreed
  /-- Classes of characters are those of Unicode. -/
  | unicode
  /-- Lines may end in a return and a line feed. -/
  | crlf
  /-- Blanks and comments do not count. -/
  | extended
deriving DecidableEq, Repr

/-- The flags that are switched on, and those that are switched off. -/
structure FlagChange where
  on : List Flag := []
  off : List Flag := []
deriving DecidableEq, Repr

/-- What a change makes of a flag. -/
def FlagChange.apply (change : FlagChange) (flag : Flag) (current : Bool) : Bool :=
  if change.on.contains flag then
    true
  else if change.off.contains flag then
    false
  else
    current

/-- A character that stands for itself. -/
structure Literal where
  char : Char
  /-- Whether it is written as a byte, with two hexadecimal digits. -/
  isByte : Bool
deriving DecidableEq, Repr

/-- The classes that are written as a letter. -/
inductive LetterClass where
  | digit
  | space
  | word
deriving DecidableEq, Repr

/-- The classes of ASCII characters that are written as a name between colons. -/
inductive AsciiClass where
  | alnum
  | alpha
  | ascii
  | blank
  | cntrl
  | digit
  | graph
  | lower
  | print
  | punct
  | space
  | upper
  | word
  | xdigit
deriving DecidableEq, Repr

/-- How a property of characters is asked for. -/
inductive PropertyQuery where
  /-- By the name of a property, a category or a script. -/
  | named (name : String)
  /-- By the name of a property and a value of it. -/
  | valued (name value : String)
deriving DecidableEq, Repr

/-- The operators between sets in brackets. -/
inductive SetOperator where
  | intersection
  | difference
  | symmetricDifference
deriving DecidableEq, Repr

mutual

/-- A part of a set in brackets. -/
inductive SetItem where
  | literal (literal : Literal)
  | range (first last : Literal)
  | ascii (negated : Bool) (letters : AsciiClass)
  | letter (negated : Bool) (letters : LetterClass)
  | property (negated : Bool) (query : PropertyQuery)
  | nested (negated : Bool) (content : WrittenSet)

/-- A set in brackets. -/
inductive WrittenSet where
  | union (items : List SetItem)
  | combine (operator : SetOperator) (left right : WrittenSet)

end

/-- The conditions on a position. -/
inductive Assertion where
  | lineStart
  | lineEnd
  | textStart
  | textEnd
  | wordBoundary
  | notWordBoundary
  | wordStart
  | wordEnd
  | wordStartHalf
  | wordEndHalf
deriving DecidableEq, Repr

/-- A regular expression as it is written. -/
inductive Written where
  | flags (change : FlagChange)
  | literal (literal : Literal)
  | dot
  | assertion (assertion : Assertion)
  | letter (negated : Bool) (letters : LetterClass)
  | property (negated : Bool) (query : PropertyQuery)
  | set (negated : Bool) (content : WrittenSet)
  /-- A reluctant repetition has a mark behind its operator. -/
  | repeated (reluctant : Bool) (least : Nat) (most : Option Nat) (body : Written)
  /-- A captured group has no colon behind the changes of flags. -/
  | group (captured : Bool) (change : FlagChange) (body : Written)
  | sequence (parts : List Written)
  | alternatives (parts : List Written)

namespace Written

/-- Whether a part can be repeated; a change of flags cannot. -/
def isRepeatable : Written → Bool
  | flags _ => false
  | _ => true

/-- Parts one after the other; a single one is not wrapped. -/
def ofSequence : List Written → Written
  | [part] => part
  | parts => sequence parts

/-- Parts of which one has to match; a single one is not wrapped. -/
def ofAlternatives : List Written → Written
  | [part] => part
  | parts => alternatives parts

end Written

mutual

/-- How deep the parts of a set in brackets are nested. -/
def SetItem.depth : SetItem → Nat
  | .nested _ content => 1 + content.depth
  | _ => 0

/-- How deep a set is nested. -/
def WrittenSet.depth : WrittenSet → Nat
  | .union [] => 0
  | .union [item] => item.depth
  | .union items => 1 + SetItem.maximalDepth items
  | .combine _ left right => 1 + max left.depth right.depth

/-- The depth of the deepest part. -/
def SetItem.maximalDepth : List SetItem → Nat
  | [] => 0
  | item :: rest => max item.depth (SetItem.maximalDepth rest)

end

mutual

/-- How deep a regular expression is nested. -/
def Written.depth : Written → Nat
  | .set _ content => 1 + content.depth
  | .repeated _ _ _ body => 1 + body.depth
  | .group _ _ body => 1 + body.depth
  | .sequence [] => 0
  | .sequence parts => 1 + Written.maximalDepth parts
  | .alternatives [] => 0
  | .alternatives parts => 1 + Written.maximalDepth parts
  | _ => 0

/-- The depth of the deepest part. -/
def Written.maximalDepth : List Written → Nat
  | [] => 0
  | part :: rest => max part.depth (Written.maximalDepth rest)

end

/-- How deep a regular expression may be nested. -/
def depthLimit : Nat :=
  250

end GcodeTemplate.Regex
