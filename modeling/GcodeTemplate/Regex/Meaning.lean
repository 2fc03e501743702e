import GcodeTemplate.Regex
import GcodeTemplate.Regex.Classes

/-!
# What a written regular expression means

The flags that are set where a part stands decide what it means.  A change of
flags holds up to the end of the group that it stands in.  Where classes are not
those of Unicode, no class may contain characters beyond ASCII, because it would
be a class of bytes.
-/

namespace GcodeTemplate.Regex

/-- The flags that decide what a part means. -/
structure Mode where
  insensitive : Bool := false
  multiLine : Bool := false
  dotAll : Bool := false
  swapGreed : Bool := false
  isUnicode : Bool := true
  crlf : Bool := false
deriving DecidableEq, Repr

namespace Mode

/-- The flags after a change. -/
def change (mode : Mode) (change : FlagChange) : Mode where
  insensitive := change.apply .insensitive mode.insensitive
  multiLine := change.apply .multiLine mode.multiLine
  dotAll := change.apply .dotAll mode.dotAll
  swapGreed := change.apply .swapGreed mode.swapGreed
  isUnicode := change.apply .unicode mode.isUnicode
  crlf := change.apply .crlf mode.crlf

/-- A set with the other cases of its letters, if they count. -/
def fold (mode : Mode) (set : CharSet) : CharSet :=
  if ! mode.insensitive then
    set
  else if mode.isUnicode then
    set.foldCase
  else
    foldAscii set

/-- The complement of a set if it is negated; bytes have none. -/
def negate? (mode : Mode) (negated : Bool) (set : CharSet) : Option CharSet :=
  if ! negated then
    some set
  else if mode.isUnicode then
    some set.complement
  else
    none

/-- The characters of words. -/
def word (mode : Mode) : CharSet :=
  LetterClass.word.chars mode.isUnicode

/-- A class with the other cases of its letters, or the complement of that. -/
def class? (mode : Mode) (negated : Bool) (set : CharSet) : Option CharSet :=
  mode.negate? negated (mode.fold set)

end Mode

/-- The character that a literal stands for; in a set of bytes it has to be one of ASCII. -/
def Literal.inSet? (literal : Literal) (mode : Mode) : Option Char :=
  if mode.isUnicode || literal.char.toNat < 0x80 then some literal.char else none

/-- The characters of a property, which only Unicode has. -/
def PropertyQuery.class? (query : PropertyQuery) (mode : Mode) (negated : Bool) :
    Option CharSet :=
  if mode.isUnicode then query.chars?.bind (mode.class? negated) else none

/-- The set that an operator makes of two others. -/
def SetOperator.apply (operator : SetOperator) (left right : CharSet) : CharSet :=
  match operator with
  | intersection => left.inter right
  | difference => left.diff right
  | symmetricDifference => left.symmDiff right

mutual

/-- The characters of a part of a set in brackets. -/
def SetItem.chars? (mode : Mode) : SetItem → Option CharSet
  | .literal symbol => CharSet.singleton <$> symbol.inSet? mode
  | .range first last => do
      pure (.range (← first.inSet? mode) (← last.inSet? mode))
  | .ascii negated letters => mode.class? negated letters.chars
  | .letter negated letters => mode.negate? negated (letters.chars mode.isUnicode)
  | .property negated query => query.class? mode negated
  | .nested negated content => do
      let chars ← content.chars? mode
      mode.class? negated chars

/-- The characters of a set in brackets. -/
def WrittenSet.chars? (mode : Mode) : WrittenSet → Option CharSet
  | .union items => .unions <$> SetItem.allChars? mode items
  | .combine operator left right => do
      let first ← left.chars? mode
      let second ← right.chars? mode
      pure (operator.apply (mode.fold first) (mode.fold second))

/-- The characters of each part of a set. -/
def SetItem.allChars? (mode : Mode) : List SetItem → Option (List CharSet)
  | [] => some []
  | item :: rest => do
      let chars ← item.chars? mode
      let others ← SetItem.allChars? mode rest
      pure (chars :: others)

end

/-- The characters that a dot matches; it matches no single bytes. -/
def dot? (mode : Mode) : Option CharSet :=
  if ! mode.isUnicode then
    none
  else if mode.dotAll then
    some .all
  else if mode.crlf then
    some (CharSet.all.diff (.ofList ['\n', '\r']))
  else
    some (CharSet.all.diff (.singleton '\n'))

/-- The characters that a literal matches; it must not be a byte beyond ASCII. -/
def Literal.chars? (literal : Literal) (mode : Mode) : Option CharSet :=
  if ! mode.isUnicode && literal.isByte && 0x80 ≤ literal.char.toNat then
    none
  else
    some (mode.fold (.singleton literal.char))

/-- The condition that an assertion stands for. -/
def Assertion.look (assertion : Assertion) (mode : Mode) : Look :=
  match assertion with
  | lineStart =>
      if ! mode.multiLine then
        .textStart
      else if mode.crlf then
        .anyLineStart
      else
        .lineStart
  | lineEnd =>
      if ! mode.multiLine then
        .textEnd
      else if mode.crlf then
        .anyLineEnd
      else
        .lineEnd
  | textStart => .textStart
  | textEnd => .textEnd
  | wordBoundary => .wordBoundary
  | notWordBoundary => .notWordBoundary
  | wordStart => .wordStart
  | wordEnd => .wordEnd
  | wordStartHalf => .wordStartHalf
  | wordEndHalf => .wordEndHalf

mutual

/-- What a part means, and the flags behind it. -/
def Written.meaning? (mode : Mode) : Written → Option (Regex × Mode)
  | .flags change => some (.empty, mode.change change)
  | .literal symbol => do
      let chars ← symbol.chars? mode
      pure (.set chars, mode)
  | .dot => do
      let chars ← dot? mode
      pure (.set chars, mode)
  | .assertion condition => some (.look (condition.look mode) mode.word, mode)
  | .letter negated letters => do
      let chars ← mode.negate? negated (letters.chars mode.isUnicode)
      pure (.set chars, mode)
  | .property negated query => do
      let chars ← query.class? mode negated
      pure (.set chars, mode)
  | .set negated content => do
      let inner ← content.chars? mode
      let chars ← mode.class? negated inner
      pure (.set chars, mode)
  | .repeated reluctant least most body => do
      let (regex, after) ← body.meaning? mode
      pure (.repeated (reluctant == mode.swapGreed) least most regex, after)
  | .group captured change body => do
      let (regex, _) ← body.meaning? (mode.change change)
      pure (.group captured regex, mode)
  | .sequence parts => Written.sequenceMeaning? mode parts
  | .alternatives parts => Written.choiceMeaning? mode parts

/-- What parts mean one after the other. -/
def Written.sequenceMeaning? (mode : Mode) : List Written → Option (Regex × Mode)
  | [] => some (.empty, mode)
  | part :: rest => do
      let (first, between) ← part.meaning? mode
      let (second, after) ← Written.sequenceMeaning? between rest
      pure (.sequence first second, after)

/-- What parts mean of which one has to match. -/
def Written.choiceMeaning? (mode : Mode) : List Written → Option (Regex × Mode)
  | [] => some (.empty, mode)
  | [part] => part.meaning? mode
  | part :: rest => do
      let (left, between) ← part.meaning? mode
      let (right, after) ← Written.choiceMeaning? between rest
      pure (.choice left right, after)

end

end GcodeTemplate.Regex
