import GcodeTemplate.Regex.Written
import GcodeTemplate.Unicode.Age
import GcodeTemplate.Unicode.Folding
import GcodeTemplate.Unicode.ScriptExtension
import GcodeTemplate.Unicode.Segmentation

/-!
# The characters of classes

Which characters the classes of regular expressions contain: those of ASCII
alone, and those of Unicode.
-/

namespace GcodeTemplate.Regex

/-- Some ranges of characters. -/
def ranges (bounds : List (Char × Char)) : CharSet :=
  .unions (bounds.map fun (first, last) => .range first last)

namespace AsciiClass

/-- The characters of a class of ASCII characters. -/
def chars : AsciiClass → CharSet
  | alnum => ranges [('0', '9'), ('A', 'Z'), ('a', 'z')]
  | alpha => ranges [('A', 'Z'), ('a', 'z')]
  | ascii => .ascii
  | blank => ranges [('\t', '\t'), (' ', ' ')]
  | cntrl => ranges [('\x00', '\x1F'), ('\x7F', '\x7F')]
  | digit => ranges [('0', '9')]
  | graph => ranges [('!', '~')]
  | lower => ranges [('a', 'z')]
  | print => ranges [(' ', '~')]
  | punct => ranges [('!', '/'), (':', '@'), ('[', '\x60'), ('\x7B', '~')]
  | space => ranges [('\t', '\r'), (' ', ' ')]
  | upper => ranges [('A', 'Z')]
  | word => ranges [('0', '9'), ('A', 'Z'), ('_', '_'), ('a', 'z')]
  | xdigit => ranges [('0', '9'), ('A', 'F'), ('a', 'f')]

end AsciiClass

namespace LetterClass

/-- The characters of a class that is written as a letter. -/
def chars (isUnicode : Bool) : LetterClass → CharSet
  | digit => if isUnicode then Unicode.digit else AsciiClass.digit.chars
  | space => if isUnicode then Unicode.whiteSpace else AsciiClass.space.chars
  | word => if isUnicode then Unicode.wordCharacter else AsciiClass.word.chars

end LetterClass

namespace PropertyQuery

/-- Names that mean a category although a property has them too. -/
def categoryNames : List (List Char) :=
  [['c', 'f'], ['s', 'c'], ['l', 'c']]

/-- The characters of a property, a category or a script of a given name. -/
def charsOf? (name : String) : Option CharSet :=
  let property :=
    if categoryNames.contains (Unicode.normalized name) then
      none
    else
      Unicode.property? name
  property <|> Unicode.category? name <|> Unicode.script? name

/-- The names of a property with values, and the characters that have a given value of it. -/
structure ValuedProperty where
  names : List String
  withValue? : String → Option CharSet

/-- The properties that a query may ask a value of. -/
def valuedProperties : List ValuedProperty := [
  ⟨["gc", "General_Category"], Unicode.category?⟩,
  ⟨["sc", "Script"], Unicode.script?⟩,
  ⟨["scx", "Script_Extensions"], Unicode.scriptExtension?⟩,
  ⟨["Age"], Unicode.age?⟩,
  ⟨["GCB", "Grapheme_Cluster_Break"], Unicode.graphemeBreak?⟩,
  ⟨["WB", "Word_Break"], Unicode.wordBreak?⟩,
  ⟨["SB", "Sentence_Break"], Unicode.sentenceBreak?⟩]

/-- The characters that a query asks for. -/
def chars? : PropertyQuery → Option CharSet
  | named name => charsOf? name
  | valued name value => do
      let property ← valuedProperties.find? fun property =>
        Unicode.isAnyName property.names name
      property.withValue? value

end PropertyQuery

/-- The characters of a set, and the other cases of its letters of ASCII. -/
def foldAscii (set : CharSet) : CharSet :=
  let other (c : Char) : Char := if c.isUpper then c.toLower else c.toUpper
  let letters := AsciiClass.alpha.chars
  let added := (List.range 128).map Char.ofNat |>.filter fun c =>
    letters.contains c && set.contains (other c)
  set.union (.ofList added)

end GcodeTemplate.Regex
