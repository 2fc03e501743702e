/-!
# Blank characters

The characters of the Unicode property `White_Space`, and the six ASCII ones
that may separate the words of a code block.
-/

namespace GcodeTemplate.Text

/-- The characters of the property `White_Space`. -/
def isBlank (c : Char) : Bool :=
  let code := c.toNat
  (0x09 ≤ code && code ≤ 0x0D) || code == 0x20 || code == 0x85 ||
    code == 0xA0 || code == 0x1680 || (0x2000 ≤ code && code ≤ 0x200A) ||
    code == 0x2028 || code == 0x2029 || code == 0x202F || code == 0x205F ||
    code == 0x3000

/-- The ASCII blanks: space, tab, line feed, vertical tab, form feed, return. -/
def isAsciiBlank (c : Char) : Bool :=
  c == ' ' || (0x09 ≤ c.toNat && c.toNat ≤ 0x0D)

/-- The first word of a text: the blanks in front skipped, up to the next blank. -/
def firstWord (text : String) : String :=
  .ofList ((text.toList.dropWhile isBlank).takeWhile (! isBlank ·))

end GcodeTemplate.Text
