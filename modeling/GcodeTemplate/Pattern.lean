import GcodeTemplate.Pattern.Slash
import GcodeTemplate.Regex.Grammar
import GcodeTemplate.Regex.Machine
import GcodeTemplate.Regex.Meaning
import GcodeTemplate.Regex.Search

/-!
# Patterns

A pattern is compared with a whole string.  A regular expression is put between
anchors for that, as a group of its own so that the anchors belong to each of its
choices.  Patterns are read together with their anchors, so the parentheses of a
pattern need to be balanced only as far as those of the group make up for them.

What a text stands for and what is found is defined in `GcodeTemplate.Regex` after
the documented syntax and the unanchored search of the `regex` library, which is
not a part of this development.
-/

namespace GcodeTemplate

namespace Regex

/--
The regular expression that a text stands for; none if the text is malformed or
needs too large a machine.
-/
def ofString? (source : String) : Option Regex := do
  let written ← Written.read? source
  let (regex, _) ← written.meaning? {}
  if regex.plan.fits then some regex else none

end Regex

/-- Something that a whole string is compared with. -/
inductive Pattern where
  /-- A string that has to be equal. -/
  | literal (text : String)
  /-- A regular expression, with its anchors. -/
  | regex (anchored : Regex)

namespace Pattern

/-- The text of a regular expression between anchors. -/
def anchored (source : String) : String :=
  "^(?:" ++ source ++ ")$"

/-- The pattern for a regular expression. -/
def ofRegex? (source : String) : Option Pattern :=
  regex <$> Regex.ofString? (anchored source)

/-- Whether a pattern matches a string. -/
def accepts (pattern : Pattern) (subject : String) : Bool :=
  match pattern with
  | literal text => text == subject
  | regex anchored => anchored.isFoundIn subject

end Pattern

end GcodeTemplate
