/-!
# Patterns between slashes

A regular expression is written between slashes.  A slash that belongs to it
has a backslash in front, and only that backslash is taken away: what other
backslashes mean is up to the regular expression.
-/

namespace GcodeTemplate.Pattern

/--
The text up to the next slash that has no backslash in front, and the text
behind it.  A backslash goes together with the character that follows it.
-/
def upToSlash : List Char → Option (List Char × List Char)
  | [] => none
  | '/' :: rest => some ([], rest)
  | '\\' :: [] => none
  | '\\' :: c :: rest =>
      (upToSlash rest).map fun (text, behind) => ('\\' :: c :: text, behind)
  | c :: rest => (upToSlash rest).map fun (text, behind) => (c :: text, behind)

/-- Take away the backslashes in front of slashes. -/
def unescapeSlashes : List Char → List Char
  | '\\' :: '/' :: rest => '/' :: unescapeSlashes rest
  | c :: rest => c :: unescapeSlashes rest
  | [] => []

end GcodeTemplate.Pattern
