/-!
# Tokens

The words and signs that a code block consists of.
-/

namespace GcodeTemplate

/-- A sign of the language. -/
inductive Symbol where
  | plus
  | minus
  | star
  | slash
  | percent
  | bang
  | tilde
  | equal
  | notEqual
  | less
  | lessOrEqual
  | greater
  | greaterOrEqual
  | equalTilde
  | bangTilde
  | and
  | or
  | assign
  | question
  | colon
  | comma
  | semicolon
  | leftParenthesis
  | rightParenthesis
  | leftBracket
  | rightBracket
  | leftBrace
  | rightBrace
deriving DecidableEq, Repr

/-- A token of a code block. -/
inductive Token where
  | int (n : Int64)
  | double (x : Float)
  | string (s : String)
  | word (name : String)
  | symbol (symbol : Symbol)
  /-- A character that starts no token. -/
  | stray (c : Char)
  | endOfInput

namespace Token

/-- The words that cannot name a variable. -/
def reservedWords : List String :=
  ["and", "ceil", "digits", "elsif", "else", "empty", "endif", "false",
    "filament_change", "floor", "global", "if", "int", "interpolate_table",
    "is_nil", "local", "max", "min", "not", "one_of", "or", "random", "repeat",
    "round", "size", "true", "zdigits"]

/-- Whether a word cannot name a variable. -/
def isReserved (name : String) : Bool :=
  reservedWords.contains name

/-- Whether a token is a given sign. -/
def isSymbol (token : Token) (expected : Symbol) : Bool :=
  match token with
  | symbol actual => actual == expected
  | _ => false

/-- Whether a token is a given word. -/
def isWord (token : Token) (expected : String) : Bool :=
  match token with
  | word actual => actual == expected
  | _ => false

/-- Whether a token ends a branch of an if block. -/
def endsBranch (token : Token) : Bool :=
  token.isWord "elsif" || token.isWord "else" || token.isWord "endif"

end Token

end GcodeTemplate
