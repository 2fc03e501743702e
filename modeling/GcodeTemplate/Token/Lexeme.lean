import GcodeTemplate.Diagnostic.Cause
import GcodeTemplate.Number.Decimal
import GcodeTemplate.Number.Whole
import GcodeTemplate.Text.Blank
import GcodeTemplate.Text.Width
import GcodeTemplate.Token

/-!
# Lexemes

Reading the first token of a text.  A lexeme keeps the characters that its
token was read from, so that the text of the lexeme followed by the rest is
always the text that was given.
-/

namespace GcodeTemplate

open Text

/-- Whether a character is an ASCII digit. -/
def isDecimalDigit (c : Char) : Bool :=
  '0' ≤ c && c ≤ '9'

/-- Whether a word may start with a character. -/
def startsWord (c : Char) : Bool :=
  ('a' ≤ c && c ≤ 'z') || ('A' ≤ c && c ≤ 'Z') || c == '_'

/-- Whether a word may go on with a character. -/
def continuesWord (c : Char) : Bool :=
  startsWord c || isDecimalDigit c

/-- The number that some decimal digits stand for. -/
def digitsValue (digits : List Char) : Nat :=
  digits.foldl (fun value c => 10 * value + (c.toNat - '0'.toNat)) 0

/--
Why no token can be read, with the number of bytes in front of the offending
ones and the number of these.
-/
structure Flaw where
  cause : Cause
  lead : Nat
  width : Nat

/-- The first token of a text, the characters it was read from, and the others. -/
structure Lexeme where
  token : Token
  text : List Char
  rest : List Char

namespace Lexeme

/-- The exponent that a text starts with: its characters, its value and the rest. -/
structure ExponentPart where
  text : List Char
  value : Int
  rest : List Char

/--
The exponent that consists of a mark, maybe with a sign, and the digits that
`behind` starts with.  Without a digit there is no exponent, and nothing of
`text` is read.
-/
def readExponentDigits
    (text mark : List Char)
    (negative : Bool)
    (behind : List Char) :
    ExponentPart :=
  let digits := behind.takeWhile isDecimalDigit
  if digits.isEmpty then
    ⟨[], 0, text⟩
  else
    ⟨mark ++ digits, Number.signed negative (digitsValue digits),
      behind.dropWhile isDecimalDigit⟩

/-- Read the exponent that a text starts with, if there is one. -/
def readExponent : List Char → ExponentPart
  | [] => ⟨[], 0, []⟩
  | mark :: behind =>
      if mark == 'e' || mark == 'E' then
        match behind with
        | '+' :: digits => readExponentDigits (mark :: behind) [mark, '+'] false digits
        | '-' :: digits => readExponentDigits (mark :: behind) [mark, '-'] true digits
        | digits => readExponentDigits (mark :: behind) [mark] false digits
      else
        ⟨[], 0, mark :: behind⟩

/--
Read a number from a text that starts with a digit, or with a point and a
digit.  A point or an exponent makes it a double.
-/
def readNumber (text : List Char) : Except Flaw Lexeme :=
  let whole := text.takeWhile isDecimalDigit
  let (fraction, behind) :=
    match text.dropWhile isDecimalDigit with
    | '.' :: rest =>
        ('.' :: rest.takeWhile isDecimalDigit, rest.dropWhile isDecimalDigit)
    | rest => ([], rest)
  let exponent := readExponent behind
  let read := whole ++ fraction ++ exponent.text
  if fraction.isEmpty && exponent.text.isEmpty then
    let value := digitsValue whole
    if value ≤ Int64.maxValue.toInt then
      .ok ⟨.int (.ofNat value), read, exponent.rest⟩
    else
      .error ⟨.integerTooLarge, 0, byteWidth read⟩
  else
    let places := fraction.drop 1
    let decimal : Number.Decimal :=
      ⟨digitsValue (whole ++ places), exponent.value - places.length⟩
    .ok ⟨.double decimal.toFloat, read, exponent.rest⟩

/-- The character that an escape in a string stands for. -/
def unescape? : Char → Option Char
  | 'n' => some '\n'
  | 'r' => some '\r'
  | '"' => some '"'
  | '\\' => some '\\'
  | _ => none

/-- A string in the course of being read: its content, its text and the rest. -/
structure StringBody where
  content : List Char
  text : List Char
  rest : List Char

/-- Put a character and the text it was written as in front. -/
def StringBody.cons (c : Char) (written : List Char) (body : StringBody) : StringBody :=
  ⟨c :: body.content, written ++ body.text, body.rest⟩

/-- Read a string up to its closing quote; `position` bytes stand in front. -/
def readString (position : Nat) : List Char → Except Flaw StringBody
  | [] => .error ⟨.unterminatedString, 0, position⟩
  | '"' :: rest => .ok ⟨[], ['"'], rest⟩
  | '\\' :: [] => .error ⟨.invalidEscape, position, 1⟩
  | '\\' :: c :: rest =>
      match unescape? c with
      | none => .error ⟨.invalidEscape, position, 1 + c.utf8Size⟩
      | some meant =>
          (readString (position + 1 + c.utf8Size) rest).map
            (.cons meant ['\\', c])
  | c :: rest =>
      (readString (position + c.utf8Size) rest).map (.cons c [c])

/-- The sign that two characters make together. -/
def pair? : Char → Char → Option Symbol
  | '!', '=' => some .notEqual
  | '!', '~' => some .bangTilde
  | '=', '=' => some .equal
  | '=', '~' => some .equalTilde
  | '<', '=' => some .lessOrEqual
  | '<', '>' => some .notEqual
  | '>', '=' => some .greaterOrEqual
  | '&', '&' => some .and
  | '|', '|' => some .or
  | _, _ => none

/-- The sign that one character makes. -/
def single? : Char → Option Symbol
  | '+' => some .plus
  | '-' => some .minus
  | '*' => some .star
  | '/' => some .slash
  | '%' => some .percent
  | '!' => some .bang
  | '~' => some .tilde
  | '<' => some .less
  | '>' => some .greater
  | '=' => some .assign
  | '?' => some .question
  | ':' => some .colon
  | ',' => some .comma
  | ';' => some .semicolon
  | '(' => some .leftParenthesis
  | ')' => some .rightParenthesis
  | '[' => some .leftBracket
  | ']' => some .rightBracket
  | '{' => some .leftBrace
  | '}' => some .rightBrace
  | _ => none

/-- Read a sign of one character, or a character that is none. -/
def readSingle (c : Char) (rest : List Char) : Lexeme :=
  match single? c with
  | some symbol => ⟨.symbol symbol, [c], rest⟩
  | none => ⟨.stray c, [c], rest⟩

/-- Read the longest sign. -/
def readSymbol (c : Char) : List Char → Lexeme
  | [] => readSingle c []
  | next :: rest =>
      match pair? c next with
      | some symbol => ⟨.symbol symbol, [c, next], rest⟩
      | none => readSingle c (next :: rest)

/-- Whether a number starts with a character, given what follows it. -/
def startsNumber (c : Char) (rest : List Char) : Bool :=
  isDecimalDigit c || (c == '.' && rest.head?.any isDecimalDigit)

/-- Read the first token of a text that does not start with a blank. -/
def read : List Char → Except Flaw Lexeme
  | [] => .ok ⟨.endOfInput, [], []⟩
  | c :: rest =>
      if 128 ≤ c.toNat then
        .error ⟨.nonAsciiCode, 0, c.utf8Size⟩
      else if startsNumber c rest then
        readNumber (c :: rest)
      else if c == '"' then
        (readString 1 rest).map fun body =>
          ⟨.string (.ofList body.content), '"' :: body.text, body.rest⟩
      else if startsWord c then
        let name := c :: rest.takeWhile continuesWord
        .ok ⟨.word (.ofList name), name, rest.dropWhile continuesWord⟩
      else
        .ok (readSymbol c rest)

end Lexeme

end GcodeTemplate
