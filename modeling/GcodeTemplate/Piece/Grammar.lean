import GcodeTemplate.Expr.Grammar
import GcodeTemplate.Piece

/-!
# The grammar of templates

Text alternates with code in braces and with settings in brackets.  Code is a
sequence of statements and if blocks, divided by semicolons.  A branch of an if
block is code, or it closes the brace and is text up to the brace that opens
the next branch.

An if block is read one level of nesting deeper than what it belongs to, so the
parsers of each level are built from those of the level below it.
-/

namespace GcodeTemplate

namespace Grammar

open GcodeTemplate.Parser GcodeTemplate.Text

/-- What a sequence of statements belongs to. -/
inductive Enclosure where
  | braces
  | branch
  | lastBranch
deriving DecidableEq, Repr

namespace Enclosure

/-- Whether a token may follow the last statement. -/
def endsStatement (enclosure : Enclosure) (token : Token) : Bool :=
  match enclosure with
  | braces => token.isSymbol .rightBrace
  | branch => token.endsBranch
  | lastBranch => token.isWord "endif"

/-- Whether a token ends the sequence of statements. -/
def ends (enclosure : Enclosure) (token : Token) : Bool :=
  match token with
  | .endOfInput => true
  | .symbol .rightBrace => true
  | token => enclosure != braces && token.endsBranch

end Enclosure

section Statements

variable (grammar : Expressions)

/-- A parenthesized list, from its opening parenthesis on. -/
def listItems : Parser (List Expr) := do
  expect .leftParenthesis .operand
  if ← eat .rightParenthesis then
    pure []
  else
    iterate (fun collected => do
      let item ← grammar.conditional
      if ← eat .comma then
        pure (.again (item :: collected))
      else
        expect .rightParenthesis .closingParenthesis
        pure (.done (item :: collected).reverse)) []

/-- Whether a list is an initializer when a token follows it. -/
def followsInitializer : Token → Bool
  | .symbol .semicolon => true
  | .symbol .rightBrace => true
  | .endOfInput => true
  | token => token.endsBranch

/--
An initializer list that starts at `start`; `none` if the parenthesis belongs to
an expression.
-/
def initializerList (start : Nat) : Parser (Option Initializer) := do
  let items ← listItems grammar
  let (token, _) ← peek
  if followsInitializer token then
    let span ← spanFrom start
    pure (some (.list span items))
  else
    pure none

/-- A count and a value in parentheses, behind the word that starts at `start`. -/
def fill (start : Nat) : Parser Initializer := do
  expect .leftParenthesis .operand
  let count ← sum grammar.operand
  expect .comma .operand
  let value ← grammar.conditional
  expect .rightParenthesis .closingParenthesis
  let span ← spanFrom start
  pure (.fill span count value)

/-- The initializer that consists of an expression. -/
def ofExpression (expr : Expr) : Initializer :=
  match expr.reference? with
  | some reference => .reference reference
  | none => .expression expr

/-- What stands behind the sign of an assignment. -/
def initializer : Parser Initializer := do
  let (token, span) ← peek
  let list ←
    if token.isSymbol .leftParenthesis then
      restoring (Option.join <$> attempt (initializerList grammar span.start))
    else
      pure none
  match list with
  | some list => pure list
  | none =>
      if ← eatWord "repeat" then
        fill grammar span.start
      else
        ofExpression <$> grammar.conditional

/-- A declaration, behind the word that tells its scope. -/
def declaration (isGlobal : Bool) : Parser Piece := do
  let (token, nameSpan) ← advance
  match token with
  | .word name =>
      if Token.isReserved name then
        failExpecting .identifier nameSpan
      else
        expect .assign .assignmentOperator
        let initializer ← initializer grammar
        pure (.declare ⟨isGlobal, name, nameSpan, initializer⟩)
  | _ => failExpecting .identifier nameSpan

/-- The target of an assignment; `none` if what comes next is none. -/
def target : Parser (Option (Reference Expr)) :=
  restoring do
    match ← attempt (reference grammar) with
    | none => pure none
    | some reference =>
        if ← eat .assign then pure (some reference) else pure none

/-- An assignment, or an expression that starts with a variable. -/
def assignment : Parser Piece := do
  match ← target grammar with
  | some target => Piece.assign target <$> initializer grammar
  | none => Piece.expression <$> grammar.conditional

/-- A statement other than an if block. -/
def statement : Parser Piece := do
  let (token, _) ← peek
  match token with
  | .word name =>
      if name == "local" || name == "global" then
        let _ ← advance
        declaration grammar (name == "global")
      else if Token.isReserved name then
        Piece.expression <$> grammar.conditional
      else
        assignment grammar
  | _ => Piece.expression <$> grammar.conditional

/-- What divides statements: semicolons, or nothing before the end of the sequence. -/
def statementEnd (enclosure : Enclosure) : Parser Unit := do
  if ← eat .semicolon then
    let _ ← many do
      if ← eat .semicolon then pure (some ()) else pure none
    pure ()
  else
    let (token, span) ← peek
    if enclosure.endsStatement token then
      pure ()
    else
      failExpecting .statementEnd span

/-- The name in a bracket or in the brackets of its index. -/
def plainName (expectation : Expectation) : Parser (String × Span) := do
  let (token, span) ← advance
  match token with
  | .word name =>
      if Token.isReserved name then
        failExpecting expectation span
      else
        pure (name, span)
  | _ => failExpecting expectation span

/-- A bracket that starts at `start`, behind its opening. -/
def bracket (start : Nat) : Parser Bracket := do
  let (name, nameSpan) ← plainName .bracket
  let index ←
    if ← eat .leftBracket then
      let index ← plainName .identifier
      expect .rightBracket .closingBracket
      pure (some index)
    else
      pure none
  expect .rightBracket .bracket
  let span ← spanFrom start
  pure ⟨name, nameSpan, index, span⟩

/--
A round of a sequence of statements, given how to read an if block behind its
word.  The pieces so far are kept in reverse, with whether there was anything.
-/
def codeRound
    (choice : Span → Parser Piece)
    (enclosure : Enclosure) :
    List Piece × Bool → Parser (Step (List Piece × Bool) (List Piece))
  | (collected, any) => do
      let (token, span) ← peek
      if token.isSymbol .semicolon then
        let _ ← advance
        pure (.again (collected, true))
      else if enclosure.ends token then
        if ! any && enclosure == .braces then
          failExpecting .codeBlock span
        else
          pure (.done collected.reverse)
      else if token.isWord "if" then
        let _ ← advance
        let piece ← choice span
        pure (.again (piece :: collected, true))
      else
        let piece ← statement grammar
        statementEnd enclosure
        pure (.again (piece :: collected, true))

/-- A sequence of statements and if blocks. -/
def code (choice : Span → Parser Piece) (enclosure : Enclosure) : Parser (List Piece) :=
  iterate (codeRound grammar choice enclosure) ([], false)

/-- Move behind the first character, which is one byte wide. -/
def opening : Parser Unit :=
  fun cursor =>
    let position := cursor.position + 1
    .ok ((), { cursor with
      rest := cursor.rest.drop 1
      position := position
      previousStop := position })

/-- The text up to the next brace or bracket that opens. -/
def plainText : Parser Piece :=
  fun cursor =>
    let isText (c : Char) : Bool := c != '{' && c != '['
    let text := cursor.rest.takeWhile isText
    let position := cursor.position + byteWidth text
    .ok (.text (.ofList text), { cursor with
      rest := cursor.rest.dropWhile isText
      position := position
      previousStop := position })

/-- The pieces in braces; `none` before braces that open another branch. -/
def braces (choice : Span → Parser Piece) : Parser (Option (List Piece)) :=
  restoring do
    opening
    let (token, _) ← peek
    if token.endsBranch then
      pure none
    else
      let pieces ← code grammar choice .braces
      expect .rightBrace .codeBlock
      pure (some pieces)

/-- The next pieces of a text block; `none` at its end. -/
def textRound (choice : Span → Parser Piece) : Parser (Option (List Piece)) := do
  let start ← cursor
  match start.rest with
  | [] => pure none
  | '{' :: _ => braces grammar choice
  | '[' :: _ => do
      opening
      let bracket ← bracket start.position
      pure (some [.bracket bracket])
  | _ => (some [·]) <$> plainText

/-- Text with code and brackets, up to the end or to braces that open another branch. -/
def textBlock (choice : Span → Parser Piece) : Parser (List Piece) :=
  List.flatten <$> many (textRound grammar choice)

/-- The body of a branch: code, or text outside of the braces. -/
def branchBody
    (choice : Span → Parser Piece)
    (enclosure : Enclosure) :
    Parser (List Piece) := do
  if ← eat .rightBrace then
    let pieces ← textBlock grammar choice
    expect .leftBrace .choice
    pure pieces
  else
    if enclosure == .branch then
      let _ ← eatWord "then"
    code grammar choice enclosure

/-- A condition and the body of its branch. -/
def branch (choice : Span → Parser Piece) : Parser (Branch Piece) := do
  let condition ← grammar.conditional
  let body ← branchBody grammar choice .branch
  pure ⟨condition, body⟩

/-- What follows the word that starts an if block. -/
def branches (choice : Span → Parser Piece) : Parser Piece := do
  let first ← branch grammar choice
  let others ← many do
    if ← eatWord "elsif" then
      some <$> branch grammar choice
    else
      pure none
  let otherwise ←
    if ← eatWord "else" then
      some <$> branchBody grammar choice .lastBranch
    else
      pure none
  if ← eatWord "endif" then
    pure (.choose (first :: others) otherwise)
  else
    let (_, span) ← peek
    failExpecting .choice span

end Statements

/-- An if block behind its word, with a number of levels of nesting left. -/
def choice : (levels : Nat) → Span → Parser Piece
  | 0, span => fail .nestedTooDeeply span
  | levels + 1, span =>
      nested span (branches (expressions levels) (choice levels))

/-- Text with code and brackets, with a number of levels of nesting left. -/
def template (levels : Nat) : Parser (List Piece) :=
  textBlock (expressions levels) (choice levels)

end Grammar

/-- Read a source that consists of text with code and brackets. -/
def Piece.parse (source : String) : Except Fault (List Piece) :=
  let parser : Parser (List Piece) := do
    let pieces ← Grammar.template maximalNesting
    let stop ← Parser.cursor
    if stop.rest.isEmpty then
      pure pieces
    else
      Parser.failExpecting .endOfInput (.point stop.position)
  (parser (.start source)).map (·.1)

end GcodeTemplate
