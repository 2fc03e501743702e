/-!
# Expectations

What the grammar of templates calls for at the position where reading a
template fails.  Every expectation has a tag; most tags have a text.
-/

namespace GcodeTemplate

/-- A part of the grammar that was called for. -/
inductive Expectation where
  | endOfInput
  | start
  | text
  | textBlock
  | codeBlock
  | choice
  | bracket
  | identifier
  | conditional
  | disjunction
  | conjunction
  | condition
  | equality
  | relation
  | sum
  | product
  | operand
  | optionalParameter
  | patternList
  | reference
  | variableName
  | pattern
  | statementEnd
  | closingParenthesis
  | closingBracket
  | assignmentOperator
  /-- A tag that is not part of the grammar. -/
  | other (tag : String)
deriving DecidableEq, Repr

namespace Expectation

/-- The expectations of the grammar. -/
def all : List Expectation :=
  [endOfInput, start, text, textBlock, codeBlock, choice, bracket, identifier,
    conditional, disjunction, conjunction, condition, equality, relation, sum,
    product, operand, optionalParameter, patternList, reference, variableName,
    pattern, statementEnd, closingParenthesis, closingBracket,
    assignmentOperator]

/-- The tag of an expectation. -/
def tag : Expectation → String
  | endOfInput => "eoi"
  | start => "start"
  | text => "text"
  | textBlock => "text_block"
  | codeBlock => "macro"
  | choice => "if_else_output"
  | bracket => "legacy_variable_expansion"
  | identifier => "identifier"
  | conditional => "conditional_expression"
  | disjunction => "logical_or_expression"
  | conjunction => "logical_and_expression"
  | condition => "bool_expr_eval"
  | equality => "equality_expression"
  | relation => "relational_expression"
  | sum => "additive_expression"
  | product => "multiplicative_expression"
  | operand => "unary_expression"
  | optionalParameter => "optional_parameter"
  | patternList => "one_of_list"
  | reference => "variable_reference"
  | variableName => "variable"
  | pattern => "regular_expression"
  | statementEnd => "statement_end"
  | closingParenthesis => "closing_parenthesis"
  | closingBracket => "closing_bracket"
  | assignmentOperator => "assignment_operator"
  | other tag => tag

/-- The expectation with a given tag. -/
def ofTag (tag : String) : Expectation :=
  (all.find? (·.tag == tag)).getD (other tag)

/-- The text of an expectation of the grammar. -/
def text? : Expectation → Option String
  | endOfInput | start => "Unknown syntax error"
  | text => "Invalid text."
  | textBlock => "Invalid text block."
  | codeBlock => "Invalid macro."
  | choice => "Not an \x7bif\x7d\x7belse\x7d\x7bendif\x7d macro."
  | bracket => "Expecting a legacy variable expansion format"
  | identifier => "Expecting an identifier."
  | conditional => "Expecting a conditional expression."
  | disjunction | conjunction | condition => "Expecting a boolean expression."
  | equality | relation | sum | product | operand => "Expecting an expression."
  | optionalParameter => "Expecting a closing brace or an optional parameter."
  | patternList =>
      "Expecting a list of string patterns (simple text or rexep)"
  | reference => "Expecting a variable reference."
  | variableName => "Expecting a variable name."
  | pattern => "Expecting a regular expression."
  | statementEnd => "Expecting a semicolon or the end of the macro."
  | closingParenthesis => "Expecting a closing parenthesis."
  | closingBracket => "Expecting a closing bracket."
  | assignmentOperator => "Expecting an assignment operator."
  | other _ => none

/-- The text that is shown for an expectation. -/
def shown (expectation : Expectation) : String :=
  expectation.text?.getD ("Expecting tag " ++ expectation.tag)

end Expectation

end GcodeTemplate
