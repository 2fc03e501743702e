import GcodeTemplate.Diagnostic.Expectation
import GcodeTemplate.Setting

/-!
# Causes of failure

Every way in which reading or evaluating a template can fail, with the class
it belongs to and the text that is shown for it.
-/

namespace GcodeTemplate

/-- The class of a failure. -/
inductive ErrorKind where
  /-- The template does not follow the grammar. -/
  | grammar
  /-- A name is unknown, or is declared where it may not be. -/
  | name
  /-- An operation got the wrong kind of value. -/
  | type
  /-- An index, a count or a coordinate lies outside of its range. -/
  | range
  /-- Any other failure of an evaluation. -/
  | runtime
deriving DecidableEq, Repr

/-- The name of a class of failures as it is shown to users. -/
def ErrorKind.text : ErrorKind → String
  | .grammar => "syntax error"
  | .name => "name error"
  | .type => "type error"
  | .range => "range error"
  | .runtime => "runtime error"

/--
What is told to a user about a text that is no regular expression: why it is none, if
anything is known about that.
-/
abbrev Explainer :=
  String → Option String

/-- Nothing is known about any text. -/
def Explainer.silent : Explainer :=
  fun _ => none

/-- Why reading or evaluating a template failed. -/
inductive Cause where
  -- The grammar.
  | expected (expectation : Expectation)
  | integerTooLarge
  | unterminatedString
  | invalidEscape
  | nonAsciiCode
  | nestedTooDeeply
  | invalidIndexSuffix
  -- Names.
  | unknownVariable
  | missingSetting
  | readOnlyVariable
  | definedReadOnly
  | definedAsOutput
  | definedAsLocal
  | definedAsGlobal
  | globalsUnavailable
  -- Operators.
  | cannotAdd
  | cannotSubtract
  | cannotMultiply
  | cannotDivide
  | cannotDivideBy
  | divisionByZero
  | cannotNegate
  | cannotInvert
  | cannotTruncate
  | cannotRound
  | cannotFloor
  | cannotCeil
  | cannotCompare
  | cannotJoinLogically
  | notACondition
  -- References.
  | indexNotWhole
  | emptyVector
  | nilScalar
  | nilElement
  | unresolvedRatio
  | vectorWhereScalarExpected
  -- Assignments and declarations.
  | notNumeric
  | notBoolean
  | indexOutOfRange
  | vectorTargetWithoutIndex
  | unsupportedScalarTarget
  | unsupportedVectorTarget
  | scalarForWholeVector
  | scalarForVector
  | vectorForScalar
  | nilInSource
  | incompatibleVectors (target : Element)
  | countNotWhole
  | negativeCount
  | countTooLarge
  | emptyInitialValue
  | emptyInitializer
  | mixedInitializer
  | unsupportedCopy
  -- Calls.
  | argumentNotNumeric
  | widthNotWhole
  | placesNotWhole
  | noRandomSource
  | invalidRandomRange
  | negativeFilament
  | emptyOfScalar
  | sizeOfScalar
  | subjectNotString
  | patternNotString
  | matchedNotString
  /-- The value of an expression is no regular expression. -/
  | patternRejected
  /-- A text between slashes is no regular expression. -/
  | patternMalformed (source : String)
  | abscissaNotNumeric
  | knotAbscissaNotNumeric
  | knotOrdinateNotNumeric
  | emptyTable
  | decreasingTable
  | outsideTable
  -- Brackets.
  | indexedScalar
  | bracketIndexNotWhole
  | negativeBracketIndex
  /-- A failure that is reported from outside of the evaluation. -/
  | custom (kind : ErrorKind) (text : String)
deriving DecidableEq, Repr

namespace Cause

/-- The class of a cause. -/
def kind : Cause → ErrorKind
  | expected _ | integerTooLarge | unterminatedString | invalidEscape
  | nonAsciiCode | nestedTooDeeply | invalidIndexSuffix => .grammar
  | unknownVariable | missingSetting | readOnlyVariable | definedReadOnly
  | definedAsOutput | definedAsLocal | definedAsGlobal
  | globalsUnavailable => .name
  | emptyVector | indexOutOfRange | negativeCount | countTooLarge
  | invalidRandomRange | negativeFilament | emptyTable | decreasingTable
  | outsideTable | negativeBracketIndex => .range
  | divisionByZero | nilScalar | nilElement | unresolvedRatio | nilInSource
  | noRandomSource | patternRejected | patternMalformed _ => .runtime
  | custom kind _ => kind
  | _ => .type

/-- The text that stands for every pattern that is rejected. -/
def rejectionText : String :=
  "Regular expression compilation failed"

/-- The text of a cause. -/
def text (cause : Cause) (explain : Explainer := .silent) : String :=
  match cause with
  | expected expectation => expectation.shown
  | integerTooLarge => "Integer literal is out of range."
  | unterminatedString => "Unterminated string literal."
  | invalidEscape => "Invalid escape sequence"
  | nonAsciiCode =>
      "Non-ASCII7 characters are only allowed inside text blocks and string literals, not inside code blocks."
  | nestedTooDeeply => "Expression nested too deeply."
  | invalidIndexSuffix => "Invalid vector index"
  | unknownVariable => "Not a variable name"
  | missingSetting => "Variable does not exist"
  | readOnlyVariable => "Cannot modify a read-only variable"
  | definedReadOnly =>
      "Symbol is already defined in read-only system dictionary"
  | definedAsOutput => "Symbol is already defined as system output variable"
  | definedAsLocal => "Variable name already defined in local scope"
  | definedAsGlobal => "Variable name already defined in global scope"
  | globalsUnavailable => "Global variables are not available in this context"
  | cannotAdd => "Cannot add non-numeric types."
  | cannotSubtract => "Cannot subtract non-numeric types."
  | cannotMultiply => "Cannot multiply with non-numeric type."
  | cannotDivide => "Cannot divide a non-numeric type."
  | cannotDivideBy => "Cannot divide with a non-numeric type."
  | divisionByZero => "Division by zero"
  | cannotNegate => "Cannot apply unary minus operator."
  | cannotInvert => "Cannot apply a not operator."
  | cannotTruncate => "Cannot convert to integer."
  | cannotRound => "Cannot round a non-numeric value."
  | cannotFloor => "Cannot floor a non-numeric value."
  | cannotCeil => "Cannot ceil a non-numeric value."
  | cannotCompare => "Cannot compare the types."
  | cannotJoinLogically =>
      "Cannot apply logical operation to non-boolean operators."
  | notACondition => "Not a boolean expression"
  | indexNotWhole =>
      "Non-integer index is not allowed to address a vector variable."
  | emptyVector => "Indexing an empty vector variable"
  | nilScalar => "Trying to reference an undefined (nil) optional variable"
  | nilElement =>
      "Trying to reference an undefined (nil) element of vector of optional values"
  | unresolvedRatio =>
      "FloatOrPercent variable failed to resolve the \"ratio_over\" dependencies"
  | vectorWhereScalarExpected =>
      "Referencing a vector variable when scalar is expected"
  | notNumeric => "Right side is not a numeric expression"
  | notBoolean => "Right side is not a boolean expression"
  | indexOutOfRange => "Index out of range"
  | vectorTargetWithoutIndex =>
      "Referencing an output vector variable when scalar is expected"
  | unsupportedScalarTarget => "Unsupported output scalar variable type"
  | unsupportedVectorTarget => "Unsupported output vector variable type"
  | scalarForWholeVector => "Cannot assign scalar to a vector"
  | scalarForVector => "Cannot assign a scalar value to a vector variable."
  | vectorForScalar => "Cannot assign a vector value to a scalar variable."
  | nilInSource =>
      "Some elements of the right hand side vector variable of optional values are undefined (nil)"
  | incompatibleVectors .float =>
      "Left hand side is a float vector, while the right hand side is not."
  | incompatibleVectors .int =>
      "Left hand side is an int vector, while the right hand side is not."
  | incompatibleVectors .string =>
      "Left hand side is a string vector, while the right hand side is not."
  | incompatibleVectors .bool =>
      "Left hand side is a bool vector, while the right hand side is not."
  | incompatibleVectors _ =>
      "Left hand side / right hand side vectors are not compatible."
  | countNotWhole => "Expected number of elements to fill a vector with."
  | negativeCount => "Negative number of elements specified."
  | countTooLarge =>
      "Number of elements to fill a vector with is too large."
  | emptyInitialValue => "Cannot create a variable from an empty value."
  | emptyInitializer =>
      "Cannot create vector variable from an empty initializer list, because its type cannot be deduced."
  | mixedInitializer =>
      "Right side is not valid: Mixing numeric and boolean types."
  | unsupportedCopy =>
      "Duplicating this type of vector variable is not supported"
  | argumentNotNumeric => "Not a numeric type."
  | widthNotWhole => "digits: second parameter must be integer"
  | placesNotWhole => "digits: third parameter must be integer"
  | noRandomSource =>
      "Random number generator not available in this context."
  | invalidRandomRange => "Invalid range of a random number."
  | negativeFilament => "Filament index must not be negative."
  | emptyOfScalar => "parameter of empty() is not a vector variable"
  | sizeOfScalar => "parameter of size() is not a vector variable"
  | subjectNotString =>
      "one_of(): First parameter (the string to match against) has to be a string value"
  | patternNotString => "one_of(): Pattern has to be a string value"
  | matchedNotString => "Left hand side of a regex match must be a string."
  | patternRejected => rejectionText
  | patternMalformed source =>
      match explain source with
      | some explanation => rejectionText ++ ": " ++ explanation
      | none => rejectionText
  | abscissaNotNumeric => "Interpolation value must be a number."
  | knotAbscissaNotNumeric => "X value of a table point must be a number."
  | knotOrdinateNotNumeric => "Y value of a table point must be a number."
  | emptyTable => "Interpolation table is empty"
  | decreasingTable => "X coordinates of the table must be increasing"
  | outsideTable => "Interpolation value is outside the table range"
  | indexedScalar => "Trying to index a scalar variable"
  | bracketIndexNotWhole => "Indexing variable has to be integer"
  | negativeBracketIndex => "Negative vector index"
  | custom _ text => text

end Cause

end GcodeTemplate
