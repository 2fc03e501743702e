import GcodeTemplate.Proofs.Levels
import GcodeTemplate.Proofs.Placement
import GcodeTemplate.Proofs.Placing

/-!
# Where expressions stand in their source

Whatever the grammar reads as an expression stands in the source between where it
began and where its last token has stopped, and so do its parts within it.
-/

namespace GcodeTemplate

open Text

namespace Grammar

open GcodeTemplate.Parser

/-- From any cursor a parser reads an expression that stands in the source behind it. -/
def PlacesExpr (source : List Char) (parser : Parser Expr) : Prop :=
  ∀ start stop next,
    Places source start stop next (fun later expr => expr.Placed source ⟨start, later⟩) parser

/-- The parsers of expressions at one level of nesting read what stands in the source. -/
structure Expressions.Place (source : List Char) (grammar : Expressions) : Prop where
  operand : PlacesExpr source grammar.operand
  conditional : PlacesExpr source grammar.conditional

variable {source : List Char} {start stop : Nat} {next : Option Span}

/-! ## Chains -/

/-- A regular expression is missing where its slash is, or it does not end. -/
theorem regularExpression_eq_error
    {cursor : Cursor}
    {fault : Fault}
    (failed : regularExpression cursor = .error fault) :
    let start := cursor.position + (cursor.rest.takeWhile isAsciiBlank).length
    fault = ⟨.expected .pattern, .point start⟩ ∨
      ∃ behind, cursor.rest.dropWhile isAsciiBlank = '/' :: behind ∧
        fault = ⟨.expected .pattern, ⟨start, start + 1 + byteWidth behind⟩⟩ := by
  unfold regularExpression at failed
  generalize cursor.rest.dropWhile isAsciiBlank = text at failed
  dsimp only at failed
  split at failed
  · split at failed
    · nomatch failed
    · cases failed
      exact .inr ⟨_, rfl, rfl⟩
  · cases failed
    exact .inl rfl

theorem places_regularExpression :
    Places source start stop next
      (fun later (pattern : String × Span) => pattern.2.LiesIn source ⟨start, later⟩)
      regularExpression := by
  intro cursor stands
  rcases stands.isOn.splits_blanks with ⟨before, given, width⟩
  have slash : '/'.utf8Size = 1 := rfl
  cases outcome : regularExpression cursor with
  | error fault =>
      rcases regularExpression_eq_error outcome with rfl | ⟨behind, text, rfl⟩
      · exact ⟨rfl, Span.isIn_point ⟨before, _, given, width⟩⟩
      · have isIn := Span.Holds.isIn ⟨before, [], by simpa using given, rfl⟩
        rw [text, byteWidth_cons, slash, width, ← Nat.add_assoc] at isIn
        exact ⟨rfl, isIn⟩
  | ok answer =>
      rcases answer with ⟨pattern, moved⟩
      rcases regularExpression_eq_ok outcome with ⟨behind, written, rest, text, found, rfl, rfl⟩
      have splits : source = before ++ (('/' :: (written ++ ['/'])) ++ rest) := by
        rw [given, text, ← Pattern.upToSlash_text found]
        simp
      have wide : byteWidth ('/' :: (written ++ ['/'])) = byteWidth written + 2 := by
        simp only [byteWidth_cons, byteWidth_append, byteWidth_nil, slash]
        omega
      have isIn := Span.Holds.isIn ⟨before, rest, splits, rfl⟩
      rw [wide, width, ← Nat.add_assoc] at isIn
      have began := stands.start
      have stopped := stands.stop ▸ stands.isOn.behind
      refine ⟨⟨⟨⟨before ++ '/' :: (written ++ ['/']), by simpa using splits, ?_⟩, isIn.stops,
        Nat.le_refl _⟩, ?_, rfl, by simp⟩, ?_, isIn, ?_, Nat.le_refl _⟩
      · rw [byteWidth_append, wide, width, ← Nat.add_assoc]
      all_goals
        dsimp only
        omega

theorem placed_joined
    {outer : Span}
    {left right : Expr}
    (operator : BinaryOperator)
    (leftPlaced : left.Placed source outer)
    (rightPlaced : right.Placed source outer) :
    (joined operator left right).Placed source outer := by
  unfold Expr.Placed
  exact ⟨leftPlaced.lies.cover rightPlaced.lies, leftPlaced.cover_left _,
    rightPlaced.cover_right _⟩

/-- A round of a chain goes on with an operand or a pattern behind the chain so far, or ends it. -/
theorem Level.places_step
    (level : Level)
    {operand : Parser Expr}
    (places : PlacesExpr source operand)
    (state : Expr × Nat)
    (placed : state.1.Placed source ⟨start, stop⟩) :
    Places source start stop none
      (fun later =>
        Step.Good (fun state => state.1.Placed source ⟨start, later⟩)
          fun expr => expr.Placed source ⟨start, later⟩)
      (level.step operand state) := by
  rcases state with ⟨left, spent⟩
  refine places_peek fun token span _ _ _ => Places.anyNext ?_
  dsimp only
  split
  next operator _ =>
    refine places_advance.bind fun _ afterSign passed _ => ?_
    refine (places_charge 1 placed.lies.isIn).bind fun _ charged _ same => ?_
    subst same
    refine (places _ _ _).bind fun right afterOperand passedOperand rightPlaced => places_pure ?_
    exact placed_joined operator (placed.until (Nat.le_trans passed passedOperand)) rightPlaced
  next negated _ =>
    refine places_advance.bind fun _ afterSign passed _ => ?_
    refine places_regularExpression.bind fun ⟨pattern, patternSpan⟩ last further lies =>
      places_pure ?_
    have leftPlaced := placed.until (Nat.le_trans passed further)
    unfold Expr.Placed
    exact ⟨leftPlaced.lies.cover lies, leftPlaced.cover_left _, lies.isIn,
      Nat.min_le_right _ _, Nat.le_max_right _ _⟩
  next =>
    exact (places_release spent).bind fun _ last _ same => places_pure (same ▸ placed)

theorem Level.places_links
    (level : Level)
    {operand : Parser Expr}
    (places : PlacesExpr source operand) :
    PlacesExpr source (level.links operand) := by
  intro start stop next
  refine (places start stop next).bind fun first later _ placed => ?_
  exact places_iterate (fun last state => state.1.Placed source ⟨start, last⟩)
    (fun state last _ kept => level.places_step places state kept) placed

namespace Expressions.Place

variable {inner : Expressions} (place : inner.Place source)

include place

/-- Expressions of all levels stand in the source where they have been read. -/
theorem parser (level : Level) : PlacesExpr source (level.parser inner) := by
  induction level using Level.tightening with
  | conditional => exact place.conditional
  | operand => exact place.operand
  | chain level isChain tighter =>
      rw [level.parser_eq_links inner isChain]
      exact level.places_links tighter

theorem sum : PlacesExpr source (sum inner.operand) :=
  place.parser .sum

/-- A variable stands where its name and its index do. -/
theorem reference :
    Places source start stop next
      (fun later reference => reference.Placed source ⟨start, later⟩)
      (reference inner) := by
  refine places_peek fun token nameSpan isAt began _ => ?_
  dsimp only
  split
  next name =>
    split
    next => exact places_failExpecting isAt.isIn
    next free =>
      refine places_advance_known.bind fun _ _ _ same => ?_
      subst same
      have names := isAt.names free
      have ordered := isAt.isIn.ordered
      have finished (index : Option Expr) (last : Nat) (further : nameSpan.stop ≤ last)
          (indexPlaced : ∀ expr ∈ index, expr.Placed source ⟨nameSpan.start, last⟩) :
          Places source start last none
            (fun later reference => reference.Placed source ⟨start, later⟩) (do
              let span ← spanFrom nameSpan.start
              pure (⟨name, nameSpan, index, span⟩ : Reference Expr)) := by
        refine places_spanFrom (Nat.le_trans ordered further) isAt.isIn.starts
          fun final passed isIn => places_pure ?_
        unfold Reference.Placed
        refine ⟨⟨isIn, began, Nat.le_refl _⟩,
          ⟨isAt.isIn, Nat.le_refl _, Nat.le_trans further passed⟩, names, ?_⟩
        cases index with
        | none => exact trivial
        | some index => exact (indexPlaced index rfl).until passed
      refine (places_eat _).bind fun indexed afterBracket passed _ => ?_
      split
      · refine (Places.passing began (Nat.le_trans ordered passed)
          (place.sum _ _ _)).bind fun index afterIndex further placed => ?_
        refine (places_expect _ _).bind fun _ last closed _ => ?_
        refine finished (some index) last (by omega) ?_
        rintro _ ⟨⟩
        exact placed.until closed
      · exact finished none _ passed (by simp)
  next => exact places_failExpecting isAt.isIn

section Next

variable {span : Span} (isIn : span.IsIn source) (began : start ≤ span.start)

include isIn began

/-- An operator in front of an operand stands where the token that is known to come next does. -/
theorem unary (operator : UnaryOperator) :
    Places source start stop (some span) (fun later expr => expr.Placed source ⟨start, later⟩)
      (unary inner operator span.start) := by
  refine places_advance_known.bind fun _ _ _ same => ?_
  subst same
  have ordered := isIn.ordered
  refine (Places.passing began ordered (place.operand _ _ _)).bind
    fun operand afterOperand passed placed => ?_
  refine places_spanFrom (Nat.le_trans ordered passed) isIn.starts
    fun last further wholeIn => places_pure ?_
  unfold Expr.Placed
  exact ⟨⟨wholeIn, began, Nat.le_refl _⟩, placed.until further⟩

/-- Parentheses give what they enclose their own span. -/
theorem parenthesized :
    Places source start stop (some span) (fun later expr => expr.Placed source ⟨start, later⟩)
      (parenthesized inner span.start) := by
  refine places_advance_known.bind fun _ _ _ same => ?_
  subst same
  have ordered := isIn.ordered
  refine (Places.passing began ordered (place.conditional _ _ _)).bind
    fun inside afterInside passed placed => ?_
  refine (places_expect _ _).bind fun _ afterClosing closed _ => ?_
  refine places_spanFrom (by omega) isIn.starts fun last further wholeIn => places_pure ?_
  exact (placed.until (Nat.le_trans closed further)).withSpan ⟨wholeIn, began, Nat.le_refl _⟩

omit place in
theorem literal (value : Value) :
    Places source start stop (some span) (fun later expr => expr.Placed source ⟨start, later⟩)
      (literal span value) := by
  refine places_advance_known.bind fun _ last _ same => places_pure ?_
  subst same
  unfold Expr.Placed
  exact ⟨⟨isIn, began, Nat.le_refl _⟩, trivial⟩

end Next

/-! ## Arguments -/

theorem oneArgument :
    Places source start stop next (fun later expr => expr.Placed source ⟨start, later⟩)
      (oneArgument inner) := by
  refine (places_expect _ _).bind fun _ _ _ _ => ?_
  refine (place.conditional _ _ _).bind fun argument _ _ placed => ?_
  exact (places_expect _ _).bind fun _ last further _ => places_pure (placed.until further)

theorem twoArguments :
    Places source start stop next
      (fun later (first, second) =>
        first.Placed source ⟨start, later⟩ ∧ second.Placed source ⟨start, later⟩)
      (twoArguments inner) := by
  refine (places_expect _ _).bind fun _ _ _ _ => ?_
  refine (place.conditional _ _ _).bind fun first _ _ firstPlaced => ?_
  refine (places_expect _ _).bind fun _ _ comma _ => ?_
  refine (place.conditional _ _ _).bind fun second _ passed secondPlaced => ?_
  exact (places_expect _ _).bind fun _ last closed _ =>
    places_pure ⟨firstPlaced.until (by omega), secondPlaced.until closed⟩

theorem referenceArgument :
    Places source start stop next
      (fun later reference => reference.Placed source ⟨start, later⟩)
      (referenceArgument inner) := by
  refine (places_expect _ _).bind fun _ _ _ _ => ?_
  refine place.reference.bind fun argument _ _ placed => ?_
  exact (places_expect _ _).bind fun _ last closed _ =>
    places_pure (placed.until closed)

theorem digitsArguments (zeros : Bool) :
    Places source start stop next (fun later call => call.Placed source ⟨start, later⟩)
      (digitsArguments inner zeros) := by
  refine (places_expect _ _).bind fun _ _ _ _ => ?_
  refine (place.conditional _ _ _).bind fun value _ _ valuePlaced => ?_
  refine (places_expect _ _).bind fun _ _ comma _ => ?_
  refine (place.conditional _ _ _).bind fun width _ passed widthPlaced => ?_
  refine (places_eat _).bind fun closed _ further _ => ?_
  split
  · exact places_pure ⟨valuePlaced.until (by omega), widthPlaced.until further⟩
  · refine (places_eat _).bind fun more _ second _ => ?_
    split
    · refine (place.conditional _ _ _).bind fun places _ third placesPlaced => ?_
      exact (places_expect _ _).bind fun _ last closing _ =>
        places_pure ⟨valuePlaced.until (by omega), widthPlaced.until (by omega),
          placesPlaced.until closing⟩
    · exact places_peek fun _ _ isAt _ _ => places_failExpecting isAt.isIn

theorem candidate :
    Places source start stop next
      (fun later answer => ∀ candidate ∈ answer, candidate.Placed source ⟨start, later⟩)
      (candidate inner) := by
  refine places_peek fun token span isAt began _ => Places.anyNext ?_
  dsimp only
  split
  · exact places_pure nofun
  · have finished (candidate : Candidate Expr) (middle : Nat)
        (placed : candidate.Placed source ⟨start, middle⟩) :
        Places source start middle none
          (fun later answer => ∀ candidate ∈ answer, candidate.Placed source ⟨start, later⟩) (do
            let _ ← eat .comma
            pure (some candidate)) := by
      refine (places_eat _).bind fun _ last further _ => places_pure ?_
      rintro _ ⟨⟩
      exact placed.until further
    split
    · refine places_advance.bind fun _ _ _ _ => ?_
      refine (place.operand _ _ _).bind fun pattern middle _ placed => ?_
      exact finished (.pattern pattern) middle placed
    · split
      · refine places_regularExpression.bind fun (text, span) middle _ lies => ?_
        exact finished (.regex text span) middle lies
      · refine (place.operand _ _ _).bind fun text middle _ placed => ?_
        exact finished (.text text) middle placed

theorem oneOfArguments :
    Places source start stop next (fun later call => call.Placed source ⟨start, later⟩)
      (oneOfArguments inner) := by
  refine (places_expect _ _).bind fun _ _ _ _ => ?_
  refine (place.operand _ _ _).bind fun subject afterSubject _ placed => ?_
  have finished (candidates : List (Candidate Expr)) (last : Nat) (further : afterSubject ≤ last)
      (each : ∀ candidate ∈ candidates, candidate.Placed source ⟨start, last⟩) :
      Places source start last none (fun later call => call.Placed source ⟨start, later⟩) (do
        expect .rightParenthesis .patternList
        pure (Call.oneOf subject candidates)) := by
    refine (places_expect _ _).bind fun _ final closed _ => places_pure ?_
    exact ⟨placed.until (Nat.le_trans further closed), Candidate.allPlaced_of_forall
      fun candidate member => (each candidate member).until closed⟩
  refine (places_eat _).bind fun more afterComma passed _ => ?_
  split
  · refine (places_many (fun candidate _ _ further placed => placed.until further)
      fun _ _ => place.candidate).bind fun candidates last further each => ?_
    exact finished candidates last (Nat.le_trans passed further) each
  · exact finished [] _ passed nofun

theorem knot :
    Places source start stop next
      (fun later answer => ∀ knot ∈ answer,
        knot.1.Placed source ⟨start, later⟩ ∧ knot.2.Placed source ⟨start, later⟩)
      (knot inner) := by
  refine (places_eat _).bind fun opened _ _ _ => ?_
  split
  · refine (place.operand _ _ _).bind fun abscissa _ _ abscissaPlaced => ?_
    refine (places_expect _ _).bind fun _ _ comma _ => ?_
    refine (place.operand _ _ _).bind fun ordinate _ passed ordinatePlaced => ?_
    refine (places_expect _ _).bind fun _ _ closed _ => ?_
    refine (places_eat _).bind fun _ last further _ => places_pure ?_
    rintro _ ⟨⟩
    exact ⟨abscissaPlaced.until (by omega), ordinatePlaced.until (by omega)⟩
  · exact places_pure nofun

theorem interpolateArguments :
    Places source start stop next (fun later call => call.Placed source ⟨start, later⟩)
      (interpolateArguments inner) := by
  refine (places_expect _ _).bind fun _ _ _ _ => ?_
  refine (place.operand _ _ _).bind fun abscissa _ _ placed => ?_
  refine (places_expect _ _).bind fun _ _ comma _ => ?_
  refine (places_many (fun knot _ _ further (placed : _ ∧ _) =>
    ⟨placed.1.until further, placed.2.until further⟩)
    fun _ _ => place.knot).bind fun table _ passed each => ?_
  refine (places_expect _ _).bind fun _ last closed _ => places_pure ?_
  exact ⟨placed.until (by omega), Table.placed_of_forall fun knot member =>
    ⟨(each knot member).1.until closed, (each knot member).2.until closed⟩⟩

theorem arguments?
    {name : String}
    {arguments : Parser Call}
    (found : arguments? inner name = some arguments) :
    Places source start stop next (fun later call => call.Placed source ⟨start, later⟩)
      arguments := by
  unfold Grammar.arguments? at found
  split at found <;> cases found
  case h_1 | h_2 | h_3 => exact place.twoArguments.bind fun _ _ _ placed => places_pure placed
  case h_4 | h_5 | h_6 | h_7 | h_8 => exact place.oneArgument.map fun _ _ _ placed => placed
  case h_9 | h_10 => exact place.digitsArguments _
  case h_11 | h_12 | h_13 => exact place.referenceArgument.map fun _ _ _ placed => placed
  case h_14 => exact place.oneOfArguments
  case h_15 => exact place.interpolateArguments

/-! ## Operands and conditionals -/

/-- A call stands from the name of its function to behind its arguments. -/
theorem reservedOperand
    {span : Span}
    (isIn : span.IsIn source)
    (began : start ≤ span.start)
    (name : String) :
    Places source start stop (some span) (fun later expr => expr.Placed source ⟨start, later⟩)
      (reservedOperand inner name span) := by
  unfold Grammar.reservedOperand
  split
  · exact literal isIn began _
  · split
    · exact place.unary isIn began .not
    · split
      next arguments found =>
        refine places_advance_known.bind fun _ _ _ same => ?_
        subst same
        have ordered := isIn.ordered
        refine (Places.passing began ordered (place.arguments? found)).bind
          fun called afterArguments passed placed => ?_
        refine places_spanFrom (Nat.le_trans ordered passed) isIn.starts
          fun last further wholeIn => places_pure ?_
        unfold Expr.Placed
        exact ⟨⟨wholeIn, began, Nat.le_refl _⟩, placed.until further⟩
      next => exact places_failExpecting isIn

theorem primary :
    Places source start stop next (fun later expr => expr.Placed source ⟨start, later⟩)
      (primary inner) := by
  refine places_peek fun token span isAt began _ => ?_
  have isIn := isAt.isIn
  dsimp only
  split
  · exact place.unary isIn began .negate
  · exact place.unary isIn began .plus
  · exact place.unary isIn began .not
  · exact place.parenthesized isIn began
  · exact literal isIn began _
  · exact literal isIn began _
  · exact literal isIn began _
  · split
    · exact place.reservedOperand isIn began _
    · refine place.reference.bind fun reference last _ placed => places_pure ?_
      unfold Expr.Placed
      exact ⟨placed.lies, placed.self⟩
  · exact places_failExpecting isIn

theorem operandOf : PlacesExpr source (Grammar.operand inner) :=
  fun _ _ _ => places_peek fun _ _ isAt _ _ => Places.nested isAt.isIn place.primary

/-- A conditional stands from its condition to behind its last branch. -/
theorem branching
    (condition : Expr)
    (placed : condition.Placed source ⟨start, stop⟩) :
    Places source start stop none (fun later expr => expr.Placed source ⟨start, later⟩)
      (branching inner condition) := by
  have lies := placed.lies
  have began : start ≤ condition.span.start := lies.after
  have ordered : condition.span.start ≤ stop :=
    Nat.le_trans lies.isIn.ordered lies.before
  refine (places_eat _).bind fun asked afterQuestion passed _ => ?_
  split
  · have branches : Places source condition.span.start afterQuestion none
        (fun later (yes, no) => yes.Placed source ⟨condition.span.start, later⟩ ∧
          no.Placed source ⟨condition.span.start, later⟩)
        (do
          let yes ← inner.conditional
          expect .colon .conditional
          let no ← inner.conditional
          pure (yes, no)) := by
      refine (place.conditional _ _ _).bind fun yes _ _ yesPlaced => ?_
      refine (places_expect _ _).bind fun _ _ colon _ => ?_
      refine (place.conditional _ _ _).bind fun no last further noPlaced => places_pure ?_
      exact ⟨yesPlaced.until (by omega), noPlaced⟩
    refine (Places.nested lies.isIn (Places.passing began (by omega) branches)).bind
      fun (yes, no) last further ⟨yesPlaced, noPlaced⟩ => ?_
    refine places_spanFrom (by omega) lies.isIn.starts fun final closed wholeIn => places_pure ?_
    unfold Expr.Placed
    have within : condition.span.stop ≤ final :=
      Nat.le_trans lies.before (Nat.le_trans passed (Nat.le_trans further closed))
    exact ⟨⟨wholeIn, began, Nat.le_refl _⟩, placed.self.until within, yesPlaced.until closed,
      noPlaced.until closed⟩
  · exact places_pure (placed.until passed)

omit place in
theorem conditionalOf
    {operand : Parser Expr}
    (operandPlaces : PlacesExpr source operand)
    (place : inner.Place source) :
    PlacesExpr source (Grammar.conditional operand inner) := by
  intro start stop next
  have outer : Expressions.Place source ⟨operand, inner.conditional⟩ :=
    ⟨operandPlaces, place.conditional⟩
  have disjunction : PlacesExpr source (Grammar.disjunction operand) :=
    outer.parser .disjunction
  exact (disjunction start stop next).bind fun condition _ _ placed =>
    place.branching condition placed

end Expressions.Place

/-- Expressions stand in the source where they have been read, at every level of nesting. -/
theorem expressions_place (levels : Nat) : (expressions levels).Place source := by
  induction levels with
  | zero =>
      have deep : PlacesExpr source tooDeep := fun _ _ _ =>
        places_peek fun _ _ isAt _ _ => places_fail rfl isAt.isIn
      exact ⟨deep, deep⟩
  | succ levels inner =>
      exact ⟨inner.operandOf, Expressions.Place.conditionalOf inner.operandOf inner⟩

end Grammar

open Grammar GcodeTemplate.Parser

/-- What is read as an expression stands in its source; what is not is blamed there. -/
theorem Expr.parse_places (source : String) :
    Settled (Fault.BlamesGrammar source.toList)
      (Expr.Placed source.toList (Span.whole source.toList)) (Expr.parse source) := by
  apply Places.outcome
  refine ((expressions_place _).conditional _ _ _).bind fun expr _ _ placed => ?_
  refine places_peek fun token span isAt _ _ => ?_
  dsimp only
  split
  · exact places_pure placed.whole
  · exact places_failExpecting isAt.isIn

end GcodeTemplate
