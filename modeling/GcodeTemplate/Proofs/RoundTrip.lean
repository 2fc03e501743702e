import GcodeTemplate.Proofs.ReadingOperands

/-!
# Written expressions read back

The text of an expression is read as that expression, spans aside.  Parentheses stand in
the text only where an operand is looser than its place, so this is what the levels of
the grammar say: which operators are tighter, that those of one level group from the
left, and that conditionals group from the right.

The units of an expression are exactly what reading its text takes: with fewer of them
the text is refused because its nesting is too deep.
-/

namespace GcodeTemplate

open Grammar GcodeTemplate.Parser Text

section Parts

variable
  {style : Style}
  {left right condition yes no : Expr}
  {place : Span}
  {levels : Nat}
  {cursor : Cursor}
  {more : List Char}

theorem BinaryOperator.isChain_level (operator : BinaryOperator) :
    operator.level.isChain = true := by
  rcases operator with operator | comparison | operator
  · cases operator <;> rfl
  · cases comparison <;> rfl
  · cases operator <;> rfl

/-- The token of an operator is an operator of its level. -/
theorem BinaryOperator.operator?_token (style : Style) (operator : BinaryOperator) :
    operator.level.operator? (operator.token style) = some operator := by
  rcases operator with operator | comparison | operator
  · cases operator <;> rfl
  · cases comparison <;> rfl
  · cases words : style.words <;> cases operator <;>
      simp only [BinaryOperator.token, words] <;> rfl

namespace Expr

theorem textAt_binary (operator : BinaryOperator) (span : Span) :
    (binary span operator left right).textAt style operator.level =
      left.textAt style operator.level ++ (style.gap ++ (operator.sign style ++
        (style.gap ++ right.textAt style operator.level.tighter))) := by
  rw [textAt, enclosed, if_neg (by exact Nat.lt_irrefl _)]
  simp [text, textAt]

theorem unitsAt_binary (operator : BinaryOperator) (span : Span) :
    (binary span operator left right).unitsAt operator.level =
      max (left.unitsAt operator.level)
        (left.links operator.level + 1 + right.unitsAt operator.level.tighter) := by
  rw [unitsAt, enclosedUnits, if_neg (by exact Nat.lt_irrefl _)]
  simp [units, unitsAt]

/-- An operator between two operands goes on with the chain that its left operand is. -/
theorem leadsAt_binary
    (operator : BinaryOperator)
    (opens : Opens (right.textAt style operator.level.tighter))
    (leads : left.LeadsAt style operator.level)
    (reads : right.ReadsAt style operator.level.tighter)
    (span : Span) :
    (binary span operator left right).LeadsAt style operator.level := by
  intro levels cursor more deep ends faces
  have follows := opens_append opens more
  simp only [textAt_binary, List.append_assoc] at faces
  have begun := leads deep (Level.ends_operator style operator follows) faces
  have sign := operator.read_sign style follows
  have visible := style.dropWhile_gap_append (Level.dropWhile_operator style operator
    (style.gap ++ (right.textAt style operator.level.tighter ++ more)))
  rw [unitsAt_binary, show (binary span operator left right).links operator.level =
    left.links operator.level + 1 from if_pos rfl]
  apply begun.link (visible ▸ sign) (operator.operator?_token style)
  · intro moved rest depth
    exact reads (by omega) ends (Cursor.faces_of_gap style opens rest)
  · intro first second isFirst isSecond
    simp [joined, isFirst, isSecond]

/-- The branches of a conditional, with the colon between them. -/
theorem fits_branches
    (opensYes : Opens (yes.text style))
    (opensNo : Opens (no.text style))
    (readsYes : yes.ReadsAt style .conditional)
    (readsNo : no.ReadsAt style .conditional)
    (deep : maximalDepth ≤ cursor.depth + nestingCost * levels)
    (ends : Level.conditional.Ends more)
    (rest : cursor.rest =
      style.gap ++ (yes.text style ++
        (style.gap ++ ':' :: (style.gap ++ (no.text style ++ more))))) :
    Fits
      (do
        let yes ← (expressions levels).conditional
        expect .colon .conditional
        let no ← (expressions levels).conditional
        pure (yes, no))
      (max yes.units no.units)
      (fun read => read.1.shape = yes.shape ∧ read.2.shape = no.shape) more cursor := by
  have visible :
      (style.gap ++ ':' :: (style.gap ++ (no.text style ++ more))).dropWhile isAsciiBlank =
        ':' :: (style.gap ++ (no.text style ++ more)) :=
    style.dropWhile_gap_append (by simp [isAsciiBlank])
  refine Fits.separated
    (fits_whole readsYes deep (Level.ends_colon style _)
      (Cursor.faces_of_gap style opensYes rest))
    visible rfl (fun _ => rfl) _ ?_
  intro first moved isYes behindColon depth
  refine Fits.followed (fits_whole readsNo (by rw [depth]; exact deep) ends
    (Cursor.faces_of_gap style opensNo behindColon)) ?_
  intro second stop isNo rest
  exact ⟨(first, second), stop, rfl, ⟨isYes, isNo⟩, rest, rfl⟩

/-- What stands behind a condition: its branches, one level of nesting deeper. -/
theorem fits_branching
    (opensYes : Opens (yes.text style))
    (opensNo : Opens (no.text style))
    (readsYes : yes.ReadsAt style .conditional)
    (readsNo : no.ReadsAt style .conditional)
    {asked : Expr}
    (isCondition : asked.shape = condition.shape)
    (deep : maximalDepth ≤ cursor.depth + nestingCost * (levels + 1))
    (ends : Level.conditional.Ends more)
    (rest : cursor.rest =
      style.gap ++ '?' :: (style.gap ++ (yes.text style ++
        (style.gap ++ ':' :: (style.gap ++ (no.text style ++ more))))))
    (span : Span) :
    Fits (branching (expressions levels) asked) (nestingCost + max yes.units no.units)
      (·.shape = (conditional span condition yes no).shape) more cursor := by
  rw [Nat.mul_succ] at deep
  have question :
      cursor.Faces ('?' :: (style.gap ++ (yes.text style ++
        (style.gap ++ ':' :: (style.gap ++ (no.text style ++ more)))))) := by
    rw [Cursor.Faces, rest, style.dropWhile_gap_append (by simp [isAsciiBlank])]
  rcases lexemeAt_sign question rfl (fun _ => rfl) with ⟨place, found⟩
  apply Fits.after (eat_of_symbol found rfl) rfl
  simp only [if_true]
  apply Fits.followed
  · apply Fits.nested
    intro _
    exact fits_branches opensYes opensNo readsYes readsNo (by dsimp only [Parser.behind]; omega)
      ends rfl
  · rintro ⟨first, second⟩ moved ⟨isYes, isNo⟩ rest
    exact ⟨_, moved, rfl, by simp [isCondition, isYes, isNo], rest, rfl⟩

/-- A conditional is a disjunction with its branches behind it. -/
theorem readsAt_conditional
    (opensYes : Opens (yes.text style))
    (opensNo : Opens (no.text style))
    (readsCondition : condition.ReadsAt style .disjunction)
    (readsYes : yes.ReadsAt style .conditional)
    (readsNo : no.ReadsAt style .conditional)
    (span : Span) :
    (conditional span condition yes no).ReadsAt style .conditional := by
  intro levels cursor more deep ends faces
  rw [textAt_conditional] at faces
  have test := readsCondition deep (Level.ends_question style (style.gap ++ (yes.text style ++
    (style.gap ++ ':' :: (style.gap ++ (no.text style ++ more))))))
    (by simpa [text, textAt] using faces)
  rw [unitsAt_conditional]
  cases levels with
  | zero => exact fits_of_tooDeep test .conditional
  | succ levels =>
      apply test.bind
      intro asked moved isCondition rest depth
      exact fits_branching opensYes opensNo readsYes readsNo isCondition (by rw [depth]; exact deep)
        ends rest span

/-- A primary is read at its own level. -/
theorem readsAt_of_primary
    {expr : Expr}
    {units : Nat}
    (own : expr.level = .operand)
    (reads : ReadsPrimary (expr.text style) units expr)
    (spent : expr.units = nestingCost + units) :
    expr.ReadsAt style expr.level := by
  intro levels cursor more deep ends faces
  rw [textAt_level] at faces
  rw [unitsAt_level, spent]
  rw [own] at ends ⊢
  exact fits_operand reads deep ends faces

/-- What is read at its own level is read at all levels. -/
theorem readsAt_all
    {expr : Expr}
    (opens : Opens (expr.text style))
    (own : expr.ReadsAt style expr.level)
    (level : Level) :
    expr.ReadsAt style level := by
  rcases Nat.lt_or_ge expr.level.rank level.rank with tight | loose
  · have whole : expr.ReadsAt style .conditional := readsAt_looser own (Nat.zero_le _)
    have looser := Nat.lt_of_lt_of_le tight level.rank_le_operand
    have operand : expr.ReadsAt style .operand := by
      intro levels cursor more deep ends faces
      rw [textAt_of_looser looser] at faces
      rw [unitsAt_of_looser looser]
      exact fits_operand (readsPrimary_parenthesized opens whole) deep ends faces
    exact readsAt_tighter operand tight
  · exact readsAt_looser own loose

/-- An expression that is read back at all levels, also as what a chain starts with. -/
structure ReadsBack (style : Style) (expr : Expr) : Prop where
  opens : Opens (expr.text style)
  reads : ∀ level, expr.ReadsAt style level
  leads : ∀ level : Level, level.isChain → expr.LeadsAt style level

theorem ReadsBack.opensAt
    {expr : Expr}
    (back : expr.ReadsBack style)
    (level : Level) :
    Opens (expr.textAt style level) :=
  opens_enclosed back.opens level expr

theorem readsBack_of_own
    {expr : Expr}
    (opens : Opens (expr.text style))
    (own : expr.ReadsAt style expr.level)
    (ownLeads : expr.level.isChain → expr.LeadsAt style expr.level) :
    expr.ReadsBack style := by
  have all := readsAt_all opens own
  refine ⟨opens, all, ?_⟩
  intro level isChain
  by_cases same : expr.level = level
  · subst same
    exact ownLeads isChain
  · exact leadsAt_of_tighter isChain same (all level.tighter)

theorem readsBack_of_primary
    {expr : Expr}
    {units : Nat}
    (plain : expr.Plain)
    (own : expr.level = .operand)
    (reads : ReadsPrimary (expr.text style) units expr)
    (spent : expr.units = nestingCost + units) :
    expr.ReadsBack style := by
  apply readsBack_of_own plain.opens_text (readsAt_of_primary own reads spent)
  intro isChain
  rw [own] at isChain
  nomatch isChain

theorem readsBack_binary
    {operator : BinaryOperator}
    (plain : (binary place operator left right).Plain)
    (backLeft : left.ReadsBack style)
    (backRight : right.ReadsBack style) :
    (binary place operator left right).ReadsBack style := by
  have isChain := operator.isChain_level
  have leads := leadsAt_binary operator (backRight.opensAt _) (backLeft.leads _ isChain)
    (backRight.reads _) place
  exact readsBack_of_own plain.opens_text (readsAt_of_leadsAt isChain leads) fun _ => leads

theorem readsBack_conditional
    (plain : (conditional place condition yes no).Plain)
    (backCondition : condition.ReadsBack style)
    (backYes : yes.ReadsBack style)
    (backNo : no.ReadsBack style) :
    (conditional place condition yes no).ReadsBack style := by
  apply readsBack_of_own plain.opens_text
  · exact readsAt_conditional backYes.opens backNo.opens (backCondition.reads _) (backYes.reads _)
      (backNo.reads _) place
  · intro isChain
    nomatch isChain

/-- A call with two arguments, by the name of the function. -/
theorem readsBack_two
    (function : Expr → Expr → Call)
    (c : Char)
    (rest : List Char)
    (plain : (call place (function left right)).Plain)
    (backLeft : left.ReadsBack style)
    (backRight : right.ReadsBack style)
    (isWord : startsWord c = true ∧ rest.all continuesWord = true)
    (isFunction : ∀ inner, arguments? inner (.ofList (c :: rest)) = some (do
      let (first, second) ← twoArguments inner
      pure (function first second)))
    (shape : ∀ first second, (function first second).shape = function first.shape second.shape)
    (written : (function left right).text style =
      c :: rest ++ '(' ::
        (left.text style ++ ',' :: (style.gap ++ (right.text style ++ [')']))))
    (spent : (function left right).units = max left.units right.units) :
    (call place (function left right)).ReadsBack style := by
  have arguments := arguments_of_two function backLeft.opens backRight.opens
    (backLeft.reads _) (backRight.reads _)
    fun first second isFirst isSecond => by rw [shape, shape, isFirst, isSecond]
  have reads := readsPrimary_call isWord.1 isWord.2 isFunction arguments place
  rw [← written] at reads
  exact readsBack_of_primary plain rfl reads (by rw [units, spent])

/-- A call with one argument, by the name of the function. -/
theorem readsBack_one
    (function : Expr → Call)
    (c : Char)
    (rest : List Char)
    (plain : (call place (function left)).Plain)
    (back : left.ReadsBack style)
    (isWord : startsWord c = true ∧ rest.all continuesWord = true)
    (isFunction : ∀ inner,
      arguments? inner (.ofList (c :: rest)) = some (function <$> oneArgument inner))
    (shape : ∀ argument, (function argument).shape = function argument.shape)
    (written : (function left).text style = c :: rest ++ '(' :: (left.text style ++ [')']))
    (spent : (function left).units = left.units) :
    (call place (function left)).ReadsBack style := by
  have arguments := arguments_of_one function back.opens (back.reads _)
    fun argument isGood => by rw [shape, shape, isGood]
  have reads := readsPrimary_call isWord.1 isWord.2 isFunction arguments place
  rw [← written] at reads
  exact readsBack_of_primary plain rfl reads (by rw [units, spent])

end Expr

end Parts

/-- The name of a function that rounds is a word, and it calls that function. -/
theorem roundingName_eq (rounding : Number.Rounding) :
    ∃ c rest, roundingName rounding = c :: rest ∧
      (startsWord c = true ∧ rest.all continuesWord = true) ∧
      ∀ inner, arguments? inner (.ofList (c :: rest)) =
        some (.round rounding <$> oneArgument inner) := by
  cases rounding <;> exact ⟨_, _, rfl, ⟨rfl, rfl⟩, fun _ => rfl⟩

/-- Each plain expression is read back, by induction on how it is built. -/
theorem Expr.Plain.readsBack
    {expr : Expr}
    (style : Style)
    (plain : expr.Plain) :
    expr.ReadsBack style := by
  induction plain with
  | int nonnegative =>
      exact readsBack_of_primary (.int nonnegative) rfl (readsPrimary_int nonnegative _) rfl
  | bool b => exact readsBack_of_primary (.bool b) rfl (readsPrimary_bool b _) rfl
  | string s => exact readsBack_of_primary (.string s) rfl (readsPrimary_string s _) rfl
  | named isName =>
      exact readsBack_of_primary (.named isName) rfl (readsPrimary_named isName _ _ _) rfl
  | element isName plain index =>
      exact readsBack_of_primary (.element isName plain) rfl
        (readsPrimary_element isName (index.opensAt _) (index.reads _) _ _ _) rfl
  | unary operator plain operand =>
      exact readsBack_of_primary (.unary operator plain) rfl
        (readsPrimary_unary operator (operand.opensAt _) (operand.reads _) _) rfl
  | binary operator plainLeft plainRight left right =>
      exact readsBack_binary (.binary operator plainLeft plainRight) left right
  | conditional plainCondition plainYes plainNo condition yes no =>
      exact readsBack_conditional (.conditional plainCondition plainYes plainNo) condition yes no
  | minimum plainLeft plainRight left right =>
      exact readsBack_two .minimum 'm' ['i', 'n'] (.minimum plainLeft plainRight) left right
        ⟨rfl, rfl⟩ (fun _ => rfl) (fun _ _ => rfl) (by simp [Call.text]) rfl
  | maximum plainLeft plainRight left right =>
      exact readsBack_two .maximum 'm' ['a', 'x'] (.maximum plainLeft plainRight) left right
        ⟨rfl, rfl⟩ (fun _ => rfl) (fun _ _ => rfl) (by simp [Call.text]) rfl
  | random plainLow plainHigh low high =>
      exact readsBack_two .random 'r' ['a', 'n', 'd', 'o', 'm'] (.random plainLow plainHigh) low
        high ⟨rfl, rfl⟩ (fun _ => rfl) (fun _ _ => rfl) (by simp [Call.text]) rfl
  | changeFilament plain filament =>
      exact readsBack_one .changeFilament 'f'
        ['i', 'l', 'a', 'm', 'e', 'n', 't', '_', 'c', 'h', 'a', 'n', 'g', 'e']
        (.changeFilament plain) filament ⟨rfl, rfl⟩ (fun _ => rfl) (fun _ => rfl)
        (by simp [Call.text]) rfl
  | round rounding plain argument =>
      rcases roundingName_eq rounding with ⟨c, rest, name, isWord, isFunction⟩
      exact readsBack_one (.round rounding) c rest (.round rounding plain) argument isWord isFunction
        (fun _ => rfl) (by simp [Call.text, name]) rfl

/--
The text of a plain expression is read as that expression, spans aside, if its units are
within the nesting that may be spent; and otherwise it is refused for its nesting.
-/
theorem written_expression_reads_back
    {expr : Expr}
    (style : Style)
    (plain : expr.Plain) :
    (expr.units ≤ maximalDepth →
      ∃ read, Expr.parse (.ofList (expr.text style)) = .ok read ∧ read.shape = expr.shape) ∧
    (maximalDepth < expr.units →
      ∃ span, Expr.parse (.ofList (expr.text style)) = .error ⟨.nestedTooDeeply, span⟩) := by
  let start := Cursor.start (.ofList (expr.text style))
  have back := plain.readsBack style
  have rest : start.rest = expr.text style ++ [] := by simp [start, Cursor.start]
  have deep : maximalDepth ≤ 0 + nestingCost * maximalNesting := by decide
  have fits : Fits (expressions maximalNesting).conditional expr.units (·.shape = expr.shape) []
      start :=
    fits_whole (back.reads _) deep (Level.ends_nil _)
      (Cursor.faces_of_opens back.opens rest)
  constructor
  · intro less
    rcases fits.enough (by simpa [start, Cursor.start] using less) with
      ⟨read, stop, answered, isGood, ended, _⟩
    have faces : stop.Faces [] := Cursor.faces_of_rest ended rfl
    rcases lexemeAt_of_faces faces rfl with ⟨span, found⟩
    exact ⟨read, Expr.parse_of_conditional answered found rfl, isGood⟩
  · intro exceeds
    rcases fits.beyond (by simpa [start, Cursor.start] using exceeds) with ⟨span, fails⟩
    exact ⟨span, Expr.parse_of_error fails⟩

/-- Operators between single blanks, the logical ones as words. -/
def Style.spaced : Style where
  gap := [' ']
  words := true
  angles := false
  blank := by simp [isAsciiBlank]
  apart _ := List.cons_ne_nil _ _

/-- A tree with an operator of each kind, and with parentheses and without. -/
def mixedOperators : Expr :=
  let name (written : String) : Expr := .read {} ⟨written, {}, none, {}⟩
  let number (n : Int64) : Expr := .literal {} (.int n)
  let product : Expr :=
    .binary {} (.arithmetic .multiply)
      (.binary {} (.arithmetic .subtract) (name "a") (number 1))
      (.unary {} .negate
        (.read {} ⟨"b", {}, some (.binary {} (.arithmetic .add) (name "i") (number 1)), {}⟩))
  .conditional {}
    (.binary {} (.logic .or) (.binary {} (.compare .less) product (number 4))
      (.unary {} .not (name "c")))
    (.literal {} (.string "x\n"))
    (.conditional {} (name "d") (.call {} (.minimum (number 2) (name "e"))) (number 3))

theorem mixed_operators_read_back :
    mixedOperators.units ≤ maximalDepth ∧
      ∃ read,
        Expr.parse "(a - 1) * -b[i + 1] < 4 or not c ? \"x\\n\" : d ? min(2, e) : 3" = .ok read ∧
          read.shape = mixedOperators.shape := by
  have units : mixedOperators.units ≤ maximalDepth := by decide
  have plain : mixedOperators.Plain := by
    repeat' constructor
  have written :
      String.ofList (mixedOperators.text .spaced) =
        "(a - 1) * -b[i + 1] < 4 or not c ? \"x\\n\" : d ? min(2, e) : 3" := by
    rfl
  exact ⟨units, written ▸ (written_expression_reads_back .spaced plain).1 units⟩

end GcodeTemplate
