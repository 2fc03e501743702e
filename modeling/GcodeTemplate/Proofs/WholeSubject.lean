import GcodeTemplate.Pattern
import GcodeTemplate.Proofs.EnclosedGrammar
import GcodeTemplate.Proofs.Searching

/-!
# Regular expressions are compared with whole subjects

A pattern is read between anchors.  As long as it does not close the group of the anchors
itself, it is a regular expression by itself too, and the pattern accepts a subject if and
only if that regular expression matches from its first to its last character.

Syntax and search are those of `GcodeTemplate.Regex`, which follow what the `regex` library
documents.
-/

namespace GcodeTemplate

namespace Regex

/-! ## What is read between the anchors -/

/-- Read by itself, a text ends in front of a parenthesis that nothing in it has opened. -/
def ClosesEarly (source : String) : Prop :=
  ∃ written left behind,
    Reader.choiceRest [] [] (source.toList.length + 1) { rest := source.toList } =
      some (written, left) ∧
    left.rest = ')' :: behind

/-- A text that is well-formed by itself has been read to its end. -/
theorem not_closesEarly
    {source : String}
    {written : Written}
    (alone : Written.read? source = some written) :
    ¬ ClosesEarly source := by
  rintro ⟨other, left, behind, stops, parenthesis⟩
  rcases Option.bind_eq_some_iff.1 alone with ⟨_, read, complete⟩
  cases stops.symm.trans read
  rcases Option.ite_none_right_eq_some.1 complete with ⟨limits, _⟩
  simp [parenthesis] at limits

theorem toList_anchored (source : String) :
    (Pattern.anchored source).toList =
      '^' :: '(' :: '?' :: ':' :: (source.toList ++ closing) := by
  simp [Pattern.anchored, closing]

namespace Reader

theorem choiceRest_lineStart
    (complete parts : List Written)
    (bound : Nat)
    (rest : List Char)
    (names : List (List Char)) :
    choiceRest complete parts (bound + 1) ⟨'^' :: rest, false, names⟩ =
      choiceRest complete (.assertion .lineStart :: parts) bound ⟨rest, false, names⟩ :=
  rfl

/-- A group without flags is its body, and a parenthesis stands behind that. -/
theorem choiceRest_group
    {complete parts : List Written}
    {bound : Nat}
    {rest : List Char}
    {names : List (List Char)}
    {result : Written × Input}
    (read : choiceRest complete parts (bound + 1) ⟨'(' :: '?' :: ':' :: rest, false, names⟩ =
      some result) :
    ∃ body stop behind,
      choiceRest [] [] bound ⟨rest, false, names⟩ = some (body, stop) ∧
      stop.rest = ')' :: behind ∧
      choiceRest complete (.group false {} body :: parts) bound ⟨behind, false, stop.names⟩ =
        some result := by
  have entered : (do
      let body ← choiceRest [] [] bound
      setExtended false
      check ((← take) == ')')
      choiceRest complete (.group false {} body :: parts) bound) ⟨rest, false, names⟩ =
        some result := read
  rcases of_bind entered with ⟨body, stop, grouped, closed⟩
  rcases of_bind closed with ⟨_, _, unchanged, closed⟩
  cases unchanged
  rcases of_bind closed with ⟨c, behind, taken, closed⟩
  rcases of_bind closed with ⟨_, _, checked, further⟩
  rcases of_check checked with ⟨parenthesis, rfl⟩
  cases eq_of_beq parenthesis
  rcases stop with ⟨_ | ⟨c, rest⟩, extended, names⟩
  · nomatch taken
  · cases taken
    exact ⟨body, _, rest, grouped, rfl, further⟩

theorem choiceRest_lineEnd
    (parts : List Written)
    (bound : Nat)
    (names : List (List Char)) :
    choiceRest [] parts (bound + 2) ⟨['$'], false, names⟩ =
      some (.ofAlternatives [.ofSequence (.assertion .lineEnd :: parts).reverse],
        ⟨[], false, names⟩) :=
  rfl

/--
The group of the anchors ends with their parenthesis: with less than the anchors left
there is no parenthesis, and with more of them the text has closed the group early.
-/
theorem body_of_group
    {chars : List Char}
    {bound more : Nat}
    (enough : chars.length < bound)
    {body : Written}
    {stop : Input}
    {behind : List Char}
    (read : choiceRest [] [] more ⟨chars ++ closing, false, []⟩ = some (body, stop))
    (parenthesis : stop.rest = ')' :: behind) :
    ∃ left, choiceRest [] [] bound ⟨chars, false, []⟩ = some (body, left) ∧ stop = left.closed := by
  have reflects : Reflects bound 2 (choiceRest [] [] bound) (choiceRest [] [] more) :=
    reflects_choiceRest [] [] (Nat.le_refl bound)
  rcases reflects.reflectsAt ⟨chars, false, []⟩ enough body stop read with short | alone
  · -- what is left ends as the anchors do, so a single character of it is no parenthesis
    obtain ⟨front, same⟩ : stop.rest <:+ chars ++ closing := reflects.shrinks _ _ _ read
    have last : behind = [] := by
      simp only [Input.Short, parenthesis, List.length_cons] at short
      exact List.length_eq_zero_iff.1 (by omega)
    rw [parenthesis, last] at same
    have ends := congrArg List.getLast? same
    simp [closing] at ends
  · exact alone

end Reader

/-- What is read with the anchors is the group of what is read without them. -/
theorem read?_of_anchored
    {source : String}
    {whole : Written}
    (read : Written.read? (Pattern.anchored source) = some whole)
    (balanced : ¬ ClosesEarly source) :
    ∃ written, Written.read? source = some written ∧
      whole = .sequence
        [.assertion .lineStart, .group false {} written, .assertion .lineEnd] := by
  rcases Option.bind_eq_some_iff.1 read with ⟨⟨parts, final⟩, read, complete⟩
  rw [toList_anchored, List.length_cons, List.length_cons, Reader.choiceRest_lineStart] at read
  rcases Reader.choiceRest_group read with ⟨body, stop, behind, grouped, parenthesis, further⟩
  rcases Reader.body_of_group (Nat.lt_succ_self _) grouped parenthesis with ⟨left, alone, rfl⟩
  rcases left with ⟨_ | ⟨c, rest⟩, extended, names⟩
  · -- nothing of the text is left, so the parenthesis is that of the anchors
    cases parenthesis
    cases (Reader.choiceRest_lineEnd _ _ _).symm.trans further
    rcases Option.ite_none_right_eq_some.1 complete with ⟨limits, same⟩
    cases same
    refine ⟨body, ?_, rfl⟩
    have deep : 1 + (1 + body.depth) ≤ depthLimit := by
      simpa [Written.ofAlternatives, Written.ofSequence, Written.depth, Written.maximalDepth]
        using limits
    have shallow : body.depth ≤ depthLimit := by omega
    exact Option.bind_eq_some_iff.2 ⟨_, alone, if_pos (by simpa using shallow)⟩
  · -- the parenthesis stands in the text
    cases parenthesis
    exact absurd ⟨body, _, rest, alone, rfl⟩ balanced

/-! ## What the anchors mean -/

theorem meaning?_of_anchored
    {written : Written}
    {anchored : Regex}
    {after : Mode}
    (meaning : (Written.sequence
      [.assertion .lineStart, .group false {} written, .assertion .lineEnd]).meaning? {} =
        some (anchored, after)) :
    ∃ regex mode, written.meaning? {} = some (regex, mode) ∧
      anchored = .sequence (.look .textStart (Mode.word {}))
        (.sequence (.group false regex) (.sequence (.look .textEnd (Mode.word {})) .empty)) := by
  have unchanged : Mode.change {} {} = {} := rfl
  simp only [Written.meaning?, Written.sequenceMeaning?, unchanged, Option.bind_eq_bind,
    Option.bind_some, Option.pure_def, Assertion.look] at meaning
  cases inner : written.meaning? {} with
  | none =>
      rw [inner] at meaning
      nomatch meaning
  | some means =>
      rw [inner] at meaning
      cases meaning
      exact ⟨means.1, means.2, rfl, rfl⟩

theorem eq_zero_of_charBefore?
    {text : List Char}
    {position : Nat}
    (inside : position ≤ text.length)
    (start : (charBefore? text.toArray position).isNone = true) :
    position = 0 := by
  unfold charBefore? at start
  split at start
  next first => exact first
  next later =>
    have behind : text.length ≤ position - 1 := by simpa using start
    omega

/-- Between its anchors a regular expression is found where it matches the whole subject. -/
theorem isFoundIn_anchored
    (regex : Regex)
    (before behind : CharSet)
    (subject : String) :
    (Regex.sequence (.look .textStart before)
      (.sequence (.group false regex) (.sequence (.look .textEnd behind) .empty))).isFoundIn
        subject = true ↔
      regex.Matches subject.toList.toArray 0 subject.toList.length := by
  rw [isFoundIn_iff]
  simp only [Matches, Look.holds]
  constructor
  · rintro ⟨start, _, inside, _, ⟨rfl, first⟩, stop, matched, _, ⟨rfl, last⟩, rfl⟩
    obtain rfl : start = 0 := eq_zero_of_charBefore? inside first
    have upTo : stop ≤ subject.toList.length := matched.stop_le inside
    have notBelow : subject.toList.length ≤ stop := by simpa using last
    rw [Nat.le_antisymm notBelow upTo]
    exact matched
  · intro matched
    refine ⟨0, _, Nat.zero_le _, 0, ⟨rfl, rfl⟩, _, matched, _, ⟨rfl, ?_⟩, rfl⟩
    simp

end Regex

/-- What can be read, has a meaning and fits is compiled. -/
theorem Pattern.ofRegex?_of_meaning?
    {source : String}
    {written : Regex.Written}
    {regex : Regex}
    (read : Regex.Written.read? (anchored source) = some written)
    (meaning : written.meaning? {} = some (regex, {}))
    (fits : regex.plan.fits = true) :
    ofRegex? source = some (.regex regex) := by
  simp [ofRegex?, Regex.ofString?, read, meaning, fits]

/--
A regular expression that compiles between its anchors and does not close their group is
well-formed by itself, and is compared with whole subjects.
-/
theorem regular_expression_matches_whole_subject
    {source : String}
    {pattern : Pattern}
    (compiles : Pattern.ofRegex? source = some pattern)
    (balanced : ¬ Regex.ClosesEarly source) :
    ∃ written regex mode,
      Regex.Written.read? source = some written ∧
      written.meaning? {} = some (regex, mode) ∧
      ∀ subject, pattern.accepts subject = true ↔
        regex.Matches subject.toList.toArray 0 subject.toList.length := by
  rcases Option.map_eq_some_iff.1 compiles with ⟨anchored, built, rfl⟩
  rcases Option.bind_eq_some_iff.1 built with ⟨whole, read, built⟩
  rcases Option.bind_eq_some_iff.1 built with ⟨⟨_, after⟩, meaning, built⟩
  rcases Regex.read?_of_anchored read balanced with ⟨written, alone, rfl⟩
  rcases Regex.meaning?_of_anchored meaning with ⟨regex, mode, means, rfl⟩
  dsimp only at built
  split at built <;> cases built
  exact ⟨written, regex, mode, alone, means, Regex.isFoundIn_anchored regex _ _⟩

open Regex.Plan

/-- The choice between two letters in a row is one range. -/
theorem Regex.Plan.ofAlternatives_letters :
    ofAlternatives [.text ['a'], .text ['b']] = .oneOf (.ofRanges [⟨97, 98⟩]) := by
  have ordered : ((CharSet.ofList ['a', 'b']).inter characters).ascending =
      [⟨97, 97⟩, ⟨98, 98⟩] :=
    List.mergeSort_of_pairwise (by decide)
  have letters : ((CharSet.ofList ['a', 'b']).inter characters).merged = ⟨[⟨97, 98⟩]⟩ := by
    rw [CharSet.merged, ordered, CharSet.join, if_pos (by decide), CharSet.join]
    rfl
  have choices : ofChoices [.text ['a'], .text ['b']] = .oneOf (.ofRanges [⟨97, 98⟩]) := by
    change ofSet (.ofList ['a', 'b']) = _
    rw [ofSet, letters]
    rfl
  simp only [ofAlternatives, choices]

/-- Each of two choices is compared with the whole subject. -/
theorem choice_matches_whole_subject :
    ∃ pattern, Pattern.ofRegex? "a|b" = some pattern ∧ ¬ Regex.ClosesEarly "a|b" ∧
      ∃ written regex mode,
        Regex.Written.read? "a|b" = some written ∧
        written.meaning? {} = some (regex, mode) ∧
        ∀ subject, pattern.accepts subject = true ↔
          regex.Matches subject.toList.toArray 0 subject.toList.length := by
  have fits (before behind : CharSet) :
      (Regex.sequence (.look .textStart before)
        (.sequence (.group false (.choice (.set (.singleton 'a')) (.set (.singleton 'b'))))
          (.sequence (.look .textEnd behind) .empty))).plan.fits = true := by
    simp only [Regex.plan, Regex.alternativePlans, ofSet_singleton, ofAlternatives_singleton,
      ofAlternatives_letters]
    -- the plan is written out, because the states are built along its constructors
    change (Regex.Plan.sequence
      [.look .textStart none, .oneOf (.ofRanges [⟨97, 98⟩]), .look .textEnd none]).fits = true
    simp only [fits, machine, build, buildInOrder, buildFromLast]
    rfl
  have read : Regex.Written.read? (Pattern.anchored "a|b") =
      some (.sequence [.assertion .lineStart,
        .group false {} (.alternatives [.literal ⟨'a', false⟩, .literal ⟨'b', false⟩]),
        .assertion .lineEnd]) := by
    rw [Regex.Written.read?, Regex.toList_anchored]
    rfl
  have compiles := Pattern.ofRegex?_of_meaning? read rfl (fits (Regex.Mode.word {}) _)
  have alone : Regex.Written.read? "a|b" =
      some (.alternatives [.literal ⟨'a', false⟩, .literal ⟨'b', false⟩]) :=
    rfl
  have balanced : ¬ Regex.ClosesEarly "a|b" := Regex.not_closesEarly alone
  exact ⟨_, compiles, balanced, regular_expression_matches_whole_subject compiles balanced⟩

/--
A text that closes the group of the anchors is compiled although it is malformed: the
choice falls apart, and the end of a subject does not count for its first part.
-/
theorem choice_closed_early_compiles :
    ∃ pattern, Pattern.ofRegex? "a)|(b" = some pattern ∧
      Regex.Written.read? "a)|(b" = none ∧ pattern.accepts "ax" = true := by
  have fits (before behind : CharSet) :
      (Regex.choice
        (.sequence (.look .textStart before)
          (.sequence (.group false (.set (.singleton 'a'))) .empty))
        (.sequence (.group true (.set (.singleton 'b')))
          (.sequence (.look .textEnd behind) .empty))).plan.fits = true := by
    simp only [Regex.plan, Regex.alternativePlans, ofSet_singleton]
    change (Regex.Plan.choice
      [.sequence [.look .textStart none, .text ['a']],
        .sequence [.group (.text ['b']), .look .textEnd none]]).fits = true
    simp only [fits, machine, build, buildInOrder, buildFromLast, buildChoice]
    rfl
  have read : Regex.Written.read? (Pattern.anchored "a)|(b") =
      some (.alternatives
        [.sequence [.assertion .lineStart, .group false {} (.literal ⟨'a', false⟩)],
          .sequence [.group true {} (.literal ⟨'b', false⟩), .assertion .lineEnd]]) := by
    rw [Regex.Written.read?, Regex.toList_anchored]
    rfl
  refine ⟨_, Pattern.ofRegex?_of_meaning? read rfl (fits (Regex.Mode.word {}) _), rfl, ?_⟩
  -- the first choice matches the first character, behind the start of the subject
  refine (Regex.isFoundIn_iff _ "ax").2 ⟨0, 1, by decide, .inl ?_⟩
  exact ⟨0, ⟨rfl, rfl⟩, 1, ⟨rfl, 'a', rfl, by decide⟩, rfl⟩

end GcodeTemplate
