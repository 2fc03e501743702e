import GcodeTemplate.Proofs.Parsing

/-!
# What fits into the nesting that is left

A parser that takes a number of units of nesting answers where that many are left, and
where they are not it reports that the nesting is too deep.  The units of a sequence are
those of the part that takes more of them, and what is nested takes those of its level, too.
-/

namespace GcodeTemplate

namespace Parser

variable {α β : Type}

/--
A parser that takes some units at a cursor: with enough of them it answers something good
in front of some text, with the units given back, and otherwise it fails for want of them.
-/
structure Fits
    (parser : Parser α)
    (units : Nat)
    (good : α → Prop)
    (more : List Char)
    (cursor : Cursor) : Prop where
  enough : cursor.depth + units ≤ maximalDepth →
    ∃ a stop, parser cursor = .ok (a, stop) ∧ good a ∧ stop.rest = more ∧
      stop.depth = cursor.depth
  beyond : maximalDepth < cursor.depth + units →
    ∃ span, parser cursor = .error ⟨.nestedTooDeeply, span⟩

section

variable
  {parser : Parser α}
  {next : α → Parser β}
  {units further : Nat}
  {good : α → Prop}
  {goodNext : β → Prop}
  {between more : List Char}
  {cursor moved : Cursor}
  {a : α}

theorem Fits.congr
    {same : Parser α}
    (fits : Fits parser units good more cursor)
    (agrees : same cursor = parser cursor) :
    Fits same units good more cursor where
  enough less := by
    rw [agrees]
    exact fits.enough less
  beyond exceeds := by
    rw [agrees]
    exact fits.beyond exceeds

/-- What answers without any nesting takes no units. -/
theorem fits_of_ok
    (read : parser cursor = .ok (a, moved))
    (isGood : good a)
    (rest : moved.rest = more)
    (depth : moved.depth = cursor.depth)
    (shallow : cursor.depth ≤ maximalDepth) :
    Fits parser 0 good more cursor where
  enough _ := ⟨a, moved, read, isGood, rest, depth⟩
  beyond exceeds := absurd shallow (by omega)

/-- A step in front that is known to answer takes no units. -/
theorem Fits.after
    (read : parser cursor = .ok (a, moved))
    (depth : moved.depth = cursor.depth)
    (fits : Fits (next a) units goodNext more moved) :
    Fits (parser >>= next) units goodNext more cursor where
  enough less := by
    rcases fits.enough (depth ▸ less) with ⟨b, stop, readNext, isGood, rest, depthNext⟩
    exact ⟨b, stop, (bind_of_ok read).trans readNext, isGood, rest, depthNext.trans depth⟩
  beyond exceeds := by
    rcases fits.beyond (depth ▸ exceeds) with ⟨span, fails⟩
    exact ⟨span, (bind_of_ok read).trans fails⟩

theorem Fits.bind
    (fits : Fits parser units good between cursor)
    (fitsNext : ∀ a moved, good a → moved.rest = between → moved.depth = cursor.depth →
      Fits (next a) further goodNext more moved) :
    Fits (parser >>= next) (max units further) goodNext more cursor where
  enough less := by
    rcases fits.enough (by omega) with ⟨a, moved, read, isGood, rest, depth⟩
    have after := Fits.after read depth (fitsNext a moved isGood rest depth)
    exact after.enough (by omega)
  beyond exceeds := by
    by_cases less : cursor.depth + units ≤ maximalDepth
    · rcases fits.enough less with ⟨a, moved, read, isGood, rest, depth⟩
      have after := Fits.after read depth (fitsNext a moved isGood rest depth)
      exact after.beyond (by omega)
    · rcases fits.beyond (by omega) with ⟨span, fails⟩
      exact ⟨span, bind_of_error fails⟩

/-- A step behind that is known to answer takes no units. -/
theorem Fits.followed
    (fits : Fits parser units good between cursor)
    (answers : ∀ a moved, good a → moved.rest = between →
      ∃ b stop, next a moved = .ok (b, stop) ∧ goodNext b ∧ stop.rest = more ∧
        stop.depth = moved.depth) :
    Fits (parser >>= next) units goodNext more cursor where
  enough less := by
    rcases fits.enough less with ⟨a, moved, read, isGood, rest, depth⟩
    rcases answers a moved isGood rest with ⟨b, stop, readNext, isGoodNext, restNext, depthNext⟩
    exact ⟨b, stop, (bind_of_ok read).trans readNext, isGoodNext, restNext,
      depthNext.trans depth⟩
  beyond exceeds := by
    rcases fits.beyond exceeds with ⟨span, fails⟩
    exact ⟨span, bind_of_error fails⟩

theorem Fits.map
    {f : α → β}
    (fits : Fits parser units good more cursor)
    (isGood : ∀ a, good a → goodNext (f a)) :
    Fits (f <$> parser) units goodNext more cursor := by
  rw [map_eq_pure_bind]
  exact fits.followed fun a moved goodHere rest => ⟨f a, moved, rfl, isGood a goodHere, rest, rfl⟩

/-- What is nested takes the units of a level more. -/
theorem Fits.nested
    (span : Span)
    (fits : cursor.depth + nestingCost ≤ maximalDepth →
      Fits parser units good more { cursor with depth := cursor.depth + nestingCost }) :
    Fits (nested span parser) (nestingCost + units) good more cursor := by
  by_cases room : cursor.depth + nestingCost ≤ maximalDepth
  · have charged :
        charge nestingCost span cursor =
          .ok ((), { cursor with depth := cursor.depth + nestingCost }) := by
      rw [charge, if_neg (by omega)]
    have inside := fits room
    constructor
    · intro less
      rcases inside.enough (by dsimp only; omega) with ⟨a, stop, read, isGood, rest, depth⟩
      refine ⟨a, { stop with depth := stop.depth - nestingCost }, ?_, isGood, rest, ?_⟩
      · rw [Parser.nested, bind_of_ok charged, bind_of_ok read]
        rfl
      · simp only [depth]
        omega
    · intro exceeds
      rcases inside.beyond (by dsimp only; omega) with ⟨place, fails⟩
      exact ⟨place, by rw [Parser.nested, bind_of_ok charged, bind_of_error fails]⟩
  · constructor
    · intro less
      omega
    · intro _
      refine ⟨span, bind_of_error ?_⟩
      rw [charge, if_pos (by omega)]

end

end Parser

end GcodeTemplate
