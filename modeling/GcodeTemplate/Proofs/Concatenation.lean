import GcodeTemplate.Proofs.Rounds
import GcodeTemplate.Proofs.ShiftedRendering
import GcodeTemplate.Proofs.Suppression
import GcodeTemplate.Template
import Mathlib.Data.List.TakeWhile

/-!
# Templates one behind the other

If a template is put behind another one, each round of both is found again, except that
text at the end of the first one and text at the start of the second one are read in one
round.  What is rendered is the same, as pieces of text that follow each other put out
what their text in one piece does.
-/

namespace GcodeTemplate

namespace Piece

/-- Pieces are rendered in turn. -/
theorem renderAll_append (first second : List Piece) :
    renderAll (first ++ second) = (do
      renderAll first
      renderAll second) := by
  induction first with
  | nil => simp only [List.nil_append, renderAll, pure_bind]
  | cons piece rest ih => simp only [List.cons_append, renderAll, ih, bind_assoc]

/-- Text may be rendered in parts. -/
theorem render_text_append (front back : String) :
    (Piece.text (front ++ back)).render = (do
      (Piece.text front).render
      (Piece.text back).render) := by
  funext layers page
  simp only [render]
  cases skipping : page.state.isSkipping with
  | true =>
      have silent (text : String) :
          Rendering.unlessSkipping (.write text) layers page = (.ok (), page) :=
        Rendering.unlessSkipping_of_isSkipping _ skipping
      rw [Evaluation.bind_of_ok (silent front), silent, silent]
  | false =>
      simp [Rendering.unlessSkipping, Rendering.write, bind, skipping, String.append_assoc]

theorem renderAll_text_append (front back : String) (rest : List Piece) :
    renderAll (.text (front ++ back) :: rest) =
      renderAll (.text front :: .text back :: rest) := by
  simp only [renderAll, render_text_append, bind_assoc]

end Piece

namespace Grammar

open GcodeTemplate.Parser GcodeTemplate.Text
open Cursor (Precedes)

section Seam

variable
  {levels : Nat}
  {cursor there stop moved : Cursor}
  {rounds : List (List Piece)}
  {pieces others : List Piece}
  {rest text : List Char}

/-- The rounds from a cursor up to some text, and pieces that render as what they read. -/
def RendersAs (levels : Nat) (cursor : Cursor) (rest : List Char) (pieces : List Piece) : Prop :=
  ∃ found last, Collects (topRound levels) cursor found last ∧ last.rest = rest ∧
    Piece.renderAll found.flatten = Piece.renderAll pieces

/-- A round and what renders as some pieces behind it. -/
theorem RendersAs.behind_round
    (read : topRound levels cursor = .ok (some pieces, moved))
    (renders : RendersAs levels moved rest others) :
    RendersAs levels cursor rest (pieces ++ others) := by
  rcases renders with ⟨found, last, collects, ends, same⟩
  refine ⟨pieces :: found, last, .cons read collects, ends, ?_⟩
  rw [List.flatten_cons, Piece.renderAll_append, same, ← Piece.renderAll_append]

/-- The rounds of a source are found again behind another one. -/
theorem rendersAs_moved
    {offset : Nat}
    (collects : Collects (topRound levels) cursor rounds stop)
    (carries : (Relocation.mk offset [] false).Carries cursor there) :
    RendersAs levels there stop.rest (rounds.flatten.map (Piece.mapSpans (Span.shift offset))) := by
  let place : Relocation := ⟨offset, [], false⟩
  have carried : Carried place (Option.map (List.map place.piece)) (topRound levels)
      (topRound levels) :=
    carried_textRound rfl (carried_choice rfl levels)
  induction collects generalizing there with
  | nil nothing =>
      rcases (carried _ nothing).2 (.of_nil _) carries with ⟨last, nothingThere, carriesLast⟩
      exact ⟨[], last, .nil nothingThere, carriesLast.rest.trans (List.append_nil _), rfl⟩
  | cons read _ ih =>
      rcases (carried _ read).2 (.of_nil _) carries with ⟨moved, readThere, carriesMoved⟩
      rw [List.flatten_cons, List.map_append]
      exact (ih carriesMoved).behind_round readThere

/-- Where there is text, it is read in one round. -/
theorem topRound_of_text (isNonempty : cursor.rest.takeWhile isText ≠ []) :
    topRound levels cursor =
      .ok (some [.text (.ofList (cursor.rest.takeWhile isText))], behindText cursor) := by
  cases starts : cursor.rest with
  | nil => simp [starts] at isNonempty
  | cons c behind =>
      cases text : isText c with
      | true => exact starts ▸ textRound_of_text starts text
      | false => simp [starts, text] at isNonempty

/-- Behind the text that a source starts with, another text in front makes no difference. -/
theorem carries_behind_text
    (source : String)
    (isPlain : ∀ c ∈ text, isText c = true)
    (rest : there.rest = text ++ source.toList)
    (shallow : there.depth = 0) :
    (Relocation.mk (there.position + byteWidth text) [] false).Carries
      (behindText (.start source)) (behindText there) := by
  constructor
  · simp [behindText, Cursor.start, rest, List.dropWhile_append_of_pos isPlain]
  · simp only [behindText, Cursor.start, rest, List.takeWhile_append_of_pos isPlain,
      byteWidth_append]
    omega
  · simp only [behindText, Cursor.start, rest, List.takeWhile_append_of_pos isPlain,
      byteWidth_append]
    omega
  · exact Nat.le_of_eq shallow

/-- Without text there is nothing to go behind. -/
theorem behindText_of_nil
    (noText : cursor.rest.takeWhile isText = [])
    (settled : cursor.previousStop = cursor.position) :
    behindText cursor = cursor := by
  have all := List.takeWhile_append_dropWhile (p := isText) (l := cursor.rest)
  rw [noText, List.nil_append] at all
  rcases cursor with ⟨rest, position, previousStop, depth⟩
  cases settled
  simp only at noText all
  simp only [behindText, noText, all, byteWidth_nil, Nat.add_zero]

/-- Text in front of a source is read together with the text that the source starts with. -/
theorem rendersAs_behind_text
    {source : String}
    (collects : Collects (topRound levels) (.start source) rounds stop)
    (isPlain : ∀ c ∈ text, isText c = true)
    (isNonempty : text ≠ [])
    (rest : there.rest = text ++ source.toList)
    (shallow : there.depth = 0) :
    ∃ offset, RendersAs levels there stop.rest
      (.text (.ofList text) :: rounds.flatten.map (Piece.mapSpans (Span.shift offset))) := by
  let front := source.toList.takeWhile isText
  have taken : there.rest.takeWhile isText = text ++ front := by
    rw [rest, List.takeWhile_append_of_pos isPlain]
  have read :
      topRound levels there = .ok (some [.text (.ofList (text ++ front))], behindText there) := by
    rw [← taken]
    exact topRound_of_text (by simp [taken, isNonempty])
  have carries := carries_behind_text source isPlain rest shallow
  refine ⟨there.position + byteWidth text, ?_⟩
  by_cases noText : front = []
  · rw [behindText_of_nil noText rfl] at carries
    rw [noText, List.append_nil] at read
    exact (rendersAs_moved collects carries).behind_round read
  · have firstRead :
        topRound levels (.start source) =
          .ok (some [.text (.ofList front)], behindText (.start source)) :=
      topRound_of_text noText
    cases collects with
    | nil nothing => nomatch firstRead.symm.trans nothing
    | cons first others =>
        cases firstRead.symm.trans first
        rcases (rendersAs_moved others carries).behind_round read with
          ⟨found, last, collected, ends, same⟩
        refine ⟨found, last, collected, ends, same.trans ?_⟩
        rw [String.ofList_append, List.flatten_cons, List.map_append]
        exact Piece.renderAll_text_append _ _ _

/-- Where a source ends, the rounds of the one behind it are found. -/
theorem rendersAs_behind_end
    {source : String}
    (collects : Collects (topRound levels) (.start source) rounds stop)
    (rest : there.rest = source.toList)
    (shallow : there.depth = 0)
    (settled : there.previousStop = there.position) :
    ∃ offset, RendersAs levels there stop.rest
      (rounds.flatten.map (Piece.mapSpans (Span.shift offset))) := by
  have moved : (Relocation.mk there.position [] false).Carries (.start source) there := by
    constructor
    · simpa [Cursor.start] using rest
    · simp [Cursor.start]
    · simp [Cursor.start, settled]
    · exact Nat.le_of_eq shallow
  exact ⟨there.position, rendersAs_moved collects moved⟩

/-- At the end of a source there is no round. -/
theorem rounds_of_end
    (collects : Collects (topRound levels) cursor rounds stop)
    (ends : cursor.rest = []) :
    rounds = [] := by
  cases collects with
  | nil => rfl
  | cons first _ =>
      rw [topRound, textRound_of_nil ends] at first
      nomatch first

/--
A round of a source is found again in front of another one, unless it is text that ends
where the source does.
-/
theorem topRound_carried
    {behind : List Char}
    (read : topRound levels cursor = .ok (some pieces, moved))
    (goesOn : cursor.rest.dropWhile isText ≠ [])
    (carries : (Relocation.mk 0 behind false).Carries cursor there) :
    ∃ movedThere,
      topRound levels there =
        .ok (some (pieces.map (Piece.mapSpans (Span.shift 0))), movedThere) ∧
      (Relocation.mk 0 behind false).Carries moved movedThere := by
  by_cases noText : cursor.rest.takeWhile isText = []
  · cases starts : cursor.rest with
    | nil =>
        rw [topRound, textRound_of_nil starts] at read
        nomatch read
    | cons c after =>
        have text : isText c = false := by simpa [starts] using noText
        have isOpen : (Relocation.mk 0 behind false).closed = false := rfl
        rcases textRound_carries isOpen (carried_choice isOpen levels) starts text read with
          ⟨_, answers⟩
        exact answers carries
  · cases (topRound_of_text noText).symm.trans read
    rcases behindText_carries (.inr goesOn) carries with ⟨taken, carriesText⟩
    refine ⟨_, ?_, carriesText⟩
    rw [topRound_of_text (by rw [taken]; exact noText), taken]
    rfl

/--
The rounds of a source are found again in front of another one, and behind them the
rounds of the other one are, apart from text at the seam.
-/
theorem rendersAs_concatenated
    {source : String}
    {roundsOther : List (List Piece)}
    {stopOther : Cursor}
    (collects : Collects (topRound levels) cursor rounds stop)
    (ends : stop.rest = [])
    (collectsOther : Collects (topRound levels) (.start source) roundsOther stopOther)
    (shallow : cursor.depth = 0)
    (carries : (Relocation.mk 0 source.toList false).Carries cursor there)
    (settled : there.previousStop = there.position) :
    ∃ offset, RendersAs levels there stopOther.rest
      (rounds.flatten.map (Piece.mapSpans (Span.shift 0)) ++
        roundsOther.flatten.map (Piece.mapSpans (Span.shift offset))) := by
  have keeps := keeps_textRound (expressions_keep levels) (keeps_choice levels)
  have shallowThere : there.depth = 0 := Nat.le_zero.mp (shallow ▸ carries.depth)
  induction collects generalizing there with
  | nil nothing =>
      cases textRound_of_none nothing
      exact rendersAs_behind_end collectsOther (by simpa [ends] using carries.rest)
        shallowThere settled
  | @cons cursor moved stop pieces rounds read further ih =>
      by_cases reaches : cursor.rest.dropWhile isText = []
      · -- The text ends where the other source starts, so nothing of the first one is left.
        have isPlain : ∀ c ∈ cursor.rest, isText c = true := List.dropWhile_eq_nil_iff.mp reaches
        have whole : cursor.rest.takeWhile isText = cursor.rest :=
          List.takeWhile_eq_self_iff.mpr isPlain
        have isNonempty : cursor.rest ≠ [] := by
          intro nothing
          rw [topRound, textRound_of_nil nothing] at read
          nomatch read
        cases (topRound_of_text (by rwa [whole])).symm.trans read
        obtain rfl : rounds = [] := rounds_of_end further reaches
        rw [whole]
        exact rendersAs_behind_text collectsOther isPlain isNonempty carries.rest shallowThere
      · rcases topRound_carried read reaches carries with ⟨movedThere, readThere, carriesMoved⟩
        rcases ih ends ((keeps read).depth.trans shallow) carriesMoved
          (previousStop_of_textRound readThere) ((keeps readThere).depth.trans shallowThere) with
          ⟨offset, renders⟩
        refine ⟨offset, ?_⟩
        rw [List.flatten_cons, List.map_append, List.append_assoc]
        exact renders.behind_round readThere

end Seam

end Grammar

open Grammar in
/-- What is read from a source behind another one. -/
theorem Piece.parse_append
    {first second : String}
    {pieces others : List Piece}
    (parsed : Piece.parse first = .ok pieces)
    (parsedOther : Piece.parse second = .ok others) :
    ∃ offset all, Piece.parse (first ++ second) = .ok all ∧
      renderAll all = renderAll (mapAllSpans (Span.shift 0) pieces ++
        mapAllSpans (Span.shift offset) others) := by
  rcases parse_eq_ok parsed with ⟨stop, read, ends⟩
  rcases parse_eq_ok parsedOther with ⟨stopOther, readOther, endsOther⟩
  rcases textBlock_eq_ok read with ⟨rounds, collects, rfl⟩
  rcases textBlock_eq_ok readOther with ⟨roundsOther, collectsOther, rfl⟩
  have carries : (Relocation.mk 0 second.toList false).Carries (.start first)
      (.start (first ++ second)) :=
    ⟨String.toList_append, rfl, rfl, Nat.le_refl 0⟩
  rcases rendersAs_concatenated collects ends collectsOther rfl carries rfl with
    ⟨offset, found, last, collected, endsThere, same⟩
  refine ⟨offset, found.flatten, parse_of_collects collected (endsThere.trans endsOther), ?_⟩
  rw [same, mapAllSpans_eq_map, mapAllSpans_eq_map]

open Grammar in
/-- A source without braces and brackets that open is all text. -/
theorem Piece.parse_plainText
    {source : String}
    (noBrace : '{' ∉ source.toList)
    (noBracket : '[' ∉ source.toList) :
    Piece.parse source = .ok (if source.toList = [] then [] else [.text source]) := by
  have isPlain : ∀ c ∈ source.toList, isText c = true := by
    intro c member
    cases text : isText c with
    | true => rfl
    | false =>
        rcases isText_eq_false text with rfl | rfl
        · exact absurd member noBrace
        · exact absurd member noBracket
  cases starts : source.toList with
  | nil =>
      rw [parse_of_collects (.nil (textRound_of_nil starts)) starts]
      rfl
  | cons c rest =>
      have whole : source.toList.takeWhile isText = source.toList :=
        List.takeWhile_eq_self_iff.mpr isPlain
      have ends : (behindText (.start source)).rest = [] :=
        List.dropWhile_eq_nil_iff.mpr isPlain
      have isTextual : isText c = true := isPlain c (by simp [starts])
      have read :
          topRound maximalNesting (.start source) =
            .ok (some [.text (.ofList (source.toList.takeWhile isText))],
              behindText (.start source)) :=
        textRound_of_text starts isTextual
      rw [parse_of_collects (.cons read (.nil (textRound_of_nil ends))) ends]
      simp [whole]

namespace Piece

variable {layers : Layers} {state after : State} {text : String} {pieces : List Piece}

/-- Where pieces stand and what is on the page makes no difference to what they put out. -/
theorem renderAll_moved
    (rendered : renderAll pieces layers ⟨state, ""⟩ = (.ok (), ⟨after, text⟩))
    (offset : Nat)
    (before : String) :
    renderAll (mapAllSpans (Span.shift offset) pieces) layers ⟨state, before⟩ =
      (.ok (), ⟨after, before ++ text⟩) := by
  have shifts :
      Evaluation.Shifts offset (Page.behind before) id (renderAll pieces)
        (renderAll (mapAllSpans (Span.shift offset) pieces)) :=
    renderAll_shifts pieces
  simpa [rendered, Page.behind] using shifts layers ⟨state, ""⟩

/-- Text that is empty needs no piece. -/
theorem renderAll_plainText (source : String) (page : Page) :
    renderAll (if source.toList = [] then [] else [.text source]) layers page =
      (.ok (), { page with
        output := page.output ++ if page.state.isSkipping then "" else source }) := by
  by_cases isEmpty : source.toList = []
  · rw [String.toList_eq_nil_iff.mp isEmpty]
    simp [renderAll]
  · cases skipping : page.state.isSkipping <;>
      simp [isEmpty, skipping, renderAll, render, Rendering.unlessSkipping, Rendering.write]

end Piece

/--
A template behind another one renders as the two do in turn, the second one in the
state that the first one leaves; and a source without braces and brackets that open
renders as itself.
-/
theorem rendering_compositional :
    (∀ first second pieces others,
      Piece.parse first = .ok pieces → Piece.parse second = .ok others →
        ∃ all, Piece.parse (first ++ second) = .ok all ∧
          ∀ layers state between after text textOther,
            Piece.renderAll pieces layers ⟨state, ""⟩ = (.ok (), ⟨between, text⟩) →
            Piece.renderAll others layers ⟨between, ""⟩ = (.ok (), ⟨after, textOther⟩) →
              Piece.renderAll all layers ⟨state, ""⟩ = (.ok (), ⟨after, text ++ textOther⟩)) ∧
    ∀ source : String, '{' ∉ source.toList → '[' ∉ source.toList →
      ∃ template, Template.parse source = .ok template ∧
        ∀ layers state, template.render layers state =
          (.ok (if state.isSkipping then "" else source), state) := by
  constructor
  · intro first second pieces others parsed parsedOther
    rcases Piece.parse_append parsed parsedOther with ⟨offset, all, parsedAll, same⟩
    refine ⟨all, parsedAll, ?_⟩
    intro layers state between after text textOther rendered renderedOther
    rw [same, Piece.renderAll_append,
      Evaluation.bind_of_ok (Piece.renderAll_moved rendered 0 ""), String.empty_append]
    exact Piece.renderAll_moved renderedOther offset text
  · intro source noBrace noBracket
    let pieces : List Piece := if source.toList = [] then [] else [.text source]
    have parsed : Template.parse source = .ok ⟨source, .pieces pieces⟩ := by
      rw [Template.parse, Piece.parse_plainText noBrace noBracket]
      rfl
    refine ⟨_, parsed, fun layers state => ?_⟩
    rw [Template.render]
    simp only [pieces, Piece.renderAll_plainText, String.empty_append]
    rfl

/-- A variable that the first source declares is read in the second one. -/
theorem variable_read_behind_seam :
    (∃ all after, Piece.parse ("{local n = 2}T" ++ "0 S{n}") = .ok all ∧
      Piece.renderAll all { process := ∅ } ⟨{}, ""⟩ = (.ok (), ⟨after, "T" ++ "0 S2"⟩)) ∧
    ∃ template, Template.parse "M117 \x7d]" = .ok template ∧
      template.render { process := ∅ } {} = (.ok "M117 \x7d]", {}) := by
  rcases rendering_compositional with ⟨composes, copies⟩
  constructor
  · let layers : Layers := { process := ∅ }
    have run :
        (Piece.parse "{local n = 2}T").toOption.any (fun pieces =>
          (Piece.parse "0 S{n}").toOption.any fun others =>
            let first := Piece.renderAll pieces layers ⟨{}, ""⟩
            let last := Piece.renderAll others layers ⟨first.2.state, ""⟩
            first.1.isOk && first.2.output == "T" && last.1.isOk && last.2.output == "0 S2") =
          true := by
      decide +kernel
    rcases exists_of_any run with ⟨pieces, parsed, run⟩
    rcases exists_of_any run with ⟨others, parsedOther, run⟩
    rcases rendered : Piece.renderAll pieces layers ⟨{}, ""⟩ with ⟨done, between, text⟩
    rcases renderedOther : Piece.renderAll others layers ⟨between, ""⟩ with
      ⟨doneOther, after, textOther⟩
    simp only [rendered, renderedOther, Bool.and_eq_true, beq_iff_eq] at run
    rcases run with ⟨⟨⟨isDone, rfl⟩, isDoneOther⟩, rfl⟩
    cases done with
    | error _ => cases isDone
    | ok _ =>
        cases doneOther with
        | error _ => cases isDoneOther
        | ok _ =>
            rcases composes _ _ pieces others parsed parsedOther with ⟨all, parsedAll, renders⟩
            exact ⟨all, after, parsedAll, renders _ _ _ _ _ _ rendered renderedOther⟩
  · rcases copies "M117 \x7d]" (by decide) (by decide) with ⟨template, parsed, renders⟩
    exact ⟨template, parsed, renders _ _⟩

end GcodeTemplate
