import GcodeTemplate.Proofs.Dependence

/-!
# Renderings depend on the names that a template mentions

If two contexts agree on the names in a template, and on the parents of these, then
rendering the template in both puts the same text out, up to the same fault if there
is one.  What the two leave agrees on these names again, and has not changed under
any other one.
-/

namespace GcodeTemplate

open Evaluation Eval Rendering Twins

variable {twins : Twins}

/-! ## Statements -/

namespace Sourced

theorem ofExprs_respects
    (exprs : List Expr)
    (mentioned : ∀ name ∈ exprs.flatMap Expr.names, name ∈ twins.names) :
    twins.Respects twins.Coupled (ofExprs exprs) :=
  ofExprs_runsAlike twins.couples exprs mentioned

theorem ofExpr_respects
    (expr : Expr)
    (mentioned : ∀ name ∈ expr.names, name ∈ twins.names) :
    twins.Respects twins.Coupled (ofExpr expr) :=
  ofExpr_runsAlike twins.couples expr mentioned

theorem ofBinding_respects
    {source : Binding}
    (mentioned : source.key ∈ twins.names) :
    twins.Respects twins.Coupled (ofBinding source) :=
  ofBinding_runsAlike twins.couples mentioned

end Sourced

namespace Binding

/-- The setting that an update puts in place of the one that is there. -/
def changed
    (binding : Binding)
    (change : Setting → Except Fault Setting)
    (layers : Layers)
    (state : State) :
    Except Fault Setting :=
  binding.target layers state >>= change

theorem update_eq
    (binding : Binding)
    (layers : Layers)
    (state : State)
    (change : Setting → Except Fault Setting) :
    binding.update layers state change =
      state.store binding.scope binding.key <$> binding.changed change layers state := by
  unfold update changed
  cases binding.target layers state with
  | error fault => rfl
  | ok setting => cases change setting <;> rfl

section

variable {target source : Binding} (mentioned : target.key ∈ twins.names)

include mentioned

theorem respects_update (changes : Setting → Except Fault Setting) :
    twins.Respects twins.Coupled
      (change fun layers state => target.update layers state changes) :=
  respects_change (target.changed changes) mentioned
    (fun layers state => target.update_eq layers state changes)
    fun _ _ agree => by rw [changed, changed, target.target_eq agree mentioned]

theorem respects_assignScalar (source : Sourced) :
    twins.Respects twins.Coupled (change (target.assignScalar source)) :=
  respects_update mentioned _

theorem respects_assignList (items : List Sourced) :
    twins.Respects twins.Coupled (change (target.assignList items)) :=
  respects_update mentioned _

theorem respects_assignCopies (count value : Sourced) :
    twins.Respects twins.Coupled (change (target.assignCopies count value)) :=
  respects_update mentioned _

/-- A whole vector is read and checked before anything is written. -/
theorem respects_assignVector (sourceMentioned : source.key ∈ twins.names) :
    twins.Respects twins.Coupled (change (target.assignVector source)) := by
  intro state there coupled
  have same := source.setting_eq coupled.agree sourceMentioned
  simp only [change, assignVector, same]
  cases source.setting twins.layers state with
  | error fault =>
      exact ⟨rfl, coupled⟩
  | ok copied =>
      simp only [bind, Except.bind]
      split_ifs
      · exact ⟨rfl, coupled⟩
      · exact ⟨rfl, coupled⟩
      · exact respects_update mentioned _ state there coupled

end

end Binding

namespace Initializer

theorem assignTo_respects
    {target : Binding}
    (targetMentioned : target.key ∈ twins.names)
    (initializer : Initializer)
    (mentioned : ∀ name ∈ initializer.names, name ∈ twins.names) :
    twins.Respects twins.Coupled (initializer.assignTo target) := by
  cases initializer with
  | list span items =>
      exact (Sourced.ofExprs_respects items mentioned).bind fun sources _ _ _ =>
        Binding.respects_assignList targetMentioned sources
  | fill span count value =>
      simp only [names, List.mem_append, or_imp, forall_and] at mentioned
      exact (Sourced.ofExpr_respects count mentioned.1).bind fun number _ _ _ =>
        (Sourced.ofExpr_respects value mentioned.2).bind fun source _ _ _ =>
          Binding.respects_assignCopies targetMentioned number source
  | reference referred =>
      refine Reference.respects_bind_then (referred.bind_respects mentioned)
        (mentioned _ referred.name_mem_names) fun source there => ?_
      refine Respects.bind (respects_inspect fun _ _ agree =>
        target.isWholeVector_eq agree targetMentioned) fun whole _ _ _ => ?_
      cases whole with
      | true =>
          exact Binding.respects_assignVector targetMentioned there
      | false =>
          exact (Sourced.ofBinding_respects there).bind fun value _ _ _ =>
            Binding.respects_assignScalar targetMentioned value
  | expression expr =>
      exact (Sourced.ofExpr_respects expr mentioned).bind fun source _ _ _ =>
        Binding.respects_assignScalar targetMentioned source

theorem redeclare_respects
    {target : Binding}
    (targetMentioned : target.key ∈ twins.names)
    (initializer : Initializer)
    (mentioned : ∀ name ∈ initializer.names, name ∈ twins.names) :
    twins.Respects twins.Coupled (initializer.redeclare target) := by
  have looked : twins.Respects twins.Coupled (setting target) :=
    respects_inspect fun _ _ agree => target.setting_eq agree targetMentioned
  refine (looked.map _).bind fun isVector _ _ _ => ?_
  cases initializer <;> cases isVector
  case expression.true => exact respects_fail _ _
  case fill.false => exact respects_fail _ _
  all_goals exact assignTo_respects targetMentioned _ mentioned

theorem newSetting_respects
    (nameSpan : Span)
    (initializer : Initializer)
    (mentioned : ∀ name ∈ initializer.names, name ∈ twins.names) :
    twins.Respects twins.Coupled (initializer.newSetting nameSpan) :=
  initializer.newSetting_runsAlike twins.couples nameSpan mentioned

end Initializer

theorem Declaration.run_respects
    (declaration : Declaration)
    (mentioned : ∀ name ∈ declaration.names, name ∈ twins.names) :
    twins.Respects twins.Coupled declaration.run := by
  rcases declaration with ⟨isGlobal, name, nameSpan, initializer⟩
  simp only [Declaration.names, List.mem_cons, forall_eq_or_imp] at mentioned
  rcases mentioned with ⟨named, mentioned⟩
  refine Respects.bind (respects_inspect fun _ _ agree =>
    agree.declared?_eq named isGlobal nameSpan) fun existing state after asked => ?_
  cases existing with
  | some binding =>
      obtain rfl : binding = _ := (State.declared?_eq_ok (congrArg Prod.fst asked)).2
      exact initializer.redeclare_respects named mentioned
  | none =>
      refine (initializer.newSetting_respects nameSpan mentioned).bind fun setting _ _ _ => ?_
      exact respects_change (fun _ _ => .ok setting) named (fun _ _ => rfl) fun _ _ _ => rfl

/-! ## Pieces -/

namespace Twins

variable {α : Type}

theorem respects_quietly
    {evaluation : Eval α}
    (respects : twins.Respects twins.Coupled evaluation) :
    twins.Respects twins.CoupledPages (quietly evaluation) := by
  intro page there coupled
  rcases respects page.state there.state coupled.state with ⟨same, left⟩
  exact ⟨same, left, coupled.output⟩

theorem respects_write (text : String) :
    twins.Respects twins.CoupledPages (write text) := by
  intro page there coupled
  rcases coupled.output with ⟨before, output, outputThere⟩
  refine ⟨rfl, coupled.state, before ++ text, ?_⟩
  simp only [write, output, outputThere, String.append_assoc, and_self]

theorem respects_block
    {body : Rendering α}
    (active : Bool)
    (respects : twins.Respects twins.CoupledPages body) :
    twins.Respects twins.CoupledPages (Rendering.within active body) := by
  intro page there coupled
  rcases respects { page with state := page.state.enter active }
    { there with state := there.state.enter active }
    ⟨coupled.state.enter active, coupled.output⟩ with ⟨same, left⟩
  exact ⟨same, left.state.leave coupled.state active, left.output⟩

theorem respects_unlessSkippingPage
    {rendering : Rendering Unit}
    (respects : twins.Respects twins.CoupledPages rendering) :
    twins.Respects twins.CoupledPages (Rendering.unlessSkipping rendering) := by
  intro page there coupled
  simp only [Rendering.unlessSkipping, coupled.state.agree.isSkipping_eq]
  split
  · exact ⟨rfl, coupled⟩
  · exact respects page there coupled

end Twins

theorem Expr.holds_respects
    (condition : Expr)
    (mentioned : ∀ name ∈ condition.names, name ∈ twins.names) :
    twins.Respects twins.CoupledPages condition.holds := by
  intro page there coupled
  simp only [Expr.holds, coupled.state.agree.isSkipping_eq]
  split
  · exact ⟨rfl, coupled⟩
  · exact respects_quietly (condition.evalCondition_respects mentioned) page there coupled

mutual

/-- A piece depends on the names in it only. -/
theorem Piece.render_respects
    (piece : Piece)
    (mentioned : ∀ name ∈ piece.names, name ∈ twins.names) :
    twins.Respects twins.CoupledPages piece.render := by
  match piece with
  | .text text =>
      rw [Piece.render]
      exact respects_unlessSkippingPage (respects_write text)
  | .bracket bracket =>
      rw [Piece.render]
      rw [Piece.names] at mentioned
      exact respects_unlessSkippingPage
        ((respects_quietly (respects_inspect fun _ _ agree =>
          bracket.text_eq agree mentioned)).bind fun text _ _ _ => respects_write text)
  | .expression expr =>
      rw [Piece.render]
      rw [Piece.names] at mentioned
      exact respects_unlessSkippingPage
        ((respects_quietly (expr.eval_respects mentioned)).bind fun value _ _ _ =>
          respects_write value.text)
  | .assign target initializer =>
      rw [Piece.render]
      simp only [Piece.names, List.mem_append, or_imp, forall_and] at mentioned
      exact respects_unlessSkippingPage (respects_quietly
        (Reference.respects_bind_then (target.bind_respects mentioned.1)
          (mentioned.1 _ target.name_mem_names) fun binding there =>
            initializer.assignTo_respects there mentioned.2))
  | .declare declaration =>
      rw [Piece.render]
      rw [Piece.names] at mentioned
      exact respects_unlessSkippingPage (respects_quietly (declaration.run_respects mentioned))
  | .choose branches none =>
      rw [Piece.render]
      rw [Piece.names] at mentioned
      exact (Branch.renderTaken_respects false branches mentioned).bind fun _ _ _ _ =>
        respects_pure ()
  | .choose branches (some otherwise) =>
      rw [Piece.render]
      simp only [Piece.names, List.mem_append, or_imp, forall_and] at mentioned
      exact (Branch.renderTaken_respects false branches mentioned.1).bind fun taken _ _ _ =>
        respects_block (! taken) (Piece.renderAll_respects otherwise mentioned.2)

/-- So do pieces one after the other. -/
theorem Piece.renderAll_respects
    (pieces : List Piece)
    (mentioned : ∀ name ∈ Piece.allNames pieces, name ∈ twins.names) :
    twins.Respects twins.CoupledPages (Piece.renderAll pieces) := by
  match pieces with
  | [] =>
      rw [Piece.renderAll]
      exact respects_pure ()
  | piece :: rest =>
      rw [Piece.renderAll]
      simp only [Piece.allNames, List.mem_append, or_imp, forall_and] at mentioned
      exact (Piece.render_respects piece mentioned.1).bind fun _ _ _ _ =>
        Piece.renderAll_respects rest mentioned.2

/-- So do the branches of an if block. -/
theorem Branch.renderTaken_respects
    (taken : Bool)
    (branches : List (Branch Piece))
    (mentioned : ∀ name ∈ Branch.allNames branches, name ∈ twins.names) :
    twins.Respects twins.CoupledPages (Branch.renderTaken taken branches) := by
  match branches with
  | [] =>
      rw [Branch.renderTaken]
      exact respects_pure taken
  | ⟨condition, body⟩ :: rest =>
      rw [Branch.renderTaken]
      simp only [Branch.allNames, List.mem_append, or_imp, forall_and] at mentioned
      exact (respects_block (! taken) (condition.holds_respects mentioned.1)).bind
        fun active _ _ _ =>
          (respects_block active (Piece.renderAll_respects body mentioned.2.1)).bind
            fun _ _ _ _ => Branch.renderTaken_respects (taken || active) rest mentioned.2.2

end

/--
Render a template in two contexts whose definitions come from the same table of
parents, and which agree on the names that the template mentions and on the parents
of these.  Both renderings end in the same way, with the same fault if there is
one, after the same text.  Then the contexts agree on these names again, and under
any other name each has in all of its layers what it had.
-/
theorem rendering_depends_on_mentioned_names
    (parents : List (String × String))
    (pieces : List Piece)
    (layers other : Layers)
    (page there : Page)
    (definitions : layers.definitions = .ofParents parents)
    (definitionsThere : other.definitions = .ofParents parents)
    (agree : AgreeOn (Piece.mentions parents pieces) layers other page.state there.state) :
    let outcome := Piece.renderAll pieces layers page
    let outcomeThere := Piece.renderAll pieces other there
    outcomeThere.1 = outcome.1 ∧
      (∃ text, outcome.2.output = page.output ++ text ∧
        outcomeThere.2.output = there.output ++ text) ∧
      AgreeOn (Piece.mentions parents pieces) layers other
        outcome.2.state outcomeThere.2.state ∧
      State.Untouched (Piece.mentions parents pieces) layers page.state outcome.2.state ∧
      State.Untouched (Piece.mentions parents pieces) other there.state
        outcomeThere.2.state := by
  let twins : Twins := {
    names := Piece.mentions parents pieces
    parents := parents
    layers := layers
    other := other
    begun := page
    begunThere := there
    definitions := definitions
    definitionsThere := definitionsThere
    closed := fun _ _ => .parent }
  have begun : twins.CoupledPages page there := {
    state := ⟨agree, fun _ _ _ => rfl, fun _ _ _ => rfl⟩
    output := ⟨"", by simp [twins]⟩ }
  have respects : twins.Respects twins.CoupledPages (Piece.renderAll pieces) :=
    Piece.renderAll_respects pieces fun _ => .here
  rcases respects page there begun with ⟨same, left⟩
  exact ⟨same, left.output, left.state.agree, left.state.untouched, left.state.untouchedThere⟩

/-- A bracket and a new variable tell nothing of what else there is. -/
theorem secret_neither_told_nor_touched :
    let temperatures : Dictionary := (∅ : Dictionary).insert "temps" (.ints [some 200, some 210])
    let layers : Layers :=
      { process := temperatures.insert "secret" (.int (some 1))
        definitions := .ofParents [("temps", "speeds")] }
    let other : Layers :=
      { process := temperatures.insert "secret" (.int (some 2))
        definitions := .ofParents [("temps", "speeds")] }
    let pieces : List Piece :=
      [.bracket ⟨"temps_1", {}, none, {}⟩,
        .declare ⟨false, "n", {}, .expression (.literal {} (.int 1))⟩,
        .expression (.read {} ⟨"m", {}, none, ⟨20, 21⟩⟩)]
    let outcome := Piece.renderAll pieces layers ⟨{}, ""⟩
    let outcomeThere := Piece.renderAll pieces other ⟨{}, ""⟩
    AgreeOn (Piece.mentions [("temps", "speeds")] pieces) layers other {} {} ∧
      outcome.2.output = "210" ∧
      outcomeThere.1 = outcome.1 ∧
      settingIn other outcomeThere.2.state .process "secret" = some (.int (some 2)) := by
  intro temperatures layers other pieces outcome outcomeThere
  have mentioned (name : String) :
      name ∈ Piece.mentions [("temps", "speeds")] pieces →
        name ∈ ["temps_1", "temps", "n", "m", "speeds"] := by
    intro ancestry
    induction ancestry with
    | here member =>
        exact List.mem_append_left ["speeds"] member
    | parent _ found _ =>
        -- the table has one parent, and that is the last of the names
        rw [List.lookup_cons, List.lookup_nil] at found
        split at found
        · cases found
          decide
        · nomatch found
  have agree : AgreeOn (Piece.mentions [("temps", "speeds")] pieces) layers other {} {} := {
    settings := fun scope name member => by
      have different : name ≠ "secret" := by
        rintro rfl
        exact absurd (mentioned _ member) (by decide)
      cases scope <;> simp [settingIn, layers, other, Dictionary.get?_insert, different]
    present := fun _ => rfl
    extruder := rfl
    random := rfl
    suppressed := rfl }
  rcases rendering_depends_on_mentioned_names [("temps", "speeds")] pieces layers other
    ⟨{}, ""⟩ ⟨{}, ""⟩ rfl rfl agree with ⟨same, _, _, _, untouchedThere⟩
  refine ⟨agree, rfl, same, ?_⟩
  refine (untouchedThere .process "secret" fun member => ?_).trans rfl
  exact absurd (mentioned _ member) (by decide)

end GcodeTemplate
