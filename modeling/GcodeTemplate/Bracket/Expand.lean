import GcodeTemplate.Evaluation
import GcodeTemplate.Piece

/-!
# The text of a bracket

A bracket inserts a setting of the read-only layers in its serialized form.  Of
a vector it inserts one element: that of the extruder, or that of an index
which is a number behind the name or the value of a second setting.
-/

namespace GcodeTemplate

namespace Setting

/-- The serialized element of a vector that an index reads. -/
def elementText (setting : Setting) (span : Span) (index : Nat) : Except Fault String :=
  let place := Binding.clamp index setting.size
  match setting.elementTexts[place]? with
  | none => .error ⟨.emptyVector, span⟩
  | some text =>
      if setting.isNilAt place then
        .error ⟨.nilElement, span⟩
      else
        .ok (.ofList text)

/-- The serialized form of a scalar, or of the element of a vector for an extruder. -/
def textFor (setting : Setting) (span : Span) (extruder : Nat) : Except Fault String :=
  if setting.isVector then
    setting.elementText span extruder
  else if setting.isNil then
    .error ⟨.nilScalar, span⟩
  else
    .ok setting.serialize

end Setting

namespace Bracket

/-- A name as the parts in front of its last underscore and behind it. -/
def splitName? (name : String) : Option (List Char × List Char) :=
  let behind := name.toList.reverse.takeWhile (· != '_')
  match name.toList.reverse.dropWhile (· != '_') with
  | [] => none
  | _ :: front => some (front.reverse, behind.reverse)

/-- The characters behind the sign of a number, if it has one, and whether that is a minus. -/
def splitSign : List Char → Bool × List Char
  | '-' :: digits => (true, digits)
  | '+' :: digits => (false, digits)
  | digits => (false, digits)

/--
The index that an integer behind a name stands for, if the characters are one that is not
too large.  A negative one is in no vector, so that it stands for the first element.
-/
def suffixNumber? (suffix : List Char) : Option Nat :=
  let (negative, digits) := splitSign suffix
  if digits.isEmpty || ! digits.all (·.isDigit) then
    none
  else
    let number := Nat.ofDigitChars 10 digits 0
    if negative then
      if number ≤ 1 <<< 63 then some 0 else none
    else
      if number < 1 <<< 63 then some number else none

/-- The text for a name that is the name of a vector, an underscore and a number. -/
def suffixedText
    (name : String)
    (span : Span)
    (layers : Layers) :
    Except Fault String :=
  match splitName? name with
  | none => .error ⟨.missingSetting, span⟩
  | some (front, suffix) =>
      match layers.get? (.ofList front) with
      | none => .error ⟨.missingSetting, span⟩
      | some setting =>
          if setting.isVector then
            match suffixNumber? suffix with
            | none =>
                let start := span.start + Text.byteWidth front + 1
                .error ⟨.invalidIndexSuffix, ⟨start, span.stop⟩⟩
            | some index => setting.elementText span index
          else
            .error ⟨.indexedScalar, span⟩

/-- The text for a name without an index. -/
def plainText
    (name : String)
    (span : Span)
    (layers : Layers)
    (extruder : Nat) :
    Except Fault String :=
  match layers.get? name with
  | some setting => setting.textFor span extruder
  | none => suffixedText name span layers

/-- The vector of a name with an index; the name may have an underscore behind it. -/
def indexedSetting? (name : String) (layers : Layers) : Option Setting :=
  let stripped :=
    match name.toList.reverse with
    | '_' :: front => layers.get? (.ofList front.reverse)
    | _ => none
  layers.get? name <|> stripped

/-- The number that a setting has which serves as an index. -/
def indexOf (setting : Setting) (span : Span) : Except Fault Nat :=
  match setting with
  | .int (some n) =>
      if n < 0 then
        .error ⟨.negativeBracketIndex, span⟩
      else
        .ok n.toInt.toNat
  | .int none => .error ⟨.nilScalar, span⟩
  | _ => .error ⟨.bracketIndexNotWhole, span⟩

/-- The text for a name with the name of an index. -/
def indexedText
    (name : String)
    (span : Span)
    (index : String)
    (indexSpan : Span)
    (layers : Layers) :
    Except Fault String :=
  match indexedSetting? name layers with
  | none => .error ⟨.missingSetting, span⟩
  | some setting =>
      if ! setting.isVector then
        .error ⟨.indexedScalar, span⟩
      else if setting.size = 0 then
        .error ⟨.emptyVector, span⟩
      else
        match layers.get? index with
        | none => .error ⟨.missingSetting, indexSpan⟩
        | some indexSetting => do
            let number ← indexOf indexSetting indexSpan
            setting.elementText span number

/-- The text that a bracket inserts; there is none in a block that is not taken. -/
def text (bracket : Bracket) (layers : Layers) (state : State) : Except Fault String :=
  if state.isSkipping then
    .ok ""
  else
    match bracket.index with
    | none => plainText bracket.name bracket.nameSpan layers state.extruder
    | some (index, indexSpan) =>
        indexedText bracket.name bracket.nameSpan index indexSpan layers

end Bracket

end GcodeTemplate
