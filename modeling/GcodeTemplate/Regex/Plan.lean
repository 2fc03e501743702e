import GcodeTemplate.Regex
import GcodeTemplate.Regex.Bytes

/-!
# Plans

A plan is what is left of a regular expression when everything is taken away that
makes no difference for a machine that reads texts: characters in a row are put
together, sequences and choices are not nested in themselves, and what all
alternatives begin with stands in front of the choice.
-/

namespace GcodeTemplate.Regex

/-- A regular expression in the form in which a machine is built from it. -/
inductive Plan where
  | empty
  /-- Some characters in a row, at least one of them. -/
  | text (chars : List Char)
  /-- One character of a set. -/
  | oneOf (chars : EncodedSet)
  /-- A condition; the characters of words are there only if it asks for them. -/
  | look (condition : Look) (word : Option CharSet)
  | repeated (greedy : Bool) (least : Nat) (most : Option Nat) (body : Plan)
  /-- A group that is captured. -/
  | group (body : Plan)
  | sequence (parts : List Plan)
  | choice (parts : List Plan)

/-- Whether a condition asks for the characters of words. -/
def Look.readsWords : Look → Bool
  | textStart | textEnd | lineStart | lineEnd | anyLineStart | anyLineEnd => false
  | wordBoundary | notWordBoundary | wordStart | wordEnd | wordStartHalf | wordEndHalf => true

namespace Plan

mutual

/-- Whether two plans are the same; captured groups always differ. -/
def same : Plan → Plan → Bool
  | empty, empty => true
  | text left, text right => left == right
  | oneOf left, oneOf right => left.ranges == right.ranges
  | look left leftWord, look right rightWord => left == right && leftWord == rightWord
  | repeated leftGreedy leftLeast leftMost left,
      repeated rightGreedy rightLeast rightMost right =>
      leftGreedy == rightGreedy && leftLeast == rightLeast && leftMost == rightMost &&
        left.same right
  | sequence left, sequence right => allSame left right
  | choice left, choice right => allSame left right
  | _, _ => false

/-- Whether two lists have the same plans. -/
def allSame : List Plan → List Plan → Bool
  | [], [] => true
  | left :: lefts, right :: rights => left.same right && allSame lefts rights
  | _, _ => false

end

mutual

/-- Whether a plan matches the empty text only. -/
def isZeroWidth : Plan → Bool
  | empty => true
  | text _ => false
  | oneOf _ => false
  | look _ _ => true
  | repeated _ _ most body => most.isSome && body.isZeroWidth
  | group body => body.isZeroWidth
  | sequence parts => allZeroWidth parts
  | choice parts => allZeroWidth parts

/-- Whether every plan matches the empty text only. -/
def allZeroWidth : List Plan → Bool
  | [] => true
  | part :: rest => part.isZeroWidth && allZeroWidth rest

end

mutual

/-- The least number of characters in a match; none if a part matches nothing at all. -/
def leastLength? : Plan → Option Nat
  | empty => some 0
  | text chars => some chars.length
  | oneOf chars => if chars.ranges.isEmpty then none else some 1
  | look _ _ => some 0
  | repeated _ least _ body => body.leastLength?.map (least * ·)
  | group body => body.leastLength?
  | sequence parts => List.sum <$> leastLengths? parts
  | choice parts => do (← leastLengths? parts).min?

/-- The least number of characters for each plan. -/
def leastLengths? : List Plan → Option (List Nat)
  | [] => some []
  | part :: rest => do
      let length ← part.leastLength?
      let others ← leastLengths? rest
      pure (length :: others)

end

/-- Whether every match is known to have a character at least. -/
def takesInput (plan : Plan) : Bool :=
  plan.leastLength?.any (0 < ·)

mutual

/-- Whether a condition has to hold where a match begins, or ends if one reads backward. -/
def mustMeet (direction : Direction) (condition : Look) : Plan → Bool
  | empty => false
  | text _ => false
  | oneOf _ => false
  | look found _ => found == condition
  | repeated _ least _ body => 0 < least && body.mustMeet direction condition
  | group body => body.mustMeet direction condition
  | sequence parts =>
      match direction with
      | .forward => firstMustMeet condition parts
      | .backward => lastMustMeet condition parts
  | choice parts => allMustMeet direction condition parts

/-- Whether a condition has to hold where a match of some plans in a row begins. -/
def firstMustMeet (condition : Look) : List Plan → Bool
  | [] => false
  | part :: rest =>
      part.mustMeet .forward condition || part.isZeroWidth && firstMustMeet condition rest

/-- Whether a condition has to hold where a match of some plans in a row ends. -/
def lastMustMeet (condition : Look) : List Plan → Bool
  | [] => false
  | part :: rest =>
      lastMustMeet condition rest || allZeroWidth rest && part.mustMeet .backward condition

/-- Whether every plan needs a condition. -/
def allMustMeet (direction : Direction) (condition : Look) : List Plan → Bool
  | [] => true
  | part :: rest =>
      part.mustMeet direction condition && allMustMeet direction condition rest

end

/-- The code points of characters, which surrogates are not. -/
def characters : CharSet :=
  ⟨[⟨0, 0xD7FF⟩, ⟨0xE000, 0x10FFFF⟩]⟩

/-- One character of a set; a set of a single one is a text. -/
def ofSet (set : CharSet) : Plan :=
  match (set.inter characters).merged.ranges with
  | [⟨first, last⟩] =>
      if first = last then
        text [Char.ofNat first]
      else
        oneOf (.ofRanges [⟨first, last⟩])
  | ranges => oneOf (.ofRanges ranges)

/-- A single character is a text: its code point is not one of the surrogates. -/
@[simp]
theorem ofSet_singleton (c : Char) :
    ofSet (.singleton c) = text [c] := by
  have valid : c.toNat ≤ 0xD7FF ∨ 0xE000 ≤ c.toNat ∧ c.toNat ≤ 0x10FFFF := by
    have := c.valid
    simp only [UInt32.isValidChar, Nat.isValidChar] at this
    simp only [Char.toNat]
    omega
  have alone : (CharSet.singleton c).inter characters = .singleton c := by
    simp only [CharSet.inter, CharSet.singleton, CharSet.range, characters, CodeRange.within,
      List.flatMap_cons, List.flatMap_nil, List.append_nil]
    rcases valid with low | ⟨high, top⟩
    · rw [if_pos (by omega), if_neg (by omega)]
      simp [low]
    · rw [if_neg (by omega), if_pos (by omega)]
      simp [high, top]
  rw [ofSet, alone, CharSet.merged_singleton]
  show (if c.toNat = c.toNat then text [Char.ofNat c.toNat] else _) = _
  rw [if_pos rfl, Char.ofNat_toNat]

/-- The plans that a plan consists of, one after the other. -/
def parts : Plan → List Plan
  | empty => []
  | sequence parts => parts
  | part => [part]

/-- The plans of which a plan is a choice. -/
def alternatives : Plan → List Plan
  | choice parts => parts
  | part => [part]

/-- Some plans one after the other; a single one is not wrapped. -/
def ofParts : List Plan → Plan
  | [] => empty
  | [part] => part
  | parts => sequence parts

/-- A plan in front of others; neighbouring texts are put together. -/
def cons : Plan → List Plan → List Plan
  | text front, text back :: rest => text (front ++ back) :: rest
  | part, rest => part :: rest

/-- A plan and what follows it. -/
def followedBy (first second : Plan) : Plan :=
  ofParts (first.parts.foldr cons second.parts)

/-- The character of a text with a single one. -/
def char? : Plan → Option Char
  | text [c] => some c
  | _ => none

/-- The characters of a text. -/
def text? : Plan → Option (List Char)
  | text chars => some chars
  | _ => none

/-- The ranges of a set. -/
def ranges? : Plan → Option (List CodeRange)
  | oneOf chars => some chars.ranges
  | _ => none

/-- The plans of a sequence. -/
def sequence? : Plan → Option (List Plan)
  | sequence parts => some parts
  | _ => none

/-- A choice between plans; single characters, or sets, are a set together. -/
def ofChoices (plans : List Plan) : Plan :=
  match plans.flatMap alternatives with
  | [plan] => plan
  | flat =>
      match flat.mapM char? with
      | some chars => ofSet (.ofList chars)
      | none =>
          match flat.mapM ranges? with
          | some ranges => ofSet ⟨ranges.flatten⟩
          | none => choice flat

/-- How many plans two lists have in common at their beginning. -/
def commonLength : (left right : List Plan) → Nat
  | first :: left, second :: right =>
      if first.same second then 1 + commonLength left right else 0
  | _, _ => 0

/-- What all alternatives begin with, and the choice between what is left of them. -/
def factored (plans : List Plan) : Plan :=
  match plans.mapM sequence? with
  | some (first :: others) =>
      let shared :=
        others.foldl (fun shared other => min shared (commonLength first other)) first.length
      if shared = 0 then
        choice plans
      else
        (ofParts (first.take shared)).followedBy
          (ofChoices ((first :: others).map fun parts => ofParts (parts.drop shared)))
  | _ => choice plans

/-- A plan for alternatives; a single one is not changed. -/
def ofAlternatives : List Plan → Plan
  | [plan] => plan
  | plans =>
      match ofChoices plans with
      | choice flat => factored flat
      | plan => plan

@[simp]
theorem ofAlternatives_singleton (plan : Plan) :
    ofAlternatives [plan] = plan :=
  rfl

/-- A plan several times in a row; repeating what has no width changes nothing. -/
def times (greedy : Bool) (least : Nat) (most : Option Nat) (body : Plan) : Plan :=
  let least := if body.isZeroWidth then min least 1 else least
  let most := if body.isZeroWidth then some (min (most.getD 1) 1) else most
  if most = some 0 then
    empty
  else if least = 1 && most = some 1 then
    body
  else
    repeated greedy least most body

end Plan

/-- The plans for the alternatives of a regular expression; only a choice has several. -/
def alternativePlans : Regex → List Plan
  | empty => [.empty]
  | set chars => [.ofSet chars]
  | look condition word => [.look condition (if condition.readsWords then some word else none)]
  | sequence first second =>
      [(Plan.ofAlternatives first.alternativePlans).followedBy
        (.ofAlternatives second.alternativePlans)]
  | choice left right => .ofAlternatives left.alternativePlans :: right.alternativePlans
  | repeated greedy least most body =>
      [.times greedy least most (.ofAlternatives body.alternativePlans)]
  | group captured body =>
      let inner := Plan.ofAlternatives body.alternativePlans
      [if captured then .group inner else inner]

/-- The plan of a regular expression. -/
def plan (regex : Regex) : Plan :=
  .ofAlternatives regex.alternativePlans

end GcodeTemplate.Regex
