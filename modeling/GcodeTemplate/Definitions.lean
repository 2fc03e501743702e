import GcodeTemplate.Setting

/-!
# Definitions of settings

What is known about keys apart from the values under them: which setting a
percentage refers to, and how wide an extrusion is.
-/

namespace GcodeTemplate

/-- Static facts about keys, supplied by the caller. -/
structure Definitions where
  /-- The key of the setting that a percentage under a key is taken of. -/
  ratioOver : String → Option String
  /--
  The absolute width of an extrusion under a key for an extruder, derived from
  the settings that a look-up finds.
  -/
  extrusionWidth : String → (String → Option Setting) → Nat → Option Float

namespace Definitions

/-- Definitions by a table of parent keys; no width can be derived. -/
def ofParents (parents : List (String × String)) : Definitions where
  ratioOver key := parents.lookup key
  extrusionWidth _ _ _ := none

/-- Definitions of nothing. -/
def empty : Definitions :=
  ofParents []

end Definitions

end GcodeTemplate
