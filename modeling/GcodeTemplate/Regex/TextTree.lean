import GcodeTemplate.Regex.Building

/-!
# Choices between texts

A choice between texts is a tree, whose branches share the beginnings of the
texts.  The order of the texts is kept: what follows the end of a text stands
behind all that comes before it.
-/

namespace GcodeTemplate.Regex

/--
Texts to choose from that share their beginnings.  Where a text ends, the later
ones do not share the branches of the earlier ones any more.
-/
inductive TextTree where
  | leaf
  /-- A byte with what follows it, and the other branches. -/
  | branch (byte : Nat) (after others : TextTree)
  /-- The end of a text, and the branches of the texts before it. -/
  | stop (earlier : TextTree)
deriving Repr

namespace TextTree

/-- Whether a tree has no branches. -/
def isLeaf : TextTree → Bool
  | leaf => true
  | branch _ _ _ => false
  | stop earlier => earlier.isLeaf

/-- Add the end of a text; a tree without branches needs only one of them. -/
def addStop : TextTree → TextTree
  | stop earlier => if earlier.isLeaf then stop earlier else stop (stop earlier)
  | tree => stop tree

/-- Add a text behind the others. -/
def add : List Nat → TextTree → TextTree
  | [], tree => tree.addStop
  | byte :: rest, tree => addBranch byte (add rest) tree
where
  /-- Change what follows a byte. -/
  addBranch (byte : Nat) (change : TextTree → TextTree) : TextTree → TextTree
    | branch first after others =>
        if byte = first then
          branch first (change after) others
        else
          branch first after (addBranch byte change others)
    | tree => branch byte (change leaf) tree

/-- The tree of some texts. -/
def ofTexts (texts : List (List Nat)) : TextTree :=
  texts.foldl (fun tree text => add text tree) leaf

/-- The state for a number of branches, if there are any. -/
def node (branches : Nat) : Building Unit :=
  match branches with
  | 0 => pure ()
  | 1 => Building.plain
  | _ => Building.switch branches

/--
The states of a tree.  Given is the number of branches since the last end of a
text, and the number of ways that lead on from what follows that end.
-/
def build (branches ways : Nat) : TextTree → Building Unit
  | leaf => do
      node branches
      Building.fork (ways + min branches 1)
  | branch _ after others => do
      if ! after.isLeaf then
        after.build 0 0
      others.build (branches + 1) ways
  | stop earlier => do
      node branches
      earlier.build 0 (ways + min branches 1 + 1)

end TextTree

end GcodeTemplate.Regex
