import GcodeTemplate.Setting

/-!
# Dictionaries of settings

A dictionary holds settings under their keys, in the order of the keys.  The
order is part of the type, so that two dictionaries which answer every look-up
alike are equal.
-/

namespace GcodeTemplate

/-- The keys of a list of entries increase. -/
def KeysIncrease (entries : List (String × Setting)) : Prop :=
  entries.Pairwise fun first second => first.1 < second.1

/-- Settings under increasing keys. -/
structure Dictionary where
  entries : List (String × Setting)
  increasing : KeysIncrease entries

namespace Dictionary

/-- Put a setting into its place among entries, over one of the same key. -/
def insertEntry
    (key : String)
    (setting : Setting) :
    List (String × Setting) → List (String × Setting)
  | [] => [(key, setting)]
  | entry :: rest =>
      if key < entry.1 then
        (key, setting) :: entry :: rest
      else if key = entry.1 then
        (key, setting) :: rest
      else
        entry :: insertEntry key setting rest

/-- After an insertion the entries are the old ones and the new one. -/
theorem mem_insertEntry
    {key : String}
    {setting : Setting}
    {entries : List (String × Setting)}
    {entry : String × Setting}
    (h : entry ∈ insertEntry key setting entries) :
    entry = (key, setting) ∨ entry ∈ entries := by
  induction entries with
  | nil => simpa [insertEntry] using h
  | cons head rest ih =>
      unfold insertEntry at h
      split at h
      · simpa using h
      · split at h
        · rcases List.mem_cons.1 h with h | h
          · exact .inl h
          · exact .inr (List.mem_cons_of_mem _ h)
        · rcases List.mem_cons.1 h with h | h
          · exact .inr (h ▸ List.mem_cons_self)
          · exact (ih h).imp_right (List.mem_cons_of_mem _)

/-- An insertion keeps the keys in order. -/
theorem keysIncrease_insertEntry
    {key : String}
    {setting : Setting}
    {entries : List (String × Setting)}
    (h : KeysIncrease entries) :
    KeysIncrease (insertEntry key setting entries) := by
  induction entries with
  | nil => simp [insertEntry, KeysIncrease]
  | cons head rest ih =>
      have ⟨below, restIncreases⟩ := List.pairwise_cons.1 h
      unfold insertEntry
      split
      next before =>
        refine List.pairwise_cons.2 ⟨fun entry member => ?_, h⟩
        rcases List.mem_cons.1 member with rfl | member
        · exact before
        · exact String.lt_trans before (below entry member)
      next notBefore =>
        split
        next same =>
          exact List.pairwise_cons.2
            ⟨fun entry member => same ▸ below entry member, restIncreases⟩
        next different =>
          refine List.pairwise_cons.2
            ⟨fun entry member => ?_, ih restIncreases⟩
          rcases mem_insertEntry member with rfl | member
          · exact String.not_le.1 fun le =>
              different (String.le_antisymm le (String.not_lt.1 notBefore))
          · exact below entry member

/-- The first entry of a key is what a look-up finds. -/
theorem lookup_entry
    (entry : String × Setting)
    (rest : List (String × Setting))
    (key : String) :
    (entry :: rest).lookup key =
      if key = entry.1 then some entry.2 else rest.lookup key := by
  obtain ⟨first, setting⟩ := entry
  by_cases equal : key = first
  · simp [equal]
  · have unequal : (key == first) = false :=
      beq_false_of_ne equal
    simp [List.lookup_cons, equal, unequal]

/-- After an insertion a key has the new setting, and every other key what it had. -/
theorem lookup_insertEntry
    (key other : String)
    (setting : Setting)
    (entries : List (String × Setting)) :
    (insertEntry key setting entries).lookup other =
      if other = key then some setting else entries.lookup other := by
  induction entries with
  | nil =>
      simp only [insertEntry, lookup_entry]
  | cons entry rest ih =>
      unfold insertEntry
      split
      next =>
        rw [lookup_entry]
      next =>
        split
        next same =>
          subst same
          simp only [lookup_entry]
          split <;> rfl
        next different =>
          rw [lookup_entry, lookup_entry, ih]
          by_cases inserted : other = key
          · subst inserted
            simp [different]
          · simp [inserted]

/-- The dictionary without settings. -/
def empty : Dictionary :=
  ⟨[], .nil⟩

instance : EmptyCollection Dictionary :=
  ⟨empty⟩

instance : Inhabited Dictionary :=
  ⟨empty⟩

/-- The setting under a key. -/
def get? (dictionary : Dictionary) (key : String) : Option Setting :=
  dictionary.entries.lookup key

/-- Whether there is a setting under a key. -/
def contains (dictionary : Dictionary) (key : String) : Bool :=
  (dictionary.get? key).isSome

/-- Put a setting under a key, in place of one that is there. -/
def insert
    (dictionary : Dictionary)
    (key : String)
    (setting : Setting) :
    Dictionary :=
  ⟨insertEntry key setting dictionary.entries,
    keysIncrease_insertEntry dictionary.increasing⟩

@[simp]
theorem get?_insert
    (dictionary : Dictionary)
    (key other : String)
    (setting : Setting) :
    (dictionary.insert key setting).get? other =
      if other = key then some setting else dictionary.get? other :=
  lookup_insertEntry key other setting dictionary.entries

/-- Put a setting under a key that is there already. -/
def replace?
    (dictionary : Dictionary)
    (key : String)
    (setting : Setting) :
    Option Dictionary :=
  if dictionary.contains key then some (dictionary.insert key setting) else none

/-- Take the setting under a key away. -/
def erase (dictionary : Dictionary) (key : String) : Dictionary :=
  ⟨dictionary.entries.filter (·.1 != key), dictionary.increasing.filter _⟩

/-- The keys in increasing order. -/
def keys (dictionary : Dictionary) : List String :=
  dictionary.entries.map (·.1)

/-- The number of settings. -/
def size (dictionary : Dictionary) : Nat :=
  dictionary.entries.length

/-- Whether there are no settings. -/
def isEmpty (dictionary : Dictionary) : Bool :=
  dictionary.entries.isEmpty

/-- Put the settings of a list under their keys, one after the other. -/
def insertAll (dictionary : Dictionary) (settings : List (String × Setting)) : Dictionary :=
  settings.foldl (fun result entry => result.insert entry.1 entry.2) dictionary

/-- The settings under the keys of a list, later ones over earlier ones. -/
def ofList (settings : List (String × Setting)) : Dictionary :=
  empty.insertAll settings

/-- Put every setting of `other` into a dictionary, over those of the same key. -/
def apply (dictionary other : Dictionary) : Dictionary :=
  dictionary.insertAll other.entries

/-- The keys under which `other` has a setting that is missing or not equal here. -/
def diff (dictionary other : Dictionary) : List String :=
  (other.entries.filter fun entry =>
    dictionary.get? entry.1 != some entry.2).map (·.1)

end Dictionary

end GcodeTemplate
