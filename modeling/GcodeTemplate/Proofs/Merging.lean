import GcodeTemplate.Session
import GcodeTemplate.Proofs.SettingEquality

/-!
# Taking over settings

A session takes the settings of a dictionary over that its process layer lacks, which are
those that have no equal there.  Afterwards it lacks only settings with an undefined double,
which nothing is equal to, and taking the same dictionary over again changes nothing.
-/

namespace GcodeTemplate

/-! ## Entries under increasing keys -/

namespace KeysIncrease

variable {key : String} {setting : Setting} {entry : String × Setting}
  {entries rest : List (String × Setting)}

theorem tail (increase : KeysIncrease (entry :: rest)) : KeysIncrease rest :=
  (List.pairwise_cons.1 increase).2

theorem head_lt
    (increase : KeysIncrease (entry :: rest))
    (later : (key, setting) ∈ rest) :
    entry.1 < key :=
  (List.pairwise_cons.1 increase).1 _ later

theorem head_not_mem (increase : KeysIncrease (entry :: rest)) : (entry.1, setting) ∉ rest :=
  fun later => String.lt_irrefl _ (increase.head_lt later)

/-- Under increasing keys a look-up finds every entry. -/
theorem lookup_eq_some_iff (increase : KeysIncrease entries) :
    entries.lookup key = some setting ↔ (key, setting) ∈ entries := by
  induction entries with
  | nil => simp
  | cons entry rest ih =>
      rw [Dictionary.lookup_entry, List.mem_cons, Prod.ext_iff]
      split
      next same =>
        simp [same, increase.head_not_mem, eq_comm]
      next different =>
        rw [ih increase.tail]
        simp [different]

/-- The keys of some of the entries are the keys of no others. -/
theorem filter_contains_keys
    (increase : KeysIncrease entries)
    (chosen : String × Setting → Bool) :
    entries.filter (((entries.filter chosen).map (·.1)).contains ·.1) =
      entries.filter chosen := by
  refine List.filter_congr fun entry member => ?_
  rw [Bool.eq_iff_iff, List.contains_iff_mem, List.mem_map]
  constructor
  · rintro ⟨other, otherChosen, sameKey⟩
    obtain ⟨otherMember, isChosen⟩ := List.mem_filter.1 otherChosen
    have found := increase.lookup_eq_some_iff.2 member
    have otherFound := increase.lookup_eq_some_iff.2 otherMember
    have sameSetting : other.2 = entry.2 :=
      Option.some.inj (otherFound.symm.trans (sameKey ▸ found))
    rwa [Prod.ext sameKey sameSetting] at isChosen
  · exact fun isChosen => ⟨entry, List.mem_filter.2 ⟨member, isChosen⟩, rfl⟩

/-- An entry that is there is put over itself. -/
theorem insertEntry_of_mem
    (increase : KeysIncrease entries)
    (member : (key, setting) ∈ entries) :
    Dictionary.insertEntry key setting entries = entries := by
  induction entries with
  | nil => nomatch member
  | cons entry rest ih =>
      rcases List.mem_cons.1 member with rfl | later
      · simp [Dictionary.insertEntry]
      · have above : entry.1 < key := increase.head_lt later
        have notBefore : ¬ key < entry.1 := String.lt_asymm above
        have different : key ≠ entry.1 := fun same => String.lt_irrefl _ (same ▸ above)
        simp [Dictionary.insertEntry, notBefore, different, ih increase.tail later]

end KeysIncrease

namespace Dictionary

variable (dictionary other : Dictionary)

theorem get?_eq_some_iff {key : String} {setting : Setting} :
    dictionary.get? key = some setting ↔ (key, setting) ∈ dictionary.entries :=
  dictionary.increasing.lookup_eq_some_iff

/-- After all entries of a list have been put in, those are found before what was there. -/
theorem get?_insertAll
    {settings : List (String × Setting)}
    (increase : KeysIncrease settings)
    (key : String) :
    (dictionary.insertAll settings).get? key =
      (settings.lookup key).or (dictionary.get? key) := by
  induction settings generalizing dictionary with
  | nil => rfl
  | cons entry rest ih =>
      have inserted := ih (dictionary.insert entry.1 entry.2) increase.tail
      rw [get?_insert] at inserted
      refine inserted.trans ?_
      rw [lookup_entry]
      split
      next same =>
        have absent : rest.lookup key = none :=
          Option.eq_none_iff_forall_ne_some.2 fun setting found =>
            increase.head_not_mem (same ▸ increase.tail.lookup_eq_some_iff.1 found)
        simp [absent]
      next => rfl

/-- A setting that is put over itself changes nothing. -/
theorem insert_of_get?
    {key : String}
    {setting : Setting}
    (found : dictionary.get? key = some setting) :
    dictionary.insert key setting = dictionary := by
  have member := (get?_eq_some_iff dictionary).1 found
  simp only [insert, dictionary.increasing.insertEntry_of_mem member]

/-- Putting in what is there changes nothing. -/
theorem insertAll_of_subset
    {settings : List (String × Setting)}
    (there : settings ⊆ dictionary.entries) :
    dictionary.insertAll settings = dictionary := by
  induction settings with
  | nil => rfl
  | cons entry rest ih =>
      obtain ⟨first, others⟩ := List.cons_subset.1 there
      have kept : dictionary.insert entry.1 entry.2 = dictionary :=
        dictionary.insert_of_get? ((get?_eq_some_iff dictionary).2 first)
      exact (congrArg (·.insertAll rest) kept).trans (ih others)

/-! ## What a dictionary lacks of another one -/

/-- The settings of another dictionary that have no equal under their keys. -/
def lacking : List (String × Setting) :=
  other.entries.filter fun entry => dictionary.get? entry.1 != some entry.2

theorem keysIncrease_lacking : KeysIncrease (dictionary.lacking other) :=
  other.increasing.filter _

theorem entries_filter_diff :
    other.entries.filter ((dictionary.diff other).contains ·.1) = dictionary.lacking other :=
  other.increasing.filter_contains_keys _

/-- The keys of the settings with an undefined double. -/
def undefinedKeys : List String :=
  (dictionary.entries.filter (! ·.2.isDefined)).map (·.1)

/-- A dictionary and what it lacks of another one. -/
def merged : Dictionary :=
  dictionary.insertAll (dictionary.lacking other)

variable {dictionary other} {key : String} {setting : Setting}

/-- A setting with an equal is defined. -/
theorem exists_equal_of_beq (equal : dictionary.get? key == some setting) :
    ∃ there, dictionary.get? key = some there ∧ there == setting ∧ setting.isDefined := by
  cases found : dictionary.get? key with
  | none => simp [found] at equal
  | some there =>
      have same : there == setting := by simpa [found] using equal
      exact ⟨there, rfl, same, Setting.equalWhereDefined.of_beq same⟩

/-- A setting without an equal is taken over. -/
theorem get?_merged_of_lacking
    (given : other.get? key = some setting)
    (unequal : (dictionary.get? key == some setting) = false) :
    (dictionary.merged other).get? key = some setting := by
  have lacked : (key, setting) ∈ dictionary.lacking other :=
    List.mem_filter.2 ⟨other.get?_eq_some_iff.1 given, by simp [bne, unequal]⟩
  have increase := dictionary.keysIncrease_lacking other
  rw [merged, get?_insertAll _ increase, increase.lookup_eq_some_iff.2 lacked, Option.some_or]

/-- What is not lacking stays as it is. -/
theorem get?_merged_of_not_lacking
    (kept : ∀ setting, other.get? key = some setting → dictionary.get? key == some setting) :
    (dictionary.merged other).get? key = dictionary.get? key := by
  have increase := dictionary.keysIncrease_lacking other
  have absent : (dictionary.lacking other).lookup key = none := by
    refine Option.eq_none_iff_forall_ne_some.2 fun setting found => ?_
    obtain ⟨member, unequal⟩ := List.mem_filter.1 (increase.lookup_eq_some_iff.1 found)
    have equal := kept setting (other.get?_eq_some_iff.2 member)
    simp [bne, equal] at unequal
  rw [merged, get?_insertAll _ increase, absent, Option.none_or]

/--
Under each key of the other dictionary there is its setting afterwards, or one that was there
before; and it is equal to that setting exactly if the setting is defined.
-/
theorem get?_merged_of_given
    (dictionary : Dictionary)
    (given : other.get? key = some setting) :
    ∃ there, (dictionary.merged other).get? key = some there ∧
      (there = setting ∨ dictionary.get? key = some there) ∧
      (there == setting) = setting.isDefined := by
  cases equal : dictionary.get? key == some setting with
  | false =>
      refine ⟨setting, get?_merged_of_lacking given equal, .inl rfl, ?_⟩
      exact Bool.eq_iff_iff.2
        ⟨Setting.equalWhereDefined.of_beq, Setting.equalWhereDefined.self⟩
  | true =>
      have kept : (dictionary.merged other).get? key = dictionary.get? key :=
        get?_merged_of_not_lacking fun another alsoGiven => by
          obtain rfl : setting = another := Option.some.inj (given.symm.trans alsoGiven)
          exact equal
      obtain ⟨there, found, same, defined⟩ := exists_equal_of_beq equal
      exact ⟨there, kept.trans found, .inr found, same.trans defined.symm⟩

variable (dictionary other)

/-- After a merge only what has no equal at all is lacking. -/
theorem lacking_merged :
    (dictionary.merged other).lacking other = other.entries.filter (! ·.2.isDefined) := by
  refine List.filter_congr fun entry member => ?_
  obtain ⟨there, found, -, equal⟩ :=
    get?_merged_of_given dictionary (other.get?_eq_some_iff.2 member)
  simp [bne, found, equal]

/-- What is lacking after a merge is there as it is, and only has no equal. -/
theorem lacking_merged_subset :
    (dictionary.merged other).lacking other ⊆ (dictionary.merged other).entries := by
  rintro ⟨key, setting⟩ lacked
  rw [lacking_merged] at lacked
  obtain ⟨member, isUndefined⟩ := List.mem_filter.1 lacked
  have unequal : (dictionary.get? key == some setting) = false := by
    refine Bool.eq_false_iff.2 fun equal => ?_
    obtain ⟨there, -, -, defined⟩ := exists_equal_of_beq equal
    simp [defined] at isUndefined
  exact (get?_eq_some_iff _).1
    (get?_merged_of_lacking (other.get?_eq_some_iff.2 member) unequal)

/-- Merging once more changes nothing. -/
theorem merged_merged : (dictionary.merged other).merged other = dictionary.merged other :=
  insertAll_of_subset _ (lacking_merged_subset dictionary other)

end Dictionary

/-! ## Sessions -/

namespace Session

variable (session : Session) (dictionary : Dictionary)

/-- To take settings over is to merge them into the process layer. -/
theorem apply_eq :
    session.apply dictionary =
      (! (session.diff dictionary).isEmpty, session.mapProcess (·.merged dictionary)) := by
  simp only [apply, diff, Dictionary.entries_filter_diff]
  rfl

theorem diff_apply :
    (session.apply dictionary).2.diff dictionary = dictionary.undefinedKeys := by
  rw [apply_eq]
  exact congrArg (List.map (·.1)) (Dictionary.lacking_merged _ _)

theorem apply_apply :
    (session.apply dictionary).2.apply dictionary =
      (! dictionary.undefinedKeys.isEmpty, (session.apply dictionary).2) := by
  rw [apply_eq (session.apply dictionary).2, diff_apply]
  simp only [apply_eq, mapProcess, Dictionary.merged_merged]

/--
A session tells that it took settings over exactly if it lacked any.  Afterwards there is a
setting under each key of the dictionary, its own or one that was there already, and nothing
else has changed.  That setting is equal to the one of the dictionary unless the latter has an
undefined double.  So only the keys of such settings still differ, and taking the dictionary
over again changes nothing, though it tells otherwise if there are such keys.
-/
theorem apply_complete_and_idempotent :
    ((session.apply dictionary).1 = true ↔ session.diff dictionary ≠ []) ∧
    (∀ key setting, dictionary.get? key = some setting →
      ∃ there, (session.apply dictionary).2.process.get? key = some there ∧
        (there = setting ∨ session.process.get? key = some there) ∧
        (there == setting) = setting.isDefined) ∧
    (∀ key, dictionary.get? key = none →
      (session.apply dictionary).2.process.get? key = session.process.get? key) ∧
    (session.apply dictionary).2.external = session.external ∧
    (session.apply dictionary).2.definitions = session.definitions ∧
    (session.apply dictionary).2.diff dictionary = dictionary.undefinedKeys ∧
    (session.apply dictionary).2.apply dictionary =
      (! dictionary.undefinedKeys.isEmpty, (session.apply dictionary).2) := by
  refine ⟨?told, ?given, ?others, rfl, rfl,
    session.diff_apply dictionary, session.apply_apply dictionary⟩
  case told => simp [apply]
  case given =>
    intro key setting given
    rw [apply_eq]
    exact Dictionary.get?_merged_of_given _ given
  case others =>
    intro key absent
    rw [apply_eq]
    exact Dictionary.get?_merged_of_not_lacking fun setting given =>
      nomatch absent.symm.trans given

/-- An undefined double is told to be a change each time that it is taken over. -/
theorem undefined_double_taken_over_each_time :
    let dictionary : Dictionary := .ofList [("x", .float (some (0 / 0)))]
    let after := (({} : Session).apply dictionary).2
    after.process.get? "x" = some (.float (some (0 / 0))) ∧
      after.diff dictionary = ["x"] ∧
      after.apply dictionary = (true, after) := by
  intro dictionary after
  have keys : dictionary.undefinedKeys = ["x"] := by decide
  refine ⟨?_, (diff_apply _ _).trans keys, ?_⟩
  · rfl
  · exact (apply_apply _ _).trans (by rw [keys]; rfl)

end Session

end GcodeTemplate
