import Launcher.Options
import Mathlib.Data.List.Induction

/-! What setting and erasing do to the keys of a store, to their order and to their values. -/

namespace Launcher.Options

/-- Gives keys their values in turn. -/
def setAll (start : Options) (pairs : List (String × String)) : Options :=
  pairs.foldl (fun options pair => options.set pair.1 pair.2) start

/-- The value that a key is given last. -/
def lastGiven? (pairs : List (String × String)) (key : String) : Option String :=
  pairs.reverse.lookup key

/-- Looking up stops at the first entry with the key. -/
theorem lookup_cons_eq {β : Type} (entry : String × β) (rest : List (String × β)) (key : String) :
    (entry :: rest).lookup key = if key = entry.1 then some entry.2 else rest.lookup key := by
  -- The library's lemma decides by `==`; the cases are those of equality.
  rw [List.lookup_cons]
  by_cases same : key = entry.1
  · simp [same]
  · rw [beq_false_of_ne same, if_neg same]

/-- Looking a key up finds nothing exactly if no entry has it. -/
theorem lookup_eq_none_iff_not_mem {β : Type} {entries : List (String × β)} {key : String} :
    entries.lookup key = none ↔ key ∉ entries.map Prod.fst := by
  -- Both say that the key of each entry differs, one from either side.
  simp only [List.lookup_eq_none_iff, List.mem_map, bne_iff_ne, ne_eq, not_exists, not_and]
  exact ⟨fun other pair member same => other pair member same.symm,
    fun other pair member same => other pair member same.symm⟩

/-- In a row of entries without a repeated key, looking up finds the entry of a key. -/
theorem lookup_of_mem {β : Type} {entries : List (String × β)}
    (distinct : (entries.map Prod.fst).Nodup) {entry : String × β} (member : entry ∈ entries) :
    entries.lookup entry.1 = some entry.2 := by
  induction entries with
  | nil => simp at member
  | cons head rest ih =>
    rw [List.map_cons, List.nodup_cons] at distinct
    rcases List.mem_cons.mp member with same | later
    · subst same
      exact List.lookup_cons_self
    · -- A later entry has another key than the first one, so the first one is passed over.
      have different : entry.1 ≠ head.1 := by
        intro same
        exact distinct.1 (same ▸ List.mem_map_of_mem later)
      rw [lookup_cons_eq, if_neg different]
      exact ih distinct.2 later

/-- Among entries without a repeated key, those of a key hold the value that is looked up, and no
other. -/
theorem values_of_distinct {entries : List (String × String)}
    (distinct : (entries.map Prod.fst).Nodup) (key : String) :
    (entries.filter fun entry => entry.1 = key).map Prod.snd = (entries.lookup key).toList := by
  induction entries with
  | nil => rfl
  | cons head rest ih =>
    rw [List.map_cons, List.nodup_cons] at distinct
    by_cases same : head.1 = key
    · -- No later entry has the key of the first one.
      have none : rest.filter (fun entry => entry.1 = key) = [] := by
        refine List.filter_eq_nil_iff.mpr fun entry member hasKey => distinct.1 ?_
        rw [same, ← of_decide_eq_true hasKey]
        exact List.mem_map_of_mem member
      rw [List.filter_cons_of_pos (by simpa using same), none, lookup_cons_eq, if_pos same.symm]
      rfl
    · -- The first entry counts on neither side.
      rw [List.filter_cons_of_neg (by simpa using same), lookup_cons_eq,
        if_neg fun equal => same equal.symm]
      exact ih distinct.2

/-- The value of a key is the one beside it in its entry. -/
theorem get?_of_mem {options : Options} {entry : String × String}
    (member : entry ∈ options.entries) : options.get? entry.1 = some entry.2 :=
  lookup_of_mem options.distinct member

/-- A store is its keys in order, each beside its value. -/
theorem entries_eq_map (options : Options) :
    options.entries = options.keys.map fun key => (key, (options.get? key).getD "") := by
  rw [keys, List.map_map]
  -- Only the left side is to be read as a map, the one that changes nothing.
  conv => lhs; rw [← List.map_id options.entries]
  refine List.map_congr_left fun entry member => ?_
  simp [get?_of_mem member]

/-- In a list without repetition there is nothing to drop. -/
theorem eraseDups_of_nodup {keys : List String} (distinct : keys.Nodup) :
    keys.eraseDups = keys := by
  induction keys with
  | nil => rfl
  | cons key rest ih =>
    rw [List.nodup_cons] at distinct
    -- The first key is none of the later ones, so dropping its repetitions drops nothing.
    have kept : (rest.filter fun other => !other == key) = rest := by
      refine List.filter_eq_self.mpr fun other member => ?_
      have different : other ≠ key := fun same => distinct.1 (same ▸ member)
      simpa using different
    rw [List.eraseDups_cons, kept, ih distinct.2]

/-- A new key joins at the end, and a known one keeps its place. -/
theorem keys_set (options : Options) (key value : String) :
    (options.set key value).keys =
      if key ∈ options.keys then options.keys else options.keys ++ [key] :=
  keys_setEntries options.entries key value

/-- Setting a key gives it the value and leaves every other key as it was. -/
theorem get?_set (options : Options) (key value other : String) :
    (options.set key value).get? other =
      if other = key then some value else options.get? other := by
  -- The overwritten slot, or the one at the end, is the only one that differs.
  have general : ∀ entries : List (String × String),
      (setEntries entries key value).lookup other =
        if other = key then some value else entries.lookup other := by
    intro entries
    induction entries with
    | nil => simp [setEntries]
    | cons entry rest ih =>
      by_cases same : entry.1 = key
      · -- The entry is overwritten in place, and the later ones stay.
        rw [setEntries, if_pos same, lookup_cons_eq, lookup_cons_eq, same]
        by_cases wanted : other = key <;> simp [wanted]
      · -- The entry stays, and the key is set among the later ones.
        rw [setEntries, if_neg same, lookup_cons_eq, lookup_cons_eq, ih]
        by_cases wanted : other = key
        · have passed : key ≠ entry.1 := fun found => same found.symm
          simp [wanted, passed]
        · simp [wanted]
  exact general options.entries

/-- Setting one more pair sets it in what the pairs before it left. -/
theorem setAll_append_singleton (start : Options) (pairs : List (String × String))
    (pair : String × String) :
    start.setAll (pairs ++ [pair]) = (start.setAll pairs).set pair.1 pair.2 := by
  -- Pairs are set from the left, so the last pair is set last.
  simp [setAll]

/-- Setting a key leaves no entry but the new one and those that were there. -/
theorem eq_or_mem_of_mem_setEntries {entries : List (String × String)} {key value : String}
    {entry : String × String} (member : entry ∈ setEntries entries key value) :
    entry = (key, value) ∨ entry ∈ entries := by
  -- The key is set at the first entry that has it, or behind the last one.
  induction entries with
  | nil => exact .inl (by simpa [setEntries] using member)
  | cons head rest ih =>
    rw [setEntries] at member
    split at member
    · -- The new entry stands in the place of the one that had its key.
      exact (List.mem_cons.mp member).imp_right fun later => by simp [later]
    · rcases List.mem_cons.mp member with same | later
      · simp [same]
      · exact (ih later).imp_right fun known => by simp [known]

/-- Setting in turn leaves no entry but those of the start and of the pairs. -/
theorem mem_of_mem_setAll {start : Options} {pairs : List (String × String)}
    {entry : String × String} (member : entry ∈ (start.setAll pairs).entries) :
    entry ∈ start.entries ∨ entry ∈ pairs := by
  induction pairs using List.reverseRecOn with
  | nil => exact .inl member
  | append_singleton pairs pair ih =>
    rw [setAll_append_singleton] at member
    -- The last pair adds itself to what the pairs before it left.
    rcases eq_or_mem_of_mem_setEntries member with rfl | earlier
    · exact .inr (by simp)
    · exact (ih earlier).imp_right fun known => by simp [known]

/-- Setting in turn keeps the keys there were and adds the others as they first appear. -/
theorem keys_setAll (start : Options) (pairs : List (String × String)) :
    (start.setAll pairs).keys = (start.keys ++ pairs.map Prod.fst).eraseDups := by
  -- The last pair only adds its key if neither the start nor an earlier pair has it.
  induction pairs using List.reverseRecOn with
  | nil => simp [setAll, eraseDups_of_nodup start.distinct, keys]
  | append_singleton pairs pair ih =>
    have split : (start.keys ++ pairs.map Prod.fst ++ [pair.1]).eraseDups = _ :=
      List.eraseDups_append
    -- The keys up to the last pair are those that the induction knows.
    rw [setAll_append_singleton, keys_set, ih, List.map_append, ← List.append_assoc]
    rw [List.map_singleton, split]
    by_cases known : pair.1 ∈ start.keys ++ pairs.map Prod.fst
    · simp [known, List.mem_eraseDups, List.removeAll]
    · simp [known, List.mem_eraseDups, List.removeAll, List.eraseDups_cons]

/-- The pair at the end decides about its own key. -/
theorem lastGiven?_append_singleton (pairs : List (String × String)) (pair : String × String)
    (key : String) :
    lastGiven? (pairs ++ [pair]) key =
      if key = pair.1 then some pair.2 else lastGiven? pairs key := by
  -- The search starts from the end, where the new pair stands.
  rw [lastGiven?, List.reverse_append, List.reverse_singleton, List.singleton_append,
    lookup_cons_eq, lastGiven?]

/-- A key is given no value exactly if no pair has it. -/
theorem lastGiven?_eq_none_iff {pairs : List (String × String)} {key : String} :
    lastGiven? pairs key = none ↔ key ∉ pairs.map Prod.fst := by
  -- The order of the pairs does not matter for whether one has the key.
  rw [lastGiven?, lookup_eq_none_iff_not_mem, List.map_reverse, List.mem_reverse]

/-- A key that a pair names has a last value. -/
theorem exists_lastGiven? {pairs : List (String × String)} {key : String}
    (named : key ∈ pairs.map Prod.fst) : ∃ value, lastGiven? pairs key = some value := by
  -- A key that no search finds is named by no pair.
  refine Option.ne_none_iff_exists'.mp fun missing => ?_
  exact lastGiven?_eq_none_iff.mp missing named

/-- A key has the value that it is given last, or else the one that it had. -/
theorem get?_setAll (start : Options) (pairs : List (String × String)) (key : String) :
    (start.setAll pairs).get? key = (lastGiven? pairs key).or (start.get? key) := by
  -- Both sides ask the pair at the end first.
  induction pairs using List.reverseRecOn with
  | nil => simp [setAll, lastGiven?]
  | append_singleton pairs pair ih =>
    rw [setAll_append_singleton, get?_set, lastGiven?_append_singleton, ih]
    by_cases same : key = pair.1 <;> simp [same]

/-- Erasing drops one key and keeps the order of the others. -/
theorem keys_erase (options : Options) (key : String) :
    (options.erase key).keys = options.keys.filter (· ≠ key) := by
  -- Keeping entries by their keys keeps just these keys.
  simp [keys, erase, List.filter_map, Function.comp_def]

/-- Erasing takes the value of one key and leaves every other key as it was. -/
theorem get?_erase (options : Options) (key other : String) :
    (options.erase key).get? other = if other = key then none else options.get? other := by
  have general : ∀ entries : List (String × String),
      (entries.filter fun entry => entry.1 ≠ key).lookup other =
        if other = key then none else entries.lookup other := by
    intro entries
    induction entries with
    | nil => simp
    | cons entry rest ih =>
      by_cases dropped : entry.1 = key
      · -- An erased entry could only have answered for the erased key.
        rw [List.filter_cons_of_neg (by simpa using dropped), ih, lookup_cons_eq, dropped]
        by_cases wanted : other = key <;> simp [wanted]
      · -- An entry that is kept answers for its own key, which is not the erased one.
        rw [List.filter_cons_of_pos (by simpa using dropped), lookup_cons_eq, lookup_cons_eq, ih]
        by_cases wanted : other = key
        · have passed : key ≠ entry.1 := fun found => dropped found.symm
          simp [wanted, passed]
        · simp [wanted]
  exact general options.entries

end Launcher.Options
