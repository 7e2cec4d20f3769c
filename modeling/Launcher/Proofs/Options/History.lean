import Launcher.Proofs.Options.Lookup
import Mathlib.Data.List.Dedup
import Mathlib.Data.List.DropRight

/-! A store as its history tells it: which keys it has, their values and their order follow from
the changes that were made to it, in order. -/

namespace Launcher.Options

/-- A change to a store. -/
inductive Change where
  /-- A key is given a value. -/
  | set (key value : String)
  /-- A key is taken out. -/
  | remove (key : String)
  deriving DecidableEq, Repr

namespace Change

/-- The key that a change is about. -/
def key : Change → String
  | .set key _ | .remove key => key

/-- The value that a change leaves to its key. -/
def value? : Change → Option String
  | .set _ value => some value
  | .remove _ => none

end Change

/-- The store after a change. -/
def change (options : Options) : Change → Options
  | .set key value => options.set key value
  | .remove key => (options.remove key).2

/-- The store after changes in turn. -/
def after (options : Options) (changes : List Change) : Options := changes.foldl change options

/-- The changes that seed a store: its keys are set in order. -/
def seeds (options : Options) : List Change :=
  options.entries.map fun entry => .set entry.1 entry.2

/-- The changes that were made to a store that started out empty, in order. -/
abbrev History := List Change

namespace History

/-- The last change about a key. -/
def last? (history : History) (key : String) : Option Change :=
  history.reverse.find? fun change => change.key = key

/-- The value of a key: the last one that it was given, unless it was taken out behind that. -/
def valueOf? (history : History) (key : String) : Option String :=
  (history.last? key).bind Change.value?

/-- The changes since a key was last taken out, or all of them if it never was. -/
def sinceRemoval (history : History) (key : String) : History :=
  List.rtakeWhile (fun change => change ≠ .remove key) history

/-- When a key was inserted: how many changes came before the first one that set it since it was
last taken out. -/
def insertedAt (history : History) (key : String) : Nat :=
  history.length - (history.sinceRemoval key).length +
    (history.sinceRemoval key).findIdx fun change => change.key = key

/-- The keys that the history leaves, each once. -/
def present (history : History) : List String :=
  (history.map Change.key).dedup.filter fun key => (history.valueOf? key).isSome

/-- Two histories leave the same keys with the same values, inserted in the same order. -/
structure Agree (history other : History) : Prop where
  /-- The values are the same, and so are the keys that have one. -/
  values : ∀ key, history.valueOf? key = other.valueOf? key
  /-- What was inserted first is the same. -/
  order : ∀ one ∈ history.present, ∀ next ∈ history.present,
    (history.insertedAt one < history.insertedAt next ↔
      other.insertedAt one < other.insertedAt next)

/-- The last change decides about its own key and about no other. -/
theorem last?_append_singleton (history : History) (change : Change) (key : String) :
    last? (history ++ [change]) key =
      if change.key = key then some change else history.last? key := by
  -- The search starts from the end, where the new change stands.
  by_cases same : change.key = key <;> simp [last?, same]

/-- The value of a key is what the last change leaves to it, if that is about the key. -/
theorem valueOf?_append_singleton (history : History) (change : Change) (key : String) :
    valueOf? (history ++ [change]) key =
      if change.key = key then change.value? else history.valueOf? key := by
  -- A later change of the key hides everything before it.
  rw [valueOf?, last?_append_singleton]
  split <;> rfl

/-- The value of a key is what the last of the later changes about it leaves to it; without such a
change it is the one from before. -/
theorem valueOf?_append (earlier later : History) (key : String) :
    valueOf? (earlier ++ later) key =
      match later.last? key with
      | some change => change.value?
      | none => earlier.valueOf? key := by
  -- Searched from the end, the later changes come first.
  rw [valueOf?, last?, List.reverse_append, List.find?_append, ← last?, ← last?]
  cases later.last? key <;> rfl

/-- A key has a value exactly if it was set since it was last taken out. -/
theorem isSome_valueOf?_iff {history : History} {key : String} :
    (history.valueOf? key).isSome ↔ ∃ change ∈ history.sinceRemoval key, change.key = key := by
  induction history using List.reverseRecOn with
  | nil => simp [valueOf?, last?, sinceRemoval]
  | append_singleton history change ih =>
    rw [valueOf?_append_singleton, sinceRemoval, List.rtakeWhile_concat, ← sinceRemoval]
    cases change with
    | set other value =>
      -- A key that is set is there from then on, and any other one is there if it was before.
      by_cases same : other = key
      · simp [Change.key, Change.value?, same]
      · simp [Change.key, same, ih]
    | remove other =>
      -- A key that was just taken out is not there, and no change came since.
      by_cases same : other = key
      · simp [Change.key, Change.value?, same]
      · simp [Change.key, same, ih]

/-- The changes since a key was last taken out are among all changes. -/
theorem length_sinceRemoval_le (history : History) (key : String) :
    (history.sinceRemoval key).length ≤ history.length :=
  (List.rtakeWhile_suffix _ history).length_le

/-- A key that is there was set by one of the changes since it was last taken out. -/
theorem findIdx_lt {history : History} {key : String} (there : (history.valueOf? key).isSome) :
    (history.sinceRemoval key).findIdx (fun change => change.key = key) <
      (history.sinceRemoval key).length := by
  -- A key with a value was set since it was last removed, so the search ends inside the list.
  obtain ⟨change, member, same⟩ := isSome_valueOf?_iff.mp there
  exact List.findIdx_lt_length.mpr ⟨change, member, by simpa using same⟩

/-- A key that is there was inserted by one of the changes so far. -/
theorem insertedAt_lt {history : History} {key : String}
    (there : (history.valueOf? key).isSome) : history.insertedAt key < history.length := by
  -- The place is counted from where the part since the last removal begins, and lies inside it.
  have within := findIdx_lt there
  have shorter := length_sinceRemoval_le history key
  rw [insertedAt]
  omega

/-- Unless it is taken out, a key that is there stays inserted where it was. -/
theorem insertedAt_append_of_present {history : History} {key : String}
    (there : (history.valueOf? key).isSome) {change : Change} (stays : change ≠ .remove key) :
    insertedAt (history ++ [change]) key = history.insertedAt key := by
  -- The part of the history since the last removal grows at its end, and the key is found before
  -- that end. Both lengths grow by one, so the place is the same.
  have longer : sinceRemoval (history ++ [change]) key = history.sinceRemoval key ++ [change] :=
    List.rtakeWhile_concat_pos _ _ _ (by simpa using stays)
  have within := findIdx_lt there
  have shorter := length_sinceRemoval_le history key
  rw [insertedAt, longer, List.findIdx_append, if_pos within, insertedAt]
  simp only [List.length_append, List.length_singleton]
  omega

/-- A key that is not there is inserted by the change that sets it. -/
theorem insertedAt_append_set_of_absent {history : History} {key : String}
    (absent : history.valueOf? key = none) (value : String) :
    insertedAt (history ++ [.set key value]) key = history.length := by
  have longer : sinceRemoval (history ++ [.set key value]) key =
      history.sinceRemoval key ++ [.set key value] :=
    List.rtakeWhile_concat_pos _ _ _ (by simp)
  -- No earlier change since the key was last taken out is about it.
  have passed : (history.sinceRemoval key).findIdx (fun change => change.key = key) =
      (history.sinceRemoval key).length := by
    refine List.findIdx_eq_length.mpr fun change member => ?_
    have other : change.key ≠ key := fun same => by
      have there := isSome_valueOf?_iff.mpr ⟨change, member, same⟩
      simp [absent] at there
    simpa using other
  have shorter := length_sinceRemoval_le history key
  -- So the first change about the key is the new one, which stands behind all others.
  rw [insertedAt, longer, List.findIdx_append, passed, if_neg (Nat.lt_irrefl _)]
  simp [List.findIdx_cons, Change.key]
  omega

/-- Keys that are there and stay so are inserted in the same order after one more change. -/
theorem pairwise_insertedAt_append {history : History} {last : Change} {keys : List String}
    (inOrder : keys.Pairwise fun one next => history.insertedAt one < history.insertedAt next)
    (stay : ∀ key ∈ keys, (history.valueOf? key).isSome ∧ last ≠ .remove key) :
    keys.Pairwise fun one next =>
      insertedAt (history ++ [last]) one < insertedAt (history ++ [last]) next := by
  -- No key that stays moves, so the order is the one that was there before.
  have same : ∀ key ∈ keys, insertedAt (history ++ [last]) key = history.insertedAt key :=
    fun key member => insertedAt_append_of_present (stay key member).1 (stay key member).2
  refine inOrder.imp_of_mem fun {one next} first second before => ?_
  rw [same one first, same next second]
  exact before

end History

/-- In a row of entries without a repeated key, taking a key out gives what looking it up finds,
and leaves the entries of the other keys. -/
theorem removeEntry_eq {entries : List (String × String)}
    (distinct : (entries.map Prod.fst).Nodup) (key : String) :
    removeEntry entries key =
      (entries.lookup key, entries.filter fun entry => entry.1 ≠ key) := by
  induction entries with
  | nil => rfl
  | cons head rest ih =>
    rw [List.map_cons, List.nodup_cons] at distinct
    by_cases same : head.1 = key
    · -- No later entry has the key, so none of them is dropped.
      have kept : (rest.filter fun entry => entry.1 ≠ key) = rest := by
        refine List.filter_eq_self.mpr fun entry member => ?_
        have different : entry.1 ≠ key := by
          intro equal
          exact distinct.1 (same ▸ equal ▸ List.mem_map_of_mem member)
        simpa using different
      rw [removeEntry, if_pos same, lookup_cons_eq, if_pos same.symm,
        List.filter_cons_of_neg (by simpa using same), kept]
    · -- An entry with another key stays, and the search goes on behind it.
      rw [removeEntry, if_neg same, ih distinct.2, lookup_cons_eq,
        if_neg fun equal => same equal.symm, List.filter_cons_of_pos (by simpa using same)]

/-- Taking a key out gives the value that it had, and erases it. -/
theorem remove_eq (options : Options) (key : String) :
    options.remove key = (options.get? key, options.erase key) := by
  -- As no two entries have the same key, removing the first entry of a key removes all of them.
  have taken := removeEntry_eq options.distinct key
  have value : (options.remove key).1 = options.get? key := congrArg Prod.fst taken
  have left : (options.remove key).2 = options.erase key := ext_entries (congrArg Prod.snd taken)
  exact Prod.ext value left

/-- One more change changes what the changes before it left. -/
theorem after_append_singleton (start : Options) (changes : List Change) (last : Change) :
    start.after (changes ++ [last]) = (start.after changes).change last := by
  -- Changes are made from the left, so the last of them is made to what the others left.
  simp [after]

/-- Later changes start from what the earlier ones left. -/
theorem after_append (start : Options) (changes later : List Change) :
    start.after (changes ++ later) = (start.after changes).after later := by
  -- The later changes start from the store that the earlier ones left.
  simp [after]

/-- A new key joins at the end. -/
theorem setEntries_of_fresh {entries : List (String × String)} {key : String}
    (fresh : key ∉ entries.map Prod.fst) (value : String) :
    setEntries entries key value = entries ++ [(key, value)] := by
  -- No entry has the key, so the search for one reaches the end, where the new entry is put.
  induction entries with
  | nil => rfl
  | cons entry rest ih =>
    rw [List.map_cons, List.mem_cons, not_or] at fresh
    rw [setEntries, if_neg fun same => fresh.1 same.symm, ih fresh.2, List.cons_append]

/-- Setting new keys in order adds their entries in this order. -/
theorem entries_after_seeds (pairs : List (String × String)) {start : Options}
    (fresh : (start.keys ++ pairs.map Prod.fst).Nodup) :
    (start.after (pairs.map fun pair => .set pair.1 pair.2)).entries = start.entries ++ pairs := by
  induction pairs generalizing start with
  | nil => simp [after]
  | cons pair rest ih =>
    -- The key of the first pair is new, so that its entry joins at the end.
    have new : pair.1 ∉ start.keys := by
      intro known
      exact (List.nodup_append.mp fresh).2.2 _ known _ (by simp) rfl
    have first : (start.set pair.1 pair.2).entries = start.entries ++ [pair] :=
      setEntries_of_fresh new pair.2
    -- The other keys are as new behind the first pair as they were before it.
    have further : ((start.set pair.1 pair.2).keys ++ rest.map Prod.fst).Nodup := by
      rw [keys_set, if_neg new]
      simpa using fresh
    have later := ih further
    rw [first] at later
    simpa [after, change] using later

/-- A store is what its seeds make of the empty one. -/
theorem after_seeds (options : Options) : empty.after options.seeds = options :=
  ext_entries (entries_after_seeds options.entries options.distinct)

/-- A key is in a store exactly if it has a value there. -/
theorem mem_keys_iff {options : Options} {key : String} :
    key ∈ options.keys ↔ (options.get? key).isSome := by
  -- A key without entry is just what looking it up finds nothing for.
  rw [Option.isSome_iff_ne_none, ne_eq, get?, lookup_eq_none_iff_not_mem, not_not, keys]

/-- Two stores are equal exactly if they have the same keys in the same order, with the same
values. -/
theorem eq_iff_keys_and_values {one other : Options} :
    one = other ↔ one.keys = other.keys ∧ ∀ key, one.get? key = other.get? key := by
  constructor
  · rintro rfl
    exact ⟨rfl, fun key => rfl⟩
  · -- The entries are the keys with their values, in the order of the keys.
    rintro ⟨keys, values⟩
    apply ext_entries
    rw [entries_eq_map one, entries_eq_map other, keys]
    simp only [values]

/-- The history tells the value of each key. -/
theorem get?_after (history : History) (key : String) :
    (empty.after history).get? key = history.valueOf? key := by
  induction history using List.reverseRecOn with
  | nil => rfl
  | append_singleton history last ih =>
    rw [after_append_singleton, History.valueOf?_append_singleton, ← ih]
    -- Either change concerns its own key alone.
    cases last with
    | set other value =>
      rw [change, get?_set]
      simp only [Change.key, Change.value?, eq_comm]
    | remove other =>
      rw [change, remove_eq, get?_erase]
      simp only [Change.key, Change.value?, eq_comm]

/-- The history tells which keys are there. -/
theorem mem_keys_after_iff {history : History} {key : String} :
    key ∈ (empty.after history).keys ↔ (history.valueOf? key).isSome := by
  -- A key is there if it has a value, and its value is the one of the history.
  rw [mem_keys_iff, get?_after]

/-- The keys stand in the order in which the history inserted them. -/
theorem pairwise_keys_after (history : History) :
    (empty.after history).keys.Pairwise fun one next =>
      history.insertedAt one < history.insertedAt next := by
  induction history using List.reverseRecOn with
  | nil => exact .nil
  | append_singleton history last ih =>
    -- Whatever key stays was there before.
    have kept : ∀ keys : List String, keys.Sublist (empty.after history).keys →
        (∀ key ∈ keys, last ≠ .remove key) → keys.Pairwise fun one next =>
          History.insertedAt (history ++ [last]) one <
            History.insertedAt (history ++ [last]) next :=
      fun keys among stay => History.pairwise_insertedAt_append (ih.sublist among) fun key member =>
        ⟨mem_keys_after_iff.mp (among.subset member), stay key member⟩
    rw [after_append_singleton]
    cases last with
    | set key value =>
      rw [change, keys_set]
      split
      · -- A known key keeps its place.
        exact kept _ (.refl _) fun other _ => by simp
      · -- A new key is inserted behind all others.
        rename_i fresh
        have absent : History.valueOf? history key = none := by
          simpa [mem_keys_after_iff] using fresh
        refine List.pairwise_append.mpr ⟨kept _ (.refl _) fun other _ => by simp, by simp, ?_⟩
        intro earlier member new isNew
        obtain rfl := List.mem_singleton.mp isNew
        have there := mem_keys_after_iff.mp member
        rw [History.insertedAt_append_set_of_absent absent,
          History.insertedAt_append_of_present there (by simp)]
        exact History.insertedAt_lt there
    | remove key =>
      rw [change, remove_eq, keys_erase]
      refine kept _ List.filter_sublist fun other member => ?_
      have different : other ≠ key := by simpa using (List.mem_filter.mp member).2
      simpa using different.symm

namespace History

/-- A key is among those that the history leaves exactly if it has a value. -/
theorem mem_present_iff {history : History} {key : String} :
    key ∈ history.present ↔ (history.valueOf? key).isSome := by
  rw [present, List.mem_filter, List.mem_dedup]
  refine ⟨And.right, fun there => ⟨?_, there⟩⟩
  -- A key with a value was set by one of the changes.
  obtain ⟨change, member, same⟩ := isSome_valueOf?_iff.mp there
  exact List.mem_map.mpr ⟨change, (List.rtakeWhile_suffix _ _).subset member, same⟩

/-- The keys that the history leaves are those of the store. -/
theorem perm_present (history : History) : (empty.after history).keys.Perm history.present := by
  -- Two lists without repetition and with the same members are rearrangements of each other.
  have once : history.present.Nodup := (List.nodup_dedup _).filter _
  refine (List.perm_ext_iff_of_nodup (empty.after history).distinct once).mpr fun key => ?_
  exact mem_keys_after_iff.trans mem_present_iff.symm

end History

/-- Of two keys, the one that was inserted first stands first. -/
theorem insertedAt_lt_iff {history : History} {one next : String}
    (first : one ∈ (empty.after history).keys) (second : next ∈ (empty.after history).keys) :
    history.insertedAt one < history.insertedAt next ↔
      (empty.after history).keys.idxOf one < (empty.after history).keys.idxOf next := by
  -- The keys stand in the order in which they were inserted.
  have placed : ∀ {one next : String}, one ∈ (empty.after history).keys →
      next ∈ (empty.after history).keys →
      (empty.after history).keys.idxOf one < (empty.after history).keys.idxOf next →
      history.insertedAt one < history.insertedAt next := by
    intro one next first second before
    have inOrder := List.pairwise_iff_getElem.mp (pairwise_keys_after history) _ _
      (List.idxOf_lt_length_of_mem first) (List.idxOf_lt_length_of_mem second) before
    simpa using inOrder
  refine ⟨fun before => ?_, placed first second⟩
  -- The next key neither stands in the same place nor before the one.
  by_contra notBefore
  rcases Nat.lt_or_eq_of_le (Nat.not_lt.mp notBefore) with behind | same
  · exact Nat.lt_asymm before (placed second first behind)
  · obtain rfl := (List.idxOf_inj second).mp same
    exact Nat.lt_irrefl _ before

/-- Two histories leave equal stores exactly if they leave the same keys with the same values,
inserted in the same order. -/
theorem after_eq_iff_agree (history other : History) :
    empty.after history = empty.after other ↔ history.Agree other := by
  rw [eq_iff_keys_and_values]
  simp only [get?_after]
  constructor
  · rintro ⟨keys, values⟩
    refine ⟨values, fun one first next second => ?_⟩
    have there := (History.perm_present history).mem_iff.mpr first
    have thereToo := (History.perm_present history).mem_iff.mpr second
    -- Either way, the keys stand in the one order.
    rw [insertedAt_lt_iff there thereToo, insertedAt_lt_iff (keys ▸ there) (keys ▸ thereToo), keys]
  · intro agree
    refine ⟨?_, agree.values⟩
    -- The keys of both are in the order in which the first history inserted them.
    have members : (empty.after history).keys.Perm (empty.after other).keys := by
      refine (List.perm_ext_iff_of_nodup (distinct _) (distinct _)).mpr fun key => ?_
      rw [← keys, ← keys, mem_keys_after_iff, mem_keys_after_iff, agree.values]
    refine members.eq_of_pairwise ?_ (pairwise_keys_after history) ?_
    · intro one next _ _ before behind
      exact absurd before (Nat.lt_asymm behind)
    · refine (pairwise_keys_after other).imp_of_mem fun {one next} first second before => ?_
      have known : ∀ key ∈ (empty.after other).keys, key ∈ history.present := fun key member =>
        History.mem_present_iff.mpr (mem_keys_after_iff.mp (members.mem_iff.mpr member))
      exact (agree.order one (known one first) next (known next second)).mpr before

/-- A store is told by its history, whatever store it starts from: a key has the value that it was
given last unless it was taken out behind that, and the one from the start if no change was about
it; the keys stand in the order in which they were inserted, that is, first set or seeded since
they were last taken out. Setting a key that is there moves no key, and removing one gives its value
and leaves the other entries in order. So two stores are equal exactly if their histories leave the
same values, inserted in the same order. -/
theorem store_told_by_history (start : Options) (changes : List Change) :
    let store := start.after changes
    let history : History := start.seeds ++ changes
    store.keys.Nodup ∧
    (∀ key, store.get? key =
      match History.last? changes key with
      | some change => change.value?
      | none => start.get? key) ∧
    (∀ key, store.get? key = history.valueOf? key) ∧
    (∀ entry ∈ store.entries, store.get? entry.1 = some entry.2) ∧
    (∀ key, key ∈ store.keys ↔ key ∈ history.present) ∧
    store.keys.Pairwise (fun one next => history.insertedAt one < history.insertedAt next) ∧
    (∀ key value, key ∈ store.keys → (store.set key value).keys = store.keys) ∧
    (∀ key, (store.remove key).1 = store.get? key ∧
      (store.remove key).2.entries = store.entries.filter fun entry => entry.1 ≠ key) ∧
    store.size = history.present.length ∧
    (store.isEmpty = true ↔ history.present = []) ∧
    ∀ (other : Options) (further : List Change),
      store = other.after further ↔ history.Agree (other.seeds ++ further) := by
  intro store history
  -- The store has the same history as one that starts out empty.
  have grown : ∀ (first : Options) (made : List Change),
      first.after made = empty.after (first.seeds ++ made) := fun first made => by
    rw [after_append, after_seeds]
  have same : store = empty.after history := grown start changes
  have seeded : ∀ key, History.valueOf? start.seeds key = start.get? key := fun key => by
    rw [← get?_after, after_seeds]
  have value : ∀ key, store.get? key = history.valueOf? key := fun key => by
    rw [same, get?_after]
  have kept : store.keys.Perm history.present := same ▸ History.perm_present history
  have long : store.size = history.present.length := by
    rw [← kept.length_eq, keys, List.length_map, size]
  -- What is left is each part by its own lemma, most of them over the one history.
  refine ⟨store.distinct, ?decided, value, fun entry => get?_of_mem, fun key => kept.mem_iff,
    ?order, ?override, ?removal, long, ?empty, ?equal⟩
  case decided =>
    intro key
    rw [value, History.valueOf?_append, seeded]
  case order =>
    rw [same]
    exact pairwise_keys_after history
  case override =>
    intro key value known
    rw [keys_set, if_pos known]
  case removal =>
    intro key
    rw [remove_eq]
    exact ⟨rfl, rfl⟩
  case empty =>
    rw [isEmpty, List.isEmpty_iff_length_eq_zero, ← size, long, List.length_eq_zero_iff]
  case equal =>
    intro other further
    rw [same, grown other further]
    exact after_eq_iff_agree history _

/-- A key that is taken out and set again goes to the end, and one that is overridden stays. -/
example :
    (defaults.after [.set "initHeap" "40M", .remove "verbose", .set "verbose" "3"]).entries =
      [("initHeap", "40M"), ("timeout", "30"), ("variableSizeHeap", "false"), ("repeat", "1"),
        ("verbose", "3")] := by
  decide

end Launcher.Options
