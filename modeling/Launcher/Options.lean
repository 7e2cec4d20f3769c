/-! The ordered store of options that a launch is given. -/

namespace Launcher

/-- Options in the order in which their keys were first given, no key twice. -/
structure Options where
  /-- The keys with their values. -/
  entries : List (String × String)
  /-- No key occurs twice. -/
  distinct : (entries.map Prod.fst).Nodup
  deriving DecidableEq

namespace Options

/-- Two stores with the same entries in the same order are equal. -/
@[ext] theorem ext_entries {first second : Options} (same : first.entries = second.entries) :
    first = second := by
  cases first; cases second; cases same; rfl

/-- The keys in order. -/
def keys (options : Options) : List String := options.entries.map Prod.fst

/-- The store without options. -/
def empty : Options := ⟨[], List.nodup_nil⟩

instance : Inhabited Options := ⟨empty⟩

/-- The value of a key. -/
def get? (options : Options) (key : String) : Option String := options.entries.lookup key

/-- Gives the entries a value for a key: in its place if the key is there, else at the end. -/
def setEntries (entries : List (String × String)) (key value : String) : List (String × String) :=
  match entries with
  | [] => [(key, value)]
  | entry :: rest =>
    if entry.1 = key then (key, value) :: rest else entry :: setEntries rest key value

/-- The keys after a value was given: a new key joins at the end, a known one changes nothing. -/
theorem keys_setEntries (entries : List (String × String)) (key value : String) :
    (setEntries entries key value).map Prod.fst =
      if key ∈ entries.map Prod.fst then entries.map Prod.fst
      else entries.map Prod.fst ++ [key] := by
  induction entries with
  | nil => simp [setEntries]
  | cons entry rest ih =>
    by_cases same : entry.1 = key
    · simp [setEntries, same]
    · have other : key ≠ entry.1 := fun equal => same equal.symm
      by_cases known : key ∈ rest.map Prod.fst <;>
        simp only [setEntries, same, if_false, List.map_cons, ih, known, if_true, List.mem_cons,
          other, false_or, List.cons_append]

/-- Gives a key a value; an override keeps the key's place. -/
def set (options : Options) (key value : String) : Options where
  entries := setEntries options.entries key value
  distinct := by
    rw [keys_setEntries]
    split
    · exact options.distinct
    · rename_i fresh
      refine List.nodup_append.2 ⟨options.distinct, by simp, fun known member new isNew same => ?_⟩
      exact fresh (by simp_all)

/-- Takes a key out of the store. -/
def erase (options : Options) (key : String) : Options where
  entries := options.entries.filter fun entry => entry.1 ≠ key
  distinct := (List.filter_sublist.map Prod.fst).nodup options.distinct

/-- Takes the first entry of a key out of the entries: the value that it had, and what is left. -/
def removeEntry (entries : List (String × String)) (key : String) :
    Option String × List (String × String) :=
  match entries with
  | [] => (none, [])
  | entry :: rest =>
    if entry.1 = key then (some entry.2, rest)
    else
      let (value, left) := removeEntry rest key
      (value, entry :: left)

/-- Taking an entry out keeps the others in order. -/
theorem removeEntry_sublist (entries : List (String × String)) (key : String) :
    (removeEntry entries key).2.Sublist entries := by
  induction entries with
  | nil => exact .slnil
  | cons entry rest ih =>
    rw [removeEntry]
    split
    · exact List.sublist_cons_self entry rest
    · exact ih.cons_cons entry

/-- Takes a key out of the store and gives the value that it had, if any. -/
def remove (options : Options) (key : String) : Option String × Options :=
  let removed := removeEntry options.entries key
  (removed.1, ⟨removed.2, ((removeEntry_sublist options.entries key).map Prod.fst).nodup
    options.distinct⟩)

/-- Number of keys. -/
def size (options : Options) : Nat := options.entries.length

/-- Whether there is no key. -/
def isEmpty (options : Options) : Bool := options.entries.isEmpty

/-- A store to which pairs are given in turn. -/
def ofList (pairs : List (String × String)) : Options :=
  pairs.foldl (fun options pair => options.set pair.1 pair.2) empty

/-- The options that a launch starts from. -/
def defaults : Options :=
  ofList [("verbose", "2"), ("initHeap", "20M"), ("timeout", "30"), ("variableSizeHeap", "false"),
    ("repeat", "1")]

end Options

end Launcher
