import Launcher.Proofs.Launch.Channels
import Launcher.Proofs.Path
import Launcher.Proofs.Text.Utf8

/-! The scripts of a directory: which of its entries they are, and in which order they come. -/

namespace Launcher

/-- What leads to a regular file: a file, or a link to what leads to one. -/
inductive EntryKind.LeadsToFile : EntryKind → Prop where
  /-- A file leads to itself. -/
  | file : LeadsToFile .file
  /-- A link leads where its target leads. -/
  | link {target : EntryKind} (leads : LeadsToFile target) : LeadsToFile (.linkTo target)

/-- Following links finds a regular file where one is led to. -/
theorem EntryKind.isFile_iff {kind : EntryKind} : kind.isFile = true ↔ kind.LeadsToFile := by
  constructor
  · -- Following a chain of links has found something only if a file is at its end.
    intro found
    induction kind with
    | file => exact .file
    | linkTo target ih => exact .link (ih found)
    | directory | special | dangling => cases found
  · -- The two constructors of leading to a file are the two lines of the test.
    intro leads
    induction leads with
    | file => rfl
    | link _ ih => exact ih

namespace Catalog

/-- A script is an entry that leads to a regular file and whose name has the extension. -/
def IsScript (extension : String) (entry : DirectoryEntry) : Prop :=
  entry.kind.LeadsToFile ∧ HasExtension entry.name (utf8 extension)

/-- An extension that is no UTF-8 equals no text. -/
theorem isScript_iff {extension : String} {entry : DirectoryEntry} :
    isScript extension entry = true ↔ IsScript extension entry := by
  -- The code looks for an extension that is text; the specification compares bytes. A text and its
  -- bytes tell each other.
  have spelled : (extension? entry.name).bind Utf8.text? = some extension ↔
      HasExtension entry.name (utf8 extension) := by
    rw [← extension?_eq_some_iff, Option.bind_eq_some_iff]
    constructor
    · rintro ⟨bytes, ends, text⟩
      rw [ends, Utf8.text?_eq_some_iff.mp text]
    · intro ends
      exact ⟨_, ends, Utf8.text?_utf8 extension⟩
  simp [isScript, IsScript, EntryKind.isFile_iff, spelled]

/-- Names are compared by their bytes. -/
theorem nameLe_iff {first other : Bytes} : nameLe first other = true ↔ first ≤ other := by
  -- Both orders compare byte by byte, so the recursion of the comparison is the induction.
  induction first, other using nameLe.induct with
  | case1 other => simp [nameLe]
  | case2 byte rest => simp [nameLe]
  | case3 byte rest more ih => simp [nameLe, ih, List.cons_le_cons_iff]
  | case4 byte rest other more differ => simp [nameLe, differ, List.cons_le_cons_iff]

/-- The entries that are listed, in the order of their names. -/
def listed (extension : String) (entries : List DirectoryEntry) : List DirectoryEntry :=
  (entries.mergeSort fun first second => nameLe first.name second.name).filter (isScript extension)

/-- The scripts are the names of the entries that are listed. -/
theorem scripts_eq (extension : String) (entries : List DirectoryEntry) :
    scripts extension entries = (listed extension entries).map (Utf8.lossy ·.name) := rfl

variable {extension : String} {entries : List DirectoryEntry}

/-- Sorting neither adds an entry nor drops one. -/
theorem listed_perm (extension : String) (entries : List DirectoryEntry) :
    (listed extension entries).Perm (entries.filter (isScript extension)) :=
  (List.mergeSort_perm _ _).filter _

/-- The scripts among the entries are listed, and nothing else. -/
theorem mem_listed {entry : DirectoryEntry} :
    entry ∈ listed extension entries ↔ entry ∈ entries ∧ IsScript extension entry := by
  -- Sorting moves entries and drops none, so what is listed is what the filter keeps.
  rw [(listed_perm extension entries).mem_iff, List.mem_filter, isScript_iff]

/-- Entries with distinct names are listed in the order of the names. -/
theorem listed_pairwise (distinct : (entries.map DirectoryEntry.name).Nodup) :
    (listed extension entries).Pairwise fun first second => first.name < second.name := by
  let before (first second : DirectoryEntry) : Bool := nameLe first.name second.name
  -- Sorting by a total order puts the names in that order, and it keeps them distinct.
  have ordered : (entries.mergeSort before).Pairwise fun first second =>
      before first second = true := by
    refine List.pairwise_mergeSort (fun first second third => ?_) (fun first second => ?_) entries
    · intro le le'
      exact nameLe_iff.mpr (List.le_trans (nameLe_iff.mp le) (nameLe_iff.mp le'))
    · exact Bool.or_eq_true_iff.mpr
        ((List.le_total first.name second.name).imp nameLe_iff.mpr nameLe_iff.mpr)
  have apart : (entries.mergeSort before).Pairwise fun first second =>
      first.name ≠ second.name :=
    List.pairwise_map.mp (((List.mergeSort_perm entries before).map _).nodup_iff.mpr distinct)
  refine ((ordered.and apart).imp ?_).filter _
  rintro first second ⟨le, differ⟩
  -- Of two names in order, the second one is behind the first unless it equals it.
  exact Decidable.byContradiction fun behind => differ (List.le_antisymm (nameLe_iff.mp le) behind)

/-- The order in which the entries are found does not matter. -/
theorem listed_eq_of_perm {shuffled : List DirectoryEntry}
    (distinct : (entries.map DirectoryEntry.name).Nodup) (same : shuffled.Perm entries) :
    listed extension shuffled = listed extension entries := by
  -- Two lists of the same entries in strict order are one list.
  have distinct' := (same.map DirectoryEntry.name).nodup_iff.mpr distinct
  refine List.Perm.eq_of_pairwise (fun first second _ _ before after => ?_)
    (listed_pairwise distinct') (listed_pairwise distinct) ?_
  · exact absurd after (List.lt_asymm before)
  · exact (listed_perm extension shuffled).trans
      ((same.filter _).trans (listed_perm extension entries).symm)

end Catalog

namespace Launch

/-- A directory that can be read is listed script by script, in the order of the names' bytes.

Its scripts are told by their names, each once and nothing else, and the order in which the
directory tells its entries makes no difference. -/
theorem listScripts_lists_scripts_in_order {δ ω : Type} [Host ω] (directory : Path)
    (extension : String) (state : Reporter δ × ω) (entries : List DirectoryEntry)
    (read : Host.entries state.2 directory = .ok entries)
    (distinct : (entries.map DirectoryEntry.name).Nodup) :
    let value (state : Reporter δ × ω) : Except LaunchError (List String) :=
      ((listScripts directory extension : Launching δ ω (List String)).run.run state).value
    (∃ scripts : List DirectoryEntry,
      value state = .ok (scripts.map (Utf8.lossy ·.name)) ∧ scripts.Nodup ∧
      (∀ entry, entry ∈ scripts ↔ entry ∈ entries ∧ entry.kind.LeadsToFile ∧
        HasExtension entry.name (utf8 extension)) ∧
      (scripts.Pairwise fun first second => first.name < second.name) ∧
      ∀ entry ∈ scripts, ∀ name, entry.name = utf8 name → Utf8.lossy entry.name = name) ∧
    ∀ other shuffled, Host.entries other.2 directory = .ok shuffled → shuffled.Perm entries →
      value other = value state := by
  intro value
  -- What is told is what is listed, and nothing but the entries counts for that.
  have listed {state : Reporter δ × ω} {entries : List DirectoryEntry}
      (read : Host.entries state.2 directory = .ok entries) :
      value state = .ok ((Catalog.listed extension entries).map (Utf8.lossy ·.name)) := by
    dsimp only [value]
    rw [listScripts_run read extension]
    rfl
  refine ⟨⟨Catalog.listed extension entries, listed read, ?_, ?_, ?_, ?_⟩, ?_⟩
  · -- A name does not come before itself.
    refine (Catalog.listed_pairwise distinct).imp ?_
    rintro first second before rfl
    exact List.lt_irrefl _ before
  · exact fun entry => Catalog.mem_listed
  · exact Catalog.listed_pairwise distinct
  · rintro entry - name spelled
    rw [spelled, Utf8.lossy_utf8]
  · intro other shuffled found same
    rw [listed found, listed read, Catalog.listed_eq_of_perm distinct same]

/-- Links that lead to files are listed and others are not, and bytes that are no text are
replaced. -/
theorem listScripts_of_mixed_entries :
    let entries : List DirectoryEntry := [⟨utf8 ".script", .file⟩, ⟨utf8 "a.b.script", .file⟩,
      ⟨utf8 "a.script.txt", .file⟩, ⟨utf8 "b.script", .linkTo (.linkTo .file)⟩,
      ⟨utf8 "c.script", .dangling⟩, ⟨utf8 "d.script", .linkTo .directory⟩,
      ⟨utf8 "gc" ++ 0xFF :: utf8 ".script", .file⟩]
    let value (entries : List DirectoryEntry) : Except LaunchError (List String) :=
      ((listScripts (.ofText "scripts") "script" :
        Launching BoundedSink Rehearsal (List String)).run.run
          ({ json := false, out := {}, err := {} }, { entries })).value
    (entries.map DirectoryEntry.name).Nodup ∧
      ∀ shuffled : List DirectoryEntry, shuffled.Perm entries →
        value shuffled = .ok ["a.b.script", "b.script", "gc\uFFFD.script"] := by
  intro entries value
  have distinct : (entries.map DirectoryEntry.name).Nodup := by decide
  -- The entries are spelled out in order, so sorting leaves them as they are.
  have sorted : entries.mergeSort (fun first second =>
      Catalog.nameLe first.name second.name) = entries :=
    List.mergeSort_of_pairwise (by decide)
  have known : value entries = .ok ["a.b.script", "b.script", "gc\uFFFD.script"] := by
    rw [show value entries = .ok (Catalog.scripts "script" entries) from rfl, Catalog.scripts,
      sorted]
    decide +kernel
  have listed := listScripts_lists_scripts_in_order (.ofText "scripts") "script"
    (({ json := false, out := {}, err := {} }, { entries }) : Reporter BoundedSink × Rehearsal)
    entries rfl distinct
  refine ⟨distinct, fun shuffled same => ?_⟩
  rw [← known]
  exact listed.2 ({ json := false, out := {}, err := {} }, { entries := shuffled }) shuffled rfl
    same

end Launch

end Launcher
