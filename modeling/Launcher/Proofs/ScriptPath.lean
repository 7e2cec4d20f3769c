import Launcher.Proofs.Catalog

/-! Where a launch looks for a script, and where the catalog has found it. -/

namespace Launcher

namespace Catalog

variable {extension : String}

/-- A name that is listed is a stem, a dot and the extension, whatever bytes it was read from. -/
theorem exists_stem {entry : DirectoryEntry} (script : IsScript extension entry) :
    ∃ stem, stem ≠ "" ∧ Utf8.lossy entry.name = stem ++ "." ++ extension := by
  obtain ⟨-, -, -, stem, filled, split⟩ := script
  refine ⟨Utf8.lossy stem, ?_, ?_⟩
  · -- The first byte is read as something, if only as a replacement.
    obtain ⟨byte, rest, rfl⟩ := List.exists_cons_of_ne_nil filled
    rw [Utf8.lossy, Utf8.lossyChars]
    simp
  · -- The dot is a short character, so stem and extension are read apart.
    rw [split, Utf8.lossy_append_short (by decide), Utf8.lossy_utf8]
    rfl

/-- The extension of a script is all that stands behind the last dot of its name. -/
theorem dot_notMem_extension {entry : DirectoryEntry} (script : IsScript extension entry) :
    '.' ∉ extension.toList := by
  -- The extension's bytes hold no dot, and a dot in its text would be one of them.
  intro member
  obtain ⟨-, -, plain, -⟩ := script
  exact plain (List.mem_flatMap.mpr ⟨'.', member, List.mem_singleton.mpr rfl⟩)

/-- No slash comes up in reading bytes that have none. -/
theorem slash_notMem_utf8_lossy {bytes : Bytes} (plain : slash ∉ bytes) :
    slash ∉ utf8 (Utf8.lossy bytes) := by
  intro member
  obtain ⟨char, among, byte⟩ := List.mem_flatMap.mp member
  rw [Utf8.lossy, String.toList_ofList] at among
  -- The slash would be a byte of the replacement, or of a character that was there before.
  by_cases same : char = Utf8.replacement
  · rw [same] at byte
    exact absurd byte (by decide)
  · exact plain (Utf8.encode_subset_of_mem_lossyChars among same byte)

end Catalog

namespace Settings

/-- A text is what is left without the slashes at its end, and those slashes. -/
theorem exists_replicate_slash (text : List Char) :
    ∃ count, text = withoutTrailingSlashes text ++ List.replicate count '/' := by
  -- What is cut off is the longest run of slashes at the end, and a list of slashes only is a
  -- repetition of one.
  have same : ∀ char ∈ (text.reverse.takeWhile (· = '/')).reverse, char = '/' := by
    intro char among
    exact of_decide_eq_true
      (List.all_eq_true.mp List.all_takeWhile char (List.mem_reverse.mp among))
  refine ⟨(text.reverse.takeWhile (· = '/')).reverse.length, ?_⟩
  rw [← List.eq_replicate_of_mem same, withoutTrailingSlashes, ← List.reverse_append,
    List.takeWhile_append_dropWhile, List.reverse_reverse]

/-- Nothing is left of a text that is all slashes, and of that one only. -/
theorem withoutTrailingSlashes_eq_nil_iff {text : List Char} :
    withoutTrailingSlashes text = [] ↔ ∀ char ∈ text, char = '/' := by
  simp [withoutTrailingSlashes]

/-- The slashes at the end of a directory's text are those at the end of its path. -/
theorem exists_bytes_of_directory (directory : String) :
    ∃ count, (Path.ofText directory).bytes =
      utf8 (String.ofList (withoutTrailingSlashes directory.toList)) ++
        List.replicate count slash := by
  -- The split of the text into what is kept and its slashes, carried over to bytes: a slash is one
  -- byte.
  obtain ⟨count, split⟩ := exists_replicate_slash directory.toList
  have slashes : (List.replicate count '/').flatMap String.utf8EncodeChar =
      List.replicate count slash := by
    rw [List.flatMap_replicate, show String.utf8EncodeChar '/' = [slash] from rfl,
      List.flatten_replicate_singleton]
  refine ⟨count, ?_⟩
  rw [Path.ofText, utf8, utf8, String.toList_ofList, ← slashes, ← List.flatMap_append, ← split]

variable {settings : Settings} {directory name stem : String}

/-- The path of a script is read off the text of the directory. -/
theorem scriptPath_eq (spelled : settings.scriptsDir = .ofText directory)
    (whole : name = stem ++ "." ++ settings.scriptExtension) :
    settings.scriptPath stem =
      let kept := withoutTrailingSlashes directory.toList
      if kept.isEmpty then name else String.ofList kept ++ "/" ++ name := by
  -- The directory was spelled as text, so reading its bytes leniently changes nothing.
  have text : settings.scriptsDir.text = directory := by
    rw [spelled, Path.ofText, Path.text, Utf8.lossy_utf8]
  rw [scriptPath, text, whole]

/-- Where a directory is not spelled by slashes alone, the path of a script in it goes through the
directory and then the script's name. -/
theorem scriptPath_parts (spelled : settings.scriptsDir = .ofText directory)
    (whole : name = stem ++ "." ++ settings.scriptExtension) (filled : stem ≠ "")
    (plain : slash ∉ utf8 name)
    (other : directory = "" ∨ ∃ char ∈ directory.toList, char ≠ '/') :
    (Path.ofText (settings.scriptPath stem)).isAbsolute = settings.scriptsDir.isAbsolute ∧
      (Path.ofText (settings.scriptPath stem)).parts =
        settings.scriptsDir.parts ++ [.name (utf8 name)] := by
  -- The name is longer than a dot, as it has a stem before its dot.
  have split : utf8 name = utf8 stem ++ dot :: utf8 settings.scriptExtension := by
    rw [whole, utf8_append, utf8_append, List.append_assoc]
    rfl
  obtain ⟨byte, rest, first⟩ := List.exists_cons_of_ne_nil
    (fun none => filled (utf8_eq_nil_iff.mp none))
  have named : utf8 name ≠ [] := by simp [split]
  have proper : utf8 name ≠ [dot] := by simp [split, first]
  rw [scriptPath_eq spelled whole]
  by_cases bare : withoutTrailingSlashes directory.toList = []
  · -- Only a directory without a text is left, and the name is a path by itself.
    have nowhere : directory = "" := other.resolve_right (by
      simpa [withoutTrailingSlashes_eq_nil_iff] using bare)
    subst nowhere
    rw [if_pos (List.isEmpty_iff.mpr bare), spelled]
    exact ⟨Path.isAbsolute_of_not_mem plain, Path.parts_of_name plain named proper⟩
  · obtain ⟨count, bytes⟩ := exists_bytes_of_directory directory
    -- Both paths go through what is left of the directory, and differ behind it.
    rw [if_neg (by simpa using bare), spelled]
    generalize withoutTrailingSlashes directory.toList = kept at bare bytes ⊢
    have somewhere : utf8 (String.ofList kept) ≠ [] := by
      intro none
      exact bare (by simpa using congrArg String.toList (utf8_eq_nil_iff.mp none))
    have joined : Path.ofText (String.ofList kept ++ "/" ++ name) =
        ⟨utf8 (String.ofList kept) ++ slash :: utf8 name⟩ := by
      rw [Path.ofText, utf8_append, utf8_append, List.append_assoc]
      rfl
    have directed : Path.ofText directory =
        ⟨utf8 (String.ofList kept) ++ List.replicate count slash⟩ := congrArg Path.mk bytes
    rw [joined, directed, Path.isAbsolute_append _ somewhere, Path.isAbsolute_append _ somewhere]
    exact ⟨rfl, Path.parts_append_slash count somewhere plain named proper⟩

end Settings

namespace Launch

/-- The catalog and the command agree on where a script is.

What is listed is a stem, a dot and the extension, and the path of the script with that stem goes
through the directory of the scripts and then the name that was listed. A directory that is spelled
by slashes alone is left out of the path, so the script is looked for in the working directory. -/
theorem listed_script_has_path {δ ω : Type} [Host ω] (settings : Settings) (directory : String)
    (spelled : settings.scriptsDir = .ofText directory) (state : Reporter δ × ω)
    (entries : List DirectoryEntry)
    (read : Host.entries state.2 settings.scriptsDir = .ok entries)
    (plain : ∀ entry ∈ entries, slash ∉ entry.name) :
    ∃ names, ((listScripts settings.scriptsDir settings.scriptExtension :
        Launching δ ω (List String)).run.run state).value = .ok names ∧
      ∀ name ∈ names, ∃ stem, stem ≠ "" ∧ '.' ∉ settings.scriptExtension.toList ∧
        name = stem ++ "." ++ settings.scriptExtension ∧
        (directory = "" ∨ (∃ char ∈ directory.toList, char ≠ '/') →
          (Path.ofText (settings.scriptPath stem)).isAbsolute = settings.scriptsDir.isAbsolute ∧
          (Path.ofText (settings.scriptPath stem)).parts =
            settings.scriptsDir.parts ++ [.name (utf8 name)]) ∧
        ((∀ char ∈ directory.toList, char = '/') → settings.scriptPath stem = name) := by
  refine ⟨_, congrArg Step.value (listScripts_run read settings.scriptExtension), ?_⟩
  intro name among
  -- What is listed is the name of a script among the entries.
  obtain ⟨entry, listed, rfl⟩ := List.mem_map.mp (Catalog.scripts_eq _ _ ▸ among)
  obtain ⟨found, script⟩ := Catalog.mem_listed.mp listed
  obtain ⟨stem, filled, whole⟩ := Catalog.exists_stem script
  refine ⟨stem, filled, Catalog.dot_notMem_extension script, whole, fun other => ?_, fun bare => ?_⟩
  · exact Settings.scriptPath_parts spelled whole filled
      (Catalog.slash_notMem_utf8_lossy (plain entry found)) other
  · rw [Settings.scriptPath_eq spelled whole, Settings.withoutTrailingSlashes_eq_nil_iff.mpr bare]
    rfl

/-- Doubled slashes, at the end as in the middle, lead to the script that was listed. -/
theorem listed_script_has_path_behind_slashes :
    let settings : Settings := { scriptsDir := .ofText "/opt//scripts//" }
    let machine : Rehearsal := { entries := [⟨utf8 "gc.alloc.script", .file⟩] }
    let listed := ((listScripts settings.scriptsDir settings.scriptExtension :
      Launching BoundedSink Rehearsal (List String)).run.run
        ({ json := false, out := {}, err := {} }, machine)).value
    listed = .ok ["gc.alloc.script"] ∧
      settings.scriptPath "gc.alloc" = "/opt//scripts/gc.alloc.script" ∧
      (Path.ofText "/opt//scripts/gc.alloc.script").parts =
        [.root, .name (utf8 "opt"), .name (utf8 "scripts"), .name (utf8 "gc.alloc.script")] := by
  intro settings machine listed
  have known : listed = .ok ["gc.alloc.script"] := by
    rw [show listed = .ok (Catalog.scripts "script" machine.entries) from rfl, Catalog.scripts,
      List.mergeSort_singleton]
    decide +kernel
  obtain ⟨names, told, paths⟩ := listed_script_has_path settings "/opt//scripts//" rfl
    (({ json := false, out := {}, err := {} }, machine) : Reporter BoundedSink × Rehearsal)
    machine.entries rfl (by decide)
  obtain rfl : names = ["gc.alloc.script"] := Except.ok.inj (told.symm.trans known)
  obtain ⟨stem, -, -, whole, leads, -⟩ := paths _ List.mem_cons_self
  -- The stem is what stands before the extension, and nothing else is.
  obtain rfl : stem = "gc.alloc" := by
    have same : stem ++ ".script" = "gc.alloc" ++ ".script" := by
      rw [show ".script" = "." ++ settings.scriptExtension by decide, ← String.append_assoc,
        ← whole]
      rfl
    have chars := congrArg String.toList same
    rw [String.toList_append, String.toList_append] at chars
    exact String.toList_inj.mp (List.append_cancel_right chars)
  have found : settings.scriptPath "gc.alloc" = "/opt//scripts/gc.alloc.script" := by decide +kernel
  refine ⟨known, found, ?_⟩
  rw [← found, (leads (.inr ⟨'o', by decide, by decide⟩)).2]
  decide

/-- A script in the root is listed there and looked for in the working directory. -/
theorem listed_script_of_root_is_lost :
    let settings : Settings := { scriptsDir := .ofText "/" }
    let machine : Rehearsal := { entries := [⟨utf8 "alloc.script", .file⟩] }
    ((listScripts settings.scriptsDir settings.scriptExtension :
        Launching BoundedSink Rehearsal (List String)).run.run
          ({ json := false, out := {}, err := {} }, machine)).value = .ok ["alloc.script"] ∧
      settings.scriptsDir.isAbsolute = true ∧ settings.scriptsDir.parts = [.root] ∧
      settings.scriptPath "alloc" = "alloc.script" ∧
      (Path.ofText "alloc.script").isAbsolute = false ∧
      (Path.ofText "alloc.script").parts = [.name (utf8 "alloc.script")] := by
  intro settings machine
  refine ⟨?_, by decide +kernel, by decide +kernel, by decide +kernel, by decide +kernel,
    by decide +kernel⟩
  -- The one entry is listed as it is; the rest is the evaluation of the two paths.
  have read : Host.entries machine settings.scriptsDir = .ok machine.entries := rfl
  rw [listScripts_run read, Catalog.scripts, List.mergeSort_singleton]
  decide +kernel

end Launch

end Launcher
