import Launcher.Path
import Mathlib.Data.List.TakeWhile

/-! The pieces of paths and the extensions of file names. -/

namespace Launcher

/-- A file name ends in a dot and an extension, and something stands before that dot. -/
def HasExtension (name extension : Bytes) : Prop :=
  name ≠ [dot, dot] ∧ dot ∉ extension ∧ ∃ stem, stem ≠ [] ∧ name = stem ++ dot :: extension

/-- The extension of a file name stands behind its last dot. -/
theorem extension?_eq_some_iff {name extension : Bytes} :
    extension? name = some extension ↔ HasExtension name extension := by
  unfold extension? HasExtension
  constructor
  · intro found
    -- Read from the end, the name is what comes before the first dot, the dot, and the stem.
    have whole := List.takeWhile_append_dropWhile (p := (· ≠ dot)) (l := name.reverse)
    have stops := List.head?_dropWhile_not (· ≠ dot) name.reverse
    generalize behind : name.reverse.dropWhile (· ≠ dot) = tail at found whole stops
    cases tail with
    | nil => cases found
    | cons byte stem =>
      obtain rfl : byte = dot := by simpa using stops
      dsimp only at found
      by_cases named : (stem = [] || name = [dot, dot]) = true
      · rw [if_pos named] at found
        cases found
      · rw [if_neg named] at found
        obtain ⟨filled, notUp⟩ := not_or.mp (by simpa using named)
        obtain rfl := Option.some_inj.mp found
        refine ⟨notUp, ?_, stem.reverse, by simpa using filled, ?_⟩
        · intro member
          have differs := List.all_eq_true.mp (List.all_takeWhile (p := (· ≠ dot))
            (l := name.reverse)) dot (List.mem_reverse.mp member)
          exact absurd rfl (of_decide_eq_true differs)
        · have turned := congrArg List.reverse whole
          simpa using turned.symm
  · -- The first dot from the end is the one before the extension, which has none itself.
    rintro ⟨notUp, plain, stem, filled, split⟩
    have turned : name.reverse = extension.reverse ++ dot :: stem.reverse := by simp [split]
    have differs : ∀ byte ∈ extension.reverse, decide (byte ≠ dot) = true := by
      intro byte member
      exact decide_eq_true fun same => plain (same ▸ List.mem_reverse.mp member)
    have before : name.reverse.takeWhile (· ≠ dot) = extension.reverse := by
      rw [turned, List.takeWhile_append_of_pos differs]
      simp
    have behind : name.reverse.dropWhile (· ≠ dot) = dot :: stem.reverse := by
      rw [turned, List.dropWhile_append_of_pos differs]
      simp
    rw [before, behind]
    simp [filled, notUp]

namespace Path

/-- A part of a path, as one walks along it. -/
inductive Part where
  /-- The root, where an absolute path starts. -/
  | root
  /-- The working directory, where a relative path may say that it starts. -/
  | here
  /-- A name to go on to. -/
  | name (bytes : Bytes)
  deriving DecidableEq

/-- The parts of a path: where it says that it starts, and the names that it goes through. -/
def parts (path : Path) : List Part :=
  let start :=
    if path.isAbsolute then [.root]
    else if (pieces path.bytes).head? = some [dot] then [.here]
    else []
  start ++ path.components.map .name

/-- There is always a piece, if only an empty one. -/
theorem pieces_ne_nil (bytes : Bytes) : pieces bytes ≠ [] := by
  cases bytes with
  | nil => simp [pieces]
  | cons byte rest =>
    -- A slash opens a new piece, and any other byte joins one.
    rw [pieces]
    split
    · simp
    · cases pieces rest <;> simp

/-- The pieces around a slash are those before it and those behind it. -/
theorem pieces_append_slash (before after : Bytes) :
    pieces (before ++ slash :: after) = pieces before ++ pieces after := by
  induction before with
  | nil => simp [pieces]
  | cons byte rest ih =>
    rw [List.cons_append, pieces, pieces, ih]
    by_cases here : byte = slash
    · simp [here]
    · -- The byte joins the first piece of the rest, which is there.
      obtain ⟨piece, more, first⟩ := List.exists_cons_of_ne_nil (pieces_ne_nil rest)
      simp [here, first]

/-- Without a slash there is one piece. -/
theorem pieces_of_not_mem {bytes : Bytes} (plain : slash ∉ bytes) : pieces bytes = [bytes] := by
  -- No byte starts another piece.
  induction bytes with
  | nil => rfl
  | cons byte rest ih =>
    obtain ⟨here, later⟩ := not_or.mp (fun member => plain (List.mem_cons.mpr member))
    rw [pieces, ih later, if_neg (Ne.symm here)]

/-- Slashes at the end add empty pieces only. -/
theorem pieces_append_replicate (bytes : Bytes) (count : Nat) :
    pieces (bytes ++ List.replicate count slash) = pieces bytes ++ List.replicate count [] := by
  -- Each slash at the end opens one more piece, an empty one.
  induction count with
  | zero => simp
  | succ count ih =>
    rw [List.replicate_succ', ← List.append_assoc, pieces_append_slash, ih, List.replicate_succ',
      ← List.append_assoc]
    rfl

variable {directory name : Bytes}

/-- Without a slash a path is relative. -/
theorem isAbsolute_of_not_mem (plain : slash ∉ name) : isAbsolute ⟨name⟩ = false := by
  -- The first byte, if there is one, is not a slash.
  cases name with
  | nil => rfl
  | cons byte rest =>
    have differs : byte ≠ slash := fun same => plain (same ▸ List.mem_cons_self)
    simp [isAbsolute, differs]

/-- A name without a slash is one part of a path, unless it is a dot. -/
theorem parts_of_name (plain : slash ∉ name) (filled : name ≠ []) (proper : name ≠ [dot]) :
    parts ⟨name⟩ = [.name name] := by
  -- There is one piece, and it is neither empty nor a dot.
  simp [parts, components, isAbsolute_of_not_mem plain, pieces_of_not_mem plain, filled, proper]

/-- A path starts where the directory in front of its slashes starts. -/
theorem isAbsolute_append (behind : Bytes) (somewhere : directory ≠ []) :
    isAbsolute ⟨directory ++ behind⟩ = isAbsolute ⟨directory⟩ := by
  -- What stands behind does not touch the first byte.
  obtain ⟨byte, rest, rfl⟩ := List.exists_cons_of_ne_nil somewhere
  rfl

/-- A name behind a directory and a slash is one more part, however many slashes the directory is
spelled with. -/
theorem parts_append_slash (count : Nat) (somewhere : directory ≠ []) (plain : slash ∉ name)
    (filled : name ≠ []) (proper : name ≠ [dot]) :
    parts ⟨directory ++ slash :: name⟩ =
      parts ⟨directory ++ List.replicate count slash⟩ ++ [.name name] := by
  -- Both start alike, as the directory has a piece of its own.
  have first (behind : List Bytes) :
      (pieces directory ++ behind).head? = (pieces directory).head? := by
    obtain ⟨piece, more, first⟩ := List.exists_cons_of_ne_nil (pieces_ne_nil directory)
    rw [first]
    rfl
  -- The directory's own slashes give empty pieces only, which name nothing.
  have empty : (List.replicate count ([] : Bytes)).filter
      (fun piece => piece ≠ [] && piece ≠ [dot]) = [] := by
    refine List.filter_eq_nil_iff.mpr fun piece among => ?_
    simp [List.eq_of_mem_replicate among]
  simp only [parts, components, isAbsolute_append _ somewhere, pieces_append_slash,
    pieces_append_replicate, pieces_of_not_mem plain, first, List.filter_append, empty,
    List.append_nil, List.map_append, List.append_assoc]
  simp [filled, proper]

end Path

end Launcher
