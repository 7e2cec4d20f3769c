import Launcher.Proofs.Json.Visible
import Launcher.Text.Bytes

/-! Lines of JSON: bytes that are one line, with one object on it. -/

namespace Launcher

/-- The byte that ends a line. -/
def lineEnd : UInt8 := 0x0A

/-- No other character has the end of a line among its bytes. -/
theorem lineEnd_notMem_utf8EncodeChar {char : Char} (other : char ≠ '\n') :
    lineEnd ∉ String.utf8EncodeChar char := by
  have code : char.val.toNat ≠ 10 := by
    intro same
    exact other (Char.ext (UInt32.toNat_inj.mp same))
  -- A short character is its own byte, and the bytes of a long one are beyond those of short ones.
  unfold String.utf8EncodeChar lineEnd
  simp only [apply_ite (fun bytes => (0x0A : UInt8) ∈ bytes), List.mem_cons, List.not_mem_nil,
    or_false, ← UInt8.toNat_inj, UInt8.toNat_ofNat', UInt8.reduceToNat]
  split_ifs <;> omega

/-- A text without a line end has none among its bytes. -/
theorem lineEnd_notMem_utf8 {text : String} (inside : '\n' ∉ text.toList) :
    lineEnd ∉ utf8 text := by
  -- A byte of the text is one of a character of the text.
  intro member
  obtain ⟨char, among, byte⟩ := List.mem_flatMap.mp member
  refine lineEnd_notMem_utf8EncodeChar ?_ byte
  rintro rfl
  exact inside among

namespace Json

/-- Some bytes are one line that ends there, and a reader takes it for a value that is an object,
with its end or without it. -/
def IsLine (value : Json) (bytes : Bytes) : Prop :=
  ∃ text : String, bytes = utf8 text ++ [lineEnd] ∧ lineEnd ∉ utf8 text ∧
    (∃ members, value = .obj members) ∧
    read? text = some value ∧ read? (text ++ "\n") = some value

/-- The compact form of an object is such a line. -/
theorem isLine_render (members : List (String × Json)) :
    IsLine (.obj members) (utf8 (obj members).render ++ utf8 "\n") := by
  -- The rendering ends no line inside, as all of its characters are visible.
  refine ⟨(obj members).render, rfl, lineEnd_notMem_utf8 fun member => ?_, ⟨members, rfl⟩,
    read?_render _, read?_render_append _ _ (by simp)⟩
  rw [render, String.toList_ofList] at member
  exact absurd (visible_of_mem_renderChars _ _ member) (by decide)

/-- A line has one line end in it. -/
theorem IsLine.count_lineEnd {value : Json} {bytes : Bytes} (line : IsLine value bytes) :
    bytes.count lineEnd = 1 := by
  -- The one line end is the last byte.
  obtain ⟨text, rfl, inside, -⟩ := line
  rw [List.count_append, List.count_eq_zero_of_not_mem inside]
  rfl

end Json

end Launcher
