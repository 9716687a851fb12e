import ModelNav.Convention
import ModelNav.Proofs.Text.Separated
import ModelNav.Proofs.Text.Upper

/-!
# Names by convention

Capitalizing a text twice is capitalizing it once, and it brings in no character of ASCII but
capital letters.  A model whose name is capitalized already has the same file name by convention.
The parts of a name between underscores are kept, each with its first character in upper case, so
the name of a file without its extension has that file name again.
-/

namespace ModelNav
namespace Convention

/-- Capitalizing brings in no character of ASCII but capital letters. -/
theorem notMem_capitalize
    {mark : Char}
    {text : Text}
    (single : mark.toNat < 0x80)
    (noCapital : mark.isUpper = false)
    (absent : mark ∉ text) :
    mark ∉ capitalize text := by
  cases text with
  | nil => exact absent
  | cons first rest =>
      rw [List.mem_cons, not_or] at absent
      rw [capitalize_cons, List.mem_append, not_or]
      exact ⟨Text.notMem_upper (Ne.symm absent.1) single noCapital, absent.2⟩

/-- Capitalizing a text twice is capitalizing it once. -/
theorem capitalize_capitalize (text : Text) :
    capitalize (capitalize text) = capitalize text := by
  cases text with
  | nil => rfl
  | cons first rest =>
      obtain ⟨head, others, isUpper, settled⟩ := Text.exists_upper_eq_cons first
      rw [capitalize_cons, isUpper, List.cons_append, capitalize_cons, settled]
      rfl

/-- Capitalizing a text capitalizes its first part between underscores. -/
theorem splitOn_capitalize (text : Text) :
    Text.splitOn '_' (capitalize text) = (Text.splitOn '_' text).modifyHead capitalize := by
  cases text with
  | nil => rfl
  | cons first rest =>
      rw [capitalize_cons]
      by_cases same : first = '_'
      · subst same
        rw [Text.splitOn, if_pos rfl]
        have underscore : Text.upper '_' = ['_'] := by decide
        rw [underscore, List.singleton_append, Text.splitOn, if_pos rfl]
        rfl
      · have absent : '_' ∉ Text.upper first := Text.notMem_upper same (by decide) (by decide)
        obtain ⟨piece, pieces, split⟩ :=
          List.exists_cons_of_ne_nil (Text.splitOn_ne_nil '_' rest)
        rw [Text.splitOn_append_of_notMem absent, Text.splitOn, if_neg same, split]
        rfl

/-- The stem of a name is the same whether or not the name is capitalized already. -/
theorem stem_capitalize (identifier : Text) : stem (capitalize identifier) = stem identifier := by
  obtain ⟨piece, pieces, split⟩ := List.exists_cons_of_ne_nil (Text.splitOn_ne_nil '_' identifier)
  -- Only the first part is capitalized twice.
  rw [stem, stem, splitOn_capitalize, split, List.modifyHead_cons, List.map_cons, List.map_cons,
    capitalize_capitalize]

/-- A stem has no slash when the name has none. -/
theorem slash_notMem_stem
    {identifier : Text}
    (absent : '/' ∉ identifier) :
    '/' ∉ stem identifier := by
  intro present
  obtain ⟨part, isPart, inPart⟩ := (Text.mem_join_iff (by decide) _).mp present
  obtain ⟨piece, isPiece, rfl⟩ := List.mem_map.mp isPart
  have notInPiece : '/' ∉ piece :=
    fun inPiece => absent (Text.subset_of_mem_splitOn isPiece inPiece)
  exact notMem_capitalize (by decide) (by decide) notInPiece inPart

/-- The parts of a stem are the parts of the name, each of them capitalized. -/
theorem splitOn_stem (identifier : Text) :
    Text.splitOn '_' (stem identifier) = (Text.splitOn '_' identifier).map capitalize := by
  have absent : ∀ part ∈ (Text.splitOn '_' identifier).map capitalize, '_' ∉ part := by
    intro part isPart
    obtain ⟨segment, present, rfl⟩ := List.mem_map.mp isPart
    exact notMem_capitalize (by decide) (by decide) (Text.notMem_of_mem_splitOn present)
  obtain ⟨piece, pieces, split⟩ := List.exists_cons_of_ne_nil (Text.splitOn_ne_nil '_' identifier)
  rw [split, List.map_cons] at absent
  rw [stem, split, List.map_cons, Text.splitOn_join absent]

/-- A stem is its own stem. -/
theorem stem_stem (identifier : Text) : stem (stem identifier) = stem identifier := by
  have once : capitalize ∘ capitalize = capitalize := funext capitalize_capitalize
  rw [stem, splitOn_stem, List.map_map, once, stem]

theorem capitalize_eq_flatMap_append (segment : Text) :
    capitalize segment = (segment.take 1).flatMap Text.upper ++ segment.drop 1 := by
  cases segment with
  | nil => rfl
  | cons first rest => simp

/-- A file name by convention is a name followed by the extension.  Between underscores the name has
the segments of the identifier, as many and in their order, each with its first character in upper
case and nothing else changed.  The name itself has the same file name, and so has the identifier
with its first character in upper case. -/
theorem exists_fileName_eq_append (identifier extension : Text) :
    ∃ named,
      fileName identifier extension = named ++ extension ∧
        Text.splitOn '_' named =
          ((Text.splitOn '_' identifier).map fun segment =>
            (segment.take 1).flatMap Text.upper ++ segment.drop 1) ∧
        fileName named extension = fileName identifier extension ∧
        fileName (capitalize identifier) extension = fileName identifier extension := by
  refine ⟨stem identifier, rfl, ?_, ?_, ?_⟩
  · rw [splitOn_stem]
    exact List.map_congr_left fun segment _ => capitalize_eq_flatMap_append segment
  · rw [fileName, stem_stem, fileName]
  · rw [fileName, stem_capitalize, fileName]

/-- The first character of a segment can become several. -/
example : stem "\u00dfa__\ufb01_bC".toList = "SSa__FI_BC".toList := by decide +kernel

end Convention
end ModelNav
