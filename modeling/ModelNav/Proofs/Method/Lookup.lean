import Mathlib.Data.List.Basic
import ModelNav.Proofs.FileSystem
import ModelNav.Proofs.Method.Definition
import ModelNav.Proofs.Text.JoinedLines

/-!
# What the search for a method finds

The search gives the first line that defines the method, and nothing exactly when no line does.  A
method that was found has a declaration, because its line holds a parenthesis; so the value that
stands for a file that cannot be read is never mistaken for a method.
-/

namespace ModelNav

namespace Text

theorem join_cons_ne_nil
    {separator piece : Text}
    (present : piece ≠ [])
    (pieces : List Text) :
    join separator (piece :: pieces) ≠ [] := by
  cases pieces with
  | nil => simpa using present
  | cons next pieces =>
      rw [join, List.intercalate_cons_cons]
      simp [present]

end Text

namespace Declaration

/-- The header begins with its first line, whatever ends it. -/
theorem exists_gather_succ_cons
    (count : Nat)
    (line : Text)
    (rest : List Text) :
    ∃ further, gather (count + 1) (line :: rest) = line.trim :: further := by
  rw [gather]
  split
  · exact ⟨_, rfl⟩
  · split
    · exact ⟨_, rfl⟩
    · split
      · exact ⟨_, rfl⟩
      · exact ⟨_, rfl⟩

/-- A declaration is not empty when the line it starts at is not blank. -/
theorem startingAt_ne_nil
    {lines : List Text}
    {start : Nat}
    {extra : Int}
    {line : Text}
    (standsAt : lines[start]? = some line)
    (visible : line.trim ≠ [])
    (nonnegative : 0 ≤ extra) :
    startingAt lines start extra ≠ [] := by
  obtain ⟨inBounds, rfl⟩ := List.getElem?_eq_some_iff.mp standsAt
  have from_start : linesFrom lines start = lines[start] :: lines.drop (start + 1) :=
    List.drop_eq_getElem_cons inBounds
  have count : (extra + 1).toNat = extra.toNat + 1 := by omega
  obtain ⟨further, gathered⟩ :=
    exists_gather_succ_cons extra.toNat lines[start] (lines.drop (start + 1))
  rw [startingAt, from_start, count, gathered]
  exact Text.join_cons_ne_nil visible further

/-- The parts of a header are lines, trimmed, and a brace. -/
theorem gather_subset
    (count : Nat)
    (lines : List Text) :
    gather count lines ⊆ ['{'] :: lines.map Text.trim := by
  induction count generalizing lines with
  | zero => exact List.nil_subset _
  | succ count inductionHypothesis =>
      cases lines with
      | nil => exact List.nil_subset _
      | cons line rest =>
          have whole : line.trim :: gather count rest ⊆
              ['{'] :: (line :: rest).map Text.trim := by
            refine List.cons_subset.mpr ⟨by simp, List.Subset.trans (inductionHypothesis rest) ?_⟩
            exact List.cons_subset_cons _ (List.subset_cons_self _ _)
          rw [gather]
          split
          · exact whole
          · split
            · simp
            · split
              · simp
              · exact whole

/-- A declaration has no characters but those of the lines, blanks between them and a brace. -/
theorem notMem_startingAt
    {lines : List Text}
    {character : Char}
    (absent : ∀ line ∈ lines, character ∉ line)
    (noSpace : character ≠ ' ')
    (noBrace : character ≠ '{')
    (start : Nat)
    (extra : Int) :
    character ∉ startingAt lines start extra := by
  rw [startingAt, Text.mem_join_iff (by simpa using noSpace)]
  rintro ⟨part, isPart, inPart⟩
  rcases List.mem_cons.mp (gather_subset _ _ isPart) with rfl | isTrimmed
  · exact noBrace (List.mem_singleton.mp inPart)
  · obtain ⟨line, isLine, rfl⟩ := List.mem_map.mp isTrimmed
    exact absent line (List.mem_of_mem_drop isLine) (Text.mem_of_mem_trim inPart)

end Declaration

namespace Method

/-- The search gives the method at the first line that defines it. -/
theorem findIn?_eq_some_iff
    {lines : List Text}
    {name : Text}
    {extra : Int}
    {method : Method} :
    findIn? lines name extra = some method ↔
      ∃ index line,
        lines[index]? = some line ∧ Defines name line ∧
          (∀ earlier < index, ∀ other, lines[earlier]? = some other → ¬Defines name other) ∧
          method = definedAt lines name extra index line := by
  simp only [findIn?, Option.bind_eq_bind, Option.bind_eq_some_iff, Option.pure_def,
    Option.some.injEq]
  constructor
  · rintro ⟨index, found, line, standsAt, rfl⟩
    obtain ⟨inBounds, defines, first⟩ := List.findIdx?_eq_some_iff_getElem.mp found
    rw [List.getElem?_eq_getElem inBounds, Option.some.injEq] at standsAt
    refine ⟨index, line, ?_, ?_, ?_, rfl⟩
    · rw [List.getElem?_eq_getElem inBounds, standsAt]
    · rw [← standsAt]
      exact isDefinition_iff.mp defines
    · intro earlier before other isOther definesOther
      obtain ⟨earlierInBounds, rfl⟩ := List.getElem?_eq_some_iff.mp isOther
      exact first earlier before (isDefinition_iff.mpr definesOther)
  · rintro ⟨index, line, standsAt, defines, first, rfl⟩
    obtain ⟨inBounds, rfl⟩ := List.getElem?_eq_some_iff.mp standsAt
    refine ⟨index, ?_, lines[index], standsAt, rfl⟩
    refine List.findIdx?_eq_some_iff_getElem.mpr ⟨inBounds, isDefinition_iff.mpr defines, ?_⟩
    intro earlier before isDefined
    have earlierInBounds : earlier < lines.length := Nat.lt_trans before inBounds
    exact first earlier before lines[earlier] (List.getElem?_eq_getElem earlierInBounds)
      (isDefinition_iff.mp isDefined)

/-- The search gives nothing exactly when no line defines the method. -/
theorem findIn?_eq_none_iff
    {lines : List Text}
    {name : Text}
    {extra : Int} :
    findIn? lines name extra = none ↔ ∀ line ∈ lines, ¬Defines name line := by
  constructor
  · intro nothing line present defines
    cases found : lines.findIdx? (isDefinition name) with
    | none =>
        have unfit := List.findIdx?_eq_none_iff.mp found line present
        rw [isDefinition_iff.mpr defines] at unfit
        contradiction
    | some index =>
        obtain ⟨inBounds, -⟩ := List.findIdx?_eq_some_iff_getElem.mp found
        simp [findIn?, found, List.getElem?_eq_getElem inBounds] at nothing
  · intro undefined
    rw [Option.eq_none_iff_forall_ne_some]
    intro method found
    obtain ⟨index, line, standsAt, defines, -⟩ := findIn?_eq_some_iff.mp found
    exact undefined line (List.mem_of_getElem? standsAt) defines

/-- A method that was found has a declaration. -/
theorem declaration_ne_nil_of_findIn?
    {lines : List Text}
    {name : Text}
    {extra : Int}
    {method : Method}
    (nonnegative : 0 ≤ extra)
    (found : findIn? lines name extra = some method) :
    method.declaration ≠ [] := by
  obtain ⟨index, line, standsAt, defines, -, rfl⟩ := findIn?_eq_some_iff.mp found
  have visible : line.trim ≠ [] :=
    List.ne_nil_of_mem (Text.mem_trim_of_mem defines.mem_parenthesis rfl)
  exact Declaration.startingAt_ne_nil standsAt visible nonnegative

/-- The declaration of a method in a text without carriage returns stands on one line. -/
theorem clean_declaration_of_findIn?
    {text name : Text}
    {extra : Int}
    {method : Method}
    (returnFree : '\r' ∉ text)
    (found : findIn? text.lines name extra = some method) :
    '\n' ∉ method.declaration ∧ '\r' ∉ method.declaration := by
  obtain ⟨index, line, -, -, -, rfl⟩ := findIn?_eq_some_iff.mp found
  have clean (other : Text) (isLine : other ∈ text.lines) :=
    Text.clean_of_mem_lines returnFree isLine
  constructor
  · exact Declaration.notMem_startingAt (fun other isLine => (clean other isLine).1) (by decide)
      (by decide) index extra
  · exact Declaration.notMem_startingAt (fun other isLine => (clean other isLine).2) (by decide)
      (by decide) index extra

/-- A method that was found is not the value that stands for an unreadable file. -/
theorem isEmpty_eq_false_of_findIn?
    {lines : List Text}
    {name : Text}
    {extra : Int}
    {method : Method}
    (nonnegative : 0 ≤ extra)
    (found : findIn? lines name extra = some method) :
    method.isEmpty = false := by
  simp [isEmpty, declaration_ne_nil_of_findIn? nonnegative found]

/-! ## Methods in files -/

section File

variable {files : FileSystem} {path : Path}

theorem outcome_findInFile_of_read
    {text : Text}
    (read : files.readText path = .ok text)
    (settings : Settings)
    (name : Text) :
    (findInFile files settings path name).outcome =
      .ok (findIn? text.lines name settings.declarationLineLimit) := by
  rw [findInFile, read]
  rfl

theorem outcome_findInFile_of_unreadable
    (unreadable : files.Unreadable path)
    (settings : Settings)
    (name : Text) :
    (findInFile files settings path name).outcome = .ok (some Method.empty) := by
  obtain ⟨fault, unread, notNul⟩ := unreadable
  unfold findInFile
  split
  · rename_i read
    rw [unread] at read
    contradiction
  · rename_i read
    rw [unread, Except.error.injEq] at read
    contradiction
  · rfl

end File

end Method
end ModelNav
