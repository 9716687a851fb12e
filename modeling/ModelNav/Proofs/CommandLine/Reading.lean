import Mathlib.Data.Bool.AllAny
import ModelNav.CommandLine.Command
import ModelNav.Proofs.FileSystem
import ModelNav.Proofs.Path
import ModelNav.Proofs.Text.Numeral

/-!
# Reading a place from the command line

The arguments for a place are read back as they were written, unless the path of the file has a NUL
or a numeral is too long.
-/

namespace ModelNav
namespace CommandLine

section Arguments

variable {allowed : List OptionName} {first : Char} {rest : Text} {arguments : List Text}

/-- An argument that begins with no dash is positional. -/
theorem scan?_positional
    (notDash : first ≠ '-') :
    scan? allowed true ((first :: rest) :: arguments) =
      (scan? allowed true arguments).map fun others =>
        { others with positional := (first :: rest) :: others.positional } := by
  have notEnd : first :: rest ≠ ['-', '-'] := by simp [notDash]
  have notOption : isOption (first :: rest) = false := by
    simp [isOption, Text.startsWith, notDash.symm]
  rw [scan?, if_neg notEnd, notOption]
  cases scan? allowed true arguments <;> rfl

end Arguments

/-- The arguments that ask for the definition at a place in a workspace. -/
def definitionArguments (file workspace : Path) (line column : Nat) : List Text :=
  [file.toText, Numeral.ofNat line, Numeral.ofNat column, "-w".toList, workspace.toText]

theorem scan?_definitionArguments
    {file : Path}
    (normal : file.Normal)
    (workspace : Path)
    (line column : Nat) :
    scan? CommandName.definition.options true (definitionArguments file workspace line column) =
      some ⟨[⟨.workspace, workspace.toText⟩],
        [file.toText, Numeral.ofNat line, Numeral.ofNat column]⟩ := by
  have digit_ne : ∀ digit ∈ digits, digit ≠ '-' := List.all_iff_forall_prop.mp (by decide)
  obtain ⟨lineFirst, lineRest, lineWritten, lineDigit⟩ := Numeral.exists_cons_ofNat line
  obtain ⟨columnFirst, columnRest, columnWritten, columnDigit⟩ := Numeral.exists_cons_ofNat column
  have option : scan? CommandName.definition.options true ["-w".toList, workspace.toText] =
      some ⟨[⟨.workspace, workspace.toText⟩], []⟩ := rfl
  unfold definitionArguments
  rw [normal.toText_eq, lineWritten, columnWritten, scan?_positional (by decide),
    scan?_positional (digit_ne _ (mem_digits_of_isDigit lineDigit)),
    scan?_positional (digit_ne _ (mem_digits_of_isDigit columnDigit)), option]
  rfl

/-- A count is read unless its numeral is too long. -/
theorem readCount_ofNat
    {count : Nat}
    (positive : 1 ≤ count) :
    readCount (Numeral.ofNat count) =
      if 10 ^ Numeral.digitLimit ≤ count then .error .usage else .ok count := by
  rw [readCount, readNumber, Numeral.read_ofNat]
  simp only [Numeral.digitLimit_lt_length_ofNat_iff]
  split
  · rfl
  · have atLeastOne : (1 : Int) ≤ count := by exact_mod_cast positive
    change (if (1 : Int) ≤ count then Except.ok (count : Int).toNat else _) = _
    rw [if_pos atLeastOne, Int.toNat_natCast]

/-- A normal path of an entry that is not refused is read unless it has a NUL. -/
theorem readPath_toText
    {files : FileSystem}
    {refused : FileSystem → Path → Except AccessFault Bool}
    {path : Path}
    (normal : path.Normal)
    (accepted : refused files path ≠ .ok true) :
    readPath files refused path.toText =
      if path.NulFree then .ok path else .error .usage := by
  unfold readPath
  rw [files.absolute_toText normal]
  by_cases nulFree : path.NulFree
  · have noNul : path.toText.contains '\x00' = false := by
      simpa [Path.NulFree] using nulFree
    simp only [noNul, nulFree, Bool.false_eq_true, if_false, if_true]
  · have nul : path.toText.contains '\x00' = true := by
      simpa [Path.NulFree] using nulFree
    simp only [nul, nulFree, if_true, if_false]

/-- A place that can be asked about: an absolute path of a file, which may be missing but is no
directory, a workspace that exists, and a line and a column counted from one. -/
structure Askable
    (files : FileSystem)
    (file workspace : Path)
    (line column : Nat) : Prop where
  fileNormal : file.Normal
  workspaceNormal : workspace.Normal
  notDirectory : files.isDirectory? file ≠ .ok true
  isDirectory : files.isDirectory? workspace = .ok true
  line_pos : 1 ≤ line
  column_pos : 1 ≤ column

/-- The workspace of such a place has no NUL. -/
theorem Askable.nulFree_workspace
    {files : FileSystem}
    {file workspace : Path}
    {line column : Nat}
    (askable : Askable files file workspace line column) :
    workspace.NulFree := by
  obtain ⟨location, found⟩ := FileSystem.lookup_of_isDirectory? askable.isDirectory
  exact FileSystem.Has.nulFree ⟨_, found⟩

/-- The command line is understood when the path of the file has no NUL and the numerals are not too
long. -/
def Understood (file : Path) (line column : Nat) : Prop :=
  file.NulFree ∧ line < 10 ^ Numeral.digitLimit ∧ column < 10 ^ Numeral.digitLimit

section Reading

variable {files : FileSystem} {file workspace : Path} {line column : Nat}

/-- An existing directory is read as a workspace. -/
theorem readWorkspace_toText
    (normal : workspace.Normal)
    (isDirectory : files.isDirectory? workspace = .ok true) :
    readWorkspace files (some workspace.toText) = .ok (some workspace) := by
  obtain ⟨location, found⟩ := FileSystem.lookup_of_isDirectory? isDirectory
  have nulFree : workspace.NulFree := FileSystem.Has.nulFree ⟨_, found⟩
  have notFile : files.isFile? workspace ≠ .ok true := by
    simp [FileSystem.isFile?, FileSystem.test, found]
  rw [readWorkspace, readPath_toText normal notFile, if_pos nulFree]
  rfl

/-- The parts of a place are read in their order. -/
theorem read_definitionArguments
    (normal : file.Normal) :
    Command.read files .definition (definitionArguments file workspace line column) = (do
      let workspace ← readWorkspace files (some workspace.toText)
      let file ← readFile files file.toText
      let line ← readCount (Numeral.ofNat line)
      let column ← readCount (Numeral.ofNat column)
      return .definition ⟨file, line, column, workspace⟩) := by
  rw [Command.read, scan?_definitionArguments normal]
  change (readPlace files _ >>= fun place => pure (Command.definition place)) = _
  unfold readPlace
  simp only [bind_assoc]
  rfl

theorem Askable.read_of_understood
    (askable : Askable files file workspace line column)
    (understood : Understood file line column) :
    Command.read files .definition (definitionArguments file workspace line column) =
      .ok (.definition ⟨file, line, column, some workspace⟩) := by
  obtain ⟨nulFree, lineShort, columnShort⟩ := understood
  rw [read_definitionArguments askable.fileNormal,
    readWorkspace_toText askable.workspaceNormal askable.isDirectory, readFile,
    readPath_toText askable.fileNormal askable.notDirectory, if_pos nulFree,
    readCount_ofNat askable.line_pos, if_neg (Nat.not_le.mpr lineShort),
    readCount_ofNat askable.column_pos, if_neg (Nat.not_le.mpr columnShort)]
  rfl

theorem Askable.read_of_not_understood
    (askable : Askable files file workspace line column)
    (notUnderstood : ¬Understood file line column) :
    Command.read files .definition (definitionArguments file workspace line column) =
      .error .usage := by
  rw [read_definitionArguments askable.fileNormal,
    readWorkspace_toText askable.workspaceNormal askable.isDirectory, readFile,
    readPath_toText askable.fileNormal askable.notDirectory, readCount_ofNat askable.line_pos,
    readCount_ofNat askable.column_pos]
  by_cases nulFree : file.NulFree
  · by_cases lineShort : line < 10 ^ Numeral.digitLimit
    · have columnLong : 10 ^ Numeral.digitLimit ≤ column :=
        Nat.not_lt.mp fun columnShort => notUnderstood ⟨nulFree, lineShort, columnShort⟩
      rw [if_pos nulFree, if_neg (Nat.not_le.mpr lineShort), if_pos columnLong]
      rfl
    · rw [if_pos nulFree, if_pos (Nat.not_lt.mp lineShort)]
      rfl
  · rw [if_neg nulFree]
    rfl

end Reading

end CommandLine
end ModelNav
