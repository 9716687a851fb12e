import Mathlib.Data.List.Basic
import ModelNav.FileSystem.ReadText

/-!
# Paths that lead somewhere

A file system has a path when following it ends at an entry.  A path with a NUL character leads
nowhere, and only such a path makes listing or reading fail because of a NUL.
-/

namespace ModelNav

/-- Two computations in a row fail when the first one fails or what follows its value does. -/
theorem bind_eq_error_iff
    {ε α β : Type}
    {first : Except ε α}
    {next : α → Except ε β}
    {fault : ε} :
    (first >>= next) = .error fault ↔
      first = .error fault ∨ ∃ value, first = .ok value ∧ next value = .error fault := by
  cases first <;> simp [Bind.bind, Except.bind]

/-- Two computations in a row end with a value when both do. -/
theorem bind_eq_ok_iff
    {ε α β : Type}
    {first : Except ε α}
    {next : α → Except ε β}
    {result : β} :
    (first >>= next) = .ok result ↔ ∃ value, first = .ok value ∧ next value = .ok result := by
  cases first <;> simp [Bind.bind, Except.bind]

namespace Path

/-- No character of the written path is a NUL. -/
def NulFree (path : Path) : Prop :=
  '\x00' ∉ path.toText

instance (path : Path) : Decidable path.NulFree :=
  inferInstanceAs (Decidable ('\x00' ∉ path.toText))

end Path

namespace FileSystem

variable {files : FileSystem} {path : Path}

/-- The path leads to an entry. -/
def Has (files : FileSystem) (path : Path) : Prop :=
  ∃ place, files.lookup path = .ok place

instance (files : FileSystem) (path : Path) : Decidable (files.Has path) :=
  match found : files.lookup path with
  | .ok place => isTrue ⟨place, found⟩
  | .error _ => isFalse fun ⟨_, impossible⟩ => by simp [found] at impossible

/-- A path is refused for a NUL exactly when it has one. -/
theorem lookup_eq_nulInPath_iff :
    files.lookup path = .error .nulInPath ↔ ¬path.NulFree := by
  unfold lookup Path.NulFree
  dsimp only
  split
  · rename_i nul
    simpa using nul
  · rename_i noNul
    have nulFree : '\x00' ∉ path.toText := by simpa using noNul
    simp only [nulFree, not_true_eq_false, not_false_eq_true, iff_false]
    split
    · simp
    · split
      · simp
      · split <;> simp

/-- A path that leads somewhere has no NUL. -/
theorem Has.nulFree (has : files.Has path) : path.NulFree := by
  obtain ⟨place, found⟩ := has
  by_contra nul
  rw [lookup_eq_nulInPath_iff.mpr nul] at found
  contradiction

/-- A path without a NUL can be listed, or the file system refuses it. -/
theorem list_ne_nulInPath
    (nulFree : path.NulFree) :
    files.list path ≠ .error .nulInPath := by
  intro failed
  rcases bind_eq_error_iff.mp failed with unfound | ⟨⟨location, entry⟩, -, refused⟩
  · exact lookup_eq_nulInPath_iff.mp unfound nulFree
  · cases entry <;> cases refused

/-- A path without a NUL can be read as text, or it fails for another reason. -/
theorem readText_ne_nulInPath
    (nulFree : path.NulFree) :
    files.readText path ≠ .error (.access .nulInPath) := by
  intro failed
  rcases bind_eq_error_iff.mp failed with unread | ⟨bytes, -, undecoded⟩
  · cases read : files.read path with
    | ok bytes =>
        rw [read] at unread
        cases unread
    | error fault =>
        rw [read] at unread
        obtain rfl : fault = .nulInPath := by simpa [Except.mapError] using unread
        rcases bind_eq_error_iff.mp read with unfound | ⟨⟨location, entry⟩, -, refused⟩
        · exact lookup_eq_nulInPath_iff.mp unfound nulFree
        · cases entry <;> cases refused
  · rcases bind_eq_error_iff.mp undecoded with invalid | ⟨text, -, impossible⟩
    · cases decoded : Utf8.decode bytes with
      | ok text =>
          rw [decoded] at invalid
          cases invalid
      | error fault =>
          rw [decoded] at invalid
          cases invalid
    · cases impossible

/-- A path with a NUL is refused before anything is read. -/
theorem readText_of_not_nulFree
    (nul : ¬path.NulFree) :
    files.readText path = .error (.access .nulInPath) := by
  unfold readText read
  rw [lookup_eq_nulInPath_iff.mpr nul]
  rfl

/-- The path leads to no file, or to a file whose bytes are no text.  A path with a NUL character is
not meant: asking for it is a failure of its own. -/
def Unreadable (files : FileSystem) (path : Path) : Prop :=
  ∃ fault, files.readText path = .error fault ∧ fault ≠ .access .nulInPath

/-- A path without a NUL leads to a text, or it cannot be read. -/
theorem exists_readText_or_unreadable
    (files : FileSystem)
    (nulFree : path.NulFree) :
    (∃ text, files.readText path = .ok text) ∨ files.Unreadable path := by
  cases read : files.readText path with
  | ok text => exact Or.inl ⟨text, rfl⟩
  | error fault =>
      refine Or.inr ⟨fault, read, ?_⟩
      rintro rfl
      exact readText_ne_nulInPath nulFree read

/-- A path that is said to lead to a directory does. -/
theorem lookup_of_isDirectory?
    (isDirectory : files.isDirectory? path = .ok true) :
    ∃ location, files.lookup path = .ok (location, .directory) := by
  unfold isDirectory? test at isDirectory
  split at isDirectory
  · rename_i location entry found
    cases entry with
    | directory => exact ⟨location, found⟩
    | file content => cases isDirectory
  · cases isDirectory
  · cases isDirectory

/-- Testing a path never fails because of a NUL. -/
theorem test_ne_nulInPath
    (holds : Entry → Bool) :
    files.test holds path ≠ .error .nulInPath := by
  unfold test
  split <;> simp

end FileSystem
end ModelNav
