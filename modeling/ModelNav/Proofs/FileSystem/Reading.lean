import ModelNav.Proofs.FileSystem
import ModelNav.Proofs.Text.JoinedLines
import ModelNav.Proofs.Text.Utf8Validity

/-!
# What reading a file gives

A file that holds the bytes of a text is read as that text with unified line ends.  A file that
holds other bytes cannot be read.
-/

namespace ModelNav
namespace FileSystem

variable {files : FileSystem} {path : Path}

/-- A file that holds a text is read as that text with unified line ends. -/
theorem readText_of_read
    {text : Text}
    (holds : files.read path = .ok (Utf8.encode text)) :
    files.readText path = .ok text.unifyLineEnds := by
  simp [readText, holds, Utf8.decode_encode, Except.mapError, Bind.bind, Except.bind, pure,
    Except.pure]

/-- What is read from a file has no carriage returns. -/
theorem return_notMem_of_readText
    {text : Text}
    (read : files.readText path = .ok text) :
    '\r' ∉ text := by
  cases held : files.read path with
  | error fault => simp [readText, held, Except.mapError, Bind.bind, Except.bind] at read
  | ok bytes =>
      cases decoded : Utf8.decode bytes with
      | error fault =>
          simp [readText, held, decoded, Except.mapError, Bind.bind, Except.bind] at read
      | ok whole =>
          obtain rfl : whole.unifyLineEnds = text := by
            simpa [readText, held, decoded, Except.mapError, Bind.bind, Except.bind, pure,
              Except.pure] using read
          exact Text.return_notMem_unifyLineEnds whole

/-- A file whose bytes are not valid cannot be read. -/
theorem unreadable_of_not_isValidUTF8
    {bytes : Bytes}
    (holds : files.read path = .ok bytes)
    (invalid : ¬bytes.toByteArray.IsValidUTF8) :
    files.Unreadable path := by
  cases decoded : Utf8.decode bytes with
  | ok text => exact absurd (Utf8.exists_decode_eq_ok_iff.mp ⟨text, decoded⟩) invalid
  | error fault =>
      refine ⟨.undecodable fault, ?_, by simp⟩
      simp [readText, holds, decoded, Except.mapError, Bind.bind, Except.bind]

end FileSystem
end ModelNav
