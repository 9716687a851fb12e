import ModelNav.Proofs.FileSystem.Reading
import ModelNav.Proofs.Method.Lookup
import ModelNav.Proofs.Text.JoinedLines

/-!
# Methods in files with different line ends

A method is looked up in the lines that a file is made of, whichever line ends stand between them.
In a file whose bytes are no text nothing is known of any method.
-/

namespace ModelNav
namespace Method

variable {lines : List Text} {text : Text}

/-- The one empty line of an empty text defines no method. -/
theorem findIn?_lines_join
    (clean : ∀ line ∈ lines, '\n' ∉ line ∧ '\r' ∉ line)
    (name : Text)
    (extra : Int) :
    findIn? (Text.lines (Text.join ['\n'] lines)) name extra = findIn? lines name extra := by
  rw [Text.lines_join clean]
  split
  · rename_i empty
    have undefined : ∀ line ∈ [([] : Text)], ¬Defines name line := by
      intro line isEmpty defines
      obtain rfl := List.mem_singleton.mp isEmpty
      exact List.not_mem_nil defines.mem_parenthesis
    rw [empty, findIn?_eq_none_iff.mpr undefined, findIn?_eq_none_iff.mpr (by simp)]
  · rfl

/-- In a file that is made of lines, with line feeds alone or behind a carriage return between them,
or with carriage returns alone, a method is found exactly as in these lines.  A file whose bytes are
not valid gives the empty method. -/
theorem outcome_findInFile_of_content
    {files : FileSystem}
    {path : Path}
    {content : Bytes}
    (holds : files.read path = .ok content)
    (settings : Settings)
    (name : Text) :
    (∀ (lines : List Text) (text : Text),
      (∀ line ∈ lines, '\n' ∉ line ∧ '\r' ∉ line) →
        Text.JoinedBy [['\n'], ['\r', '\n']] lines text ∨ text = Text.join ['\r'] lines →
          content = Utf8.encode text →
            (findInFile files settings path name).outcome =
              .ok (findIn? lines name settings.declarationLineLimit)) ∧
      (¬content.toByteArray.IsValidUTF8 →
        (findInFile files settings path name).outcome = .ok (some Method.empty)) := by
  constructor
  · rintro lines text clean madeOf rfl
    have unified : text.unifyLineEnds = Text.join ['\n'] lines := by
      rcases madeOf with joined | rfl
      · exact Text.unifyLineEnds_of_joinedBy joined fun line present => (clean line present).2
      · exact Text.unifyLineEnds_join_return clean
    rw [outcome_findInFile_of_read (FileSystem.readText_of_read holds), unified,
      findIn?_lines_join clean]
  · intro invalid
    exact outcome_findInFile_of_unreadable
      (FileSystem.unreadable_of_not_isValidUTF8 holds invalid) settings name

namespace Sample

/-- The lines of a file with a method, the last one empty. -/
def penLines : List Text :=
  ["<?php".toList, [], "// Reads.".toList, "function get($a) \x7b".toList, []]

/-- A text that is made of these lines, with line feeds of both kinds. -/
def penText : Text :=
  "<?php\r\n\n// Reads.\nfunction get($a) \x7b\r\n".toList

theorem joinedBy_penLines : Text.JoinedBy [['\n'], ['\r', '\n']] penLines penText :=
  have feed : ['\n'] ∈ ([['\n'], ['\r', '\n']] : List Text) := by decide
  have both : ['\r', '\n'] ∈ ([['\n'], ['\r', '\n']] : List Text) := by decide
  .next both (by simp) <| .next feed (by simp) <| .next feed (by simp) <| .next both (by simp) <|
    .last []

/-- A directory with a file of this text, and with a file that a byte sequence cut short ends. -/
def twoFiles : FileSystem where
  workingDirectory := []
  entries := [
    ([⟨"Pen_model.php".toList, by decide⟩], .file (Utf8.encode penText)),
    ([⟨"Cut_model.php".toList, by decide⟩], .file [0x66, 0xC3])]

end Sample

/-- The method is found in the file whose line ends differ, and the other file gives the empty
method. -/
theorem outcome_findInFile_of_content_sample :
    Sample.twoFiles.read (Path.ofText "Pen_model.php".toList) =
        .ok (Utf8.encode Sample.penText) ∧
      (∀ line ∈ Sample.penLines, '\n' ∉ line ∧ '\r' ∉ line) ∧
      Text.JoinedBy [['\n'], ['\r', '\n']] Sample.penLines Sample.penText ∧
      (findInFile Sample.twoFiles Settings.initial (Path.ofText "Pen_model.php".toList)
        "get".toList).outcome =
          .ok (some ⟨3, 9, "Reads.".toList, "function get($a) \x7b".toList⟩) ∧
      Sample.twoFiles.read (Path.ofText "Cut_model.php".toList) = .ok [0x66, 0xC3] ∧
      ¬(([0x66, 0xC3] : Bytes).toByteArray.IsValidUTF8) ∧
      (findInFile Sample.twoFiles Settings.initial (Path.ofText "Cut_model.php".toList)
        "get".toList).outcome = .ok (some Method.empty) := by
  have holds : Sample.twoFiles.read (Path.ofText "Pen_model.php".toList) =
      .ok (Utf8.encode Sample.penText) := by
    decide +kernel
  have holdsCut : Sample.twoFiles.read (Path.ofText "Cut_model.php".toList) =
      .ok [0x66, 0xC3] := by
    decide +kernel
  have clean : ∀ line ∈ Sample.penLines, '\n' ∉ line ∧ '\r' ∉ line := by decide
  have invalid : ¬(([0x66, 0xC3] : Bytes).toByteArray.IsValidUTF8) := by
    rw [← Utf8.exists_decode_eq_ok_iff]
    rintro ⟨text, read⟩
    contradiction
  have found : findIn? Sample.penLines "get".toList Settings.initial.declarationLineLimit =
      some ⟨3, 9, "Reads.".toList, "function get($a) \x7b".toList⟩ := by
    decide +kernel
  obtain ⟨madeOfLines, -⟩ :=
    outcome_findInFile_of_content holds Settings.initial "get".toList
  obtain ⟨-, noText⟩ :=
    outcome_findInFile_of_content holdsCut Settings.initial "get".toList
  refine ⟨holds, clean, Sample.joinedBy_penLines, ?_, holdsCut, invalid, noText invalid⟩
  rw [madeOfLines Sample.penLines Sample.penText clean (Or.inl Sample.joinedBy_penLines) rfl, found]

end Method
end ModelNav
