import ModelNav.Proofs.Document
import ModelNav.Proofs.FileSystem.Reading
import ModelNav.Proofs.Load.LineEnds
import ModelNav.Proofs.Resolution.Appending

/-!
# Documents as texts and as files

A text whose carriage returns all stand before line feeds can be handed over as it is, or be written
to a file and read back.  Reading changes its line ends, and nothing else: the lines and the words
under the cursor stay the same, the loads do up to the line ends in their paths, and so does every
resolution that has no such path to go by.
-/

namespace ModelNav

namespace Resolution

/-- A document without the carriage returns before its line feeds resolves like the document, when
they all stand there and no path of a load goes over a line end. -/
theorem resolve_dropReturns
    {document other : Document}
    (paired : document.text.PairedReturns)
    (dropped : other.text = document.text.dropReturns)
    (feedFree : ∀ load ∈ Load.parse document.text, '\n' ∉ load.rawPath)
    (files : FileSystem)
    (settings : Settings)
    (position : Position)
    (folders : List Path) :
    resolve files settings other position folders =
      resolve files settings document position folders := by
  apply resolve_congr
  · rw [Document.lineAt_natCast, Document.lineAt_natCast, Document.lines, Document.lines, dropped,
      paired.lines_dropReturns]
  · intro call _
    rw [dropped, Load.parse_dropReturns_of_feedFree feedFree]

/-- A text in which all carriage returns stand before line feeds loses them when it is read from a
file, and gives the same answers: its lines, the word at every position, its loads up to the line
ends in their fields, and, when no path of a load goes over a line end, every resolution. -/
theorem exists_load_agreeing
    (store : FileSystem)
    (path : Path)
    (document : Document)
    (paired : document.text.PairedReturns)
    (holds : store.read path = .ok (Utf8.encode document.text)) :
    ∃ loaded : Document,
      (Document.load store path).outcome = .ok loaded ∧
        loaded.text = document.text.dropReturns ∧
        loaded.lines = document.lines ∧
        (∀ position, loaded.wordAt? position = document.wordAt? position) ∧
        Load.parse loaded.text = (Load.parse document.text).map Load.dropReturns ∧
        ((∀ load ∈ Load.parse document.text, '\n' ∉ load.rawPath) →
          ∀ (files : FileSystem) (settings : Settings) (position : Position)
            (folders : List Path),
            resolve files settings loaded position folders =
              resolve files settings document position folders) := by
  have read : store.readText path = .ok document.text.dropReturns := by
    rw [FileSystem.readText_of_read holds, paired.unifyLineEnds_eq]
  have sameLines : (Document.mk document.text.dropReturns (some path)).lines = document.lines :=
    paired.lines_dropReturns
  refine ⟨⟨document.text.dropReturns, some path⟩, ?_, rfl, sameLines, ?_, ?_, ?_⟩
  · rw [Document.load_of_readText read, Traced.outcome_pure]
  · intro position
    rw [Document.wordAt?, Document.wordAt?, Document.lineAt_natCast, Document.lineAt_natCast,
      sameLines]
  · exact Load.parse_dropReturns document.text
  · intro feedFree
    exact resolve_dropReturns paired rfl feedFree

namespace Sample

/-- A document in which a load statement goes over three lines. -/
def spread : Document where
  text := "load->model(\r\n  'user_model'\r\n);\r\n$user_model->get(1);".toList

/-- A file system that holds the text of that document. -/
def store : FileSystem where
  workingDirectory := []
  entries := [([name "page.php" (by decide)], .file (Utf8.encode spread.text))]

end Sample

/-- Read from its file, the document whose load statement goes over three lines resolves as it does
as a text. -/
theorem exists_load_agreeing_sample :
    Sample.spread.text.PairedReturns ∧
      Sample.store.read (Path.ofText "page.php".toList) = .ok (Utf8.encode Sample.spread.text) ∧
      (∀ load ∈ Load.parse Sample.spread.text, '\n' ∉ load.rawPath) ∧
      ∃ loaded : Document,
        (Document.load Sample.store (Path.ofText "page.php".toList)).outcome = .ok loaded ∧
          loaded.text ≠ Sample.spread.text ∧
          resolve Sample.files Settings.initial loaded ⟨3, 3⟩ Sample.folders =
            resolve Sample.files Settings.initial Sample.spread ⟨3, 3⟩ Sample.folders := by
  have paired : Sample.spread.text.PairedReturns := by decide +kernel
  have holds : Sample.store.read (Path.ofText "page.php".toList) =
      .ok (Utf8.encode Sample.spread.text) := by
    decide +kernel
  have feedFree : ∀ load ∈ Load.parse Sample.spread.text, '\n' ∉ load.rawPath := by
    decide +kernel
  obtain ⟨loaded, isLoaded, dropped, -, -, -, sameAnswers⟩ :=
    exists_load_agreeing Sample.store _ Sample.spread paired holds
  refine ⟨paired, holds, feedFree, loaded, isLoaded, ?_, sameAnswers feedFree _ _ _ _⟩
  rw [dropped]
  decide

end Resolution
end ModelNav
