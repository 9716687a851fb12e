import ModelNav.Proofs.Load.Appending
import ModelNav.Proofs.Resolution.Links
import ModelNav.Proofs.Text.Lines

/-!
# Resolution in documents that grow

A resolution reads the line of the cursor and the first load of the variable that is called there.
Text at the end of a document changes neither, once the line is closed and the load is there.
-/

namespace ModelNav
namespace Resolution

/-- Two documents with the same line at the cursor, and with the same load for the call on it, have
the same resolution. -/
theorem resolve_congr
    {document other : Document}
    {position : Position}
    (sameLine : document.lineAt position.line = other.lineAt position.line)
    (sameLoad : ∀ call, Call.find? (document.lineAt position.line) = some call →
      Load.find? (Load.parse document.text) call.variableName =
        Load.find? (Load.parse other.text) call.variableName)
    (files : FileSystem)
    (settings : Settings)
    (folders : List Path) :
    resolve files settings document position folders =
      resolve files settings other position folders := by
  have sameWord : document.wordAt? position = other.wordAt? position := by
    rw [Document.wordAt?, Document.wordAt?, sameLine]
  unfold resolve
  rw [sameWord, ← sameLine]
  split
  · rfl
  · cases folders with
    | nil => rfl
    | cons workspace others =>
        cases found : Call.find? (document.lineAt position.line) with
        | none => rfl
        | some call => simp only [sameLoad call found]

/-- A line that is not the last one stays as it is when more text follows. -/
theorem lineAt_append
    {text : Text}
    {line : Nat}
    (notLast : line + 1 < text.lines.length)
    (appended : Text)
    (path : Option Path) :
    (Document.mk (text ++ appended) path).lineAt line = (Document.mk text path).lineAt line := by
  rw [Document.lineAt_natCast, Document.lineAt_natCast, List.getD_eq_getElem?_getD,
    List.getD_eq_getElem?_getD, Document.lines, Document.lines,
    Text.getElem?_lines_append notLast appended]

/-- Appended text leaves all loads of a text in place, whatever it completes; so a call on a line
that is not the last one, of a variable that the text loads, resolves as before. -/
theorem resolve_append
    (text appended : Text) :
    Load.parse text <+: Load.parse (text ++ appended) ∧
      ∀ (files : FileSystem) (settings : Settings) (position : Position) (folders : List Path)
        (path : Option Path) (call : Call),
        position.line + 1 ≠ (Document.mk text path).lines.length →
        call.IsFirst ((Document.mk text path).lineAt position.line) →
        (∃ load ∈ Load.parse text, load.Names call.variableName) →
        resolve files settings ⟨text ++ appended, path⟩ position folders =
          resolve files settings ⟨text, path⟩ position folders := by
  refine ⟨Load.parse_isPrefix_append text appended, ?_⟩
  intro files settings position folders path call notLast isFirst loaded
  obtain ⟨load, present, names⟩ := loaded
  have named := (Load.modelName_eq_iff_names present).mpr names
  have found := Call.find?_eq_some_iff.mpr isFirst
  have inside : position.line < (Document.mk text path).lines.length := by
    apply Document.lt_length_of_lineAt_ne_nil
    intro empty
    rw [empty] at found
    contradiction
  have sameLine := lineAt_append (Nat.lt_of_le_of_ne inside notLast) appended path
  apply resolve_congr sameLine
  intro other foundOther
  rw [sameLine, found, Option.some.injEq] at foundOther
  subst foundOther
  exact Load.find?_parse_append ⟨load, present, named⟩ appended

/-- The end of the sample document cuts a statement that the appended text finishes. -/
theorem resolve_append_sample :
    resolve Sample.files Settings.initial
        ⟨Sample.otherDocument.text ++ "\nload->model(".toList ++ "'user_model')".toList, none⟩
        ⟨1, 3⟩ Sample.folders =
      resolve Sample.files Settings.initial
        ⟨Sample.otherDocument.text ++ "\nload->model(".toList, none⟩ ⟨1, 3⟩ Sample.folders := by
  have called : Call.find? ((Document.mk (Sample.otherDocument.text ++ "\nload->model(".toList)
      none).lineAt 1) = some ⟨"item_vo".toList, "get".toList⟩ := by
    decide +kernel
  have present : Load.ofPath "item_vo".toList ∈
      Load.parse (Sample.otherDocument.text ++ "\nload->model(".toList) := by
    decide +kernel
  exact (resolve_append _ "'user_model')".toList).2 Sample.files Settings.initial ⟨1, 3⟩
    Sample.folders none _ (by decide +kernel) (Call.find?_eq_some_iff.mp called)
    ⟨Load.ofPath "item_vo".toList, present, by decide +kernel⟩

end Resolution
end ModelNav
