import ModelNav.Proofs.Client
import ModelNav.Proofs.FileSystem.Reading
import ModelNav.Proofs.Text.JoinedLines

/-!
# What the markdown of a hover keeps

The parts of a hover stand one after the other and nothing in them is escaped.  They can be told
apart all the same: a declaration stands on one line, so the first line feed behind the opening of
its block ends it, and cutting at line feeds finds the lines of the comment again.  A comment
without words leaves a line end behind, so it is not mistaken for a comment that is missing.
-/

namespace ModelNav
namespace Hover

variable {first second : Hover}

/-! ## The comment -/

/-- Lines that are joined with hard breaks are found again by cutting and trimming. -/
theorem filter_map_trim_splitOn_join
    {lines : List Text}
    (clean : ∀ line ∈ lines, line ≠ [] ∧ line.trim = line ∧ '\n' ∉ line) :
    ((Text.splitOn '\n' (Text.join "  \n".toList lines)).map Text.trim).filter (· != []) =
      lines := by
  induction lines with
  | nil => rfl
  | cons line lines inductionHypothesis =>
      rw [List.forall_mem_cons] at clean
      obtain ⟨⟨present, trimmed, feedFree⟩, cleanLines⟩ := clean
      cases lines with
      | nil => simp [Text.splitOn_of_notMem feedFree, trimmed, present]
      | cons next others =>
          have broken : '\n' ∉ line ++ "  ".toList := by simpa using feedFree
          have split : Text.join "  \n".toList (line :: next :: others) =
              (line ++ "  ".toList) ++ '\n' :: Text.join "  \n".toList (next :: others) := by
            rw [Text.join_cons_cons]
            simp
          have blank : Text.isBlank "  ".toList = true := by decide
          rw [split, Text.splitOn_append_cons broken, List.map_cons, Text.trim_append_blanks blank,
            trimmed, List.filter_cons_of_pos (by simpa using present),
            inductionHypothesis cleanLines]

/-- The lines of a comment have words, are trimmed and hold no line feed. -/
theorem clean_commentLines (hover : Hover) :
    ∀ line ∈ hover.commentLines, line ≠ [] ∧ line.trim = line ∧ '\n' ∉ line := by
  intro line present
  rw [commentLines, List.mem_filter] at present
  obtain ⟨isTrimmed, visible⟩ := present
  obtain ⟨piece, isPiece, rfl⟩ := List.mem_map.mp isTrimmed
  refine ⟨by simpa using visible, Text.trim_trim piece, ?_⟩
  exact fun feed => Text.notMem_of_mem_splitOn isPiece (Text.mem_of_mem_trim feed)

/-- The lines can be told from the text in which they are joined. -/
theorem commentLines_eq_of_join_eq
    (same : Text.join "  \n".toList first.commentLines =
      Text.join "  \n".toList second.commentLines) :
    first.commentLines = second.commentLines := by
  rw [← filter_map_trim_splitOn_join first.clean_commentLines, same,
    filter_map_trim_splitOn_join second.clean_commentLines]

/-- What is shown of a comment keeps its lines, and whether there is a comment. -/
theorem commentPart_eq_iff :
    first.commentPart = second.commentPart ↔
      first.commentLines = second.commentLines ∧ (first.comment = [] ↔ second.comment = []) := by
  by_cases firstEmpty : first.comment = []
  · by_cases secondEmpty : second.comment = []
    · simp [commentPart, commentLines, firstEmpty, secondEmpty]
    · simp [commentPart, firstEmpty, secondEmpty]
  · by_cases secondEmpty : second.comment = []
    · simp [commentPart, firstEmpty, secondEmpty]
    · rw [commentPart, commentPart, if_neg firstEmpty, if_neg secondEmpty,
        List.append_cancel_right_eq]
      constructor
      · intro same
        exact ⟨commentLines_eq_of_join_eq same, iff_of_false firstEmpty secondEmpty⟩
      · rintro ⟨sameLines, -⟩
        rw [sameLines]

/-! ## The declaration -/

/-- Behind a declaration on one line everything can be told apart. -/
theorem declarationPart_append_eq_iff
    (firstPresent : first.declaration ≠ [])
    (secondPresent : second.declaration ≠ [])
    (firstFeedFree : '\n' ∉ first.declaration)
    (secondFeedFree : '\n' ∉ second.declaration)
    {firstRest secondRest : Text} :
    first.declarationPart ++ firstRest = second.declarationPart ++ secondRest ↔
      first.declaration = second.declaration ∧ firstRest = secondRest := by
  have block (hover : Hover) (present : hover.declaration ≠ []) (rest : Text) :
      hover.declarationPart ++ rest =
        "```php\n<?php\n".toList ++ (hover.declaration ++ '\n' :: ("```\n\n".toList ++ rest)) := by
    simp [declarationPart, present]
  rw [block first firstPresent, block second secondPresent, List.append_cancel_left_eq]
  constructor
  · intro same
    have pieces := congrArg (Text.splitOn '\n') same
    rw [Text.splitOn_append_cons firstFeedFree, Text.splitOn_append_cons secondFeedFree,
      List.cons.injEq] at pieces
    rw [pieces.1, List.append_cancel_left_eq, List.cons.injEq, List.append_cancel_left_eq] at same
    exact ⟨pieces.1, same.2⟩
  · rintro ⟨declared, rfl⟩
    rw [declared]

/-- What is shown about a method that is called has a declaration, and it stands on one line. -/
theorem clean_declaration_of_outcome
    {client : Client}
    {files : FileSystem}
    {document : Document}
    {position : Position}
    {hover : Hover}
    (shown : (client.hover files document position).outcome = .ok (some hover)) :
    hover.declaration ≠ [] ∧ '\r' ∉ hover.declaration ∧ '\n' ∉ hover.declaration := by
  cases resolved : (client.resolve files document position).outcome with
  | error failure =>
      rw [Client.hover, Traced.outcome_bind_of_error resolved] at shown
      contradiction
  | ok answer =>
      rw [Client.outcome_hover resolved, Except.ok.injEq, Option.map_eq_some_iff] at shown
      obtain ⟨resolution, rfl, rfl⟩ := shown
      rcases Resolution.missingLink_or_complete_of_outcome resolved with
        missing | ⟨call, paths, text, found, complete⟩
      · rw [Client.resolve, Resolution.outcome_resolve_of_missingLink missing,
          Except.ok.injEq] at resolved
        contradiction
      · rw [Client.resolve, complete.outcome_resolve, Except.ok.injEq,
          Option.some.injEq] at resolved
        subst resolved
        have returnFree := FileSystem.return_notMem_of_readText complete.readText_modelFile
        obtain ⟨feedFree, noReturn⟩ :=
          Method.clean_declaration_of_findIn? returnFree complete.findIn?_method
        exact ⟨Method.declaration_ne_nil_of_findIn? (Int.natCast_nonneg _) complete.findIn?_method,
          noReturn, feedFree⟩

/-! ## The whole -/

/-- Every hover of a lookup has a declaration on one line, and hovers of one header with such
declarations have the same markdown exactly when they have the same declaration and the same lines
of the comment, and both or neither of them have a comment. -/
theorem markdown_eq_iff :
    (∀ (client : Client) (files : FileSystem) (document : Document) (position : Position)
        (hover : Hover),
        (client.hover files document position).outcome = .ok (some hover) →
          hover.declaration ≠ [] ∧ '\r' ∉ hover.declaration ∧ '\n' ∉ hover.declaration) ∧
      ∀ first second : Hover,
        first.header = second.header →
          (∀ hover ∈ [first, second], hover.declaration ≠ [] ∧ '\n' ∉ hover.declaration) →
            (first.markdown = second.markdown ↔
              first.declaration = second.declaration ∧
                first.commentLines = second.commentLines ∧
                (first.comment = [] ↔ second.comment = [])) := by
  refine ⟨fun _ _ _ _ _ => clean_declaration_of_outcome, ?_⟩
  intro first second sameHeader declared
  obtain ⟨firstPresent, firstFeedFree⟩ := declared first (by simp)
  obtain ⟨secondPresent, secondFeedFree⟩ := declared second (by simp)
  have sameHead : first.headerPart = second.headerPart := by rw [headerPart, headerPart, sameHeader]
  rw [markdown, markdown, sameHead, List.append_assoc, List.append_assoc,
    List.append_cancel_left_eq,
    declarationPart_append_eq_iff firstPresent secondPresent firstFeedFree secondFeedFree,
    commentPart_eq_iff]

namespace Sample

/-- A client of the sample workspace. -/
def client : Client where
  folders := Resolution.Sample.folders
  settings := Settings.initial

/-- A declaration and a comment that look like ends of code blocks. -/
def fenced : Hover where
  header := "H".toList
  declaration := "function f() \x7b // ```".toList
  comment := "```\n\n ```php".toList

/-- The same lines with other blanks around them. -/
def indented : Hover :=
  { fenced with comment := "\t```\n```php  \n ".toList }

/-- A comment of the same declaration that has no words. -/
def blank : Hover :=
  { fenced with comment := "\n".toList }

/-- The same declaration without a comment. -/
def bare : Hover :=
  { fenced with comment := [] }

end Sample

/-- Marks of code blocks in the comment and in the declaration confuse nothing, and neither does a
comment without words. -/
theorem markdown_eq_iff_sample :
    (∃ hover : Hover,
      (Sample.client.hover Resolution.Sample.files Resolution.Sample.document ⟨1, 3⟩).outcome =
          .ok (some hover) ∧
        hover.declaration ≠ [] ∧ '\r' ∉ hover.declaration ∧ '\n' ∉ hover.declaration) ∧
      Sample.fenced.markdown = Sample.indented.markdown ∧
      Sample.blank.markdown ≠ Sample.bare.markdown := by
  obtain ⟨declared, rendered⟩ := markdown_eq_iff
  refine ⟨?_, ?_, ?_⟩
  · have shown :
        (Sample.client.hover Resolution.Sample.files Resolution.Sample.document ⟨1, 3⟩).outcome =
          .ok (some (ofResolution Settings.initial Resolution.Sample.resolution)) := by
      decide +kernel
    exact ⟨_, shown, declared _ _ _ _ _ shown⟩
  · exact (rendered Sample.fenced Sample.indented rfl (by decide +kernel)).mpr (by decide +kernel)
  · rw [Ne, rendered Sample.blank Sample.bare rfl (by decide +kernel)]
    decide +kernel

end Hover
end ModelNav
