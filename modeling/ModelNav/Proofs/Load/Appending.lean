import ModelNav.Proofs.Load.Occurrence

/-!
# Loads of texts that grow

A statement that is unfinished at the end of a text may be finished by what is appended, but it
never covers a statement that the text already had: nothing can stand inside a statement.  So the
loads of a text begin those of every longer text.
-/

namespace ModelNav
namespace Load

/-- A statement that is read stays when more text follows. -/
theorem statement?_append
    {text path : Text}
    {length : Nat}
    (read : statement? text = some (path, length))
    (appended : Text) :
    statement? (text ++ appended) = some (path, length) := by
  obtain ⟨statement, rest, rfl, rfl, rfl⟩ := exists_written_of_statement? read
  rw [List.append_assoc]
  exact statement?_written_append statement (rest ++ appended)

/-- A statement that only the appended text finishes begins with the whole text. -/
theorem isPrefix_written_of_finished
    {text appended rest : Text}
    {statement : Statement}
    (unread : statement? text = none)
    (split : text ++ appended = statement.written ++ rest) :
    text <+: statement.written := by
  have textPrefix : text <+: text ++ appended := List.prefix_append text appended
  have writtenPrefix : statement.written <+: text ++ appended := by
    rw [split]
    exact List.prefix_append statement.written rest
  rcases Nat.le_total text.length statement.written.length with shorter | longer
  · exact List.prefix_of_prefix_length_le textPrefix writtenPrefix shorter
  · obtain ⟨remaining, inside⟩ :=
      List.prefix_of_prefix_length_le writtenPrefix textPrefix longer
    rw [← inside, statement?_written_append] at unread
    contradiction

/-- Behind the beginning of a statement that reaches the end of the text, no statement stands. -/
theorem not_standsIn_of_isPrefix_written
    {first : Char}
    {rest : Text}
    {statement : Statement}
    (reaches : first :: rest <+: statement.written)
    (occurrence : Occurrence) :
    ¬occurrence.StandsIn rest := by
  rintro ⟨inner, before, after, rfl, -⟩
  obtain ⟨remaining, split⟩ := reaches
  have inside : statement.written = (first :: before) ++ inner.written ++ (after ++ remaining) := by
    rw [← split]
    simp
  have := Statement.eq_nil_of_written_eq_append inside
  contradiction

/-- The parser finds nothing where no statement stands. -/
theorem pathsFrom_eq_nil
    {text : Text}
    (absent : ∀ occurrence : Occurrence, ¬occurrence.StandsIn text)
    (skip : Nat) :
    pathsFrom skip text = [] := by
  obtain ⟨family, paths, leftmost⟩ := exists_leftmost skip text
  cases family with
  | nil => rw [← paths, List.map_nil]
  | cons occurrence others =>
      exact absurd (leftmost.standsIn occurrence List.mem_cons_self) (absent occurrence)

/-- The paths of a text begin those of every longer text. -/
theorem pathsFrom_isPrefix_append
    (skip : Nat)
    (text appended : Text) :
    pathsFrom skip text <+: pathsFrom skip (text ++ appended) := by
  fun_induction pathsFrom skip text with
  | case1 skip => exact List.nil_prefix
  | case2 skip first rest inductionHypothesis =>
      rw [List.cons_append, pathsFrom]
      exact inductionHypothesis
  | case3 first rest path length read inductionHypothesis =>
      have readLonger := statement?_append read appended
      rw [List.cons_append] at readLonger
      rw [List.cons_append, pathsFrom, readLonger]
      exact (List.prefix_cons_inj path).mpr inductionHypothesis
  | case4 first rest unread inductionHypothesis =>
      rw [List.cons_append, pathsFrom]
      split
      · rename_i path length finished
        obtain ⟨statement, remaining, split, -, -⟩ := exists_written_of_statement? finished
        have reaches := isPrefix_written_of_finished unread split
        rw [pathsFrom_eq_nil (not_standsIn_of_isPrefix_written reaches)]
        exact List.nil_prefix
      · exact inductionHypothesis

/-- The loads of a text begin those of every longer text. -/
theorem parse_isPrefix_append
    (text appended : Text) :
    parse text <+: parse (text ++ appended) :=
  (pathsFrom_isPrefix_append 0 text appended).map ofPath

/-- A name that a text loads is loaded in the same way when more text follows. -/
theorem find?_parse_append
    {text modelName : Text}
    (loaded : ∃ load ∈ parse text, load.modelName = modelName)
    (appended : Text) :
    find? (parse (text ++ appended)) modelName = find? (parse text) modelName := by
  obtain ⟨further, grown⟩ := parse_isPrefix_append text appended
  obtain ⟨load, present, named⟩ := loaded
  have found : ((parse text).find? (·.modelName == modelName)).isSome = true := by
    rw [List.find?_isSome]
    exact ⟨load, present, by simpa using named⟩
  rw [← grown, find?, find?, List.find?_append, Option.or_of_isSome found]

end Load
end ModelNav
