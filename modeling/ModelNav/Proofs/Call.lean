import Mathlib.Data.List.TakeWhile
import ModelNav.Call

/-!
# The first model call on a line

A call stands in a line where a whole run of word characters names a model variable and an arrow and
another whole run follow.  The search gives the call that stands nearest to the beginning of the
line, and nothing exactly when no call stands in it.
-/

namespace ModelNav
namespace Call

/-- What stands between the variable and the method of a call. -/
def arrow : Text := ['-', '>']

/-- The text is not empty and has word characters only. -/
structure IsRun (text : Text) : Prop where
  ne_nil : text ≠ []
  isWord : ∀ character ∈ text, Text.isWord character = true

/-- No word character begins the text. -/
def Stops (text : Text) : Prop :=
  ∀ character ∈ text.head?, Text.isWord character = false

/-- The call stands in a line between two other texts: its names are whole runs of word characters,
and the variable ends as that of a model does, with something before that ending. -/
structure StandsBetween (call : Call) (before after line : Text) : Prop where
  split : line = before ++ call.variableName ++ arrow ++ call.methodName ++ after
  variable_isRun : IsRun call.variableName
  method_isRun : IsRun call.methodName
  variable_ending : ∃ stem ending : Text,
    stem ≠ [] ∧ ending ∈ variableEndings ∧ call.variableName = stem ++ ending
  before_stops : Stops before.reverse
  after_stops : Stops after

/-- The call stands in the line, and no call stands nearer to the beginning. -/
def IsFirst (call : Call) (line : Text) : Prop :=
  ∃ before after, call.StandsBetween before after line ∧
    ∀ (other : Call) (before' after' : Text),
      other.StandsBetween before' after' line → before.length ≤ before'.length

theorem stops_nil : Stops [] := by
  simp [Stops]

theorem stops_arrow_append (rest : Text) : Stops (arrow ++ rest) := by
  intro character present
  obtain rfl : '-' = character := by simpa [arrow] using present
  decide

/-- A whole run at the head of a text is the longest one there. -/
theorem takeWhile_isWord_append
    {run rest : Text}
    (isWord : ∀ character ∈ run, Text.isWord character = true)
    (stops : Stops rest) :
    (run ++ rest).takeWhile Text.isWord = run := by
  rw [List.takeWhile_append_of_pos isWord]
  cases rest with
  | nil => simp
  | cons first rest => simp [stops first (by simp)]

/-- A text begins with one whole run only. -/
theorem append_inj_of_stops
    {run other rest remaining : Text}
    (isWord : ∀ character ∈ run, Text.isWord character = true)
    (isWordOther : ∀ character ∈ other, Text.isWord character = true)
    (stops : Stops rest)
    (stopsRemaining : Stops remaining)
    (same : run ++ rest = other ++ remaining) :
    run = other ∧ rest = remaining := by
  have runs := congrArg (List.takeWhile Text.isWord) same
  rw [takeWhile_isWord_append isWord stops,
    takeWhile_isWord_append isWordOther stopsRemaining] at runs
  subst runs
  exact ⟨rfl, List.append_cancel_left same⟩

theorem isVariable_iff
    {name : Text} :
    isVariable name = true ↔
      ∃ stem ending : Text, stem ≠ [] ∧ ending ∈ variableEndings ∧ name = stem ++ ending := by
  simp only [isVariable, List.any_eq_true, Bool.and_eq_true, Text.endsWith,
    List.isSuffixOf_iff_suffix, decide_eq_true_eq]
  constructor
  · rintro ⟨ending, isEnding, ⟨stem, rfl⟩, shorter⟩
    refine ⟨stem, ending, ?_, isEnding, rfl⟩
    rintro rfl
    simp at shorter
  · rintro ⟨stem, ending, present, isEnding, rfl⟩
    refine ⟨ending, isEnding, ⟨stem, rfl⟩, ?_⟩
    rw [List.length_append]
    have := List.length_pos_iff.mpr present
    omega

/-- The method after an arrow is the whole run that follows it. -/
theorem method?_eq_some_iff
    {text name : Text} :
    method? text = some name ↔
      IsRun name ∧ ∃ after, Stops after ∧ text = arrow ++ name ++ after := by
  constructor
  · intro read
    unfold method? at read
    split at read
    · rename_i rest
      simp only [Option.ite_none_left_eq_some, Option.some.injEq] at read
      obtain ⟨present, rfl⟩ := read
      refine ⟨⟨present, ?_⟩, rest.dropWhile Text.isWord, ?_, ?_⟩
      · intro character member
        exact List.all_eq_true.mp List.all_takeWhile character member
      · intro character first
        have := List.head?_dropWhile_not Text.isWord rest
        rw [Option.mem_def.mp first] at this
        simpa using this
      · simp [arrow, List.takeWhile_append_dropWhile]
    · contradiction
  · rintro ⟨isRun, after, stops, rfl⟩
    have run := takeWhile_isWord_append isRun.isWord stops
    simp [method?, arrow, run, isRun.ne_nil]

/-! ## One run after the other -/

section Run

variable {run rest : Text} {first : Char}

/-- A call at the beginning of a line has the first run of the line as its variable. -/
theorem standsBetween_nil_iff
    (call : Call)
    (isWord : ∀ character ∈ run, Text.isWord character = true)
    (stops : Stops rest) :
    (∃ after, call.StandsBetween [] after (run ++ rest)) ↔
      isVariable run = true ∧ call.variableName = run ∧ method? rest = some call.methodName := by
  constructor
  · rintro ⟨after, stands⟩
    have same : run ++ rest = call.variableName ++ (arrow ++ (call.methodName ++ after)) := by
      simpa using stands.split
    obtain ⟨rfl, rfl⟩ := append_inj_of_stops isWord stands.variable_isRun.isWord stops
      (stops_arrow_append _) same
    refine ⟨isVariable_iff.mpr stands.variable_ending, rfl, ?_⟩
    exact method?_eq_some_iff.mpr
      ⟨stands.method_isRun, after, stands.after_stops, by rw [List.append_assoc]⟩
  · rintro ⟨isVariable, rfl, read⟩
    obtain ⟨isRun, after, afterStops, rfl⟩ := method?_eq_some_iff.mp read
    obtain ⟨stem, ending, present, isEnding, named⟩ := isVariable_iff.mp isVariable
    refine ⟨after, ?_, ⟨?_, isWord⟩, isRun, ⟨stem, ending, present, isEnding, named⟩,
      stops_nil, afterStops⟩
    · simp
    · rw [named]
      simp [present]

/-- A call of what follows a run and a separator stands in the whole line as well. -/
theorem StandsBetween.behind
    {call : Call}
    {before after : Text}
    (stands : call.StandsBetween before after rest)
    (run : Text)
    (separates : Text.isWord first = false) :
    call.StandsBetween (run ++ first :: before) after (run ++ first :: rest) where
  split := by simp [stands.split]
  variable_isRun := stands.variable_isRun
  method_isRun := stands.method_isRun
  variable_ending := stands.variable_ending
  before_stops := by
    cases reversed : before.reverse with
    | nil => simp [Stops, reversed, separates]
    | cons last others =>
        have := stands.before_stops
        rw [reversed] at this
        simpa [Stops, reversed] using this
  after_stops := stands.after_stops

/-- A call that does not stand at the beginning of a line stands behind its first run and the
separator that follows. -/
theorem StandsBetween.exists_behind
    {call : Call}
    {before after : Text}
    (stands : call.StandsBetween before after (run ++ first :: rest))
    (isWord : ∀ character ∈ run, Text.isWord character = true)
    (present : before ≠ []) :
    ∃ before', before = run ++ first :: before' ∧ call.StandsBetween before' after rest := by
  have lastOutside : before.getLast present ∉ run := by
    intro inside
    have outside := stands.before_stops (before.getLast present) (by
      rw [List.head?_reverse, List.getLast?_eq_some_getLast present]
      rfl)
    rw [isWord _ inside] at outside
    contradiction
  have same : run ++ first :: rest =
      before ++ (call.variableName ++ (arrow ++ (call.methodName ++ after))) := by
    simpa using stands.split
  rcases List.append_eq_append_iff.mp same with
    ⟨between, rfl, separated⟩ | ⟨between, rfl, -⟩
  · cases between with
    | nil => exact absurd (by simp) lastOutside
    | cons head before' =>
        rw [List.cons_append, List.cons.injEq] at separated
        obtain ⟨rfl, rfl⟩ := separated
        refine ⟨before', rfl, by simp, stands.variable_isRun, stands.method_isRun,
          stands.variable_ending, ?_, stands.after_stops⟩
        intro character isLast
        apply stands.before_stops character
        simp [Option.mem_def.mp isLast]
  · exact absurd (List.mem_append_left _ (List.getLast_mem present)) lastOutside

/-- Where no call stands at the beginning of a line, its calls are those behind the first run and
the separator that follows. -/
theorem standsBetween_run_append_iff
    {call : Call}
    {before after : Text}
    (isWord : ∀ character ∈ run, Text.isWord character = true)
    (separates : Text.isWord first = false)
    (unused : ¬(isVariable run = true ∧ (method? (first :: rest)).isSome = true)) :
    call.StandsBetween before after (run ++ first :: rest) ↔
      ∃ before', before = run ++ first :: before' ∧ call.StandsBetween before' after rest := by
  constructor
  · intro stands
    apply stands.exists_behind isWord
    rintro rfl
    have stops : Stops (first :: rest) := by simpa [Stops] using separates
    obtain ⟨isVariable, -, read⟩ := (standsBetween_nil_iff call isWord stops).mp ⟨after, stands⟩
    exact unused ⟨isVariable, by rw [read]; rfl⟩
  · rintro ⟨before', rfl, stands⟩
    exact stands.behind run separates

/-- Where no call stands at the beginning of a line, the first call is that behind the first run. -/
theorem IsFirst.behind
    {call : Call}
    (isFirst : call.IsFirst rest)
    (isWord : ∀ character ∈ run, Text.isWord character = true)
    (separates : Text.isWord first = false)
    (unused : ¬(isVariable run = true ∧ (method? (first :: rest)).isSome = true)) :
    call.IsFirst (run ++ first :: rest) := by
  obtain ⟨before, after, stands, nearest⟩ := isFirst
  refine ⟨run ++ first :: before, after, stands.behind run separates, ?_⟩
  intro other before' after' standsOther
  obtain ⟨beforeOther, rfl, standsInRest⟩ :=
    (standsBetween_run_append_iff isWord separates unused).mp standsOther
  have := nearest other beforeOther after' standsInRest
  simp only [List.length_append, List.length_cons]
  omega

end Run

/-- A line without separators holds no call, since the arrow of a call is one. -/
theorem not_standsBetween_of_isWord
    {call : Call}
    {before after line : Text}
    (isWord : ∀ character ∈ line, Text.isWord character = true) :
    ¬call.StandsBetween before after line := by
  intro stands
  have arrowInside : '-' ∈ line := by
    rw [stands.split]
    simp [arrow]
  have := isWord '-' arrowInside
  contradiction

/-- What a search has to answer for a line: the first call, or nothing when no call stands there. -/
def Answers (line : Text) : Option Call → Prop
  | some call => call.IsFirst line
  | none => ∀ (call : Call) (before after : Text), ¬call.StandsBetween before after line

/-- An answer for what follows the first run of a line and a separator answers for the line, unless
a call stands at its beginning. -/
theorem Answers.behind
    {answer : Option Call}
    {run rest : Text}
    {first : Char}
    (answers : Answers rest answer)
    (isWord : ∀ character ∈ run, Text.isWord character = true)
    (separates : Text.isWord first = false)
    (unused : ¬(isVariable run = true ∧ (method? (first :: rest)).isSome = true)) :
    Answers (run ++ first :: rest) answer := by
  cases answer with
  | some call => exact IsFirst.behind answers isWord separates unused
  | none =>
      intro call before after stands
      obtain ⟨before', -, standsInRest⟩ :=
        (standsBetween_run_append_iff isWord separates unused).mp stands
      exact answers call before' after standsInRest

/-- The search that has read a run answers for that run and what follows it. -/
theorem answers_findFrom?
    (run text : Text)
    (isWord : ∀ character ∈ run, Text.isWord character = true) :
    Answers (run.reverse ++ text) (findFrom? run text) := by
  fun_induction findFrom? run text with
  | case1 run =>
      intro call before after
      apply not_standsBetween_of_isWord
      simpa using isWord
  | case2 run first rest word inductionHypothesis =>
      have longer : ∀ character ∈ first :: run, Text.isWord character = true := by
        simpa [word] using isWord
      simpa using inductionHypothesis longer
  | case3 run first rest separates isVariable name read =>
      have stops : Stops (first :: rest) := by simpa [Stops] using separates
      obtain ⟨after, stands⟩ :=
        (standsBetween_nil_iff ⟨run.reverse, name⟩ (by simpa using isWord) stops).mpr
          ⟨isVariable, rfl, read⟩
      exact ⟨[], after, stands, fun _ _ _ _ => Nat.zero_le _⟩
  | case4 run first rest separates isVariable unread inductionHypothesis =>
      apply (inductionHypothesis (by simp)).behind
      · simpa using isWord
      · simpa using separates
      · simp [unread]
  | case5 run first rest separates notVariable inductionHypothesis =>
      apply (inductionHypothesis (by simp)).behind
      · simpa using isWord
      · simpa using separates
      · simp [notVariable]

theorem answers_find? (line : Text) : Answers line (find? line) :=
  answers_findFrom? [] line (by simp)

/-- The call that is found is the first one on the line. -/
theorem isFirst_of_find?
    {line : Text}
    {call : Call}
    (found : find? line = some call) :
    call.IsFirst line := by
  have answers := answers_find? line
  rw [found] at answers
  exact answers

/-- Nothing is found exactly when no call stands in the line. -/
theorem find?_eq_none_iff
    {line : Text} :
    find? line = none ↔
      ∀ (call : Call) (before after : Text), ¬call.StandsBetween before after line := by
  constructor
  · intro nothing
    have answers := answers_find? line
    rw [nothing] at answers
    exact answers
  · intro absent
    rw [Option.eq_none_iff_forall_ne_some]
    intro call found
    obtain ⟨before, after, stands, -⟩ := isFirst_of_find? found
    exact absent call before after stands

/-- A line has one first call at most. -/
theorem IsFirst.unique
    {call other : Call}
    {line : Text}
    (isFirst : call.IsFirst line)
    (isFirstOther : other.IsFirst line) :
    call = other := by
  obtain ⟨before, after, stands, nearest⟩ := isFirst
  obtain ⟨before', after', standsOther, nearestOther⟩ := isFirstOther
  have sameLength : before.length = before'.length :=
    Nat.le_antisymm (nearest other before' after' standsOther)
      (nearestOther call before after stands)
  have same :
      before ++ (call.variableName ++ (arrow ++ (call.methodName ++ after))) =
        before' ++ (other.variableName ++ (arrow ++ (other.methodName ++ after'))) := by
    simpa using stands.split.symm.trans standsOther.split
  have sameCall := (List.append_inj same sameLength).2
  obtain ⟨sameVariable, sameRest⟩ := append_inj_of_stops stands.variable_isRun.isWord
    standsOther.variable_isRun.isWord (stops_arrow_append _) (stops_arrow_append _) sameCall
  obtain ⟨sameMethod, -⟩ := append_inj_of_stops stands.method_isRun.isWord
    standsOther.method_isRun.isWord stands.after_stops standsOther.after_stops
    (List.append_cancel_left sameRest)
  cases call
  cases other
  simp_all

/-- A call is found exactly when it is the first one on the line. -/
theorem find?_eq_some_iff
    {line : Text}
    {call : Call} :
    find? line = some call ↔ call.IsFirst line := by
  constructor
  · exact isFirst_of_find?
  · intro isFirst
    cases found : find? line with
    | some other => rw [isFirst.unique (isFirst_of_find? found)]
    | none =>
        obtain ⟨before, after, stands, -⟩ := isFirst
        exact absurd stands (find?_eq_none_iff.mp found call before after)

end Call
end ModelNav
