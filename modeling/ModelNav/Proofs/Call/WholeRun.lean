import ModelNav.Proofs.Call
import ModelNav.Proofs.Text.WholeRun

/-!
# Calls as whole runs and as matches

The first call of a line can be found in three ways: by the search, which reads one run of word
characters after the other; by the columns of the whole runs of the line; and by trying, column
after column, a pattern that asks for word characters in front of an ending, an arrow and word
characters, and does not mind what stands before the column.  All three give the same call, so
neither of its names is ever a part of a longer one.
-/

namespace ModelNav
namespace Call

variable {call : Call} {line before after : Text} {start stop column : Nat}

/-- From one column up to another one stands a whole run that names a model variable and is followed
by an arrow and a word character. -/
structure IsCalledAt (text : Text) (start stop : Nat) : Prop where
  isWholeRun : Text.IsWholeRun Text.isWord text start stop
  ending : ∃ stem ending : Text,
    stem ≠ [] ∧ ending ∈ variableEndings ∧ Text.between text start stop = stem ++ ending
  minus : text[stop]? = some '-'
  greater : text[stop + 1]? = some '>'
  word : ∃ character ∈ text[stop + 2]?, Text.isWord character = true

/-- The first whole run of the line that is called has the name of the variable, and the whole run
behind the arrow is the name of the method. -/
def HasFirstRuns (call : Call) (line : Text) : Prop :=
  ∃ start stop last,
    IsCalledAt line start stop ∧
      (∀ otherStart otherStop, IsCalledAt line otherStart otherStop → start ≤ otherStart) ∧
      call.variableName = Text.between line start stop ∧
      Text.IsWholeRun Text.isWord line (stop + 2) last ∧
      call.methodName = Text.between line (stop + 2) last

/-- The pattern of a call stands at a column: word characters with the ending of a model variable
and some before it, an arrow, and all the word characters that follow, at least one. -/
structure MatchesAt (call : Call) (line : Text) (column : Nat) : Prop where
  written : ∃ rest, Stops rest ∧
    line.drop column = call.variableName ++ arrow ++ call.methodName ++ rest
  variable_isWord : ∀ character ∈ call.variableName, Text.isWord character = true
  variable_ending : ∃ stem ending : Text,
    stem ≠ [] ∧ ending ∈ variableEndings ∧ call.variableName = stem ++ ending
  method_isRun : IsRun call.methodName

/-- The pattern stands at a column, and at no column before. -/
def IsLeftmostMatch (call : Call) (line : Text) : Prop :=
  ∃ column, call.MatchesAt line column ∧
    ∀ earlier < column, ∀ other : Call, ¬other.MatchesAt line earlier

/-! ## Matches -/

/-- A call that stands in a line matches where it begins. -/
theorem StandsBetween.matchesAt
    (stands : call.StandsBetween before after line) :
    call.MatchesAt line before.length where
  written := ⟨after, stands.after_stops, by simp [stands.split]⟩
  variable_isWord := stands.variable_isRun.isWord
  variable_ending := stands.variable_ending
  method_isRun := stands.method_isRun

/-- The word characters that end a text are all of them when none stands before. -/
theorem exists_append_stops (text : Text) :
    ∃ before missed : Text,
      text = before ++ missed ∧ Stops before.reverse ∧
        ∀ character ∈ missed, Text.isWord character = true := by
  obtain ⟨before, missed, split, isWord, stops⟩ := Text.exists_run_behind Text.isWord text
  refine ⟨before, missed, split, ?_, isWord⟩
  intro character first
  rw [List.head?_reverse] at first
  exact stops character first

/-- A match is the end of a call that stands in the line: the word characters right before it belong
to the variable as well. -/
theorem MatchesAt.exists_standsBetween
    (matchesAt : call.MatchesAt line column) :
    ∃ before missed after : Text,
      before.length + missed.length = column ∧
        StandsBetween ⟨missed ++ call.variableName, call.methodName⟩ before after line := by
  obtain ⟨rest, stops, written⟩ := matchesAt.written
  obtain ⟨stem, ending, present, isEnding, named⟩ := matchesAt.variable_ending
  obtain ⟨before, missed, front, stopsBefore, missedWords⟩ := exists_append_stops (line.take column)
  have inBounds : column ≤ line.length := by
    by_contra beyond
    rw [List.drop_eq_nil_of_le (Nat.le_of_not_le beyond), named] at written
    simp [present] at written
  refine ⟨before, missed, rest, ?_, ?_, ⟨?_, ?_⟩, matchesAt.method_isRun, ?_, stopsBefore, stops⟩
  · rw [← List.length_append, ← front, List.length_take_of_le inBounds]
  · rw [← List.take_append_drop column line, front, written]
    simp
  · simp [named, present]
  · intro character inName
    rcases List.mem_append.mp inName with inMissed | inVariable
    · exact missedWords character inMissed
    · exact matchesAt.variable_isWord character inVariable
  · refine ⟨missed ++ stem, ending, ?_, isEnding, by simp [named]⟩
    simp [present]

/-- The first call of a line is the leftmost match of the pattern. -/
theorem isFirst_iff_isLeftmostMatch : call.IsFirst line ↔ call.IsLeftmostMatch line := by
  constructor
  · rintro ⟨before, after, stands, nearest⟩
    refine ⟨before.length, stands.matchesAt, ?_⟩
    intro earlier isEarlier other matchesEarlier
    obtain ⟨otherBefore, missed, otherAfter, column_eq, standsOther⟩ :=
      matchesEarlier.exists_standsBetween
    have := nearest _ _ _ standsOther
    omega
  · rintro ⟨column, matchesAt, leftmost⟩
    obtain ⟨before, missed, after, column_eq, stands⟩ := matchesAt.exists_standsBetween
    have notLeft {other : Call} {otherBefore otherAfter : Text}
        (standsOther : other.StandsBetween otherBefore otherAfter line) :
        column ≤ otherBefore.length :=
      Nat.le_of_not_lt fun left => leftmost _ left other standsOther.matchesAt
    -- Word characters before the match would give one further to the left.
    obtain rfl : missed = [] := by
      have := notLeft stands
      exact List.eq_nil_of_length_eq_zero (by omega)
    refine ⟨before, after, stands, ?_⟩
    intro other otherBefore otherAfter standsOther
    have := notLeft standsOther
    omega

/-! ## Whole runs -/

/-- A method is called where an arrow and a word character begin the text. -/
theorem exists_method?_eq_some_iff
    {text : Text} :
    (∃ name, method? text = some name) ↔
      text[0]? = some '-' ∧ text[1]? = some '>' ∧
        ∃ character ∈ text[2]?, Text.isWord character = true := by
  constructor
  · rintro ⟨name, read⟩
    obtain ⟨⟨present, isWord⟩, after, -, rfl⟩ := method?_eq_some_iff.mp read
    obtain ⟨first, others, rfl⟩ := List.exists_cons_of_ne_nil present
    exact ⟨rfl, rfl, first, rfl, isWord first List.mem_cons_self⟩
  · rintro ⟨minus, greater, first, third, isWord⟩
    match text with
    | minusSign :: greaterSign :: word :: rest =>
        obtain rfl := Option.some.inj minus
        obtain rfl := Option.some.inj greater
        obtain rfl := Option.some.inj third
        exact ⟨word :: rest.takeWhile Text.isWord, by simp [method?, isWord]⟩

/-- The part between two others is called when it is the variable of a call that stands there. -/
theorem isCalledAt_append_iff
    {run : Text} :
    IsCalledAt (before ++ run ++ after) before.length (before.length + run.length) ↔
      ∃ methodName rest,
        StandsBetween ⟨run, methodName⟩ before rest (before ++ run ++ after) := by
  have behind := @Text.getElem?_behind before run after
  constructor
  · intro called
    obtain ⟨present, isWord, last, -⟩ := Text.isWholeRun_append_iff.mp called.isWholeRun
    have ending := called.ending
    rw [Text.between_append] at ending
    have minus := called.minus
    have greater := called.greater
    have word := called.word
    rw [behind] at greater word
    obtain ⟨methodName, read⟩ :=
      exists_method?_eq_some_iff.mpr ⟨(behind 0).symm.trans minus, greater, word⟩
    obtain ⟨isRun, rest, stops, after_eq⟩ := method?_eq_some_iff.mp read
    refine ⟨methodName, rest, by simp [after_eq], ⟨present, isWord⟩, isRun, ending, ?_, stops⟩
    simpa [Stops] using last
  · rintro ⟨methodName, rest, stands⟩
    have after_eq : after = arrow ++ methodName ++ rest := by simpa using stands.split
    obtain ⟨minus, greater, word⟩ := exists_method?_eq_some_iff.mp
      ⟨methodName, method?_eq_some_iff.mpr
        ⟨stands.method_isRun, rest, stands.after_stops, after_eq⟩⟩
    refine ⟨?_, ?_, (behind 0).trans minus, (behind 1).trans greater, ?_⟩
    · refine Text.isWholeRun_append_iff.mpr
        ⟨stands.variable_isRun.ne_nil, stands.variable_isRun.isWord, ?_, ?_⟩
      · simpa [Stops] using stands.before_stops
      · rw [after_eq, List.append_assoc]
        exact stops_arrow_append _
    · rw [Text.between_append]
      exact stands.variable_ending
    · rw [behind]
      exact word

/-- The variable of a call that stands in a line is called. -/
theorem StandsBetween.isCalledAt
    (stands : call.StandsBetween before after line) :
    IsCalledAt line before.length (before.length + call.variableName.length) := by
  obtain ⟨variableName, methodName⟩ := call
  obtain ⟨rest, rfl⟩ : ∃ rest, line = before ++ variableName ++ rest :=
    ⟨arrow ++ methodName ++ after, by simp [stands.split]⟩
  exact isCalledAt_append_iff.mpr ⟨methodName, after, stands⟩

/-- What is called in a line is the variable of a call that stands there. -/
theorem IsCalledAt.exists_standsBetween
    (called : IsCalledAt line start stop) :
    ∃ (call : Call) (before after : Text),
      call.StandsBetween before after line ∧
        before.length = start ∧ before.length + call.variableName.length = stop := by
  obtain ⟨before, run, after, rfl, rfl, rfl⟩ :=
    Text.exists_cut (Nat.le_of_lt called.isWholeRun.ordered) called.isWholeRun.stop_le
  obtain ⟨methodName, rest, stands⟩ := isCalledAt_append_iff.mp called
  exact ⟨⟨run, methodName⟩, before, rest, stands, rfl, rfl⟩

/-- The names of a call that stands in a line are what its columns delimit, and its method is a
whole run as well. -/
theorem StandsBetween.isWholeRun_method
    (stands : call.StandsBetween before after line) :
    call.variableName = Text.between line before.length
        (before.length + call.variableName.length) ∧
      ∃ last,
        Text.IsWholeRun Text.isWord line (before.length + call.variableName.length + 2) last ∧
          call.methodName =
            Text.between line (before.length + call.variableName.length + 2) last := by
  have front_length :
      (before ++ call.variableName ++ arrow).length =
        before.length + call.variableName.length + 2 := by
    simp [arrow, Nat.add_assoc]
  rw [← front_length, stands.split]
  refine ⟨?_, _, Text.isWholeRun_append_iff.mpr
    ⟨stands.method_isRun.ne_nil, stands.method_isRun.isWord, ?_, stands.after_stops⟩,
    (Text.between_append _ _ _).symm⟩
  · have := Text.between_append before call.variableName (arrow ++ call.methodName ++ after)
    simpa using this.symm
  · intro character isLast
    obtain rfl : '>' = character := by simpa [arrow] using isLast
    decide

/-- The first call of a line has the names that the first called run and the run behind its arrow
have. -/
theorem isFirst_iff_hasFirstRuns : call.IsFirst line ↔ call.HasFirstRuns line := by
  constructor
  · rintro ⟨before, after, stands, nearest⟩
    obtain ⟨variable_eq, last, isRun, method_eq⟩ := stands.isWholeRun_method
    refine ⟨_, _, last, stands.isCalledAt, ?_, variable_eq, isRun, method_eq⟩
    intro otherStart otherStop calledOther
    obtain ⟨other, otherBefore, otherAfter, standsOther, rfl, -⟩ :=
      calledOther.exists_standsBetween
    exact nearest other otherBefore otherAfter standsOther
  · rintro ⟨start, stop, last, called, nearest, variable_eq, isRun, method_eq⟩
    obtain ⟨found, before, after, stands, rfl, rfl⟩ := called.exists_standsBetween
    obtain ⟨foundVariable_eq, foundLast, isRunFound, foundMethod_eq⟩ := stands.isWholeRun_method
    obtain rfl := isRun.stop_unique isRunFound
    obtain rfl : call = found := by
      cases call
      cases found
      exact congrArg₂ Call.mk (variable_eq.trans foundVariable_eq.symm)
        (method_eq.trans foundMethod_eq.symm)
    refine ⟨before, after, stands, ?_⟩
    intro other otherBefore otherAfter standsOther
    exact nearest _ _ standsOther.isCalledAt

/-- The call that is found is that of the first called run of the line with the whole run behind its
arrow, it is the leftmost match of the pattern, and nothing is found exactly when no run of the line
is called. -/
theorem find?_eq_some_iff_hasFirstRuns
    (line : Text) :
    (∀ call : Call, find? line = some call ↔ call.HasFirstRuns line) ∧
      (∀ call : Call, find? line = some call ↔ call.IsLeftmostMatch line) ∧
        (find? line = none ↔ ∀ start stop, ¬IsCalledAt line start stop) := by
  refine ⟨?_, ?_, ?_⟩
  · intro call
    exact find?_eq_some_iff.trans isFirst_iff_hasFirstRuns
  · intro call
    exact find?_eq_some_iff.trans isFirst_iff_isLeftmostMatch
  · rw [find?_eq_none_iff]
    constructor
    · intro absent start stop called
      obtain ⟨call, before, after, stands, -⟩ := called.exists_standsBetween
      exact absent call before after stands
    · intro uncalled call before after stands
      exact uncalled _ _ stands.isCalledAt

/-- The ending of a variable is found behind an ending, and the arrow that ends a method may begin
another call. -/
example :
    find? "$a_model_vo->b_model->c();".toList = some ⟨"a_model_vo".toList, "b_model".toList⟩ ∧
      find? "$_model->get(); $__vo->all();".toList = some ⟨"__vo".toList, "all".toList⟩ := by
  decide

end Call
end ModelNav
