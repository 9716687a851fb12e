import Mathlib.Data.List.Basic
import ModelNav.Proofs.Method.Comment
import ModelNav.Proofs.Method.Lookup
import ModelNav.Proofs.Record

/-!
# Reading lines by their numbers

Here the comment, the declaration and the method are read one line after the other, each of them
asked for by its number.  A number below zero counts from the end of the list, and a number that
names no line is a failure.  The walks ask for no line that is missing but the first one: the number
of a method may be too large, and the number of a first line too far below zero.  In all other cases
they come to an end, with the same answers.
-/

namespace ModelNav

theorem ok_bind
    {α β : Type}
    (value : α)
    (next : α → Except Failure β) :
    (Except.ok value >>= next) = next value := rfl

theorem error_bind
    {α β : Type}
    (failure : Failure)
    (next : α → Except Failure β) :
    (Except.error failure >>= next) = .error failure := rfl

theorem ite_eq_error_iff
    {α : Type}
    {condition : Prop}
    [Decidable condition]
    {failure other : Failure}
    {value : α} :
    (if condition then Except.error failure else .ok value) = .error other ↔
      condition ∧ other = failure := by
  by_cases fails : condition
  · rw [if_pos fails, Except.error.injEq, eq_comm, and_iff_right fails]
  · simp [fails]

namespace Text

/-- The line with a number.  A number below zero counts from the end of the list. -/
def lineNumbered (lines : List Text) (number : Int) : Except Failure Text :=
  let index := if number < 0 then number + lines.length else number
  match if index < 0 then none else lines[index.toNat]? with
  | some line => .ok line
  | none => .error (.ofIndex number)

variable {lines : List Text} {index : Nat} {number : Int}

theorem lineNumbered_natCast (inBounds : index < lines.length) :
    lineNumbered lines index = .ok lines[index] := by
  have counted : ¬(index : Int) < 0 := by omega
  simp [lineNumbered, counted, inBounds]

theorem lineNumbered_negSucc (inBounds : index < lines.length) :
    lineNumbered lines (.negSucc index) = .ok lines[lines.length - (index + 1)] := by
  have below : Int.negSucc index < 0 := Int.negSucc_lt_zero index
  have fromEnd : Int.negSucc index + lines.length = (lines.length - (index + 1) : Nat) := by omega
  have within : lines.length - (index + 1) < lines.length := by omega
  have counted : ¬((lines.length - (index + 1) : Nat) : Int) < 0 := by omega
  simp only [lineNumbered, if_pos below, fromEnd, if_neg counted, Int.toNat_natCast,
    List.getElem?_eq_getElem within]

/-- A number beyond the end of the list names no line. -/
theorem lineNumbered_of_length_le (beyond : lines.length ≤ index) :
    lineNumbered lines index = .error (.ofIndex index) := by
  have counted : ¬(index : Int) < 0 := by omega
  simp [lineNumbered, counted, beyond]

/-- A number too far below zero names no line. -/
theorem lineNumbered_of_lt_neg (beyond : number < -(lines.length : Int)) :
    lineNumbered lines number = .error (.ofIndex number) := by
  have below : number < 0 := by omega
  have outside : number + lines.length < 0 := by omega
  simp only [lineNumbered, if_pos below, if_pos outside]

end Text

/-! ## The comment -/

namespace Comment

/-- Climbs over the lines that satisfy a condition, from the last one of a number of lines on.  The
lines that are counted begin at an offset, and the result is how many of them are left. -/
def climb (holds : Text → Bool) (lines : List Text) (offset : Nat) : Nat → Except Failure Nat
  | 0 => return 0
  | count + 1 => do
    let line ← Text.lineNumbered lines ↑(offset + count)
    if holds line.trim then climb holds lines offset count else return count + 1

/-- The comment above a line, read upwards.  The first line of the list is not asked whether it
opens a block, for a block begins there in any case. -/
def walk (lines : List Text) (methodLine : Int) : Except Failure Text := do
  match ← climb (· == []) lines 0 methodLine.toNat with
  | 0 => return []
  | last + 1 =>
    let nearest ← Text.lineNumbered lines last
    if closesBlock nearest.trim then
      let first ← climb (fun line => !opensBlock line) lines 1 last
      let block := ((lines.take (last + 1)).drop first).map Text.trim
      return Text.join ['\n'] ((block.map cleanLine).filter (· != []))
    else
      match lineMarks.find? fun mark => Text.startsWith nearest.trim mark with
      | none => return []
      | some mark =>
        let first ← climb (Text.startsWith · mark) lines 0 last
        let run := ((lines.take (last + 1)).drop first).map Text.trim
        return Text.join ['\n'] (run.map fun line => Text.trim (line.drop mark.length))

variable {lines front gap : List Text} {nearest mark : Text} {offset count last : Nat}

/-- Climbing cuts the lines behind the last one that does not satisfy the condition. -/
theorem exists_cut_of_climb
    (holds : Text → Bool)
    (inBounds : offset + count ≤ lines.length) :
    ∃ kept passed,
      ((lines.drop offset).take count).map Text.trim = kept ++ passed ∧
        climb holds lines offset count = .ok kept.length ∧
        (∀ line ∈ passed, holds line = true) ∧
        ∀ line ∈ kept.getLast?, holds line = false := by
  induction count with
  | zero => exact ⟨[], [], by simp, rfl, by simp, by simp⟩
  | succ count inductionHypothesis =>
      have within : offset + count < lines.length := by omega
      have window : ((lines.drop offset).take (count + 1)).map Text.trim =
          ((lines.drop offset).take count).map Text.trim ++ [lines[offset + count].trim] := by
        rw [List.take_succ_eq_append_getElem (by rw [List.length_drop]; omega), List.map_append,
          List.getElem_drop, List.map_singleton]
      rw [window, climb, Text.lineNumbered_natCast within, ok_bind]
      by_cases held : holds lines[offset + count].trim = true
      · obtain ⟨kept, passed, cut, climbed, all, stops⟩ := inductionHypothesis (by omega)
        refine ⟨kept, passed ++ [lines[offset + count].trim], ?_, ?_, ?_, stops⟩
        · rw [cut, List.append_assoc]
        · rw [if_pos held, climbed]
        · simpa [held, or_imp, forall_and] using all
      · refine ⟨_, [], (List.append_nil _).symm, ?_, by simp, ?_⟩
        · rw [if_neg held]
          have counted : min count (lines.length - offset) = count := by omega
          simp [counted, pure, Except.pure]
        · simpa using held

/-- A block begins where climbing over lines that do not open one ends. -/
theorem exists_climb_block (inBounds : last < lines.length) :
    ∃ first,
      climb (fun line => !opensBlock line) lines 1 last = .ok first ∧
        ((((lines.take (last + 1)).drop first).map Text.trim).map cleanLine).filter (· != []) =
          blockWords ((lines.take (last + 1)).map Text.trim).reverse := by
  obtain ⟨kept, passed, cut, climbed, closed, stops⟩ :=
    exists_cut_of_climb (fun line => !opensBlock line) (show 1 + last ≤ lines.length by omega)
  simp only [Bool.not_eq_true', Bool.not_eq_false'] at closed stops
  obtain ⟨head, tail, rfl⟩ := List.exists_cons_of_length_pos (Nat.zero_lt_of_lt inBounds)
  have window : ((head :: tail).take (last + 1)).map Text.trim =
      head.trim :: kept ++ passed := by
    rw [List.take_succ_cons, List.map_cons, List.cons_append, ← cut, List.drop_one, List.tail_cons]
  refine ⟨kept.length, climbed, ?_⟩
  rw [List.map_drop, window]
  rcases List.eq_nil_or_concat kept with rfl | ⟨front, opening, rfl⟩
  · by_cases opens : opensBlock head.trim = true
    · exact (@blockWords_reverse_of_opening [] passed head.trim opens closed).symm
    · have inside : ∀ line ∈ head.trim :: passed, opensBlock line = false := by
        simpa [opens] using closed
      exact (blockWords_reverse_of_forall_not inside).symm
  · have opens : opensBlock opening = true := stops opening (by simp)
    have block : (head.trim :: front.concat opening ++ passed).drop (front.concat opening).length =
        opening :: passed := by
      simp
    have split : head.trim :: front.concat opening ++ passed =
        (head.trim :: front) ++ opening :: passed := by
      simp
    rw [block, split, blockWords_reverse_of_opening opens closed]

/-- A run of line comments begins where climbing over lines with its mark ends. -/
theorem exists_climb_run
    (inBounds : last < lines.length)
    (marked : Text.startsWith lines[last].trim mark = true) :
    ∃ first,
      climb (Text.startsWith · mark) lines 0 last = .ok first ∧
        (((lines.take (last + 1)).drop first).map Text.trim).map
            (fun line => Text.trim (line.drop mark.length)) =
          lineWords mark ((lines.take (last + 1)).map Text.trim).reverse := by
  obtain ⟨kept, passed, cut, climbed, all, stops⟩ :=
    exists_cut_of_climb (Text.startsWith · mark) (show 0 + last ≤ lines.length by omega)
  have window : (lines.take (last + 1)).map Text.trim =
      kept ++ (passed ++ [lines[last].trim]) := by
    rw [List.take_succ_eq_append_getElem inBounds, List.map_append, List.map_singleton,
      ← List.append_assoc, ← cut, List.drop_zero]
  have run : ∀ line ∈ passed ++ [lines[last].trim], Text.startsWith line mark = true := by
    simpa [marked, or_imp, forall_and] using all
  refine ⟨kept.length, climbed, ?_⟩
  rw [List.map_drop, window, List.drop_left, lineWords_reverse run stops]

/-- The nearest line that is not blank has the number of the lines before it. -/
theorem exists_lt_length_of_cut
    (inBounds : count ≤ lines.length)
    (cut : (lines.take count).map Text.trim = front ++ nearest :: gap) :
    ∃ within : front.length < lines.length,
      lines[front.length].trim = nearest ∧
        (lines.take (front.length + 1)).map Text.trim = front ++ [nearest] := by
  have lengths := congrArg List.length cut
  simp only [List.length_map, List.length_take, List.length_append, List.length_cons] at lengths
  have within : front.length < lines.length := by omega
  have window : (lines.take (front.length + 1)).map Text.trim = front ++ [nearest] := by
    have shorter : min (front.length + 1) count = front.length + 1 := by omega
    have split : front ++ nearest :: gap = (front ++ [nearest]) ++ gap := by simp
    have taken := congrArg (List.take (front.length + 1)) cut
    rwa [← List.map_take, List.take_take, shorter, split, List.take_left' (by simp)] at taken
  refine ⟨within, ?_, window⟩
  rw [List.take_succ_eq_append_getElem within, List.map_append, List.map_singleton] at window
  exact List.singleton_inj.mp (List.append_inj' window rfl).2

/-- A method that is not beyond the end of the list has the comment that is read above it. -/
theorem walk_of_le (inBounds : count ≤ lines.length) :
    walk lines count = .ok (above lines count) := by
  obtain ⟨kept, passed, cut, climbed, blank, stops⟩ :=
    exists_cut_of_climb (· == []) (show 0 + count ≤ lines.length by omega)
  rw [List.drop_zero] at cut
  have allBlank : ∀ line ∈ passed, line = [] := by simpa using blank
  rw [walk, Int.toNat_natCast, climbed, ok_bind]
  rcases List.eq_nil_or_concat kept with rfl | ⟨front, nearest, rfl⟩
  · have nothing : wordsAbove (lines.take count).reverse = [] :=
      wordsAbove_of_blank (by rw [cut]; exact allBlank)
    rw [above, nothing]
    rfl
  · rw [List.concat_eq_append, List.append_assoc, List.singleton_append] at cut
    have visible : nearest ≠ [] := by simpa using stops
    obtain ⟨within, isNearest, window⟩ := exists_lt_length_of_cut inBounds cut
    rw [List.length_concat]
    dsimp only
    rw [Text.lineNumbered_natCast within, ok_bind, isNearest, above]
    cases closes : closesBlock nearest with
    | true =>
        obtain ⟨first, found, block⟩ := exists_climb_block within
        rw [if_pos rfl, found, ok_bind, block, window, wordsAbove_of_block cut closes allBlank]
        rfl
    | false =>
        rw [if_neg Bool.false_ne_true]
        cases commented : lineMarks.find? fun mark => Text.startsWith nearest mark with
        | none =>
            have unmarked : ∀ mark ∈ lineMarks, Text.startsWith nearest mark = false := by
              simpa using List.find?_eq_none.mp commented
            rw [wordsAbove_of_other cut visible closes unmarked allBlank]
            rfl
        | some mark =>
            have marked : Text.startsWith nearest mark = true := by
              simpa using List.find?_some commented
            have known : mark ∈ lineMarks := List.mem_of_find?_eq_some commented
            obtain ⟨first, found, run⟩ :=
              exists_climb_run within (by rw [isNearest]; exact marked)
            dsimp only
            rw [found, ok_bind, run, window, wordsAbove_of_mark cut closes known marked allBlank]
            rfl

/-- Above a line that is more than one behind the last one there is no line to begin with. -/
theorem walk_of_length_lt
    {methodLine : Int}
    (beyond : (lines.length : Int) < methodLine) :
    walk lines methodLine = .error (.ofIndex (methodLine - 1)) := by
  obtain ⟨count, rfl⟩ : ∃ count : Nat, methodLine = ↑(count + 1) :=
    ⟨(methodLine - 1).toNat, by omega⟩
  have missing : lines.length ≤ count := by omega
  have number : ((count + 1 : Nat) : Int) - 1 = (count : Int) := by omega
  rw [walk, Int.toNat_natCast, climb, Nat.zero_add, Text.lineNumbered_of_length_le missing,
    error_bind, error_bind, number]

/-- Reading upwards gives the comment, or fails as reading the comment does. -/
theorem walk_eq_extract (lines : List Text) (methodLine : Int) :
    walk lines methodLine = extract lines methodLine := by
  by_cases beyond : (lines.length : Int) < methodLine
  · rw [walk_of_length_lt beyond, extract, if_pos beyond]
  · rw [extract, if_neg beyond, ← walk_of_le (by omega), walk, walk, Int.toNat_natCast]

end Comment

/-! ## The declaration -/

namespace Declaration

/-- Whether there is a next line and it begins the body. -/
def bodyFollows (lines : List Text) (number : Int) : Except Failure Bool :=
  if number + 1 < lines.length then do
    let next ← Text.lineNumbered lines (number + 1)
    return opensBody next
  else return false

/-- The parts of a header that begins at a line, at most `count` lines of it. -/
def walkLines (lines : List Text) : (count : Nat) → (number : Int) → Except Failure (List Text)
  | 0, _ => return []
  | count + 1, number => do
    let line ← Text.lineNumbered lines number
    let shown := line.trim
    if !shown.contains ')' then return shown :: (← walkLines lines count (number + 1))
    else if shown.contains '{' then return [shown]
    else if ← bodyFollows lines number then return [shown, ['{']]
    else return shown :: (← walkLines lines count (number + 1))

/-- The declaration that starts at a line, read downwards to the end of the list at most. -/
def walk (lines : List Text) (start extra : Int) : Except Failure Text := do
  let stop := min (lines.length : Int) (start + extra + 1)
  let parts ← walkLines lines (stop - start).toNat start
  return Text.join [' '] parts

variable {lines : List Text} {number start extra : Int} {count : Nat}

/-- A number that names a line is that of the first of the lines from there on. -/
theorem exists_linesFrom_eq_cons
    (named : -(lines.length : Int) ≤ number)
    (inBounds : number < lines.length) :
    ∃ line,
      Text.lineNumbered lines number = .ok line ∧
        linesFrom lines number = line :: linesFrom lines (number + 1) := by
  cases number with
  | ofNat index =>
      have within : index < lines.length := by simpa using inBounds
      exact ⟨lines[index], Text.lineNumbered_natCast within, List.drop_eq_getElem_cons within⟩
  | negSucc index =>
      have within : index < lines.length := by omega
      refine ⟨_, Text.lineNumbered_negSucc within, ?_⟩
      have place : lines.length - (index + 1) < lines.length := by omega
      rw [linesFrom, List.drop_eq_getElem_cons place]
      cases index with
      | zero =>
          -- The first line of the list follows the last one.
          have ended : lines.drop (lines.length - (0 + 1) + 1) = [] :=
            List.drop_eq_nil_of_le (by omega)
          rw [ended]
          rfl
      | succ index =>
          have next : lines.length - (index + 1 + 1) + 1 = lines.length - (index + 1) := by omega
          rw [next]
          rfl

/-- A line that can be read is asked about no line that is missing. -/
theorem bodyFollows_eq
    (named : -(lines.length : Int) ≤ number)
    (inBounds : number < lines.length) :
    bodyFollows lines number = .ok ((linesFrom lines (number + 1)).head?.any opensBody) := by
  rw [bodyFollows]
  split
  · rename_i further
    obtain ⟨next, read, following⟩ := exists_linesFrom_eq_cons (by omega) further
    rw [read, ok_bind, following]
    rfl
  · have behind : number + 1 = (lines.length : Nat) := by omega
    have nothing : linesFrom lines (lines.length : Nat) = [] := List.drop_length
    rw [behind, nothing]
    rfl

/-- As long as all numbers name lines, reading them gives the parts of the header. -/
theorem walkLines_eq
    (present : 0 < count → -(lines.length : Int) ≤ number ∧ number + count ≤ lines.length) :
    walkLines lines count number = .ok (gather count (linesFrom lines number)) := by
  -- The induction is on the number of lines that may still be read; the number moves on with it.
  induction count generalizing number with
  | zero => rfl
  | succ count inductionHypothesis =>
      obtain ⟨named, inBounds⟩ := present (Nat.succ_pos count)
      obtain ⟨line, read, following⟩ := exists_linesFrom_eq_cons named (by omega)
      have further : walkLines lines count (number + 1) =
          .ok (gather count (linesFrom lines (number + 1))) :=
        inductionHypothesis (by omega)
      rw [walkLines, read, ok_bind, bodyFollows_eq named (by omega), further, following, gather]
      simp only [ok_bind, pure, Except.pure, apply_ite Except.ok]

/-- No more lines are gathered than there are. -/
theorem gather_min (count : Nat) (rest : List Text) :
    gather (min count rest.length) rest = gather count rest := by
  induction rest generalizing count with
  | nil => cases count <;> rfl
  | cons line rest inductionHypothesis =>
      cases count with
      | zero => rfl
      | succ count =>
          rw [List.length_cons, Nat.add_min_add_right, gather, gather, inductionHypothesis]

theorem length_linesFrom (named : -(lines.length : Int) ≤ start) :
    (linesFrom lines start).length = (lines.length - start).toNat := by
  cases start with
  | ofNat index =>
      rw [linesFrom, List.length_drop, Int.ofNat_eq_natCast]
      omega
  | negSucc index =>
      rw [linesFrom, List.length_append, List.length_drop]
      omega

/-- A first line too far below zero is asked for and missing. -/
theorem walk_of_missing
    (reads : 0 ≤ extra)
    (beyond : start < -(lines.length : Int)) :
    walk lines start extra = .error (.ofIndex start) := by
  obtain ⟨count, counted⟩ : ∃ count,
      (min (lines.length : Int) (start + extra + 1) - start).toNat = count + 1 :=
    ⟨(min (lines.length : Int) (start + extra + 1) - start).toNat - 1, by omega⟩
  rw [walk, counted, walkLines, Text.lineNumbered_of_lt_neg beyond, error_bind, error_bind]

/-- Reading downwards gives the declaration when the first line is there or nothing is read. -/
theorem walk_of_present (present : ¬(0 ≤ extra ∧ start < -(lines.length : Int))) :
    walk lines start extra = .ok (startingAt lines start extra) := by
  have counted : (min (lines.length : Int) (start + extra + 1) - start).toNat =
      min (extra + 1).toNat (linesFrom lines start).length := by
    by_cases named : -(lines.length : Int) ≤ start
    · rw [length_linesFrom named]
      omega
    · have nothing : (extra + 1).toNat = 0 := by omega
      rw [nothing]
      omega
  rw [walk, walkLines_eq (by omega), ok_bind, counted, gather_min]
  rfl

/-- Reading downwards gives the declaration, or fails as reading the declaration does. -/
theorem walk_eq_extract (lines : List Text) (start extra : Int) :
    walk lines start extra = extract lines start extra := by
  rw [extract]
  split
  · rename_i missing
    exact walk_of_missing missing.1 missing.2
  · rename_i present
    exact walk_of_present present

end Declaration

/-! ## The method -/

namespace Method

/-- The method, when each of its fields passes its check. -/
def checked (method : Method) : Except Failure Method :=
  (ofJson method.toJson).toExcept

theorem checked_eq (method : Method) : checked method = .ok method := by
  rw [checked, ofJson_toJson]
  rfl

/-- The search for a definition in the last lines of a list, from the one with the number `index`
on. -/
def walkFrom (lines : List Text) (name : Text) (extra : Int) :
    (index : Nat) → List Text → Except Failure (Option Method)
  | _, [] => return none
  | index, line :: rest => do
    if isDefinition name line then
      let comment ← Comment.walk lines index
      let declaration ← Declaration.walk lines index extra
      let found ← checked ⟨index, (Text.indexOf? name line).getD 0, comment, declaration⟩
      return some found
    else walkFrom lines name extra (index + 1) rest

/-- The first definition of a method, with the lines around it read by their numbers. -/
def walk (lines : List Text) (name : Text) (extra : Int) : Except Failure (Option Method) :=
  walkFrom lines name extra 0 lines

variable {lines earlier rest : List Text} {name : Text}

/-- Behind lines that do not define the method, the search goes on as it would from the first
one. -/
theorem walkFrom_eq_findIn?
    (split : lines = earlier ++ rest)
    (undefined : ∀ line ∈ earlier, isDefinition name line = false)
    (extra : Int) :
    walkFrom lines name extra earlier.length rest = .ok (findIn? lines name extra) := by
  induction rest generalizing earlier with
  | nil =>
      have nothing : lines.findIdx? (isDefinition name) = none := by
        rw [split, List.append_nil]
        exact List.findIdx?_eq_none_iff.mpr undefined
      rw [walkFrom, findIn?, nothing]
      rfl
  | cons line rest inductionHypothesis =>
      rw [walkFrom]
      by_cases defines : isDefinition name line = true
      · have found : lines.findIdx? (isDefinition name) = some earlier.length := by
          rw [split, List.findIdx?_append, List.findIdx?_eq_none_iff.mpr undefined,
            List.findIdx?_cons, if_pos defines]
          simp
        have standsAt : lines[earlier.length]? = some line := by simp [split]
        have inBounds : earlier.length ≤ lines.length := by simp [split]
        have named : ¬(0 ≤ extra ∧ (earlier.length : Int) < -(lines.length : Int)) := by omega
        rw [if_pos defines, Comment.walk_of_le inBounds, ok_bind,
          Declaration.walk_of_present named, ok_bind, checked_eq, ok_bind, findIn?, found]
        simp [standsAt, definedAt, pure, Except.pure]
      · have splitBehind : lines = (earlier ++ [line]) ++ rest := by
          rw [split, List.append_assoc, List.singleton_append]
        have undefinedBehind : ∀ other ∈ earlier ++ [line], isDefinition name other = false := by
          simpa [or_imp, forall_and, defines] using undefined
        have goesOn := inductionHypothesis splitBehind undefinedBehind
        rw [if_neg defines]
        simpa using goesOn

/-- The walks give what is read otherwise, and none of them asks for a line that is missing but in
two cases: the number of the line above a method lies beyond the end of the list, or that of the
first line of a declaration, if any line is to be read, is too far below zero.  The search for a
method never fails. -/
theorem walk_eq_error_iff (lines : List Text) :
    (∀ methodLine : Int,
      Comment.walk lines methodLine = Comment.extract lines methodLine ∧
        ∀ failure, Comment.walk lines methodLine = .error failure ↔
          (lines.length : Int) < methodLine ∧ failure = .ofIndex (methodLine - 1)) ∧
      (∀ start extra : Int,
        Declaration.walk lines start extra = Declaration.extract lines start extra ∧
          ∀ failure, Declaration.walk lines start extra = .error failure ↔
            (0 ≤ extra ∧ start < -(lines.length : Int)) ∧ failure = .ofIndex start) ∧
      ∀ name extra, walk lines name extra = .ok (findIn? lines name extra) := by
  refine ⟨fun methodLine => ⟨Comment.walk_eq_extract lines methodLine, fun failure => ?_⟩,
    fun start extra => ⟨Declaration.walk_eq_extract lines start extra, fun failure => ?_⟩,
    fun name extra => walkFrom_eq_findIn? (List.nil_append lines).symm (by simp) extra⟩
  · rw [Comment.walk_eq_extract, Comment.extract, ite_eq_error_iff]
  · rw [Declaration.walk_eq_extract, Declaration.extract, ite_eq_error_iff]

end Method
end ModelNav
