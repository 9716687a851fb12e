import Mathlib.Data.List.TakeWhile
import Mathlib.Data.Nat.SuccPred
import Mathlib.Order.SuccPred.Archimedean
import ModelNav.Method.Comment
import ModelNav.Proofs.Text.Window

/-!
# The comment above a method

The comment is described by the indices of its first and its last line.  The last line is the
nearest one above the method that is not blank, and says of which kind the comment is.  A block goes
up to the nearest line that opens one, or to the beginning of the list; a run of line comments goes
up as long as the lines begin with the same mark.
-/

namespace ModelNav
namespace Comment

/-! ## Reading upwards

The lines above a method are read from the nearest one on.  What is found is stated of the trimmed
lines in the order in which they stand. -/

section Upwards

variable {above : List Text} {front run gap : List Text} {nearest : Text}

/-- Blank lines below the nearest line that is not blank do not count. -/
theorem dropWhile_reverse_of_split
    (split : above.map Text.trim = front ++ nearest :: gap)
    (visible : nearest ≠ [])
    (blank : ∀ line ∈ gap, line = []) :
    (above.reverse.map Text.trim).dropWhile (· == []) = (front ++ [nearest]).reverse := by
  have skipped : ∀ line ∈ gap.reverse, (line == []) = true := by
    intro line inGap
    simpa using blank line (List.mem_reverse.mp inGap)
  rw [List.map_reverse, split, List.reverse_append, List.reverse_cons, List.append_assoc,
    List.dropWhile_append_of_pos skipped]
  simp [visible]

theorem wordsAbove_of_blank
    (blank : ∀ line ∈ above.map Text.trim, line = []) :
    wordsAbove above.reverse = [] := by
  have dropped : (above.reverse.map Text.trim).dropWhile (· == []) = [] := by
    rw [List.dropWhile_eq_nil_iff, List.map_reverse]
    intro line inAbove
    simpa using blank line (List.mem_reverse.mp inAbove)
  rw [wordsAbove, dropped]

theorem ne_nil_of_closesBlock (closes : closesBlock nearest = true) : nearest ≠ [] := by
  rintro rfl
  contradiction

theorem wordsAbove_of_block
    (split : above.map Text.trim = front ++ nearest :: gap)
    (closes : closesBlock nearest = true)
    (blank : ∀ line ∈ gap, line = []) :
    wordsAbove above.reverse = blockWords (front ++ [nearest]).reverse := by
  rw [wordsAbove, dropWhile_reverse_of_split split (ne_nil_of_closesBlock closes) blank]
  simp [closes]

/-- A line begins with at most one of the marks. -/
theorem find?_lineMarks
    {mark line : Text}
    (known : mark ∈ lineMarks)
    (marked : Text.startsWith line mark = true) :
    (lineMarks.find? fun mark => Text.startsWith line mark) = some mark := by
  obtain ⟨rest, rfl⟩ := List.isPrefixOf_iff_prefix.mp marked
  simp only [lineMarks, List.mem_cons, List.not_mem_nil, or_false] at known
  rcases known with rfl | rfl
  · rfl
  · rfl

theorem wordsAbove_of_mark
    {mark : Text}
    (split : above.map Text.trim = front ++ nearest :: gap)
    (opened : closesBlock nearest = false)
    (known : mark ∈ lineMarks)
    (marked : Text.startsWith nearest mark = true)
    (blank : ∀ line ∈ gap, line = []) :
    wordsAbove above.reverse = lineWords mark (front ++ [nearest]).reverse := by
  have visible : nearest ≠ [] := by
    rintro rfl
    simp only [lineMarks, List.mem_cons, List.not_mem_nil, or_false] at known
    rcases known with rfl | rfl <;> contradiction
  rw [wordsAbove, dropWhile_reverse_of_split split visible blank]
  simp [opened, find?_lineMarks known marked]

theorem wordsAbove_of_other
    (split : above.map Text.trim = front ++ nearest :: gap)
    (visible : nearest ≠ [])
    (opened : closesBlock nearest = false)
    (unmarked : ∀ mark ∈ lineMarks, Text.startsWith nearest mark = false)
    (blank : ∀ line ∈ gap, line = []) :
    wordsAbove above.reverse = [] := by
  have none : (lineMarks.find? fun mark => Text.startsWith nearest mark) = none :=
    List.find?_eq_none.mpr fun mark known => by simp [unmarked mark known]
  rw [wordsAbove, dropWhile_reverse_of_split split visible blank]
  simp [opened, none]

theorem upTo_append
    {holds : Text → Bool}
    (inside : ∀ line ∈ front, holds line = false)
    (rest : List Text) :
    upTo holds (front ++ rest) = front ++ upTo holds rest := by
  induction front with
  | nil => rfl
  | cons line front inductionHypothesis =>
      rw [List.forall_mem_cons] at inside
      rw [List.cons_append, upTo, inside.1, inductionHypothesis inside.2]
      rfl

/-- A block has the lines from the nearest one that opens it on. -/
theorem blockWords_reverse_of_opening
    {opening : Text}
    (opens : opensBlock opening = true)
    (inside : ∀ line ∈ run, opensBlock line = false) :
    blockWords (front ++ opening :: run).reverse =
      ((opening :: run).map cleanLine).filter (· != []) := by
  have upwards : (front ++ opening :: run).reverse = run.reverse ++ opening :: front.reverse := by
    simp
  have read : upTo opensBlock (front ++ opening :: run).reverse = (opening :: run).reverse := by
    rw [upwards, upTo_append fun line inRun => inside line (List.mem_reverse.mp inRun), upTo,
      if_pos opens, List.reverse_cons]
  rw [blockWords, read, List.reverse_reverse]

/-- A block that no line opens has all the lines. -/
theorem blockWords_reverse_of_forall_not
    (inside : ∀ line ∈ run, opensBlock line = false) :
    blockWords run.reverse = (run.map cleanLine).filter (· != []) := by
  have read : upTo opensBlock run.reverse = run.reverse := by
    have all := upTo_append (fun line inRun => inside line (List.mem_reverse.mp inRun)) []
    simpa [upTo] using all
  rw [blockWords, read, List.reverse_reverse]

/-- A run of line comments has the lines from the first one on before which the mark is missing. -/
theorem lineWords_reverse
    {mark : Text}
    (marked : ∀ line ∈ run, Text.startsWith line mark = true)
    (stops : ∀ line ∈ front.getLast?, Text.startsWith line mark = false) :
    lineWords mark (front ++ run).reverse =
      run.map fun line => Text.trim (line.drop mark.length) := by
  have beyond : (front.reverse.takeWhile fun line => Text.startsWith line mark) = [] := by
    rw [← List.head?_reverse] at stops
    cases upwards : front.reverse with
    | nil => rfl
    | cons line rest => simp [stops line (by simp [upwards])]
  have read : ((front ++ run).reverse.takeWhile fun line => Text.startsWith line mark) =
      run.reverse := by
    rw [List.reverse_append, List.takeWhile_append_of_pos
      fun line inRun => marked line (List.mem_reverse.mp inRun), beyond, List.append_nil]
  rw [lineWords, read, List.reverse_reverse]

end Upwards

/-! ## Lines by their indices -/

section Window

open Text (trimmedAt trimmedLines)

variable {lines : List Text} {methodLine last first : Nat} {mark : Text}

/-- The last line above a method that is not blank. -/
def IsNearest (lines : List Text) (methodLine last : Nat) : Prop :=
  IsGreatest {index | index < methodLine ∧ trimmedAt lines index ≠ []} last

/-- A block that ends with one line begins with another: the last one up to there that opens a
block, or the first line of all when none does. -/
def BlockBegins (lines : List Text) (last first : Nat) : Prop :=
  IsGreatest {index | index ≤ last ∧ opensBlock (trimmedAt lines index) = true} first ∨
    first = 0 ∧ ∀ index ≤ last, opensBlock (trimmedAt lines index) = false

/-- A run of line comments that ends with one line begins with another: the first one from which on
all lines up to there begin with the mark. -/
def RunBegins (mark : Text) (lines : List Text) (last first : Nat) : Prop :=
  IsLeast {index | index ≤ last ∧ ∀ between, index ≤ between → between ≤ last →
    Text.startsWith (trimmedAt lines between) mark = true} first

/-- What the comment above a method is, by the kind of the nearest line that is not blank. -/
inductive StandsAbove (lines : List Text) (methodLine : Nat) : Text → Prop
  | nothing (blank : ∀ index < methodLine, trimmedAt lines index = []) :
      StandsAbove lines methodLine []
  | block {last first : Nat}
      (nearest : IsNearest lines methodLine last)
      (closes : closesBlock (trimmedAt lines last) = true)
      (begins : BlockBegins lines last first) :
      StandsAbove lines methodLine
        (Text.join ['\n'] (((trimmedLines lines first (last + 1)).map cleanLine).filter (· != [])))
  | run {mark : Text} {last first : Nat}
      (nearest : IsNearest lines methodLine last)
      (opened : closesBlock (trimmedAt lines last) = false)
      (known : mark ∈ lineMarks)
      (marked : Text.startsWith (trimmedAt lines last) mark = true)
      (begins : RunBegins mark lines last first) :
      StandsAbove lines methodLine
        (Text.join ['\n'] ((trimmedLines lines first (last + 1)).map fun line =>
          Text.trim (line.drop mark.length)))
  | other {last : Nat}
      (nearest : IsNearest lines methodLine last)
      (opened : closesBlock (trimmedAt lines last) = false)
      (unmarked : ∀ mark ∈ lineMarks, Text.startsWith (trimmedAt lines last) mark = false) :
      StandsAbove lines methodLine []

/-- The lines above a method are cut at the nearest one that is not blank. -/
theorem IsNearest.split
    (nearest : IsNearest lines methodLine last)
    (inBounds : methodLine ≤ lines.length) :
    (lines.take methodLine).map Text.trim =
        trimmedLines lines 0 last ++ trimmedAt lines last ::
          trimmedLines lines (last + 1) methodLine ∧
      ∀ line ∈ trimmedLines lines (last + 1) methodLine, line = [] := by
  have below : last < methodLine := nearest.1.1
  constructor
  · rw [← Text.trimmedLines_zero inBounds, ← Text.trimmedLines_eq_cons below,
      Text.trimmedLines_append (Nat.zero_le last) below.le]
  · intro line inGap
    obtain ⟨index, behind, before, rfl⟩ := Text.mem_trimmedLines.mp inGap
    by_contra visible
    exact absurd (nearest.2 ⟨before, visible⟩) (Nat.not_le_of_lt behind)

theorem blockWords_of_begins
    (begins : BlockBegins lines last first) :
    blockWords (trimmedLines lines 0 (last + 1)).reverse =
      ((trimmedLines lines first (last + 1)).map cleanLine).filter (· != []) := by
  rcases begins with greatest | ⟨rfl, none⟩
  · have upToLast : first < last + 1 := Nat.lt_succ_of_le greatest.1.1
    have inside :
        ∀ line ∈ trimmedLines lines (first + 1) (last + 1), opensBlock line = false := by
      intro line inRun
      obtain ⟨index, behind, before, rfl⟩ := Text.mem_trimmedLines.mp inRun
      rw [Bool.eq_false_iff]
      intro opens
      exact absurd (greatest.2 ⟨Nat.le_of_lt_succ before, opens⟩) (Nat.not_le_of_lt behind)
    rw [← Text.trimmedLines_append (Nat.zero_le first) upToLast.le,
      Text.trimmedLines_eq_cons upToLast, blockWords_reverse_of_opening greatest.1.2 inside]
  · apply blockWords_reverse_of_forall_not
    intro line inRun
    obtain ⟨index, -, before, rfl⟩ := Text.mem_trimmedLines.mp inRun
    exact none index (Nat.le_of_lt_succ before)

/-- The line before a run does not begin with its mark, for else the run would begin earlier. -/
theorem RunBegins.stops (begins : RunBegins mark lines last first) :
    ∀ line ∈ (trimmedLines lines 0 first).getLast?, Text.startsWith line mark = false := by
  cases first with
  | zero => simp [Text.trimmedLines_of_le]
  | succ before =>
      rw [Text.trimmedLines_succ (Nat.zero_le before), List.getLast?_concat]
      intro line isLast
      obtain rfl : trimmedAt lines before = line := Option.some.inj isLast
      rw [Bool.eq_false_iff]
      intro marked
      -- With this mark the run would begin at the line before it.
      have earlier : before + 1 ≤ before := by
        refine begins.2 ⟨Nat.le_of_succ_le begins.1.1, ?_⟩
        intro between from_before upToLast
        rcases Nat.eq_or_lt_of_le from_before with rfl | later
        · exact marked
        · exact begins.1.2 between later upToLast
      exact Nat.not_succ_le_self before earlier

theorem lineWords_of_begins
    (begins : RunBegins mark lines last first) :
    lineWords mark (trimmedLines lines 0 (last + 1)).reverse =
      (trimmedLines lines first (last + 1)).map fun line =>
        Text.trim (line.drop mark.length) := by
  have marked : ∀ line ∈ trimmedLines lines first (last + 1),
      Text.startsWith line mark = true := by
    intro line inRun
    obtain ⟨index, behind, before, rfl⟩ := Text.mem_trimmedLines.mp inRun
    exact begins.1.2 index behind (Nat.le_of_lt_succ before)
  rw [← Text.trimmedLines_append (Nat.zero_le first) (Nat.le_succ_of_le begins.1.1),
    lineWords_reverse marked begins.stops]

/-- What is described is the comment that is read. -/
theorem above_eq_of_standsAbove
    {comment : Text}
    (inBounds : methodLine ≤ lines.length)
    (stands : StandsAbove lines methodLine comment) :
    above lines methodLine = comment := by
  cases stands with
  | nothing blank =>
      rw [above, wordsAbove_of_blank]
      · rfl
      · rw [← Text.trimmedLines_zero inBounds]
        intro line inWindow
        obtain ⟨index, -, before, rfl⟩ := Text.mem_trimmedLines.mp inWindow
        exact blank index before
  | block nearest closes begins =>
      obtain ⟨split, blank⟩ := nearest.split inBounds
      rw [above, wordsAbove_of_block split closes blank,
        ← Text.trimmedLines_succ (Nat.zero_le _), blockWords_of_begins begins]
  | run nearest opened known marked begins =>
      obtain ⟨split, blank⟩ := nearest.split inBounds
      rw [above, wordsAbove_of_mark split opened known marked blank,
        ← Text.trimmedLines_succ (Nat.zero_le _), lineWords_of_begins begins]
  | other nearest opened unmarked =>
      obtain ⟨split, blank⟩ := nearest.split inBounds
      rw [above, wordsAbove_of_other split nearest.1.2 opened unmarked blank]
      rfl

theorem exists_blockBegins (lines : List Text) (last : Nat) :
    ∃ first, BlockBegins lines last first := by
  by_cases opened : ∃ index ≤ last, opensBlock (trimmedAt lines index) = true
  · obtain ⟨index, upToLast, opens⟩ := opened
    have bounded : BddAbove {index | index ≤ last ∧ opensBlock (trimmedAt lines index) = true} :=
      ⟨last, fun _ member => member.1⟩
    obtain ⟨first, greatest⟩ := bounded.exists_isGreatest_of_nonempty ⟨index, upToLast, opens⟩
    exact ⟨first, Or.inl greatest⟩
  · refine ⟨0, Or.inr ⟨rfl, ?_⟩⟩
    intro index upToLast
    rw [Bool.eq_false_iff]
    intro opens
    exact opened ⟨index, upToLast, opens⟩

theorem exists_runBegins
    (marked : Text.startsWith (trimmedAt lines last) mark = true) :
    ∃ first, RunBegins mark lines last first := by
  refine (OrderBot.bddBelow _).exists_isLeast_of_nonempty ⟨last, le_rfl, ?_⟩
  intro between from_last upToLast
  rw [Nat.le_antisymm upToLast from_last]
  exact marked

/-- There is always something to describe, if only that there is no comment. -/
theorem exists_standsAbove (lines : List Text) (methodLine : Nat) :
    ∃ comment, StandsAbove lines methodLine comment := by
  by_cases seen : ∃ index < methodLine, trimmedAt lines index ≠ []
  · obtain ⟨index, before, visible⟩ := seen
    have bounded : BddAbove {index | index < methodLine ∧ trimmedAt lines index ≠ []} :=
      ⟨methodLine, fun _ member => member.1.le⟩
    obtain ⟨last, nearest⟩ := bounded.exists_isGreatest_of_nonempty ⟨index, before, visible⟩
    cases closes : closesBlock (trimmedAt lines last) with
    | true =>
        obtain ⟨first, begins⟩ := exists_blockBegins lines last
        exact ⟨_, .block nearest closes begins⟩
    | false =>
        by_cases commented : ∃ mark ∈ lineMarks, Text.startsWith (trimmedAt lines last) mark = true
        · obtain ⟨mark, known, marked⟩ := commented
          obtain ⟨first, begins⟩ := exists_runBegins marked
          exact ⟨_, .run nearest closes known marked begins⟩
        · refine ⟨_, .other nearest closes ?_⟩
          intro mark known
          rw [Bool.eq_false_iff]
          intro marked
          exact commented ⟨mark, known, marked⟩
  · refine ⟨_, .nothing ?_⟩
    intro index before
    by_contra visible
    exact seen ⟨index, before, visible⟩

theorem extract_of_le (inBounds : methodLine ≤ lines.length) :
    extract lines methodLine = .ok (above lines methodLine) := by
  rw [extract, if_neg (Int.not_lt.mpr (Int.ofNat_le.mpr inBounds)), Int.toNat_natCast]

/-- Reading the comment above a line of the list, or above its end, gives exactly what is described
there.  The lines from the line of the method on do not matter. -/
theorem extract_eq_ok_iff_standsAbove
    (inBounds : methodLine ≤ lines.length) :
    (∀ comment,
        extract lines methodLine = .ok comment ↔ StandsAbove lines methodLine comment) ∧
      ∀ below, extract (lines.take methodLine ++ below) methodLine = extract lines methodLine := by
  constructor
  · intro comment
    rw [extract_of_le inBounds, Except.ok.injEq]
    constructor
    · rintro rfl
      obtain ⟨comment, stands⟩ := exists_standsAbove lines methodLine
      rw [above_eq_of_standsAbove inBounds stands]
      exact stands
    · exact above_eq_of_standsAbove inBounds
  · intro below
    have length_eq : (lines.take methodLine).length = methodLine := List.length_take_of_le inBounds
    have reaches : methodLine ≤ (lines.take methodLine ++ below).length := by
      rw [List.length_append, length_eq]
      exact Nat.le_add_right _ _
    rw [extract_of_le reaches, extract_of_le inBounds, above, List.take_left' length_eq, above]

/-- A line comment that closes a block ends a block, which goes up past lines that are no comments
to the nearest line that opens one. -/
theorem extract_eq_ok_iff_standsAbove_sample :
    6 ≤ ["/* code".toList, "/** Title".toList, "\t *  words".toList, "$x = 1;".toList,
        "// note */".toList, " ".toList, "function f()".toList].length ∧
      StandsAbove ["/* code".toList, "/** Title".toList, "\t *  words".toList, "$x = 1;".toList,
        "// note */".toList, " ".toList, "function f()".toList] 6
        "Title\nwords\n$x = 1;\n// note".toList := by
  have inBounds : 6 ≤ ["/* code".toList, "/** Title".toList, "\t *  words".toList,
      "$x = 1;".toList, "// note */".toList, " ".toList, "function f()".toList].length := by
    decide
  obtain ⟨described, -⟩ := extract_eq_ok_iff_standsAbove inBounds
  exact ⟨inBounds, (described _).mp (by decide +kernel)⟩

end Window

end Comment
end ModelNav
