import ModelNav.Proofs.Load.Statement

/-!
# The load statements of a text

A statement may stand anywhere in a text, and two of them may overlap, since a path can hold what
looks like the beginning of another statement.  The parser takes the leftmost statement, goes on
behind it, and so takes every statement that does not begin inside one that it took.
-/

namespace ModelNav
namespace Load

/-- A stretch of a text, from `start` up to `finish`, and the path of the statement there. -/
structure Occurrence where
  start : Nat
  finish : Nat
  path : Text
deriving DecidableEq, Repr

namespace Occurrence

/-- A statement with the path of the occurrence is written on its stretch of the text. -/
def StandsIn (occurrence : Occurrence) (text : Text) : Prop :=
  ∃ (statement : Statement) (before after : Text),
    text = before ++ statement.written ++ after ∧
      occurrence.start = before.length ∧
      occurrence.finish = (before ++ statement.written).length ∧
      occurrence.path = statement.path

/-- One occurrence ends before another one begins. -/
def Precedes (earlier later : Occurrence) : Prop :=
  earlier.finish ≤ later.start

/-- Two occurrences share a character. -/
def Overlaps (first second : Occurrence) : Prop :=
  first.start < second.finish ∧ second.start < first.finish

/-- The occurrence in a text that has one more character in front. -/
def shift (occurrence : Occurrence) : Occurrence where
  start := occurrence.start + 1
  finish := occurrence.finish + 1
  path := occurrence.path

@[simp] theorem start_shift (occurrence : Occurrence) :
    occurrence.shift.start = occurrence.start + 1 := rfl

@[simp] theorem finish_shift (occurrence : Occurrence) :
    occurrence.shift.finish = occurrence.finish + 1 := rfl

@[simp] theorem path_shift (occurrence : Occurrence) :
    occurrence.shift.path = occurrence.path := rfl

theorem map_path_map_shift (family : List Occurrence) :
    (family.map shift).map path = family.map path := by
  simp [Function.comp_def]

/-- An occurrence is not empty. -/
theorem StandsIn.start_lt_finish
    {occurrence : Occurrence}
    {text : Text}
    (stands : occurrence.StandsIn text) :
    occurrence.start < occurrence.finish := by
  obtain ⟨statement, before, after, -, start, finish, -⟩ := stands
  have := statement.written_length_pos
  rw [start, finish, List.length_append]
  omega

theorem not_standsIn_nil (occurrence : Occurrence) : ¬occurrence.StandsIn [] := by
  rintro ⟨statement, before, after, empty, -⟩
  simp [statement.written_ne_nil] at empty

/-- An occurrence moves along with the text. -/
theorem StandsIn.shift
    {occurrence : Occurrence}
    {rest : Text}
    (stands : occurrence.StandsIn rest)
    (first : Char) :
    occurrence.shift.StandsIn (first :: rest) := by
  obtain ⟨statement, before, after, split, start, finish, path⟩ := stands
  refine ⟨statement, first :: before, after, ?_, ?_, ?_, path⟩
  · rw [split, List.cons_append, List.cons_append]
  · simp [start]
  · simp [finish]

/-- The occurrences of a text are the one at its head, which is the statement that is read there,
and those of what follows the first character. -/
theorem standsIn_cons_iff
    {occurrence : Occurrence}
    {first : Char}
    {rest : Text} :
    occurrence.StandsIn (first :: rest) ↔
      (occurrence.start = 0 ∧
        statement? (first :: rest) = some (occurrence.path, occurrence.finish)) ∨
      ∃ inRest : Occurrence, inRest.StandsIn rest ∧ occurrence = inRest.shift := by
  constructor
  · rintro ⟨statement, before, after, split, start, finish, path⟩
    cases before with
    | nil =>
        refine Or.inl ⟨start, statement?_eq_some_iff.mpr ⟨statement, after, split, path.symm, ?_⟩⟩
        rw [finish, List.nil_append]
    | cons head before =>
        rw [List.cons_append, List.cons_append, List.cons.injEq] at split
        refine Or.inr ⟨⟨before.length, (before ++ statement.written).length, statement.path⟩,
          ⟨statement, before, after, split.2, rfl, rfl, rfl⟩, ?_⟩
        cases occurrence
        simp_all [Occurrence.shift]
  · rintro (⟨start, read⟩ | ⟨inRest, stands, rfl⟩)
    · obtain ⟨statement, after, split, path, length⟩ := statement?_eq_some_iff.mp read
      exact ⟨statement, [], after, split, start, length.symm, path.symm⟩
    · exact stands.shift first

end Occurrence

/-- The occurrences of a text that a search from left to right takes, when it begins at an offset:
they are apart and in order, and every other occurrence from that offset on begins inside one that
was taken before. -/
structure Leftmost (skip : Nat) (text : Text) (family : List Occurrence) : Prop where
  standsIn : ∀ occurrence ∈ family, occurrence.StandsIn text
  skip_le_start : ∀ occurrence ∈ family, skip ≤ occurrence.start
  inOrder : family.Pairwise Occurrence.Precedes
  complete : ∀ occurrence : Occurrence,
    occurrence.StandsIn text → skip ≤ occurrence.start →
      occurrence ∈ family ∨
        ∃ member ∈ family, member.start < occurrence.start ∧ occurrence.Overlaps member

namespace Leftmost

theorem nil (skip : Nat) : Leftmost skip [] [] where
  standsIn := by simp
  skip_le_start := by simp
  inOrder := List.Pairwise.nil
  complete := fun occurrence stands => absurd stands occurrence.not_standsIn_nil

/-- A search behind the first character of a text is a search of what follows it. -/
theorem shift
    {skip : Nat}
    {rest : Text}
    {family : List Occurrence}
    (leftmost : Leftmost skip rest family)
    (first : Char) :
    Leftmost (skip + 1) (first :: rest) (family.map Occurrence.shift) where
  standsIn := by
    intro occurrence present
    obtain ⟨inRest, member, rfl⟩ := List.mem_map.mp present
    exact (leftmost.standsIn inRest member).shift first
  skip_le_start := by
    intro occurrence present
    obtain ⟨inRest, member, rfl⟩ := List.mem_map.mp present
    exact Nat.succ_le_succ (leftmost.skip_le_start inRest member)
  inOrder := by
    rw [List.pairwise_map]
    exact leftmost.inOrder.imp fun precedes => Nat.succ_le_succ precedes
  complete := by
    intro occurrence stands late
    rcases Occurrence.standsIn_cons_iff.mp stands with ⟨start, -⟩ | ⟨inRest, standsInRest, rfl⟩
    · omega
    · rcases leftmost.complete inRest standsInRest (Nat.le_of_succ_le_succ late) with
        taken | ⟨member, present, earlier, overlaps⟩
      · exact Or.inl (List.mem_map_of_mem taken)
      · refine Or.inr ⟨member.shift, List.mem_map_of_mem present, Nat.succ_lt_succ earlier, ?_⟩
        exact ⟨Nat.succ_lt_succ overlaps.1, Nat.succ_lt_succ overlaps.2⟩

/-- A search that takes the statement at the head of a text goes on behind it. -/
theorem take
    {first : Char}
    {rest path : Text}
    {length : Nat}
    {family : List Occurrence}
    (read : statement? (first :: rest) = some (path, length))
    (leftmost : Leftmost length (first :: rest) family) :
    Leftmost 0 (first :: rest) (⟨0, length, path⟩ :: family) where
  standsIn := by
    intro occurrence present
    rcases List.mem_cons.mp present with rfl | member
    · exact Occurrence.standsIn_cons_iff.mpr (Or.inl ⟨rfl, read⟩)
    · exact leftmost.standsIn occurrence member
  skip_le_start := fun _ _ => Nat.zero_le _
  inOrder := List.Pairwise.cons leftmost.skip_le_start leftmost.inOrder
  complete := by
    intro occurrence stands _
    by_cases atHead : occurrence.start = 0
    · left
      rcases Occurrence.standsIn_cons_iff.mp stands with ⟨-, again⟩ | ⟨inRest, -, rfl⟩
      · rw [read, Option.some.injEq, Prod.mk.injEq] at again
        obtain ⟨start, finish, itsPath⟩ := occurrence
        simp_all
      · simp at atHead
    · rcases Nat.lt_or_ge occurrence.start length with inside | behind
      · have finish := stands.start_lt_finish
        refine Or.inr ⟨⟨0, length, path⟩, List.mem_cons_self, by dsimp only; omega, inside, ?_⟩
        dsimp only
        omega
      · rcases leftmost.complete occurrence stands behind with
          taken | ⟨member, present, earlier, overlaps⟩
        · exact Or.inl (List.mem_cons_of_mem _ taken)
        · exact Or.inr ⟨member, List.mem_cons_of_mem _ present, earlier, overlaps⟩

/-- A search that finds no statement at the head of a text goes on behind its first character. -/
theorem pass
    {first : Char}
    {rest : Text}
    {family : List Occurrence}
    (unread : statement? (first :: rest) = none)
    (leftmost : Leftmost 1 (first :: rest) family) :
    Leftmost 0 (first :: rest) family where
  standsIn := leftmost.standsIn
  skip_le_start := fun _ _ => Nat.zero_le _
  inOrder := leftmost.inOrder
  complete := by
    intro occurrence stands _
    apply leftmost.complete occurrence stands
    rcases Occurrence.standsIn_cons_iff.mp stands with ⟨-, read⟩ | ⟨inRest, -, rfl⟩
    · simp [unread] at read
    · exact Nat.succ_le_succ (Nat.zero_le _)

end Leftmost

/-- The paths that the parser collects are those of the occurrences that such a search takes. -/
theorem exists_leftmost
    (skip : Nat)
    (text : Text) :
    ∃ family : List Occurrence,
      family.map Occurrence.path = pathsFrom skip text ∧ Leftmost skip text family := by
  fun_induction pathsFrom skip text with
  | case1 skip => exact ⟨[], rfl, Leftmost.nil skip⟩
  | case2 skip first rest inductionHypothesis =>
      obtain ⟨family, paths, leftmost⟩ := inductionHypothesis
      refine ⟨family.map Occurrence.shift, ?_, leftmost.shift first⟩
      rw [Occurrence.map_path_map_shift, paths]
  | case3 first rest path length read inductionHypothesis =>
      obtain ⟨family, paths, leftmost⟩ := inductionHypothesis
      have behind := leftmost.shift first
      have positive : length - 1 + 1 = length := by
        obtain ⟨statement, -, -, -, rfl⟩ := exists_written_of_statement? read
        exact Nat.sub_add_cancel statement.written_length_pos
      rw [positive] at behind
      refine ⟨⟨0, length, path⟩ :: family.map Occurrence.shift, ?_, behind.take read⟩
      rw [List.map_cons, Occurrence.map_path_map_shift, paths]
  | case4 first rest unread inductionHypothesis =>
      obtain ⟨family, paths, leftmost⟩ := inductionHypothesis
      refine ⟨family.map Occurrence.shift, ?_, (leftmost.shift first).pass unread⟩
      rw [Occurrence.map_path_map_shift, paths]

/-- The paths of the loads of a text are, in order, those of a family of statements that stand apart
in the text, and every statement of the text belongs to that family or overlaps a member that begins
before it. -/
theorem exists_occurrences_rawPath_parse (text : Text) :
    ∃ family : List Occurrence,
      family.map Occurrence.path = (parse text).map Load.rawPath ∧
        (∀ occurrence ∈ family, occurrence.StandsIn text) ∧
        family.Pairwise Occurrence.Precedes ∧
        ∀ occurrence : Occurrence, occurrence.StandsIn text →
          occurrence ∈ family ∨
            ∃ member ∈ family,
              member.start < occurrence.start ∧ occurrence.Overlaps member := by
  obtain ⟨family, paths, leftmost⟩ := exists_leftmost 0 text
  refine ⟨family, ?_, leftmost.standsIn, leftmost.inOrder, ?_⟩
  · rw [paths, parse, List.map_map]
    exact (List.map_id _).symm
  · intro occurrence stands
    exact leftmost.complete occurrence stands (Nat.zero_le _)

/-- Two statements overlap in this text, and the one that begins first counts. -/
example :
    (parse "load->model('load->model(')')".toList).map Load.rawPath = ["load->model(".toList] := by
  decide

end Load
end ModelNav
