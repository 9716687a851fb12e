import Mathlib.Data.List.Basic
import ModelNav.Proofs.Text.Lines
import ModelNav.Proofs.Text.Pieces

/-!
# Carriage returns before line feeds

Replacing each carriage return and line feed by a line feed alone drops the carriage returns that
stand right before line feeds.  Where no other carriage returns are, this is what reading a file
does to the line ends of its text, and the lines stay the same.
-/

namespace ModelNav
namespace Text

/-- The text without the carriage returns that stand right before line feeds. -/
def dropReturns : Text → Text
  | [] => []
  | '\r' :: '\n' :: rest => '\n' :: dropReturns rest
  | first :: rest => first :: dropReturns rest

/-- Every carriage return of the text stands right before a line feed. -/
def PairedReturns (text : Text) : Prop :=
  ∀ before after, text = before ++ '\r' :: after → after.head? = some '\n'

@[simp] theorem dropReturns_nil : dropReturns [] = [] := rfl

@[simp] theorem dropReturns_pair (rest : Text) :
    dropReturns ('\r' :: '\n' :: rest) = '\n' :: dropReturns rest := by
  rw [dropReturns]

/-- A character stays unless it is a carriage return with a line feed behind it. -/
theorem dropReturns_cons
    {first : Char}
    {rest : Text}
    (unpaired : first = '\r' → rest.head? ≠ some '\n') :
    dropReturns (first :: rest) = first :: dropReturns rest := by
  rw [dropReturns.eq_3]
  intro further carriage equal
  exact unpaired carriage (by rw [equal, List.head?_cons])

/-- A text is empty, begins with a pair, or begins with a character that stays. -/
@[elab_as_elim]
theorem dropReturns_induction
    {motive : Text → Prop}
    (nil : motive [])
    (pair : ∀ rest, motive rest → motive ('\r' :: '\n' :: rest))
    (cons : ∀ first rest, (first = '\r' → rest.head? ≠ some '\n') → motive rest →
      motive (first :: rest))
    (text : Text) :
    motive text := by
  fun_induction dropReturns text with
  | case1 => exact nil
  | case2 rest inductionHypothesis => exact pair rest inductionHypothesis
  | case3 first rest unpaired inductionHypothesis =>
      refine cons first rest ?_ inductionHypothesis
      intro carriage feed
      obtain ⟨further, rfl⟩ := List.head?_eq_some_iff.mp feed
      exact unpaired further carriage rfl

/-- A cut right before a character that is no line feed separates no pair. -/
theorem dropReturns_append_cons
    {first : Char}
    (noFeed : first ≠ '\n')
    (before rest : Text) :
    dropReturns (before ++ first :: rest) = dropReturns before ++ dropReturns (first :: rest) := by
  induction before using dropReturns_induction with
  | nil => rfl
  | pair before inductionHypothesis =>
      rw [List.cons_append, List.cons_append, dropReturns_pair, dropReturns_pair,
        inductionHypothesis, List.cons_append]
  | cons head before alone inductionHypothesis =>
      rw [List.cons_append, dropReturns_cons, inductionHypothesis, dropReturns_cons alone,
        List.cons_append]
      intro carriage
      cases before with
      | nil => simpa using noFeed
      | cons next further => exact alone carriage

/-- A character that belongs to no line end stays where it is and separates what is around it. -/
theorem dropReturns_append_mark
    {mark : Char}
    (noFeed : mark ≠ '\n')
    (noReturn : mark ≠ '\r')
    (before after : Text) :
    dropReturns (before ++ mark :: after) = dropReturns before ++ mark :: dropReturns after := by
  rw [dropReturns_append_cons noFeed, dropReturns_cons]
  intro carriage
  exact absurd carriage noReturn

/-- Text without carriage returns stays in front of any text. -/
theorem dropReturns_append_of_notMem
    {before : Text}
    (returnFree : '\r' ∉ before)
    (rest : Text) :
    dropReturns (before ++ rest) = before ++ dropReturns rest := by
  induction before with
  | nil => rfl
  | cons first before inductionHypothesis =>
      rw [List.mem_cons, not_or] at returnFree
      rw [List.cons_append, dropReturns_cons, inductionHypothesis returnFree.2, List.cons_append]
      intro carriage
      exact absurd carriage.symm returnFree.1

/-- Every cut of the text without those carriage returns comes from a cut of the text. -/
theorem exists_split_of_dropReturns
    {text front back : Text}
    (split : dropReturns text = front ++ back) :
    ∃ before after,
      text = before ++ after ∧ dropReturns before = front ∧ dropReturns after = back := by
  induction text using dropReturns_induction generalizing front with
  | nil =>
      obtain ⟨rfl, rfl⟩ := List.append_eq_nil_iff.mp split.symm
      exact ⟨[], [], rfl, rfl, rfl⟩
  | pair rest inductionHypothesis =>
      cases front with
      | nil => exact ⟨[], '\r' :: '\n' :: rest, rfl, rfl, split⟩
      | cons head front =>
          rw [dropReturns_pair] at split
          obtain ⟨rfl, splitRest⟩ := List.cons.inj split
          obtain ⟨before, after, rfl, rfl, rfl⟩ := inductionHypothesis splitRest
          exact ⟨'\r' :: '\n' :: before, after, rfl, dropReturns_pair before, rfl⟩
  | cons first rest alone inductionHypothesis =>
      cases front with
      | nil => exact ⟨[], first :: rest, rfl, rfl, split⟩
      | cons head front =>
          rw [dropReturns_cons alone] at split
          obtain ⟨rfl, splitRest⟩ := List.cons.inj split
          obtain ⟨before, after, rfl, rfl, rfl⟩ := inductionHypothesis splitRest
          refine ⟨first :: before, after, rfl, dropReturns_cons ?_, rfl⟩
          intro carriage feed
          apply alone carriage
          rw [List.head?_append, feed, Option.some_or]

/-- A property that carriage returns have holds of all characters with or without them. -/
theorem all_dropReturns
    {holds : Char → Bool}
    (carriage : holds '\r' = true)
    (text : Text) :
    (dropReturns text).all holds = text.all holds := by
  induction text using dropReturns_induction with
  | nil => rfl
  | pair rest inductionHypothesis => simp [carriage, inductionHypothesis]
  | cons first rest alone inductionHypothesis => simp [dropReturns_cons alone, inductionHypothesis]

theorem mem_dropReturns_iff
    {character : Char}
    (noReturn : character ≠ '\r')
    {text : Text} :
    character ∈ dropReturns text ↔ character ∈ text := by
  induction text using dropReturns_induction with
  | nil => rfl
  | pair rest inductionHypothesis => simp [noReturn, inductionHypothesis]
  | cons first rest alone inductionHypothesis => simp [dropReturns_cons alone, inductionHypothesis]

theorem dropReturns_eq_nil_iff
    {text : Text} :
    dropReturns text = [] ↔ text = [] := by
  cases text using dropReturns_induction with
  | nil => simp
  | pair rest => simp
  | cons first rest alone => simp [dropReturns_cons alone]

/-- Without a line feed nothing is dropped. -/
theorem dropReturns_eq_self
    {text : Text}
    (feedFree : '\n' ∉ text) :
    dropReturns text = text := by
  induction text using dropReturns_induction with
  | nil => rfl
  | pair rest inductionHypothesis => simp at feedFree
  | cons first rest alone inductionHypothesis =>
      rw [dropReturns_cons alone,
        inductionHypothesis fun present => feedFree (List.mem_cons_of_mem first present)]

/-- A piece without line feeds stood in the text as it is. -/
theorem eq_of_dropReturns_eq
    {text piece : Text}
    (feedFree : '\n' ∉ piece)
    (same : dropReturns text = piece) :
    text = piece := by
  rw [← same, mem_dropReturns_iff (by decide)] at feedFree
  rw [← same, dropReturns_eq_self feedFree]

/-- What is on either side of a character comes from what is on either side of it in the text. -/
theorem exists_append_mark_of_dropReturns
    {text front back : Text}
    {mark : Char}
    (noFeed : mark ≠ '\n')
    (split : dropReturns text = front ++ mark :: back) :
    ∃ before after,
      text = before ++ mark :: after ∧ dropReturns before = front ∧ dropReturns after = back := by
  obtain ⟨before, marked, rfl, droppedBefore, droppedMarked⟩ := exists_split_of_dropReturns split
  obtain ⟨alone, after, rfl, droppedAlone, droppedAfter⟩ :=
    exists_split_of_dropReturns (show dropReturns marked = [mark] ++ back from droppedMarked)
  obtain rfl : alone = [mark] :=
    eq_of_dropReturns_eq (by simpa using noFeed.symm) droppedAlone
  exact ⟨before, after, rfl, droppedBefore, droppedAfter⟩

/-- The cut at the last separator is where it was. -/
theorem splitAtLast?_dropReturns
    {separator : Char}
    (noFeed : separator ≠ '\n')
    (noReturn : separator ≠ '\r')
    (text : Text) :
    splitAtLast? separator (dropReturns text) =
      (splitAtLast? separator text).map fun sides =>
        (dropReturns sides.1, dropReturns sides.2) := by
  cases cut : splitAtLast? separator text with
  | none =>
      rw [splitAtLast?_eq_none_iff] at cut
      rwa [Option.map_none, splitAtLast?_eq_none_iff, mem_dropReturns_iff noReturn]
  | some sides =>
      obtain ⟨before, after⟩ := sides
      obtain ⟨rfl, absent⟩ := splitAtLast?_eq_some_iff.mp cut
      rw [dropReturns_append_mark noFeed noReturn, splitAtLast?_append_cons, Option.map_some]
      rwa [mem_dropReturns_iff noReturn]

/-! ## Texts in which all carriage returns are paired -/

theorem PairedReturns.tail
    {first : Char}
    {rest : Text}
    (paired : PairedReturns (first :: rest)) :
    PairedReturns rest :=
  fun before after split => paired (first :: before) after (by rw [split, List.cons_append])

/-- A character that stays is no carriage return. -/
theorem PairedReturns.head_ne_return
    {first : Char}
    {rest : Text}
    (paired : PairedReturns (first :: rest))
    (alone : first = '\r' → rest.head? ≠ some '\n') :
    first ≠ '\r' := by
  rintro rfl
  exact alone rfl (paired [] rest rfl)

/-- All carriage returns are paired exactly when all of them are dropped. -/
theorem pairedReturns_iff
    {text : Text} :
    PairedReturns text ↔ '\r' ∉ dropReturns text := by
  constructor
  · intro paired
    induction text using dropReturns_induction with
    | nil => exact List.not_mem_nil
    | pair rest inductionHypothesis =>
        simpa using inductionHypothesis paired.tail.tail
    | cons first rest alone inductionHypothesis =>
        have noReturn := paired.head_ne_return alone
        rw [dropReturns_cons alone, List.mem_cons, not_or]
        exact ⟨noReturn.symm, inductionHypothesis paired.tail⟩
  · rintro dropped before after rfl
    by_contra alone
    rw [dropReturns_append_cons (by decide), dropReturns_cons fun _ => alone] at dropped
    simp at dropped

instance (text : Text) : Decidable (PairedReturns text) :=
  decidable_of_iff _ pairedReturns_iff.symm

/-- Reading a file does to such a text what dropping the carriage returns does. -/
theorem PairedReturns.unifyLineEnds_eq
    {text : Text}
    (paired : PairedReturns text) :
    unifyLineEnds text = dropReturns text := by
  induction text using dropReturns_induction with
  | nil => rfl
  | pair rest inductionHypothesis =>
      rw [unifyLineEnds, dropReturns_pair, inductionHypothesis paired.tail.tail]
  | cons first rest alone inductionHypothesis =>
      have noReturn := paired.head_ne_return alone
      rw [unifyLineEnds.eq_4 _ _ (fun _ carriage => absurd carriage noReturn) noReturn,
        dropReturns_cons alone, inductionHypothesis paired.tail]

/-- Such a text keeps its lines. -/
theorem PairedReturns.lines_dropReturns
    {text : Text}
    (paired : PairedReturns text) :
    lines (dropReturns text) = lines text := by
  induction text using dropReturns_induction with
  | nil => rfl
  | pair rest inductionHypothesis =>
      rw [dropReturns_pair, lines.eq_2, lines.eq_3, inductionHypothesis paired.tail.tail]
  | cons first rest alone inductionHypothesis =>
      have noReturn := paired.head_ne_return alone
      have same := inductionHypothesis paired.tail
      rw [dropReturns_cons alone]
      by_cases feed : first = '\n'
      · rw [feed, lines.eq_2, lines.eq_2, same]
      · have noPair (after further : Text) : first = '\r' → after = '\n' :: further → False :=
          fun carriage => absurd carriage noReturn
        rw [lines.eq_4 _ _ feed (noPair _), lines.eq_4 _ _ feed (noPair _), same]

end Text
end ModelNav
