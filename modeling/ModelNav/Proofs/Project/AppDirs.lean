import Mathlib.Data.List.Basic
import Mathlib.Data.List.Nodup
import Mathlib.Data.List.Perm.Basic
import ModelNav.Project.Discovery
import ModelNav.Proofs.FileSystem.Children

/-!
# The names of application directories

A listing names every entry once, and no name of an entry has a NUL character, so the names that are
found can always be put in order.  The order is total: what it makes of the names depends on the set
of names alone, not on the listing.
-/

namespace ModelNav
namespace Text

theorem inOrder_cons_iff
    {first second : Char}
    {rest others : Text} :
    inOrder (first :: rest) (second :: others) = true ↔
      first.toNat < second.toNat ∨ (first = second ∧ inOrder rest others = true) := by
  simp [inOrder]

theorem inOrder_trans
    {first second third : Text}
    (before : inOrder first second = true)
    (after : inOrder second third = true) :
    inOrder first third = true := by
  induction first generalizing second third with
  | nil => rfl
  | cons first rest inductionHypothesis =>
      cases second with
      | nil => simp [inOrder] at before
      | cons second others =>
          cases third with
          | nil => simp [inOrder] at after
          | cons third further =>
              rw [inOrder_cons_iff] at before after ⊢
              rcases before with less | ⟨rfl, restBefore⟩
              · rcases after with lessAgain | ⟨rfl, -⟩
                · exact Or.inl (Nat.lt_trans less lessAgain)
                · exact Or.inl less
              · rcases after with less | ⟨rfl, restAfter⟩
                · exact Or.inl less
                · exact Or.inr ⟨rfl, inductionHypothesis restBefore restAfter⟩

theorem inOrder_total
    (first second : Text) :
    inOrder first second = true ∨ inOrder second first = true := by
  induction first generalizing second with
  | nil => exact Or.inl rfl
  | cons first rest inductionHypothesis =>
      cases second with
      | nil => exact Or.inr rfl
      | cons second others =>
          rw [inOrder_cons_iff, inOrder_cons_iff]
          rcases Nat.lt_trichotomy first.toNat second.toNat with less | same | greater
          · exact Or.inl (Or.inl less)
          · obtain rfl : first = second := Char.toNat_inj.mp same
            rcases inductionHypothesis others with restBefore | restAfter
            · exact Or.inl (Or.inr ⟨rfl, restBefore⟩)
            · exact Or.inr (Or.inr ⟨rfl, restAfter⟩)
          · exact Or.inr (Or.inl greater)

theorem inOrder_antisymm
    {first second : Text}
    (before : inOrder first second = true)
    (after : inOrder second first = true) :
    first = second := by
  induction first generalizing second with
  | nil =>
      cases second with
      | nil => rfl
      | cons second others => simp [inOrder] at after
  | cons first rest inductionHypothesis =>
      cases second with
      | nil => simp [inOrder] at before
      | cons second others =>
          rw [inOrder_cons_iff] at before after
          rcases before with less | ⟨rfl, restBefore⟩
          · rcases after with greater | ⟨rfl, -⟩ <;> omega
          · rcases after with greater | ⟨-, restAfter⟩
            · omega
            · rw [inductionHypothesis restBefore restAfter]

/-- The first text comes before the second one by the code points of their characters. -/
def Before (first second : Text) : Prop :=
  List.Lex (fun one other : Char => one.toNat < other.toNat) first second

theorem before_iff
    {first second : Text} :
    Before first second ↔ inOrder first second = true ∧ first ≠ second := by
  unfold Before
  induction first generalizing second with
  | nil =>
      cases second with
      | nil => simp
      | cons second others => simp [inOrder]
  | cons first rest inductionHypothesis =>
      cases second with
      | nil => simp [inOrder]
      | cons second others =>
          rw [List.cons_lex_cons_iff, inductionHypothesis, inOrder_cons_iff]
          constructor
          · rintro (less | ⟨rfl, restBefore, different⟩)
            · refine ⟨Or.inl less, ?_⟩
              rintro same
              rw [(List.cons.inj same).1] at less
              exact Nat.lt_irrefl _ less
            · exact ⟨Or.inr ⟨rfl, restBefore⟩, fun same => different (List.cons.inj same).2⟩
          · rintro ⟨less | ⟨rfl, restBefore⟩, different⟩
            · exact Or.inl less
            · exact Or.inr ⟨rfl, restBefore, fun same => different (congrArg _ same)⟩

end Text

namespace AppDirs

variable {common : Text}

theorem precedes_iff
    {first second : Text} :
    precedes common first second = true ↔
      first = common ∨ (second ≠ common ∧ Text.inOrder first second = true) := by
  simp [precedes]

theorem precedes_trans
    (first second third : Text)
    (before : precedes common first second = true)
    (after : precedes common second third = true) :
    precedes common first third = true := by
  rw [precedes_iff] at before after ⊢
  rcases before with isCommon | ⟨second_ne, restBefore⟩
  · exact Or.inl isCommon
  · rcases after with isCommon | ⟨third_ne, restAfter⟩
    · exact absurd isCommon second_ne
    · exact Or.inr ⟨third_ne, Text.inOrder_trans restBefore restAfter⟩

theorem precedes_total
    (first second : Text) :
    (precedes common first second || precedes common second first) = true := by
  rw [Bool.or_eq_true, precedes_iff, precedes_iff]
  by_cases firstCommon : first = common
  · exact Or.inl (Or.inl firstCommon)
  · by_cases secondCommon : second = common
    · exact Or.inr (Or.inl secondCommon)
    · rcases Text.inOrder_total first second with before | after
      · exact Or.inl (Or.inr ⟨secondCommon, before⟩)
      · exact Or.inr (Or.inr ⟨firstCommon, after⟩)

theorem precedes_antisymm
    {first second : Text}
    (before : precedes common first second = true)
    (after : precedes common second first = true) :
    first = second := by
  rw [precedes_iff] at before after
  rcases before with rfl | ⟨second_ne, restBefore⟩
  · rcases after with isCommon | ⟨first_ne, -⟩
    · exact isCommon.symm
    · exact absurd rfl first_ne
  · rcases after with isCommon | ⟨-, restAfter⟩
    · exact absurd isCommon second_ne
    · exact Text.inOrder_antisymm restBefore restAfter

theorem perm_sort (names : List Text) : (sort common names).Perm names :=
  List.mergeSort_perm names _

theorem pairwise_precedes_sort (names : List Text) :
    (sort common names).Pairwise fun first second => precedes common first second = true :=
  List.pairwise_mergeSort precedes_trans precedes_total names

/-- The order of the names does not depend on the order in which they were listed. -/
theorem sort_eq_of_perm
    {names others : List Text}
    (perm : names.Perm others) :
    sort common names = sort common others := by
  apply List.Perm.eq_of_pairwise _ (pairwise_precedes_sort names) (pairwise_precedes_sort others)
  · calc
      (sort common names).Perm names := perm_sort names
      names.Perm others := perm
      others.Perm (sort common others) := (perm_sort others).symm
  · intro first second _ _
    exact precedes_antisymm

/-- The common name comes first when it is there. -/
theorem head?_sort
    {names : List Text}
    (present : common ∈ names) :
    (sort common names).head? = some common := by
  have sorted : (sort common names).Pairwise fun first second =>
      precedes common first second = true :=
    pairwise_precedes_sort names
  have inSorted : common ∈ sort common names := (perm_sort names).mem_iff.mpr present
  cases order : sort common names with
  | nil =>
      rw [order] at inSorted
      contradiction
  | cons first rest =>
      rw [order] at inSorted sorted
      rcases List.mem_cons.mp inSorted with isFirst | inRest
      · rw [isFirst, List.head?_cons]
      · have before := (List.pairwise_cons.mp sorted).1 common inRest
        rcases precedes_iff.mp before with isCommon | ⟨notCommon, -⟩
        · rw [isCommon, List.head?_cons]
        · exact absurd rfl notCommon

/-- The other names are in the order of their code points. -/
theorem pairwise_inOrder_sort (names : List Text) :
    ((sort common names).filter fun name => name ≠ common).Pairwise fun first second =>
      Text.inOrder first second = true := by
  rw [List.pairwise_filter]
  refine (pairwise_precedes_sort names).imp ?_
  intro first second before first_ne _
  rcases precedes_iff.mp before with isCommon | ⟨-, inOrder⟩
  · simp [isCommon] at first_ne
  · exact inOrder

/-- Names that are listed once are ordered strictly by their code points, the common one apart. -/
theorem pairwise_before_sort
    {names : List Text}
    (nodup : names.Nodup) :
    ((sort common names).filter fun name => name ≠ common).Pairwise Text.Before := by
  have distinct : ((sort common names).filter fun name => name ≠ common).Pairwise (· ≠ ·) :=
    ((perm_sort names).nodup_iff.mpr nodup).filter _
  exact ((pairwise_inOrder_sort names).and distinct).imp Text.before_iff.mpr

/-- Names without a NUL can be put in order. -/
theorem collate_of_nulFree
    {names : List Text}
    (nulFree : ∀ name ∈ names, '\x00' ∉ name) :
    collate common names = .ok (sort common names) := by
  rw [collate, if_neg]
  simpa using nulFree

end AppDirs

/-! ## Listings -/

theorem sublist_of_filterAuxM
    {ε α : Type}
    {test : α → Except ε Bool}
    {items kept chosen : List α}
    (filtered : items.filterAuxM test kept = .ok chosen) :
    chosen.reverse.Sublist (kept.reverse ++ items) := by
  induction items generalizing kept with
  | nil =>
      obtain rfl : kept = chosen := Except.ok.inj filtered
      simp
  | cons item items inductionHypothesis =>
      obtain ⟨holds, -, filteredLater⟩ := bind_eq_ok_iff.mp filtered
      cases holds with
      | true => simpa using inductionHypothesis filteredLater
      | false =>
          exact (inductionHypothesis filteredLater).trans
            ((List.sublist_cons_self item items).append_left kept.reverse)

/-- What a filter keeps stands in the list, in the same order. -/
theorem sublist_of_filterM
    {ε α : Type}
    {test : α → Except ε Bool}
    {items chosen : List α}
    (filtered : items.filterM test = .ok chosen) :
    chosen.Sublist items := by
  obtain ⟨reversed, filteredAux, ended⟩ := bind_eq_ok_iff.mp filtered
  obtain rfl : reversed.reverse = chosen := Except.ok.inj ended
  simpa using sublist_of_filterAuxM filteredAux

namespace Project

variable {files : FileSystem} {settings : Settings} {projectRoot : Path} {names : List Text}

/-- The names that are found are names of entries. -/
theorem exists_sublist_of_appDirsBelow
    (found : appDirsBelow files settings projectRoot = .ok names) :
    ∃ entryNames : List EntryName,
      entryNames.Nodup ∧ names.Sublist (entryNames.map (·.text)) := by
  obtain ⟨listing, listed, filtered⟩ := bind_eq_ok_iff.mp found
  obtain ⟨location, -, rfl⟩ := FileSystem.list_eq_ok_iff.mp listed
  exact ⟨files.namesBelow location, files.nodup_namesBelow location, sublist_of_filterM filtered⟩

/-- Only names without a NUL are found. -/
theorem nulFree_of_appDirsBelow
    (found : appDirsBelow files settings projectRoot = .ok names) :
    ∀ name ∈ names, '\x00' ∉ name := by
  obtain ⟨entryNames, -, sublist⟩ := exists_sublist_of_appDirsBelow found
  intro name present
  obtain ⟨entryName, -, rfl⟩ := List.mem_map.mp (sublist.subset present)
  exact entryName.nulFree

/-- No name is found twice. -/
theorem nodup_of_appDirsBelow
    (found : appDirsBelow files settings projectRoot = .ok names) :
    names.Nodup := by
  obtain ⟨entryNames, nodup, sublist⟩ := exists_sublist_of_appDirsBelow found
  exact sublist.nodup (nodup.map EntryName.text_injective)

end Project
end ModelNav
