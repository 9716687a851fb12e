import Mathlib.Data.List.Perm.Basic
import ModelNav.Proofs.Project.AppDirs

/-!
# The canonical order of application directories

The names of application directories are put into an order that depends on the multiset of names
alone.  Every copy of the common name comes first, the other names follow by their code points, and
a name that is listed several times stays as often as it was listed.  Names that are in order
already keep their places, and two lists get the same order exactly when each is a permutation of
the other.
-/

namespace ModelNav
namespace Text

/-- A text comes no later than another one exactly when the other one does not come before it. -/
theorem inOrder_iff_not_before
    {first second : Text} :
    inOrder first second = true ↔ ¬Before second first := by
  rw [before_iff]
  constructor
  · rintro forwards ⟨backwards, different⟩
    exact different (inOrder_antisymm backwards forwards)
  · intro notBefore
    rcases inOrder_total first second with forwards | backwards
    · exact forwards
    · obtain rfl : second = first :=
        by_contra fun different => notBefore ⟨backwards, different⟩
      exact backwards

end Text

namespace AppDirs

variable {common : Text} {names : List Text}

/-- Copies of the common name in front of other names in order are in order. -/
theorem pairwise_precedes_replicate_append
    {others : List Text}
    (absent : common ∉ others)
    (ordered : others.Pairwise fun first second => Text.inOrder first second = true)
    (copies : Nat) :
    (List.replicate copies common ++ others).Pairwise fun first second =>
      precedes common first second = true := by
  rw [List.pairwise_append]
  refine ⟨?_, ?_, ?_⟩
  · exact List.pairwise_replicate.mpr (Or.inr (precedes_iff.mpr (Or.inl rfl)))
  · refine ordered.imp_of_mem ?_
    intro first second _ secondPresent before
    have notCommon : second ≠ common := fun same => absent (same ▸ secondPresent)
    exact precedes_iff.mpr (Or.inr ⟨notCommon, before⟩)
  · intro first isCopy second _
    exact precedes_iff.mpr (Or.inl (List.eq_of_mem_replicate isCopy))

/-- The order consists of the copies of the common name and of the other names. -/
theorem sort_eq_replicate_append (names : List Text) :
    sort common names =
      List.replicate (names.count common) common ++
        (sort common names).filter fun name => name ≠ common := by
  have absent : common ∉ (sort common names).filter fun name => name ≠ common := by
    simp
  have copies : (sort common names).filter (fun name => name = common) =
      List.replicate (names.count common) common := by
    rw [List.filter_eq, (perm_sort names).count_eq]
  -- Both sides hold the same names in order, and the order leaves no choice between two such lists.
  apply List.Perm.eq_of_pairwise _ (pairwise_precedes_sort names)
    (pairwise_precedes_replicate_append absent (pairwise_inOrder_sort names) _)
  · rw [← copies]
    have parts := List.filter_append_perm (fun name => name = common) (sort common names)
    simpa using parts.symm
  · intro first second _ _
    exact precedes_antisymm

/-- Names that are in order already keep their places. -/
theorem sort_sort (names : List Text) : sort common (sort common names) = sort common names :=
  sort_eq_of_perm (perm_sort names)

/-- Two lists get the same order exactly when each is a permutation of the other. -/
theorem sort_eq_sort_iff
    {others : List Text} :
    sort common others = sort common names ↔ others.Perm names := by
  constructor
  · intro same
    calc
      others.Perm (sort common others) := (perm_sort others).symm
      (sort common others).Perm (sort common names) := List.Perm.of_eq same
      (sort common names).Perm names := perm_sort names
  · exact sort_eq_of_perm

/-- A list is refused or gets the order of its names. -/
theorem eq_sort_of_collate
    {sorted : List Text}
    (collated : collate common names = .ok sorted) :
    sort common names = sorted := by
  unfold collate at collated
  split at collated
  · contradiction
  · exact Except.ok.inj collated

/-- Names without a NUL are put into their canonical order: it has the same names as often, every
copy of the common name first and the others by their code points; it is its own order, and it is
the order of exactly the permutations of the names. -/
theorem exists_collate_canonical
    (common : Text)
    (names : List Text)
    (nulFree : ∀ name ∈ names, '\x00' ∉ name) :
    ∃ sorted others : List Text,
      collate common names = .ok sorted ∧
        sorted.Perm names ∧
        sorted = List.replicate (names.count common) common ++ others ∧
        common ∉ others ∧
        (others.Pairwise fun first second => ¬Text.Before second first) ∧
        collate common sorted = .ok sorted ∧
        ∀ listing, collate common listing = .ok sorted ↔ listing.Perm names := by
  have sortedNulFree : ∀ name ∈ sort common names, '\x00' ∉ name := by
    intro name present
    exact nulFree name ((perm_sort names).mem_iff.mp present)
  refine ⟨sort common names, (sort common names).filter fun name => name ≠ common,
    collate_of_nulFree nulFree, perm_sort names, sort_eq_replicate_append names, by simp,
    ?_, ?_, ?_⟩
  · exact (pairwise_inOrder_sort names).imp Text.inOrder_iff_not_before.mp
  · rw [collate_of_nulFree sortedNulFree, sort_sort]
  · intro listing
    constructor
    · intro collated
      exact sort_eq_sort_iff.mp (eq_sort_of_collate collated)
    · intro perm
      have listingNulFree : ∀ name ∈ listing, '\x00' ∉ name := by
        intro name present
        exact nulFree name (perm.mem_iff.mp present)
      rw [collate_of_nulFree listingNulFree, sort_eq_sort_iff.mpr perm]

namespace Sample

/-- Three names, two of which are listed twice. -/
def listing : List Text :=
  ["appx".toList, "app_common".toList, "app".toList, "app_common".toList, "app".toList]

end Sample

/-- The common name comes first as often as it is listed, and so do the others behind it. -/
theorem exists_collate_canonical_sample :
    (∀ name ∈ Sample.listing, '\x00' ∉ name) ∧
      ∃ others : List Text,
        collate "app_common".toList Sample.listing =
            .ok ("app_common".toList :: "app_common".toList :: others) ∧
          others.Perm ["app".toList, "app".toList, "appx".toList] := by
  have nulFree : ∀ name ∈ Sample.listing, '\x00' ∉ name := by decide
  obtain ⟨sorted, others, collated, perm, rfl, -, -, -, -⟩ :=
    exists_collate_canonical "app_common".toList Sample.listing nulFree
  have copies : Sample.listing.count "app_common".toList = 2 := by decide
  rw [copies] at collated perm
  have known : Sample.listing.Perm (List.replicate 2 "app_common".toList ++
      ["app".toList, "app".toList, "appx".toList]) := by
    decide
  exact ⟨nulFree, others, collated, (List.perm_append_left_iff _).mp (perm.trans known)⟩

end AppDirs
end ModelNav
