import ModelNav.Proofs.FileSystem
import ModelNav.Proofs.Text.Separated

/-!
# What stands right below a directory

A listing names exactly the entries right below a directory.  The path of such an entry leads to it,
unless it is too long: then nothing can be said about the entry.
-/

namespace ModelNav

theorem nodup_eraseDups
    {α : Type}
    [DecidableEq α]
    (items : List α) :
    items.eraseDups.Nodup := by
  induction length : items.length using Nat.strongRecOn generalizing items with
  | ind count inductionHypothesis =>
      cases items with
      | nil => simp
      | cons first rest =>
          rw [List.eraseDups_cons, List.nodup_cons]
          constructor
          · simp
          · refine inductionHypothesis _ ?_ _ rfl
            rw [← length, List.length_cons]
            exact Nat.lt_succ_of_le (List.length_filter_le _ _)

namespace Path

variable {path : Path}

/-- A path has no NUL exactly when none of its parts has one. -/
theorem nulFree_iff :
    path.NulFree ↔ ∀ part ∈ path.parts, '\x00' ∉ part := by
  have notInAnchor : '\x00' ∉ writtenAnchor path.anchor := by
    cases path.anchor <;> decide
  unfold NulFree toText
  split
  · rename_i isDot
    simp [isDot.2]
  · rw [List.mem_append, Text.mem_join_iff (by decide)]
    simp [notInAnchor]

/-- The path is too long as a whole, or it goes through a name that is too long. -/
def Overlong (path : Path) : Prop :=
  FileSystem.pathLimit ≤ Utf8.byteLength path.toText ∨
    ∃ part ∈ path.parts, FileSystem.nameLimit < Utf8.byteLength part

instance (path : Path) : Decidable path.Overlong :=
  inferInstanceAs (Decidable (_ ∨ _))

end Path

/-- The name of an entry has no NUL. -/
theorem EntryName.nulFree (name : EntryName) : '\x00' ∉ name.text := by
  have valid := name.valid
  simp only [isEntryName, Bool.and_eq_true, Bool.not_eq_true', List.contains_eq_mem,
    decide_eq_false_iff_not] at valid
  exact valid.2

theorem EntryName.text_injective : Function.Injective EntryName.text := by
  rintro ⟨first, _⟩ ⟨second, _⟩ same
  simpa using same

/-- The text of an entry name names that entry. -/
theorem EntryName.ofText?_text (name : EntryName) : ofText? name.text = some name := by
  simp [ofText?, name.valid]

namespace FileSystem

variable {files : FileSystem} {path : Path} {location : Location} {name : EntryName} {entry : Entry}

theorem entryAt?_cons :
    files.entryAt? (name :: location) = files.entries.lookup (name :: location) := rfl

/-- The names below a location are those at which an entry stands. -/
theorem mem_namesBelow_iff :
    name ∈ files.namesBelow location ↔ ∃ entry, files.entryAt? (name :: location) = some entry := by
  have lookup_iff : (∃ entry, files.entries.lookup (name :: location) = some entry) ↔
      ∃ entry, (name :: location, entry) ∈ files.entries := by
    induction files.entries with
    | nil => simp
    | cons first rest inductionHypothesis =>
        obtain ⟨place, found⟩ := first
        by_cases same : name :: location = place
        · simp [same]
        · have different : (name :: location == place) = false := by simpa using same
          simp [List.lookup_cons, different, inductionHypothesis, same]
  rw [entryAt?_cons, lookup_iff]
  simp only [namesBelow, List.mem_eraseDups, List.mem_filterMap]
  constructor
  · rintro ⟨⟨place, entry⟩, present, named⟩
    cases place with
    | nil => simp at named
    | cons first parent =>
        simp only [Option.ite_none_right_eq_some, Option.some.injEq] at named
        obtain ⟨rfl, rfl⟩ := named
        exact ⟨entry, present⟩
  · rintro ⟨entry, present⟩
    exact ⟨_, present, by simp⟩

/-- A listing of a directory gives the names below it. -/
theorem list_eq_ok_iff
    {names : List Text} :
    files.list path = .ok names ↔
      ∃ location, files.lookup path = .ok (location, .directory) ∧
        names = (files.namesBelow location).map (·.text) := by
  rw [list, bind_eq_ok_iff]
  constructor
  · rintro ⟨⟨location, entry⟩, found, ended⟩
    cases entry with
    | file content => cases ended
    | directory => exact ⟨location, found, (Except.ok.inj ended).symm⟩
  · rintro ⟨location, found, rfl⟩
    exact ⟨(location, .directory), found, rfl⟩

/-- No name stands below a location twice. -/
theorem nodup_namesBelow
    (files : FileSystem)
    (location : Location) :
    (files.namesBelow location).Nodup :=
  nodup_eraseDups _

/-- Following parts goes on from where the first of them lead. -/
theorem walk_append
    (here : Location)
    (parts more : List Text) :
    files.walk here (parts ++ more) =
      files.walk here parts >>= fun there => files.walk there more := by
  induction parts generalizing here with
  | nil => rfl
  | cons part parts inductionHypothesis =>
      simp only [List.cons_append, walk]
      split
      · rfl
      · rfl
      · split
        · exact inductionHypothesis here.tail
        · split
          · rfl
          · split
            · rfl
            · split
              · exact inductionHypothesis _
              · rfl

/-- Only names that are not too long are followed. -/
theorem byteLength_le_of_walk
    {here : Location}
    {parts : List Text}
    (followed : files.walk here parts = .ok location) :
    ∀ part ∈ parts, Utf8.byteLength part ≤ nameLimit := by
  induction parts generalizing here with
  | nil => simp
  | cons part parts inductionHypothesis =>
      simp only [walk] at followed
      rw [List.forall_mem_cons]
      split at followed
      · contradiction
      · contradiction
      · split at followed
        · rename_i isUp
          exact ⟨by rw [isUp]; decide, inductionHypothesis followed⟩
        · split at followed
          · contradiction
          · rename_i fits
            split at followed
            · contradiction
            · split at followed
              · exact ⟨Nat.le_of_not_lt fits, inductionHypothesis followed⟩
              · contradiction

/-- An entry stands right below the directory that a path leads to. -/
def HasChild
    (files : FileSystem)
    (path : Path)
    (name : EntryName)
    (entry : Entry) : Prop :=
  ∃ location, files.lookup path = .ok (location, .directory) ∧
    files.entryAt? (name :: location) = some entry

/-- What stands right below a directory is among the names below it. -/
theorem HasChild.mem_namesBelow
    (hasChild : files.HasChild path name entry)
    (found : files.lookup path = .ok (location, .directory)) :
    name ∈ files.namesBelow location := by
  obtain ⟨place, foundAlso, stands⟩ := hasChild
  rw [found] at foundAlso
  obtain rfl : location = place := by simpa using foundAlso
  exact mem_namesBelow_iff.mpr ⟨entry, stands⟩

/-- Where a path leads somewhere, it has no NUL, is not too long, and was followed to its end. -/
theorem lookup_eq_ok_iff :
    files.lookup path = .ok (location, entry) ↔
      path.NulFree ∧ Utf8.byteLength path.toText < pathLimit ∧
        files.walk (files.start path) path.parts = .ok location ∧
        files.entryAt? location = some entry := by
  unfold lookup Path.NulFree
  dsimp only
  by_cases nul : '\x00' ∈ path.toText
  · simp [nul]
  · by_cases long : pathLimit ≤ Utf8.byteLength path.toText
    · simp [nul, long, Nat.not_lt.mpr long]
    · simp only [nul, long, List.contains_eq_mem, decide_false, Bool.false_eq_true, if_false,
        not_false_eq_true, true_and, Nat.lt_of_not_le long]
      cases followed : files.walk (files.start path) path.parts with
      | error refusal => simp
      | ok there =>
          cases stands : files.entryAt? there with
          | none =>
              simp only [stands, reduceCtorEq, Except.ok.injEq, false_iff, not_and]
              rintro rfl
              simp [stands]
          | some found =>
              simp only [stands, Except.ok.injEq, Prod.mk.injEq]
              constructor
              · rintro ⟨rfl, rfl⟩
                exact ⟨rfl, stands⟩
              · rintro ⟨rfl, standsAlso⟩
                rw [stands, Option.some.injEq] at standsAlso
                exact ⟨rfl, standsAlso⟩

/-- From a directory, the name of an entry right below it is followed unless it is too long. -/
theorem walk_child
    (isDirectory : files.entryAt? location = some .directory)
    (stands : files.entryAt? (name :: location) = some entry) :
    files.walk location [name.text] =
      if nameLimit < Utf8.byteLength name.text then .error .nameTooLong
      else .ok (name :: location) := by
  have notUp : name.text ≠ ['.', '.'] := by
    intro isUp
    have valid := name.valid
    rw [isUp] at valid
    contradiction
  simp only [walk, isDirectory, notUp, if_false, name.ofText?_text, stands, Option.isSome_some,
    if_true]

theorem nulFree_child
    (nulFree : path.NulFree)
    (name : EntryName) :
    (path.child name.text).NulFree := by
  rw [Path.nulFree_iff] at nulFree ⊢
  intro part present
  rcases List.mem_append.mp present with inPath | isName
  · exact nulFree part inPath
  · rw [List.mem_singleton.mp isName]
    exact name.nulFree

/-- The path of an entry right below a directory leads to it, unless the path is too long. -/
theorem HasChild.lookup_child
    (hasChild : files.HasChild path name entry)
    (fits : ¬(path.child name.text).Overlong) :
    ∃ location, files.lookup (path.child name.text) = .ok (location, entry) := by
  obtain ⟨location, isDirectory, stands⟩ := hasChild
  obtain ⟨nulFree, -, followed, standsDirectory⟩ := lookup_eq_ok_iff.mp isDirectory
  simp only [Path.Overlong, not_or, not_exists, not_and, Nat.not_le, Nat.not_lt] at fits
  have nameFits : ¬nameLimit < Utf8.byteLength name.text :=
    Nat.not_lt.mpr (fits.2 name.text (by simp [Path.child]))
  refine ⟨name :: location, lookup_eq_ok_iff.mpr ⟨nulFree_child nulFree name, fits.1, ?_, stands⟩⟩
  change files.walk (files.start path) (path.parts ++ [name.text]) = _
  rw [walk_append, followed]
  exact (walk_child standsDirectory stands).trans (if_neg nameFits)

/-- The path of an entry right below a directory is refused when it is too long. -/
theorem HasChild.lookup_child_of_overlong
    (hasChild : files.HasChild path name entry)
    (overlong : (path.child name.text).Overlong) :
    files.lookup (path.child name.text) =
      .error (.refused .nameTooLong (path.child name.text)) := by
  obtain ⟨location, isDirectory, stands⟩ := hasChild
  obtain ⟨nulFree, -, followed, standsDirectory⟩ := lookup_eq_ok_iff.mp isDirectory
  have noNul : '\x00' ∉ (path.child name.text).toText := nulFree_child nulFree name
  unfold lookup
  dsimp only
  rw [if_neg (by simpa using noNul)]
  split
  · rfl
  · rename_i short
    have nameTooLong : nameLimit < Utf8.byteLength name.text := by
      rcases overlong with long | ⟨part, present, long⟩
      · exact absurd long short
      · rcases List.mem_append.mp present with inPath | isName
        · exact absurd long (Nat.not_lt.mpr (byteLength_le_of_walk followed part inPath))
        · rwa [List.mem_singleton.mp isName] at long
    have refused : files.walk (files.start (path.child name.text)) (path.child name.text).parts =
        .error .nameTooLong := by
      change files.walk (files.start path) (path.parts ++ [name.text]) = _
      rw [walk_append, followed]
      exact (walk_child standsDirectory stands).trans (if_pos nameTooLong)
    rw [refused]

/-- Whether an entry right below a directory is a directory can be told unless its path is too
long. -/
theorem HasChild.isDirectory?_child
    (hasChild : files.HasChild path name entry) :
    files.isDirectory? (path.child name.text) =
      if (path.child name.text).Overlong then
        .error (.refused .nameTooLong (path.child name.text))
      else .ok (decide (entry = .directory)) := by
  unfold isDirectory? test
  split_ifs with overlong
  · rw [hasChild.lookup_child_of_overlong overlong]
  · obtain ⟨location, found⟩ := hasChild.lookup_child overlong
    rw [found]
    cases entry <;> rfl

end FileSystem
end ModelNav
