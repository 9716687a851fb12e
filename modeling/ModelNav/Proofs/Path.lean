import Mathlib.Data.List.Basic
import ModelNav.FileSystem.Basic
import ModelNav.Proofs.Text.Separated

/-!
# Paths that are written and read

An absolute path without superfluous parts is read back as it was written, and making it absolute
does not change it.
-/

namespace ModelNav
namespace Path

/-- An absolute path whose parts are all names. -/
structure Normal (path : Path) : Prop where
  rooted : path.anchor = .root
  kept : ∀ part ∈ path.parts, keeps part = true
  notAbove : ∀ part ∈ path.parts, part ≠ ['.', '.']
  slashFree : ∀ part ∈ path.parts, '/' ∉ part

variable {path : Path}

theorem Normal.toText_eq
    (normal : path.Normal) :
    path.toText = '/' :: Text.join ['/'] path.parts := by
  rw [toText, if_neg (by simp [normal.rooted]), normal.rooted]
  rfl

/-- What follows the slash of the root begins with no other slash. -/
theorem Normal.head?_join_ne_slash
    (normal : path.Normal) :
    (Text.join ['/'] path.parts).head? ≠ some '/' := by
  cases parts : path.parts with
  | nil => simp
  | cons part others =>
      have present : part ∈ path.parts := by
        rw [parts]
        exact List.mem_cons_self
      have nonempty : part ≠ [] := by
        rintro rfl
        have kept := normal.kept [] present
        contradiction
      have firstPart : (Text.join ['/'] (part :: others)).head? = part.head? := by
        cases others with
        | nil => rw [Text.join_singleton]
        | cons next others =>
            rw [Text.join_cons_cons, List.append_assoc, List.head?_append_of_ne_nil _ nonempty]
      rw [firstPart]
      exact fun slash => normal.slashFree part present (List.mem_of_head? slash)

theorem Normal.anchorOf_toText
    (normal : path.Normal) :
    anchorOf path.toText = .root := by
  have noSlash := normal.head?_join_ne_slash
  rw [normal.toText_eq, anchorOf, List.takeWhile_cons_of_pos (by decide)]
  cases joined : Text.join ['/'] path.parts with
  | nil => rfl
  | cons first rest =>
      rw [joined, List.head?_cons, ne_eq, Option.some.injEq] at noSlash
      rw [List.takeWhile_cons_of_neg (by simpa using noSlash)]
      rfl

/-- A normal path is read back as it was written. -/
theorem Normal.ofText_toText
    (normal : path.Normal) :
    ofText path.toText = path := by
  have parts_eq : (Text.splitOn '/' path.toText).filter keeps = path.parts := by
    rw [normal.toText_eq, Text.splitOn, if_pos rfl]
    cases parts : path.parts with
    | nil => rfl
    | cons part others =>
        have kept := normal.kept
        have slashFree := normal.slashFree
        rw [parts] at kept slashFree
        rw [Text.splitOn_join slashFree, List.filter_cons_of_neg (by decide),
          List.filter_eq_self.mpr kept]
  rw [ofText, normal.anchorOf_toText, parts_eq, ← normal.rooted]

/-- Parts that are not two dots are kept one after the other. -/
theorem foldl_eq_reverse_append
    {parts : List Text}
    (notAbove : ∀ part ∈ parts, part ≠ ['.', '.'])
    (above : List Text) :
    parts.foldl (fun above part => if part = ['.', '.'] then above.tail else part :: above) above =
      parts.reverse ++ above := by
  induction parts generalizing above with
  | nil => rfl
  | cons part parts inductionHypothesis =>
      rw [List.forall_mem_cons] at notAbove
      rw [List.foldl_cons, if_neg notAbove.1, inductionHypothesis notAbove.2]
      simp

/-- Nothing is left to resolve in a normal path. -/
theorem Normal.normalize_eq
    (normal : path.Normal) :
    path.normalize = path := by
  unfold normalize
  simp only [foldl_eq_reverse_append normal.notAbove, List.append_nil, List.reverse_reverse]

end Path

/-- A normal path is absolute already. -/
theorem FileSystem.absolute_toText
    (files : FileSystem)
    {path : Path}
    (normal : path.Normal) :
    files.absolute path.toText = path := by
  have joined : files.workingPath.join path.toText = path := by
    rw [Path.join, normal.ofText_toText, Path.append_def, Path.append, normal.rooted]
  rw [absolute, joined, normal.normalize_eq, ← normal.rooted]

end ModelNav
