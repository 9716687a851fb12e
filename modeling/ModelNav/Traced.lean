import ModelNav.Failure
import ModelNav.Settings.Basic

/-!
# Computations that leave notes

A lookup notes what it could not find or read, and its notes are kept even when it fails in the end.
-/

namespace ModelNav

/-- Something worth telling that does not end a lookup. -/
inductive Note where
  | uncheckedPath (path : Path) (fault : AccessFault)
  | unlistedRoot (root : Path) (fault : AccessFault)
  | noAppDirs (root : Path)
  | unreadModelFile (path : Path) (fault : ReadFault)
  | unreadDocument (path : Path) (fault : ReadFault)
  | noFolder
  | noLoad (variableName : Text)
  | noModelFile (rawPath : Text)
deriving DecidableEq, Repr

namespace Note

/-- The level of a note. -/
def level : Note → LogLevel
  | .uncheckedPath .. | .unlistedRoot .. | .unreadModelFile .. => .warning
  | _ => .debug

/-- The part of the program that a note comes from. -/
def channel : Note → String
  | .uncheckedPath .. | .unlistedRoot .. | .noAppDirs _ => "smartci.adapters.codeigniter.roots"
  | .unreadModelFile .. => "smartci.adapters.codeigniter.method_locator"
  | .unreadDocument .. => "smartci.core.document"
  | .noFolder | .noLoad _ | .noModelFile _ => "smartci.services.resolution_service"

/-- What a note says. -/
def message : Note → Text
  | .uncheckedPath path fault =>
    "Failed to check ".toList ++ path.toText ++ ": ".toList ++ fault.message
  | .unlistedRoot root fault =>
    "Failed to read application directories in ".toList ++ root.toText ++ ": ".toList ++
      fault.message
  | .noAppDirs root =>
    "No application directories under ".toList ++ root.toText ++ ", using defaults".toList
  | .unreadModelFile path fault =>
    "Failed to read model file ".toList ++ path.toText ++ ": ".toList ++ fault.message
  | .unreadDocument path fault =>
    "Failed to read document ".toList ++ path.toText ++ ": ".toList ++ fault.message
  | .noFolder => "No workspace folder open".toList
  | .noLoad variableName => "No load->model statement for $".toList ++ variableName
  | .noModelFile rawPath => "No model file found for ".toList ++ rawPath

/-- A note as a line of the log. -/
def line (note : Note) : Text :=
  s!"{note.level.name} {note.channel}: ".toList ++ note.message

end Note

/-- The notes that a computation left, and how it ended. -/
structure Traced (α : Type) where
  notes : List Note
  outcome : Except Failure α

namespace Traced

/-- Ends with a value and leaves no note. -/
protected def pure (value : α) : Traced α :=
  ⟨[], .ok value⟩

/-- Goes on with a value; the notes of both parts are kept in order. -/
protected def bind (first : Traced α) (next : α → Traced β) : Traced β :=
  match first.outcome with
  | .ok value => ⟨first.notes ++ (next value).notes, (next value).outcome⟩
  | .error failure => ⟨first.notes, .error failure⟩

instance : Monad Traced where
  pure := Traced.pure
  bind := Traced.bind

/-- Leaves a note. -/
def tell (note : Note) : Traced Unit :=
  ⟨[note], .ok ()⟩

/-- Ends with a failure. -/
def fail (failure : Failure) : Traced α :=
  ⟨[], .error failure⟩

/-- A computation that leaves no note. -/
def ofExcept (outcome : Except Failure α) : Traced α :=
  ⟨[], outcome⟩

@[simp]
theorem outcome_pure (value : α) : (pure value : Traced α).outcome = .ok value := rfl

@[simp]
theorem notes_pure (value : α) : (pure value : Traced α).notes = [] := rfl

@[simp]
theorem outcome_tell (note : Note) : (tell note).outcome = .ok () := rfl

@[simp]
theorem outcome_fail (failure : Failure) : (fail failure : Traced α).outcome = .error failure := rfl

/-- A note does not change how what follows it ends. -/
@[simp]
theorem outcome_tell_bind (note : Note) (next : Unit → Traced α) :
    (tell note >>= next).outcome = (next ()).outcome := rfl

/-- What follows a computation that ended with a value decides how the whole ends. -/
theorem outcome_bind_of_ok
    {first : Traced α}
    {next : α → Traced β}
    {value : α}
    (ended : first.outcome = .ok value) :
    (first >>= next).outcome = (next value).outcome := by
  simp [Bind.bind, Traced.bind, ended]

/-- A failure ends what would follow. -/
theorem outcome_bind_of_error
    {first : Traced α}
    {next : α → Traced β}
    {failure : Failure}
    (ended : first.outcome = .error failure) :
    (first >>= next).outcome = .error failure := by
  simp [Bind.bind, Traced.bind, ended]

/-- Two computations end alike when their first parts do and what follows a value does. -/
theorem outcome_bind_congr
    {first other : Traced α}
    {next otherNext : α → Traced β}
    (sameFirst : first.outcome = other.outcome)
    (sameNext : ∀ value, first.outcome = .ok value →
      (next value).outcome = (otherNext value).outcome) :
    (first >>= next).outcome = (other >>= otherNext).outcome := by
  cases ended : first.outcome with
  | ok value =>
      rw [outcome_bind_of_ok ended, outcome_bind_of_ok (sameFirst.symm.trans ended)]
      exact sameNext value ended
  | error failure =>
      rw [outcome_bind_of_error ended, outcome_bind_of_error (sameFirst.symm.trans ended)]

end Traced
end ModelNav
