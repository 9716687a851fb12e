import ModelNav.CommandLine.Command
import ModelNav.Terminal.Layout
import ModelNav.Terminal.Markup
import ModelNav.Traced

/-!
# The console

A command prints, complains, notes and serves; what it did is kept in order.  It ends with a value,
with an exit code, or with a failure that nobody handles.
-/

namespace ModelNav
namespace CommandLine

/-- Something a command did. -/
inductive Event where
  | printed (text : Text)
  | complained (text : Text)
  | noted (note : Note)
  | served (server : Server)
deriving DecidableEq, Repr

/-- How a command ended before its last step. -/
inductive Ending where
  | exit (code : Nat)
  | failed (failure : Failure)
deriving DecidableEq, Repr

/-- What a command did, and how it ended. -/
structure Console (α : Type) where
  events : List Event
  outcome : Except Ending α

namespace Console

/-- Ends with a value and does nothing. -/
protected def pure (value : α) : Console α :=
  ⟨[], .ok value⟩

/-- Goes on with a value; what both parts did is kept in order. -/
protected def bind (first : Console α) (next : α → Console β) : Console β :=
  match first.outcome with
  | .ok value => ⟨first.events ++ (next value).events, (next value).outcome⟩
  | .error ending => ⟨first.events, .error ending⟩

instance : Monad Console where
  pure := Console.pure
  bind := Console.bind

/-- Does one thing. -/
def act (event : Event) : Console Unit :=
  ⟨[event], .ok ()⟩

/-- Ends with an exit code. -/
def exit (code : Nat) : Console α :=
  ⟨[], .error (.exit code)⟩

/-- The value, or the failure. -/
def ofExcept (outcome : Except Failure α) : Console α :=
  ⟨[], outcome.mapError .failed⟩

/-- A lookup with its notes. -/
def ofTraced (lookup : Traced α) : Console α :=
  ⟨lookup.notes.map .noted, lookup.outcome.mapError .failed⟩

/-- Prints a marked text and a line end; lines are as long as they are. -/
def print (marked : Text) : Console Unit := do
  let shown ← ofExcept (Terminal.showMarkup marked)
  let lines ← ofExcept (Terminal.applyStyles (Terminal.expandLines shown))
  act (.printed (lines.flatMap fun line => line.text ++ ['\n']))

/-- Complains with a marked text, whose lines are folded to the width of the terminal. -/
def complain (marked : Text) : Console Unit := do
  let shown ← ofExcept (Terminal.showMarkup marked)
  let lines ← ofExcept (Terminal.applyStyles (Terminal.foldLines Terminal.lineWidth shown))
  act (.complained (lines.flatMap fun line =>
    (Terminal.cropPieces Terminal.lineWidth line.pieces).flatten ++ ['\n']))

/-- Prints text as it is, one line each. -/
def printLines (lines : List Text) : Console Unit :=
  act (.printed (lines.flatMap (· ++ ['\n'])))

@[simp]
theorem outcome_pure (value : α) : (pure value : Console α).outcome = .ok value := rfl

@[simp]
theorem outcome_act (event : Event) : (act event).outcome = .ok () := rfl

end Console
end CommandLine
end ModelNav
