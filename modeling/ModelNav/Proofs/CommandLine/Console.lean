import ModelNav.CommandLine.Execute
import ModelNav.Proofs.Terminal.Plain

/-!
# What a command leaves behind

A step that does nothing but give a value can be passed over.  A complaint never changes the exit
code that follows it, and plain text is printed as it is.
-/

namespace ModelNav
namespace CommandLine
namespace Console

variable {α β : Type} {value : α}

/-- A step that only gives a value is passed over. -/
theorem bind_of_quiet
    {first : Console α}
    (quiet : first = ⟨[], .ok value⟩)
    (next : α → Console β) :
    (first >>= next) = next value := by
  rw [quiet]
  rfl

/-- After a step that ended with a value, the next step follows. -/
theorem bind_of_ok
    {first : Console α}
    (ended : first.outcome = .ok value)
    (next : α → Console β) :
    (first >>= next) = ⟨first.events ++ (next value).events, (next value).outcome⟩ := by
  simp [Bind.bind, Console.bind, ended]

theorem outcome_bind_of_error
    {first : Console α}
    {ending : Ending}
    (ended : first.outcome = .error ending)
    (next : α → Console β) :
    (first >>= next).outcome = .error ending := by
  simp [Bind.bind, Console.bind, ended]

theorem outcome_ofTraced_of_ok
    {lookup : Traced α}
    (ended : lookup.outcome = .ok value) :
    (ofTraced lookup).outcome = .ok value := by
  rw [ofTraced, ended]
  rfl

/-- A complaint is made, or its text cannot be shown. -/
theorem outcome_complain (marked : Text) :
    (complain marked).outcome = .ok () ∨
      ∃ failure, (complain marked).outcome = .error (.failed failure) := by
  unfold complain
  cases shown : Terminal.showMarkup marked with
  | error failure => exact Or.inr ⟨failure, rfl⟩
  | ok styled =>
      cases applied : Terminal.applyStyles (Terminal.foldLines Terminal.lineWidth styled) with
      | error failure =>
          refine Or.inr ⟨failure, ?_⟩
          simp [Bind.bind, Console.bind, ofExcept, Except.mapError, applied]
      | ok lines =>
          refine Or.inl ?_
          simp [Bind.bind, Console.bind, ofExcept, Except.mapError, applied, act]

/-- The command ends with exit code one, on purpose or with a failure. -/
def Fails (console : Console α) : Prop :=
  ∃ ending, console.outcome = .error ending ∧ (endingOf (.error ending)).1 = 1

theorem Fails.bind
    {first : Console α}
    (fails : first.Fails)
    (next : α → Console β) :
    (first >>= next).Fails := by
  obtain ⟨ending, ended, code⟩ := fails
  exact ⟨ending, outcome_bind_of_error ended next, code⟩

theorem fails_bind_of_ok
    {first : Console α}
    {next : α → Console β}
    (ended : first.outcome = .ok value)
    (fails : (next value).Fails) :
    (first >>= next).Fails := by
  obtain ⟨ending, nextEnded, code⟩ := fails
  refine ⟨ending, ?_, code⟩
  rw [bind_of_ok ended]
  exact nextEnded

/-- Whether the complaint can be shown or not, the exit code after it is one. -/
theorem fails_complain (marked : Text) :
    (complain marked >>= fun _ => (exit 1 : Console α)).Fails := by
  rcases outcome_complain marked with ended | ⟨failure, ended⟩
  · exact fails_bind_of_ok ended ⟨.exit 1, rfl, rfl⟩
  · exact Fails.bind ⟨.failed failure, ended, rfl⟩ _

/-- Plain text is printed as it is, with a line end. -/
theorem print_of_plain
    {text : Text}
    (plain : Terminal.Plain text) :
    print text = act (.printed (text ++ ['\n'])) := by
  unfold print
  rw [plain.showMarkup_eq]
  change (ofExcept (Terminal.applyStyles (Terminal.expandLines ⟨text, []⟩)) >>= _) = _
  rw [plain.applyStyles_eq]
  change act (.printed ((Terminal.Styled.mk text []).lines.flatMap _)) = _
  rw [Terminal.Styled.flatMap_lines]

end Console

/-- The report of what a command did and how it ended. -/
def Report.ofConsole (console : Console Unit) : Report :=
  ⟨(endingOf console.outcome).1, (endingOf console.outcome).2, console.events⟩

/-- Notes are not printed. -/
theorem Report.output_of_noted
    {report : Report}
    {notes : List Note}
    {text : Text}
    (did : report.events = notes.map .noted ++ [.printed text]) :
    report.output = text := by
  rw [output, did, List.flatMap_append, List.flatMap_map]
  simp

theorem Console.Fails.exitCode_eq
    {console : Console Unit}
    (fails : console.Fails) :
    (Report.ofConsole console).exitCode = 1 := by
  obtain ⟨ending, ended, code⟩ := fails
  rw [Report.ofConsole, ended]
  exact code

theorem run_eq (host : Host) (installed : Bool) (arguments : List Text) :
    run host installed arguments = .ofConsole (runConsole host installed arguments) := rfl

end CommandLine
end ModelNav
