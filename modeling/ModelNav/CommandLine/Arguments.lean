import ModelNav.Text.Basic

/-!
# Arguments of the command line

Arguments are options or positional.  An option that takes a value has it in the same argument or in
the next one.  Two dashes alone end the options.  Short flags may share one dash.
-/

namespace ModelNav
namespace CommandLine

/-- The options of the program and its commands. -/
inductive OptionName where
  | help
  | verbose
  | workspace
  | raw
  | host
  | port
  | reload
deriving DecidableEq, Repr

namespace OptionName

/-- The option is followed by a value. -/
def takesValue : OptionName → Bool
  | .workspace | .host | .port => true
  | _ => false

/-- The long form of an option. -/
def long : OptionName → String
  | .help => "--help"
  | .verbose => "--verbose"
  | .workspace => "--workspace"
  | .raw => "--raw"
  | .host => "--host"
  | .port => "--port"
  | .reload => "--reload"

/-- The letter of an option that has a short form. -/
def letter? : OptionName → Option Char
  | .verbose => some 'v'
  | .workspace => some 'w'
  | _ => none

end OptionName

/-- An option that was found, with its value if it takes one. -/
structure Found where
  name : OptionName
  value : Text := []
deriving DecidableEq, Repr

/-- What one argument says: the options it holds, and the option whose value comes next. -/
structure Reading where
  found : List Found := []
  awaiting : Option OptionName := none

/-- Reads an option in its long form, with a value after an equals sign if it takes one. -/
def readLong? (allowed : List OptionName) (argument : Text) : Option (Option Reading) :=
  let name := argument.takeWhile (· != '=')
  (allowed.find? fun option => option.long.toList == name).map fun option =>
    match argument.drop name.length, option.takesValue with
    | [], true => some { awaiting := option }
    | [], false => some { found := [⟨option, []⟩] }
    | _ :: value, true => some { found := [⟨option, value⟩] }
    | _ :: _, false => none

/-- Reads the letters of options after a single dash; what follows the letter of an option with a
value is that value. -/
def readLetters? (allowed : List OptionName) : Text → Option Reading
  | [] => some {}
  | letter :: rest => do
    let option ← allowed.find? fun option => option.letter? == some letter
    if option.takesValue then
      if rest = [] then return { awaiting := option } else return { found := [⟨option, rest⟩] }
    else
      let others ← readLetters? allowed rest
      return { others with found := ⟨option, []⟩ :: others.found }

/-- Reads an argument that begins with a dash. -/
def readOption? (allowed : List OptionName) (argument : Text) : Option Reading :=
  match readLong? allowed argument with
  | some reading => reading
  | none =>
    if argument.startsWith ['-', '-'] then none else readLetters? allowed (argument.drop 1)

/-- The options of a command line in their order, and the positional arguments. -/
structure Scan where
  found : List Found := []
  positional : List Text := []
deriving DecidableEq, Repr

/-- The argument is an option: it begins with a dash and has more than that. -/
def isOption (argument : Text) : Bool :=
  argument.startsWith ['-'] && 1 < argument.length

/-- Reads all arguments; there is no reading when an option is not allowed or lacks its value.
Options are read up to the first positional argument, or beyond it if they may be mixed. -/
def scan? (allowed : List OptionName) (mixed : Bool) : List Text → Option Scan
  | [] => some {}
  | argument :: rest =>
    if argument = ['-', '-'] then some { positional := rest }
    else if isOption argument then
      match readOption? allowed argument with
      | none => none
      | some ⟨found, none⟩ => do
        let others ← scan? allowed mixed rest
        return { others with found := found ++ others.found }
      | some ⟨found, some option⟩ =>
        match rest with
        | [] => none
        | value :: rest => do
          let others ← scan? allowed mixed rest
          return { others with found := found ++ ⟨option, value⟩ :: others.found }
    else if mixed then do
      let others ← scan? allowed mixed rest
      return { others with positional := argument :: others.positional }
    else some { positional := argument :: rest }

namespace Scan

/-- The option was given. -/
def has (scan : Scan) (name : OptionName) : Bool :=
  scan.found.any (·.name == name)

/-- The value of an option; the last one counts. -/
def value? (scan : Scan) (name : OptionName) : Option Text :=
  (scan.found.reverse.find? (·.name == name)).map (·.value)

end Scan
end CommandLine
end ModelNav
