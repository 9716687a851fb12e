import ModelNav.Json.Basic
import ModelNav.Path
import ModelNav.Text.Numeral

/-!
# Validation

Values that come from outside arrive as JSON and are checked field by field.  A check does not stop
at the first fault: the faults of all fields are reported, in the order of the fields.  Whole
numbers and truth values are read leniently, from numbers and from text.
-/

namespace ModelNav
namespace Validation

/-- A step on the way to a value inside a value. -/
inductive Key where
  | field (name : String)
  | index (position : Nat)
deriving DecidableEq, Repr

/-- What is wrong with a value. -/
inductive Problem where
  | missing
  | notAnInteger
  | unreadableInteger
  | oversizedInteger
  | fractionalInteger
  | notFinite
  | below (bound : Int)
  | above (bound : Int)
  | notAString
  | emptyString
  | patternMismatch (pattern : String)
  | notAList
  | emptyList
  | notABoolean
  | unreadableBoolean
  | notAPath
  | notARecord (record : String)
  | notAnObject
  | frozen
  | malformedJson
deriving DecidableEq, Repr

/-- A problem and the place of the value that has it. -/
structure Fault where
  location : List Key
  problem : Problem
deriving DecidableEq, Repr

/-- The short name of a problem. -/
def Problem.name : Problem → String
  | .missing => "missing"
  | .notAnInteger => "int_type"
  | .unreadableInteger => "int_parsing"
  | .oversizedInteger => "int_parsing_size"
  | .fractionalInteger => "int_from_float"
  | .notFinite => "finite_number"
  | .below _ => "greater_than_equal"
  | .above _ => "less_than_equal"
  | .notAString => "string_type"
  | .emptyString => "string_too_short"
  | .patternMismatch _ => "string_pattern_mismatch"
  | .notAList => "list_type"
  | .emptyList => "too_short"
  | .notABoolean => "bool_type"
  | .unreadableBoolean => "bool_parsing"
  | .notAPath => "path_type"
  | .notARecord _ => "model_type"
  | .notAnObject => "model_attributes_type"
  | .frozen => "frozen_instance"
  | .malformedJson => "json_invalid"

/-- What is said about a problem. -/
def Problem.message : Problem → String
  | .missing => "Field required"
  | .notAnInteger => "Input should be a valid integer"
  | .unreadableInteger => "Input should be a valid integer, unable to parse string as an integer"
  | .oversizedInteger => "Unable to parse input string as an integer, exceeded maximum size"
  | .fractionalInteger => "Input should be a valid integer, got a number with a fractional part"
  | .notFinite => "Input should be a finite number"
  | .below bound => s!"Input should be greater than or equal to {bound}"
  | .above bound => s!"Input should be less than or equal to {bound}"
  | .notAString => "Input should be a valid string"
  | .emptyString => "String should have at least 1 character"
  | .patternMismatch pattern => s!"String should match pattern '{pattern}'"
  | .notAList => "Input should be a valid list"
  | .emptyList => "List should have at least 1 item after validation, not 0"
  | .notABoolean => "Input should be a valid boolean"
  | .unreadableBoolean => "Input should be a valid boolean, unable to interpret input"
  | .notAPath => "Input is not a valid path for <class 'pathlib.Path'>"
  | .notARecord record => s!"Input should be a valid dictionary or instance of {record}"
  | .notAnObject => "Input should be a valid dictionary or object to extract fields from"
  | .frozen => "Instance is frozen"
  | .malformedJson => "JSON decode error"

/-- The value one step inside a value. -/
def Key.step? (json : Json) : Key → Option Json
  | .field name => json.member? name
  | .index position =>
    match json with
    | .arr items => items[position]?
    | _ => none

/-- The value that a fault is shown with: the one at its place, or the record that lacks a field. -/
def Fault.subject? (fault : Fault) (json : Json) : Option Json :=
  let location := if fault.problem = .missing then fault.location.dropLast else fault.location
  location.foldlM Key.step? json

end Validation

/-- A value that passed its checks, or all faults that were found. -/
inductive Validated (α : Type) where
  | valid (value : α)
  | invalid (faults : List Validation.Fault)

namespace Validated

/-- Applies a function to a value that passed its checks. -/
def map (function : α → β) : Validated α → Validated β
  | .valid value => .valid (function value)
  | .invalid faults => .invalid faults

/-- Applies a checked function to a checked value; the faults of both are kept in order. -/
def seq (function : Validated (α → β)) (argument : Validated α) : Validated β :=
  match function, argument with
  | .valid function, .valid value => .valid (function value)
  | .valid _, .invalid faults => .invalid faults
  | .invalid faults, .valid _ => .invalid faults
  | .invalid first, .invalid second => .invalid (first ++ second)

/-- Goes on with a further check of a value that passed the checks before. -/
def andThen (checked : Validated α) (check : α → Validated β) : Validated β :=
  match checked with
  | .valid value => check value
  | .invalid faults => .invalid faults

instance : Functor Validated where
  map := map

instance : Seq Validated where
  seq function argument := seq function (argument ())

instance : Pure Validated where
  pure := .valid

/-- A single fault at the value itself. -/
def fault (problem : Validation.Problem) : Validated α :=
  .invalid [⟨[], problem⟩]

/-- The checked value as part of a larger one, at the given key. -/
def under (key : Validation.Key) : Validated α → Validated α
  | .valid value => .valid value
  | .invalid faults =>
    .invalid (faults.map fun fault => { fault with location := key :: fault.location })

/-- The checked values of a list, with the faults of all of them. -/
def all : List (Validated α) → Validated (List α)
  | [] => .valid []
  | first :: rest => seq (first.map List.cons) (all rest)

end Validated

namespace Validation

/-- Refuses a value that does not satisfy a condition. -/
def require (condition : Bool) (problem : Problem) (value : α) : Validated α :=
  if condition then .valid value else Validated.fault problem

/-- The whole numbers of 64 bits, between which a rounded number is taken for a whole one. -/
def wordBound : Int := 0x8000000000000000

/-- A whole number: an integer, a truth value, a rounded number without fraction, or a numeral. -/
def integer : Json → Validated Int
  | .int value => .valid value
  | .bool value => .valid (if value then 1 else 0)
  | .real (.finite negative significand exponent) =>
    match (Binary64.finite negative significand exponent).whole? with
    | none => Validated.fault .fractionalInteger
    | some value => require (-wordBound < value && value < wordBound) .oversizedInteger value
  | .real _ => Validated.fault .notFinite
  | .str text =>
    match Numeral.read text with
    | .ok value => .valid value
    | .error .malformed => Validated.fault .unreadableInteger
    | .error .tooLong => Validated.fault .oversizedInteger
  | _ => Validated.fault .notAnInteger

/-- A whole number that is at least a bound. -/
def integerFrom (bound : Int) (json : Json) : Validated Int :=
  (integer json).andThen fun value => require (bound ≤ value) (.below bound) value

/-- A natural number. -/
def natural (json : Json) : Validated Nat :=
  (integerFrom 0 json).map Int.toNat

/-- A whole number between two bounds, of which the lower is tested first. -/
def integerBetween (lower upper : Int) (json : Json) : Validated Int :=
  (integerFrom lower json).andThen fun value => require (value ≤ upper) (.above upper) value

/-- A text. -/
def string : Json → Validated Text
  | .str text => .valid text
  | _ => Validated.fault .notAString

/-- A text of at least one character. -/
def nonemptyString (json : Json) : Validated Text :=
  (string json).andThen fun text => require (text != []) .emptyString text

/-- A list, each item checked in its place. -/
def list (item : Json → Validated α) : Json → Validated (List α)
  | .arr items => Validated.all (items.zipIdx.map fun (json, position) =>
      (item json).under (.index position))
  | _ => Validated.fault .notAList

/-- A list with at least one item. -/
def nonemptyList (item : Json → Validated α) (json : Json) : Validated (List α) :=
  (list item json).andThen fun items => require (!items.isEmpty) .emptyList items

/-- The words for the two truth values. -/
def booleanWords : List (Text × Bool) :=
  (["0", "off", "f", "false", "n", "no"].map fun word => (word.toList, false)) ++
    ["1", "on", "t", "true", "y", "yes"].map fun word => (word.toList, true)

/-- The truth value that zero or one stands for. -/
def booleanOfInt (value : Int) : Validated Bool :=
  if value = 0 then .valid false
  else if value = 1 then .valid true
  else if -wordBound ≤ value ∧ value < wordBound then Validated.fault .unreadableBoolean
  else Validated.fault .notABoolean

/-- A truth value: itself, zero or one, or a word for it in any case. -/
def boolean : Json → Validated Bool
  | .bool value => .valid value
  | .int value => booleanOfInt value
  | .real value =>
    match value.whole? with
    | some value => booleanOfInt value
    | none => Validated.fault .notABoolean
  | .str text =>
    match booleanWords.lookup (text.map Char.toLower) with
    | some value => .valid value
    | none => Validated.fault .unreadableBoolean
  | _ => Validated.fault .notABoolean

/-- A path, written as text. -/
def path : Json → Validated Path
  | .str text => .valid (Path.ofText text)
  | _ => Validated.fault .notAPath

/-- A value that may be null. -/
def optional (check : Json → Validated α) : Json → Validated (Option α)
  | .null => .valid none
  | json => (check json).map some

/-- A field that has to be present. -/
def required (record : Json) (name : String) (check : Json → Validated α) : Validated α :=
  (match record.member? name with
    | some json => check json
    | none => Validated.fault .missing).under (.field name)

/-- A field with a default. -/
def defaulted
    (record : Json)
    (name : String)
    (value : α)
    (check : Json → Validated α) :
    Validated α :=
  match record.member? name with
  | some json => (check json).under (.field name)
  | none => .valid value

end Validation
end ModelNav
