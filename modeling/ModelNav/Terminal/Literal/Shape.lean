import ModelNav.Terminal.Literal.Token

/-!
# Shapes of literals

A literal is a number, a string, one of a few constants, or a tuple, a set or a dictionary of
literals.  Of its value only the shape counts.  Names, calls and operations have a shape too, so
that what is no literal can be told from what cannot be read, and what is wrong with a value can be
said in words for its kind.
-/

namespace ModelNav
namespace Terminal
namespace Literal

/-- What was read: a literal, something else that can be read, or a part of either. -/
inductive Shape where
  | number (value : Number)
  | signed (value : Number)
  | complex (beyondFloat : Bool)
  | string
  | constant (word : String)
  | tuple (items : List Shape)
  | set (items : List Shape)
  | dictionary (entries : List Shape)
  | entry (key value : Shape)
  | absent
  | name (word : Text)
  | member
  | call (function : Shape) (arguments : Shape)
  | arguments (values : List Shape) (unpacked : List Bool)
  | namedArgument (unpacked : Bool)
  | function
  | formatted
  | operation
  | comparison (first : Shape) (isMembership : Bool)
  | choice
  | naming
  | waiting
  | yielding
  | generator
  | setBuilder
  | dictionaryBuilder
  | starred (value : Shape)
  | parts (items : List Shape)
deriving Repr

namespace Shape

mutual

/-- Evaluates a literal as far as it can be a key: the name of its kind, if it cannot. -/
def evaluate : Shape → Except Refusal (Option String)
  | .number _ | .signed _ | .complex false | .string | .constant _ => .ok none
  | .complex true => .error .beyondFloat
  | .tuple items => evaluateItems items
  | .set items => do
    evaluateKeys items
    return some "set"
  | .call (.name ['s', 'e', 't']) (.arguments [] []) => .ok (some "set")
  | .dictionary entries => do
    evaluateEntries entries
    return some "dict"
  | .absent => .error .noKey
  | _ => .error .malformed

/-- Evaluates items: the first kind among them that cannot be a key. -/
def evaluateItems : List Shape → Except Refusal (Option String)
  | [] => .ok none
  | item :: items => do
    let kind ← item.evaluate
    return kind.or (← evaluateItems items)

/-- Evaluates items that have to be keys. -/
def evaluateKeys : List Shape → Except Refusal Unit
  | [] => .ok ()
  | item :: items => do
    match ← item.evaluate with
    | some kind => throw (.unhashable kind)
    | none => evaluateKeys items

/-- Evaluates the entries of a dictionary. -/
def evaluateEntries : List Shape → Except Refusal Unit
  | [] => .ok ()
  | .entry key value :: entries => do
    let kind ← key.evaluate
    let _ ← value.evaluate
    match kind with
    | some kind => throw (.unhashable kind)
    | none => evaluateEntries entries
  | _ :: _ => .error .malformed

end

/-- The shape of a sum or a difference.  A number and an imaginary one make a complex number. -/
def combine : (first second : Shape) → Shape
  | .number (.whole beyondFloat), .number .imaginary
  | .signed (.whole beyondFloat), .number .imaginary => .complex beyondFloat
  | .number .fraction, .number .imaginary
  | .signed .fraction, .number .imaginary => .complex false
  | _, _ => .operation

/-- The shape of an operand with a sign before it. -/
def withSign : Shape → Shape
  | .number value => .signed value
  | _ => .operation

/-- The words for what stands where something else is expected. -/
def kind : Shape → String
  | .number _ | .string => "literal"
  | .constant word => word
  | .tuple _ => "tuple"
  | .set _ => "set display"
  | .dictionary _ => "dict literal"
  | .name _ => "name"
  | .member => "attribute"
  | .call .. => "function call"
  | .function => "lambda"
  | .formatted => "f-string expression"
  | .comparison .. => "comparison"
  | .choice => "conditional expression"
  | .naming => "named expression"
  | .waiting => "await expression"
  | .yielding => "yield expression"
  | .generator => "generator expression"
  | .setBuilder => "set comprehension"
  | .dictionaryBuilder => "dict comprehension"
  | .starred _ => "starred"
  | _ => "expression"

mutual

/-- What cannot be assigned to where items are taken in turn.  What is compared by membership is
what the items are assigned to. -/
def noTarget? : Shape → Option Shape
  | .name _ | .member => none
  | .tuple items => noTargetAmong? items
  | .starred value => value.noTarget?
  | .comparison first true => first.noTarget?
  | .comparison _ false => none
  | shape => some shape

/-- The first among items that cannot be assigned to. -/
def noTargetAmong? : List Shape → Option Shape
  | [] => none
  | item :: items => item.noTarget?.or (noTargetAmong? items)

end

/-- The parts of a shape that was read as several. -/
def items : Shape → List Shape
  | .parts items => items
  | shape => [shape]

end Shape

/-- Something that was read, and the levels that it has: what has no parts has one. -/
structure Leveled where
  shape : Shape
  levels : Nat := 1

namespace Leveled

/-- The most levels among several. -/
def most (read : List Leveled) : Nat :=
  read.foldl (fun levels part => max levels part.levels) 0

/-- Several that are read as one. -/
def several (read : List Leveled) : Leveled :=
  ⟨.parts (read.map (·.shape)), most read⟩

/-- What is read as one: one stays as it is. -/
def together : List Leveled → Leveled
  | [one] => one
  | read => several read

end Leveled
end Literal
end Terminal
end ModelNav
