import ModelNav.Terminal.Literal.Shape

/-!
# The grammar of values

What can be read is given by a grammar: every symbol has phrases, which are tried in order, and the
first that fits is taken.  Some symbols describe what does not fit but is often written.  They
are tried only when a text is read once more to find out what is meant, and give a fault instead of
a shape.
-/

namespace ModelNav
namespace Terminal
namespace Literal

/-- What can stand at a place in a text. -/
inductive Symbol where
  | whole | embedded
  | values | value | plainValue | starredValues | starredValue | yielding
  | items | item | naming | namedValue
  | disjunction | conjunction | negation | comparison | comparisonEnd
  | bitOr | bitXor | bitAnd | shift | sum | term | factor | power | waiting | primary
  | atom | strings | tuple | group | set
  | dictionary | entries | entry | pair
  | clauses | clause | generator | setBuilder | dictionaryBuilder
  | arguments | argumentList | namedArguments | starred | namedOrStarred | namedOrUnpacked
  | targets | target | starredTarget | targetAtom | targetTuple | targetPrimary
  | function | parameters | parameterList | slashPlain | slashDefault | starredParameters
  | unpackedParameter | plainParameter | defaultParameter | eitherParameter | parameterDefault
  | guessValue | guessCommand | guessNaming | guessGroup | guessEntries | guessPair
  | guessBuilder | guessDictionaryBuilder | guessTarget | guessArguments | guessNamedArgument
  | guessParameters | guessStarredParameters | guessUnpackedParameter | guessDefault
deriving DecidableEq, Hashable, Repr

namespace Symbol

/-- The symbol describes what does not fit. -/
def isGuess : Symbol → Bool
  | .guessValue | .guessCommand | .guessNaming | .guessGroup | .guessEntries | .guessPair
  | .guessBuilder | .guessDictionaryBuilder | .guessTarget | .guessArguments
  | .guessNamedArgument | .guessParameters | .guessStarredParameters | .guessUnpackedParameter
  | .guessDefault => true
  | _ => false

/-- The phrases of the symbol may begin with the symbol itself. -/
def isLeftRecursive : Symbol → Bool
  | .bitOr | .bitXor | .bitAnd | .shift | .sum | .term | .primary | .targetPrimary => true
  | _ => false

/-- What the symbol was read as at a place is kept, and is not read anew. -/
def isKept : Symbol → Bool
  | .value | .starredValue | .disjunction | .conjunction | .negation | .factor | .waiting
  | .strings | .arguments | .target | .starredTarget | .guessNaming => true
  | symbol => symbol.isLeftRecursive

end Symbol

/-- A part of a phrase. -/
inductive Part where
  | name
  | commandWord
  | number
  | text
  | texts
  | mark (mark : String)
  | word (word : String)
  | lineEnd
  | ending
  | inside
  | commit
  | rule (symbol : Symbol)
  | oneOf (choices : List (List Part))
  | optional (part : Part)
  | many (part : Part)
  | some (part : Part)
  | listed (part : Part)
  | ahead (part : Part)
  | notAhead (part : Part)

/-- What is made of the parts of a phrase: a shape, nothing, or a fault. -/
inductive Outcome where
  | shape (shape : Shape)
  | nothing
  | fault (fault : Fault)

/-- A way to read a symbol.  What is made of the parts may be a level above them. -/
structure Phrase where
  parts : List Part
  outcome : List Shape → Outcome
  levels : Nat := 1

namespace Phrase

/-- The phrase is nothing but a guess. -/
def isGuess (phrase : Phrase) : Bool :=
  match phrase.parts with
  | [.rule symbol] => symbol.isGuess
  | _ => false

/-- The shape of the only part that has one, or of the first. -/
def keep (parts : List Part) : Phrase where
  parts := parts
  outcome
    | shape :: _ => .shape shape
    | [] => .nothing
  levels := 0

/-- A shape that does not depend on the parts. -/
def give (shape : Shape) (parts : List Part) : Phrase :=
  { parts := parts, outcome := fun _ => .shape shape }

/-- A shape made of the shape of the first part. -/
def make (build : Shape → Shape) (parts : List Part) : Phrase where
  parts := parts
  outcome
    | shape :: _ => .shape (build shape)
    | [] => .nothing

/-- A shape made of the shapes of the first two parts. -/
def make2 (build : Shape → Shape → Shape) (parts : List Part) : Phrase where
  parts := parts
  outcome
    | first :: second :: _ => .shape (build first second)
    | _ => .nothing

/-- A fault. -/
def refuse (fault : Fault) (parts : List Part) : Phrase :=
  { parts := parts, outcome := fun _ => .fault fault }

/-- A fault, or nothing, by the shape of the first part. -/
def refuseBy (fault? : Shape → Option Fault) (parts : List Part) : Phrase where
  parts := parts
  outcome
    | shape :: _ =>
      match fault? shape with
      | some fault => .fault fault
      | none => .nothing
    | [] => .nothing

end Phrase

open Phrase

/-- The words for constants. -/
def constants : List Text :=
  ["None", "True", "False"].map String.toList

/-- The words that are no names. -/
def keywords : List Text :=
  constants ++
    ["and", "as", "assert", "async", "await", "break", "class", "continue", "def", "del", "elif",
      "else", "except", "finally", "for", "from", "global", "if", "import", "in", "is", "lambda",
      "nonlocal", "not", "or", "pass", "raise", "return", "try", "while", "with", "yield"].map
      String.toList

/-- The names that are also words of commands. -/
def commandWords : List Text :=
  ["match", "case", "_"].map String.toList

/-- The name may be the beginning of a command. -/
def beginsCommand (word : Text) : Bool :=
  commandWords.any word.isPrefixOf

/-- The names that once were commands. -/
def formerCommands : List Text :=
  ["print", "exec"].map String.toList

/-- The name of a former command. -/
def formerCommand? : Shape → Option Text
  | .name word => if formerCommands.contains word then some word else none
  | _ => none

/-- The shape of a call. -/
def callOf (called : Shape) : (arguments : Shape) → Shape
  | .arguments values unpacked => .call called (.arguments values unpacked)
  | .generator => .call called (.arguments [.generator] [])
  | _ => .call called (.arguments [] [])

/-- The arguments of a call: values, and whether named arguments are unpacked. -/
def argumentsOf (values further : List Shape) : Shape :=
  let isStarred : Shape → Bool := fun
    | .starred _ => true
    | _ => false
  let unpacked? : Shape → Option Bool := fun
    | .namedArgument unpacked => some unpacked
    | _ => none
  .arguments (values ++ further.filter isStarred) (further.filterMap unpacked?)

/-- A comparison by the first operator of several. -/
def comparisonOf (first : Shape) : (ends : Shape) → Shape
  | .parts (.comparison _ isMembership :: _) => .comparison first isMembership
  | _ => .comparison first false

/-- A tuple of a first item and others. -/
def tupleOf (first others : Shape) : Shape :=
  .tuple (first :: others.items)

/-- The tuple between brackets that may be empty. -/
def bracketedTuple : Shape → Shape
  | .parts (first :: others :: _) => tupleOf first others
  | _ => .tuple []

/-- What separates values. -/
def comma : Part := .mark ","

/-- A value that is not given a name. -/
def unnamed : Part :=
  .oneOf [[.rule .naming], [.rule .value, .notAhead (.mark ":=")]]

/-- No further equals sign follows. -/
def endsAssignment : Part :=
  .notAhead (.oneOf [[.mark "="], [.mark ":="]])

/-- A target goes on. -/
def targetNext : Part :=
  .oneOf [[.mark "("], [.mark "["], [.mark "."]]

/-- Values with commas between them. -/
def valuesOf (symbol : Symbol) : List Phrase :=
  [make2 tupleOf
      [.rule symbol, .some (.oneOf [[comma, .rule symbol]]), .optional comma],
    make (.tuple [·]) [.rule symbol, comma],
    keep [.rule symbol]]

/-- Operands of one strength with an operator between them. -/
def operations (symbol operand : Symbol) (operators : List String) : List Phrase :=
  operators.map (fun operator =>
      give .operation [.rule symbol, .mark operator, .rule operand]) ++
    [keep [.rule operand]]

/-- What follows one parameter: a comma, or the end of the parameters. -/
def parameterEnds (parts : List Part) : List Phrase :=
  [give .absent (parts ++ [comma]), give .absent (parts ++ [.ahead (.mark ":")])]

/-- The rest of a clause that takes items in turn. -/
def clauseParts : List Part :=
  [.word "for", .rule .targets, .word "in", .commit, .rule .disjunction,
    .many (.oneOf [[.word "if", .rule .disjunction]])]

/-- The ways to read values and what they are made of. -/
def valuePhrases : Symbol → List Phrase
  | .whole => [keep [.rule .values, .many .lineEnd, .ending]]
  | .embedded => [keep [.rule .starredValues]]
  | .values => valuesOf .value
  | .value =>
    [keep [.rule .guessValue],
      keep [.rule .guessCommand],
      give .choice
        [.rule .disjunction, .word "if", .rule .disjunction, .word "else", .rule .value],
      keep [.rule .disjunction],
      keep [.rule .function]]
  | .plainValue =>
    [give .choice
        [.rule .disjunction, .word "if", .rule .disjunction, .word "else", .rule .value],
      keep [.rule .disjunction],
      keep [.rule .function]]
  | .yielding =>
    [give .yielding [.word "yield", .word "from", .rule .value],
      give .yielding [.word "yield", .optional (.rule .starredValues)]]
  | .starredValues => valuesOf .starredValue
  | .starredValue => [make .starred [.mark "*", .rule .bitOr], keep [.rule .value]]
  | .items => [keep [.listed (.rule .item), .optional comma]]
  | .item => [make .starred [.mark "*", .rule .bitOr], keep [.rule .namedValue]]
  | .naming => [give .naming [.name, .mark ":=", .commit, .rule .value]]
  | .namedValue =>
    [keep [.rule .naming],
      keep [.rule .guessNaming],
      keep [.rule .value, .notAhead (.mark ":=")]]
  | .disjunction =>
    [give .operation
        [.rule .conjunction, .some (.oneOf [[.word "or", .rule .conjunction]])],
      keep [.rule .conjunction]]
  | .conjunction =>
    [give .operation [.rule .negation, .some (.oneOf [[.word "and", .rule .negation]])],
      keep [.rule .negation]]
  | .negation => [give .operation [.word "not", .rule .negation], keep [.rule .comparison]]
  | .comparison =>
    [make2 comparisonOf [.rule .bitOr, .some (.rule .comparisonEnd)], keep [.rule .bitOr]]
  | .comparisonEnd =>
    let ends (isMembership : Bool) (operator : List Part) : Phrase :=
      give (.comparison .absent isMembership) [.oneOf [operator ++ [.rule .bitOr]]]
    [ends false [.mark "=="], ends false [.mark "!="], ends false [.mark "<="],
      ends false [.mark "<"], ends false [.mark ">="], ends false [.mark ">"],
      ends false [.word "not", .word "in"], ends true [.word "in"],
      ends false [.word "is", .word "not"], ends false [.word "is"]]
  | .bitOr => operations .bitOr .bitXor ["|"]
  | .bitXor => operations .bitXor .bitAnd ["^"]
  | .bitAnd => operations .bitAnd .shift ["&"]
  | .shift => operations .shift .sum ["<<", ">>"]
  | .sum =>
    [make2 Shape.combine [.rule .sum, .mark "+", .rule .term],
      make2 Shape.combine [.rule .sum, .mark "-", .rule .term],
      keep [.rule .term]]
  | .term => operations .term .factor ["*", "/", "//", "%", "@"]
  | .factor =>
    [make Shape.withSign [.mark "+", .rule .factor],
      make Shape.withSign [.mark "-", .rule .factor],
      give .operation [.mark "~", .rule .factor],
      keep [.rule .power]]
  | .power =>
    [give .operation [.rule .waiting, .mark "**", .rule .factor], keep [.rule .waiting]]
  | .waiting => [give .waiting [.word "await", .rule .primary], keep [.rule .primary]]
  | .primary =>
    [give .member [.rule .primary, .mark ".", .name],
      make2 callOf [.rule .primary, .rule .generator],
      make2 callOf [.rule .primary, .mark "(", .optional (.rule .arguments), .mark ")"],
      keep [.rule .atom]]
  | .atom =>
    [keep [.name],
      give (.constant "True") [.word "True"],
      give (.constant "False") [.word "False"],
      give (.constant "None") [.word "None"],
      keep [.ahead .text, .rule .strings],
      keep [.number],
      keep [.ahead (.mark "("), .oneOf [[.rule .tuple], [.rule .group], [.rule .generator]]],
      keep [.ahead (.mark "\x7b"), .oneOf [[.rule .dictionary], [.rule .set],
        [.rule .dictionaryBuilder], [.rule .setBuilder]]],
      give (.constant "ellipsis") [.mark "..."]]
  | .strings => [keep [.texts]]
  | .tuple =>
    [make bracketedTuple
      [.mark "(", .optional (.oneOf [[.rule .item, comma, .optional (.rule .items)]]),
        .mark ")"]]
  | .group =>
    [keep [.mark "(", .oneOf [[.rule .yielding], [.rule .namedValue]], .mark ")"],
      keep [.rule .guessGroup]]
  | .set => [make (fun items => .set items.items) [.mark "\x7b", .rule .items, .mark "\x7d"]]
  | .dictionary =>
    [make (fun entries => .dictionary entries.items)
        [.mark "\x7b", .optional (.rule .entries), .mark "\x7d"],
      keep [.mark "\x7b", .rule .guessEntries, .mark "\x7d"]]
  | .entries => [keep [.listed (.rule .entry), .optional comma]]
  | .entry => [make (.entry .absent) [.mark "**", .rule .bitOr], keep [.rule .pair]]
  | .pair => [make2 .entry [.rule .value, .mark ":", .rule .value]]
  | _ => []

/-- The ways to read values that are built of others in turn, calls, and targets. -/
def clausePhrases : Symbol → List Phrase
  | .clauses => [keep [.some (.rule .clause)]]
  | .clause =>
    [give .absent (.word "async" :: clauseParts),
      give .absent clauseParts,
      keep [.rule .guessTarget]]
  | .generator =>
    [give .generator [.mark "(", unnamed, .rule .clauses, .mark ")"],
      keep [.rule .guessBuilder]]
  | .setBuilder =>
    [give .setBuilder [.mark "\x7b", .rule .namedValue, .rule .clauses, .mark "\x7d"],
      keep [.rule .guessBuilder]]
  | .dictionaryBuilder =>
    [give .dictionaryBuilder [.mark "\x7b", .rule .pair, .rule .clauses, .mark "\x7d"],
      keep [.rule .guessDictionaryBuilder]]
  | .arguments =>
    [keep [.rule .argumentList, .optional comma, .ahead (.mark ")")],
      keep [.rule .guessArguments]]
  | .argumentList =>
    [make2 (fun values further => argumentsOf values.items further.items)
        [.listed (.oneOf [[.rule .starred], [unnamed, .notAhead (.mark "=")]]),
          .optional (.oneOf [[comma, .rule .namedArguments]])],
      make (fun further => argumentsOf [] further.items) [.rule .namedArguments]]
  | .namedArguments =>
    [make2 (fun first second => .parts (first.items ++ second.items))
        [.listed (.rule .namedOrStarred), comma, .listed (.rule .namedOrUnpacked)],
      keep [.listed (.rule .namedOrStarred)],
      keep [.listed (.rule .namedOrUnpacked)]]
  | .starred => [make .starred [.mark "*", .rule .value]]
  | .namedOrStarred =>
    [keep [.rule .guessNamedArgument],
      give (.namedArgument false) [.name, .mark "=", .rule .value],
      keep [.rule .starred]]
  | .namedOrUnpacked =>
    [keep [.rule .guessNamedArgument],
      give (.namedArgument false) [.name, .mark "=", .rule .value],
      give (.namedArgument true) [.mark "**", .rule .value]]
  | .targets =>
    [keep [.rule .target, .notAhead comma],
      give .absent [.rule .target, .many (.oneOf [[comma, .rule .target]]), .optional comma]]
  | .target =>
    [keep [.mark "*", .oneOf [[.notAhead (.mark "*"), .rule .target]]],
      keep [.rule .starredTarget]]
  | .starredTarget =>
    [give .absent [.rule .targetPrimary, .mark ".", .name, .notAhead targetNext],
      keep [.rule .targetAtom]]
  | .targetAtom =>
    [keep [.name],
      keep [.mark "(", .rule .starredTarget, .mark ")"],
      keep [.mark "(", .optional (.rule .targetTuple), .mark ")"]]
  | .targetTuple =>
    [give .absent
        [.rule .target, .some (.oneOf [[comma, .rule .target]]), .optional comma],
      keep [.rule .target, comma]]
  | .targetPrimary =>
    [keep [.rule .targetPrimary, .mark ".", .name, .ahead targetNext],
      keep [.rule .targetPrimary, .rule .generator, .ahead targetNext],
      keep [.rule .targetPrimary, .mark "(", .optional (.rule .arguments), .mark ")",
        .ahead targetNext],
      keep [.rule .atom, .ahead targetNext]]
  | _ => []

/-- The ways to read a function without a name. -/
def functionPhrases : Symbol → List Phrase
  | .function =>
    [give .function
      [.word "lambda", .optional (.rule .parameters), .mark ":", .rule .value]]
  | .parameters => [keep [.rule .guessParameters], keep [.rule .parameterList]]
  | .parameterList =>
    [give .absent
        [.rule .slashPlain, .many (.rule .plainParameter), .many (.rule .defaultParameter),
          .optional (.rule .starredParameters)],
      give .absent
        [.rule .slashDefault, .many (.rule .defaultParameter),
          .optional (.rule .starredParameters)],
      give .absent
        [.some (.rule .plainParameter), .many (.rule .defaultParameter),
          .optional (.rule .starredParameters)],
      give .absent [.some (.rule .defaultParameter), .optional (.rule .starredParameters)],
      keep [.rule .starredParameters]]
  | .slashPlain => parameterEnds [.some (.rule .plainParameter), .mark "/"]
  | .slashDefault =>
    parameterEnds
      [.many (.rule .plainParameter), .some (.rule .defaultParameter), .mark "/"]
  | .starredParameters =>
    [keep [.rule .guessStarredParameters],
      give .absent
        [.mark "*", .rule .plainParameter, .many (.rule .eitherParameter),
          .optional (.rule .unpackedParameter)],
      give .absent
        [.mark "*", comma, .some (.rule .eitherParameter),
          .optional (.rule .unpackedParameter)],
      keep [.rule .unpackedParameter]]
  | .unpackedParameter =>
    [keep [.rule .guessUnpackedParameter], keep [.mark "**", .rule .plainParameter]]
  | .plainParameter => parameterEnds [.name]
  | .defaultParameter => parameterEnds [.name, .rule .parameterDefault]
  | .eitherParameter => parameterEnds [.name, .optional (.rule .parameterDefault)]
  | .parameterDefault => [keep [.mark "=", .rule .value], keep [.rule .guessDefault]]
  | _ => []

/-- What is often written where values are expected. -/
def guessPhrases : Symbol → List Phrase
  | .guessValue =>
    [refuseBy (fun shape => if (formerCommand? shape).isSome then none else some .missingComma)
        [.notAhead (.oneOf [[.name, .text], [.commandWord]]), .rule .disjunction,
          .rule .plainValue, .inside],
      refuse .missingElse
        [.rule .disjunction, .word "if", .rule .disjunction,
          .notAhead (.oneOf [[.word "else"], [.mark ":"]])]]
  | .guessCommand =>
    [refuseBy (fun shape => (formerCommand? shape).map .missingCall)
      [.name, .notAhead (.mark "("), .rule .starredValues]]
  | .guessNaming =>
    [refuseBy (fun shape => some (.namedAssignmentTo shape.kind))
        [.rule .value, .mark ":=", .rule .value],
      refuse .assignmentToName [.name, .mark "=", .rule .bitOr, endsAssignment],
      refuseBy (fun shape => some (.assignmentTo shape.kind))
        [.notAhead (.oneOf [[.rule .tuple], [.rule .generator], [.word "True"], [.word "None"],
            [.word "False"]]),
          .rule .bitOr, .mark "=", .rule .bitOr, endsAssignment]]
  | .guessGroup =>
    [refuse (.starredAlone false) [.mark "(", .rule .starred, .mark ")"],
      refuse (.starredAlone true) [.mark "(", .mark "**", .rule .value, .mark ")"]]
  | .guessEntries =>
    [keep [.listed (.rule .entry), comma, .rule .guessPair],
      refuse .starredEntry [.rule .value, .mark ":", .mark "*", .rule .bitOr],
      refuse .missingValue
        [.rule .value, .mark ":", .ahead (.oneOf [[.mark "\x7d"], [comma]])]]
  | .guessPair =>
    [refuse .missingColon [.rule .value, .notAhead (.mark ":")],
      refuse .starredEntry [.rule .value, .mark ":", .mark "*", .rule .bitOr],
      refuse .missingValue
        [.rule .value, .mark ":", .ahead (.oneOf [[.mark "\x7d"], [comma]])]]
  | .guessBuilder =>
    [refuse .starredInBuilder
        [.oneOf [[.mark "("], [.mark "\x7b"]], .rule .starred, .rule .clauses],
      refuse .unbracketedInBuilder
        [.mark "\x7b", .rule .item, comma, .rule .items, .rule .clauses],
      refuse .unbracketedInBuilder [.mark "\x7b", .rule .item, comma, .rule .clauses]]
  | .guessDictionaryBuilder =>
    [refuse .doubleStarredInBuilder
      [.mark "\x7b", .mark "**", .rule .bitOr, .rule .clauses, .mark "\x7d"]]
  | .guessTarget =>
    [refuseBy (fun shape => shape.noTarget?.map fun shape => .noTarget shape.kind)
        [.word "async", .word "for", .rule .starredValues],
      refuseBy (fun shape => shape.noTarget?.map fun shape => .noTarget shape.kind)
        [.word "for", .rule .starredValues]]
  | .guessArguments =>
    [refuse .unpackingAfterUnpacking [.rule .argumentList, comma, .mark "*"],
      refuse .unbracketedGenerator
        [.rule .value, .rule .clauses, comma,
          .optional (.oneOf [[.rule .argumentList], [.rule .value, .rule .clauses]])],
      refuse .assignmentToName [.name, .mark "=", .rule .value, .rule .clauses],
      refuseBy
        (fun
          | .arguments values _ =>
            if values.length ≤ 1 then none else some .unbracketedGenerator
          | _ => none)
        [.rule .argumentList, .rule .clauses],
      refuse .unbracketedGenerator
        [.rule .argumentList, comma, .rule .value, .rule .clauses],
      refuseBy
        (fun
          | .arguments _ unpacked => some (.positionalAfterNamed (unpacked.contains true))
          | _ => none)
        [.rule .argumentList, comma, .rule .argumentList]]
  | .guessNamedArgument =>
    ["True", "False", "None"].map
        (fun word => refuse (.noTarget word) [.word word, .mark "="]) ++
      [refuse .assignmentToName [.name, .mark "=", .rule .value, .rule .clauses],
        refuse .assignmentInCall
          [.notAhead (.oneOf [[.name, .mark "="]]), .rule .value, .mark "="]]
  | _ => []

/-- What is often written where the parameters of a function are expected. -/
def parameterGuesses : Symbol → List Phrase
  | .guessParameters =>
    let slash : Part := .oneOf [[.rule .slashPlain], [.rule .slashDefault]]
    [refuse (.parameters .missingDefault)
        [.many (.rule .plainParameter),
          .oneOf [[.rule .slashDefault], [.some (.rule .defaultParameter)]],
          .rule .plainParameter],
      refuse (.parameters .bracketed)
        [.many (.rule .plainParameter), .mark "(", .listed .name, .optional comma, .mark ")"],
      refuse (.parameters .nothingBeforeSlash) [.mark "/", comma],
      refuse (.parameters .secondSlash)
        [slash, .many (.rule .eitherParameter), .mark "/"],
      refuse (.parameters .slashAfterStar)
        [.optional slash, .many (.rule .eitherParameter), .mark "*",
          .oneOf [[comma], [.rule .plainParameter]], .many (.rule .eitherParameter), .mark "/"],
      refuse (.parameters .noCommaAfterSlash)
        [.some (.rule .eitherParameter), .mark "/", .mark "*"]]
  | .guessStarredParameters =>
    [refuse (.parameters .nothingAfterStar)
        [.mark "*",
          .oneOf [[.mark ":"], [comma, .oneOf [[.mark ":"], [.mark "**"]]]]],
      refuse (.parameters .starredDefault) [.mark "*", .name, .mark "="],
      refuse (.parameters .secondStar)
        [.mark "*", .oneOf [[.rule .plainParameter], [comma]], .many (.rule .eitherParameter),
          .mark "*", .oneOf [[.rule .plainParameter], [comma]]]]
  | .guessUnpackedParameter =>
    [refuse (.parameters .doubleStarredDefault) [.mark "**", .name, .mark "="],
      refuse (.parameters .afterDoubleStarred) [.mark "**", .name, comma, .name],
      refuse (.parameters .afterDoubleStarred)
        [.mark "**", .name, comma, .oneOf [[.mark "*"], [.mark "**"], [.mark "/"]]]]
  | .guessDefault =>
    [refuse (.parameters .noDefaultValue)
      [.mark "=", .ahead (.oneOf [[.mark ")"], [comma]])]]
  | _ => []

/-- The ways to read a symbol, in the order in which they are tried. -/
def Symbol.phrases (symbol : Symbol) : List Phrase :=
  valuePhrases symbol ++ clausePhrases symbol ++ functionPhrases symbol ++
    guessPhrases symbol ++ parameterGuesses symbol

end Literal
end Terminal
end ModelNav
