import Std.Data.HashMap
import ModelNav.Terminal.Literal.Grammar
import ModelNav.Terminal.Literal.Tokens
import ModelNav.Text.StyledLetter

/-!
# Matching tokens with the grammar

Phrases of a symbol are tried in order, and the first that fits is taken.  Tokens are looked at one
after the other, so that a fault which ends them counts only when a phrase comes that far.  What was
read at a place is kept for some symbols, also between what is read plainly and what is guessed; a
symbol whose phrases begin with itself is read as long as it grows.
-/

namespace ModelNav
namespace Terminal
namespace Literal

/-- What was looked at and what was read so far: the number of tokens that were seen, and the shape
and the end of each symbol that is kept at its place. -/
structure Progress where
  seen : Nat := 0
  kept : Std.HashMap (Nat × Symbol) (Option (Leveled × Nat)) := {}

/-- Reading makes progress, and may be rejected. -/
abbrev Reading := EStateM Rejection Progress

/-- What is read: the tokens of a text, what strings in a row make, and whether the text stands
inside a string itself. -/
structure Source where
  tokens : Tokens
  join : List (Text × Text) → Except Rejection Shape
  isEmbedded : Bool

namespace Source

/-- A fault that reading finds, marked when the text stands inside a string. -/
def reject (source : Source) (fault : Fault) : Rejection :=
  .unreadable (if source.isEmbedded then .embedded fault else fault)

/-- The rejection of tokens that end with a fault.  What no token can be made of is not marked. -/
def rejectTokens (source : Source) (fault : Fault) : Rejection :=
  if source.tokens.prevails then .unreadable fault else source.reject fault

/-- The token at a place, which is none at the end. -/
def look (source : Source) (place : Nat) : Reading (Option Placed) := do
  modify fun progress => { progress with seen := max progress.seen (place + 1) }
  match source.tokens.placed[place]? with
  | some placed => return some placed
  | none =>
    match source.tokens.fault? with
    | some fault => throw (source.rejectTokens fault)
    | none => return none

/-- The strings in a row from a place on, each with the letters before it. -/
def textsFrom (source : Source) : (fuel place : Nat) → Reading (List (Text × Text))
  | 0, _ => return []
  | fuel + 1, place => do
    match ← source.look place with
    | some ⟨.string letters content, _, _⟩ =>
      return (letters, content) :: (← source.textsFrom fuel (place + 1))
    | _ => return []

/-- Reads a part that is a token, or looks at the place where it would stand. -/
def readToken (source : Source) (part : Part) (place : Nat) :
    Reading (Option (List Leveled × Nat)) := do
  let take (fits : Bool) (shapes : List Shape) : Option (List Leveled × Nat) :=
    if fits then some (shapes.map (⟨·, 1⟩), place + 1) else none
  match part with
  | .commit => return some ([], place)
  | .inside =>
    let isInside := (source.tokens.placed[place - 1]?).any (·.inside)
    return if isInside then some ([], place) else none
  | .texts =>
    let texts ← source.textsFrom (source.tokens.placed.size + 1) place
    match source.join texts with
    | .error rejection => throw rejection
    | .ok shape => return some ([⟨shape, 1⟩], place + texts.length)
  | _ =>
    let placed? ← source.look place
    let token? : Option Token := placed?.map (·.token)
    match part, token? with
    | .ending, none => return some ([], place)
    | .lineEnd, some .lineEnd => return take true []
    | .mark mark, some (.mark found) => return take (found = mark.toList) []
    | .word word, some (.name found) => return take (found = word.toList) []
    | .name, some (.name word) =>
      return take (!keywords.contains word) [.name (word.map Text.unstyled)]
    | .commandWord, some (.name word) => return take (beginsCommand word) []
    | .text, some (.string ..) => return take true []
    | .number, some (.number (.overlong count)) => throw (source.reject (.tooManyDigits count))
    | .number, some (.number value) => return take true [.number value]
    | _, _ => return none

end Source

/-- How a symbol is read: whether it is guessed what is meant, and how many symbols it stands in. -/
structure Mode where
  guessing : Bool
  depth : Nat

/-- The most symbols that may stand in each other. -/
def depthLimit : Nat := 6000

/-- The same, inside a further symbol. -/
def Mode.deeper (mode : Mode) : Mode :=
  { mode with depth := mode.depth + 1 }

/-- The result of a phrase.  A phrase that was committed to is the last that is tried. -/
inductive Attempt where
  | found (read : List Leveled) (after : Nat)
  | lost (committed : Bool)

/-- The part is a commitment. -/
def Part.isCommit : Part → Bool
  | .commit => true
  | _ => false

mutual

/-- Reads a part of a phrase. -/
def readPart (source : Source) : (fuel : Nat) → Mode → Part → (place : Nat) →
    Reading (Option (List Leveled × Nat))
  | 0, _, _, _ => throw (.refused .tooDeep)
  | fuel + 1, mode, part, place =>
    match part with
    | .rule symbol => do
      return (← readSymbol source fuel mode symbol place).map fun (read, after) => ([read], after)
    | .oneOf choices => do
      return (← readChoices source fuel mode.deeper choices place).map
        fun (read, after) => ([.together read], after)
    | .optional part => do
      match ← readPart source fuel mode part place with
      | none => return some ([.several []], place)
      | some (read, after) => return some ([.together read], after)
    | .many part => do
      let (read, after) ← readMany source fuel mode.deeper part place
      return some ([.several read], after)
    | .some part => do
      let (read, after) ← readMany source fuel mode.deeper part place
      return if after = place then none else some ([.several read], after)
    | .listed part => do
      match ← readPart source fuel mode.deeper part place with
      | none => return none
      | some (read, after) =>
        let (others, last) ← readListed source fuel mode.deeper.deeper part after
        return some ([.several (.together read :: others)], last)
    | .ahead part => do
      return (← readPart source fuel mode part place).map fun _ => ([], place)
    | .notAhead part => do
      match ← readPart source fuel mode part place with
      | none => return some ([], place)
      | some _ => return none
    | part => source.readToken part place

/-- Reads the parts of a phrase one after the other. -/
def readParts (source : Source) : (fuel : Nat) → Mode → (committed : Bool) → List Part →
    (place : Nat) → Reading Attempt
  | 0, _, _, _, _ => throw (.refused .tooDeep)
  | _, _, _, [], place => return .found [] place
  | fuel + 1, mode, committed, part :: parts, place => do
    match ← readPart source fuel mode part place with
    | none => return .lost committed
    | some (read, after) =>
      match ← readParts source fuel mode (committed || part.isCommit) parts after with
      | .lost committed => return .lost committed
      | .found others last => return .found (read ++ others) last

/-- Reads the first of several choices that fits. -/
def readChoices (source : Source) : (fuel : Nat) → Mode → List (List Part) → (place : Nat) →
    Reading (Option (List Leveled × Nat))
  | 0, _, _, _ => throw (.refused .tooDeep)
  | _, _, [], _ => return none
  | fuel + 1, mode, parts :: choices, place => do
    match ← readParts source fuel mode false parts place with
    | .found read after => return some (read, after)
    | .lost _ => readChoices source fuel mode choices place

/-- Reads a part as often as it fits. -/
def readMany (source : Source) : (fuel : Nat) → Mode → Part → (place : Nat) →
    Reading (List Leveled × Nat)
  | 0, _, _, _ => throw (.refused .tooDeep)
  | fuel + 1, mode, part, place => do
    match ← readPart source fuel mode part place with
    | none => return ([], place)
    | some (read, after) =>
      let (others, last) ← readMany source fuel mode part after
      return (.together read :: others, last)

/-- Reads a part after a comma as often as it fits. -/
def readListed (source : Source) : (fuel : Nat) → Mode → Part → (place : Nat) →
    Reading (List Leveled × Nat)
  | 0, _, _, _ => throw (.refused .tooDeep)
  | fuel + 1, mode, part, place => do
    match ← readParts source fuel mode false [.mark ",", part] place with
    | .lost _ => return ([], place)
    | .found read after =>
      let (others, last) ← readListed source fuel mode part after
      return (.together read :: others, last)

/-- Reads a symbol, unless it is known what stands at the place. -/
def readSymbol (source : Source) : (fuel : Nat) → Mode → Symbol → (place : Nat) →
    Reading (Option (Leveled × Nat))
  | 0, _, _, _ => throw (.refused .tooDeep)
  | fuel + 1, mode, symbol, place => do
    if depthLimit ≤ mode.depth then throw (.refused .tooDeep)
    let progress ← get
    match if symbol.isKept then progress.kept[(place, symbol)]? else none with
    | some known => return known
    | none =>
      if symbol.isLeftRecursive then
        growSymbol source fuel mode.deeper symbol place none
      else
        let mode := { mode.deeper with guessing := mode.guessing && symbol != .plainValue }
        let read ← readPhrases source fuel mode symbol.phrases place
        if symbol.isKept then
          modify fun progress =>
            { progress with kept := progress.kept.insert (place, symbol) read }
        return read

/-- Reads a symbol that begins with itself.  What was read so far stands for its beginning, until
nothing more fits. -/
def growSymbol (source : Source) : (fuel : Nat) → Mode → Symbol → (place : Nat) →
    (grown : Option (Leveled × Nat)) → Reading (Option (Leveled × Nat))
  | 0, _, _, _, _ => throw (.refused .tooDeep)
  | fuel + 1, mode, symbol, place, grown => do
    modify fun progress => { progress with kept := progress.kept.insert (place, symbol) grown }
    if depthLimit ≤ mode.depth then throw (.refused .tooDeep)
    let end? := (grown.map (·.2)).getD place
    match ← readPhrases source fuel mode.deeper symbol.phrases place with
    | none => return grown
    | some (read, after) =>
      if end? < after then growSymbol source fuel mode symbol place (some (read, after))
      else return grown

/-- Reads the first of several phrases that fits.  A phrase that is a guess is passed over unless it
is guessed what is meant, and one that gives nothing is the last. -/
def readPhrases (source : Source) : (fuel : Nat) → Mode → List Phrase → (place : Nat) →
    Reading (Option (Leveled × Nat))
  | 0, _, _, _ => throw (.refused .tooDeep)
  | _, _, [], _ => return none
  | fuel + 1, mode, phrase :: phrases, place => do
    if phrase.isGuess && !mode.guessing then
      readPhrases source fuel mode phrases place
    else
      match ← readParts source fuel mode false phrase.parts place with
      | .lost true => return none
      | .lost false => readPhrases source fuel mode phrases place
      | .found read after =>
        match phrase.outcome (read.map (·.shape)) with
        | .shape shape => return some (⟨shape, Leveled.most read + phrase.levels⟩, after)
        | .nothing => return none
        | .fault fault => throw (source.reject fault)

end

/-- The number of steps that are enough to read tokens.  Between two tokens a symbol is read inside
another a bounded number of times, and each takes a few steps. -/
def stepsFor (count : Nat) : Nat :=
  1000 * (count + 2)

/-- Reads a symbol from the first token on. -/
def Source.read (source : Source) (guessing : Bool) (symbol : Symbol) :
    Reading (Option (Leveled × Nat)) :=
  readSymbol source (stepsFor source.tokens.placed.size) ⟨guessing, 0⟩ symbol 0

/-- What is said when reading was rejected: a fault that ends the tokens prevails, and so does a
bracket that is open since an earlier line than the token seen last. -/
def Source.prevailing (source : Source) (seen : Nat) (rejection : Rejection) : Rejection :=
  let tokens := source.tokens
  match tokens.prevails, tokens.fault?, tokens.openBracket?, tokens.placed[seen - 1]? with
  | true, some fault, _, _ => .unreadable fault
  | false, _, some (bracket, line), some last =>
    if line < last.line then source.reject (.neverClosed bracket) else rejection
  | _, _, _, _ => rejection

/-- What is said when reading found a fault.  Nothing prevails when the end was seen. -/
def Source.afterFault (source : Source) (seen : Nat) (rejection : Rejection) : Rejection :=
  let size := source.tokens.placed.size
  match rejection with
  | .refused _ => rejection
  | .unreadable _ =>
    if size < seen || (size = seen && source.tokens.endSeen) then rejection
    else source.prevailing seen rejection

/-- Reads a text as a symbol.  What does not fit is read again to find out what is meant. -/
def Source.readAs (source : Source) (symbol : Symbol) : Except Rejection Leveled :=
  match source.read false symbol {} with
  | .ok (some (read, _)) _ => .ok read
  | .error rejection progress => .error (source.afterFault progress.seen rejection)
  | .ok none progress =>
    let last? := (source.tokens.placed[progress.seen - 1]?).map (·.token)
    match source.read true symbol ⟨progress.seen, {}⟩ with
    | .error rejection progress => .error (source.afterFault progress.seen rejection)
    | .ok _ progress =>
      if last? = some .indent then .error (source.reject .indented)
      else .error (source.prevailing progress.seen (source.reject .misplaced))

end Literal
end Terminal
end ModelNav
