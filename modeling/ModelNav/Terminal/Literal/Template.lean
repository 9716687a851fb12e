import ModelNav.Terminal.Literal.Escape

/-!
# Values inside strings

A string with the letter `f` before it holds values in braces.  After a value an equals sign, a
conversion and a format may follow, and the format may hold values in braces again.  Doubled braces
stand for themselves.
-/

namespace ModelNav
namespace Terminal
namespace Literal

/-- The plain text up to a brace and what follows it; with `true` when the plain text goes on after
a doubled brace.  Braces are doubled outside formats only.  Each step takes a character. -/
def plainText (raw inFormat : Bool) : (fuel : Nat) → Text →
    Except TemplateFault (Text × Bool × Text)
  | 0, rest => .ok ([], false, rest)
  | fuel + 1, text =>
    let go (taken rest : Text) : Except TemplateFault (Text × Bool × Text) := do
      let (plain, again, after) ← plainText raw inFormat fuel rest
      return (taken ++ plain, again, after)
    let atBrace (taken : Text) (brace : Char) (rest : Text) :
        Except TemplateFault (Text × Bool × Text) :=
      if !inFormat && rest.head? = some brace then .ok (taken ++ [brace], true, rest.drop 1)
      else if !inFormat && brace = '\x7d' then .error .loneBrace
      else .ok (taken, false, brace :: rest)
    let isBrace (character : Char) : Bool := character = '\x7b' || character = '\x7d'
    match text with
    | [] => .ok ([], false, [])
    | first :: rest =>
      match if first = '\\' && !raw then rest else [] with
      | 'N' :: '\x7b' :: named =>
        let name := named.takeWhile (· != '\x7d')
        let length := name.length + 4
        go (text.take length) (text.drop length)
      | 'N' :: _ => go (text.take 3) (text.drop 3)
      | next :: others =>
        if isBrace next then atBrace ['\\'] next others else go [first, next] others
      | [] => if isBrace first then atBrace [] first rest else go [first] rest

/-- The value at the head of a text and what follows it, which begins with the mark that ends the
value.  `skip` characters belong to a mark that was read, `quote?` is the quote of a string that is
open, with `true` for three of them, and `nested` the brackets that are open, the last one first. -/
def valueText : (skip : Nat) → (quote? : Option (Char × Bool)) → (nested : List Char) → Text →
    Except TemplateFault (Text × Text)
  | _, quote?, nested, [] =>
    match quote?, nested with
    | some _, _ => .error .unterminated
    | none, opening :: _ => .error (.unmatched opening)
    | none, [] => .error .notClosed
  | skip + 1, quote?, nested, first :: rest => do
    let (value, after) ← valueText skip quote? nested rest
    return (first :: value, after)
  | 0, quote?, nested, first :: rest =>
    let go (skip : Nat) (quote? : Option (Char × Bool)) (nested : List Char) :
        Except TemplateFault (Text × Text) := do
      let (value, after) ← valueText skip quote? nested rest
      return (first :: value, after)
    let isTriple := rest.take 2 = [first, first]
    if first = '\\' then .error .backslash
    else
      match quote? with
      | some (quote, false) => go 0 (if first = quote then none else quote?) nested
      | some (quote, true) =>
        if first = quote ∧ isTriple then go 2 none nested else go 0 quote? nested
      | none =>
        if first = '\'' ∨ first = '"' then
          go (if isTriple then 2 else 0) (some (first, isTriple)) nested
        else if first = '(' ∨ first = '[' ∨ first = '\x7b' then
          if nested.length < 200 then go 0 none (first :: nested) else .error .tooManyBrackets
        else if first = '#' then .error .comment
        else if nested = [] ∧ ['!', ':', '\x7d', '=', '<', '>'].contains first then
          if first ≠ ':' ∧ first ≠ '\x7d' ∧ rest.head? = some '=' then go 1 none nested
          else if first = '<' ∨ first = '>' then go 0 none nested
          else .ok ([], first :: rest)
        else if first = ')' ∨ first = ']' ∨ first = '\x7d' then
          match nested with
          | [] => .error (.unmatched first)
          | opening :: others =>
            if (opening, first) ∈ [('(', ')'), ('[', ']'), ('\x7b', '\x7d')] then
              go 0 none others
            else .error (.mismatched first opening)
        else go 0 none nested

/-- A blank inside a value. -/
def isValueBlank (character : Char) : Bool :=
  [' ', '\t', '\n', '\x0c'].contains character

/-- What follows an equals sign and a conversion after a value. -/
def afterConversion (text : Text) : Except TemplateFault Text := do
  let text :=
    if text.head? = some '=' then
      (text.drop 1).dropWhile fun blank => isValueBlank blank || blank == '\x0b'
    else text
  match text with
  | ['!'] => throw .notClosed
  | '!' :: conversion :: rest =>
    if ['s', 'r', 'a'].contains conversion then return rest else throw .conversion
  | rest => return rest

/-- How strings with values are checked: how a fault is rejected, and how a value is read. -/
structure TemplateReader where
  reject : Fault → Rejection
  read : Text → Except Rejection Unit

namespace TemplateReader

/-- A part of a string, with a fault rejected. -/
def check (reader : TemplateReader) (outcome : Except Fault α) : Except Rejection α :=
  outcome.mapError reader.reject

/-- The same for faults of strings with values. -/
def checkTemplate (reader : TemplateReader) (outcome : Except TemplateFault α) :
    Except Rejection α :=
  reader.check (outcome.mapError .template)

/-- Reads the value that ends before a mark. -/
def readValue (reader : TemplateReader) (value after : Text) : Except Rejection Unit := do
  if value.all isValueBlank then
    match after.head? with
    | some mark =>
      throw (reader.reject (.template
        (if mark = '\x7d' then .noValue else .noValueBefore mark)))
    | none => throw (reader.reject (.template .noValue))
  reader.read ('(' :: value ++ [')'])

mutual

/-- Reads plain text and values in turn, up to the end or to the brace that ends a format, and gives
what follows.  Values may stand in the format of a value, but no deeper.  Each step takes a
character. -/
def readTexts (reader : TemplateReader) (raw : Bool) : (fuel level : Nat) → Text →
    Except Rejection Text
  | 0, _, rest => .ok rest
  | fuel + 1, level, text => do
    let (plain, again, rest) ←
      reader.checkTemplate (plainText raw (level != 0) (text.length + 1) text)
    if !raw then
      reader.check (checkEscapes plain)
    if again then readTexts reader raw fuel level rest
    else
      match rest with
      | '\x7b' :: inner => do
        let after ← readField reader raw fuel level inner
        readTexts reader raw fuel level after
      | _ => return rest

/-- Reads a value after its opening brace, and gives what follows its closing brace. -/
def readField (reader : TemplateReader) (raw : Bool) : (fuel level : Nat) → Text →
    Except Rejection Text
  | 0, _, rest => .ok rest
  | fuel + 1, level, text => do
    if 2 ≤ level then throw (reader.reject (.template .tooDeep))
    let (value, after) ← reader.checkTemplate (valueText 0 none [] text)
    reader.readValue value after
    let rest ← reader.checkTemplate (afterConversion after)
    let last ←
      match rest with
      | ':' :: format => readTexts reader raw fuel (level + 1) format
      | _ => pure rest
    match last with
    | '\x7d' :: rest => return rest
    | _ => throw (reader.reject (.template .notClosed))

end

/-- Checks a string with values. -/
def checkText (reader : TemplateReader) (raw : Bool) (content : Text) : Except Rejection Unit := do
  let _ ← reader.readTexts raw (2 * content.length + 2) 0 content

end TemplateReader
end Literal
end Terminal
end ModelNav
