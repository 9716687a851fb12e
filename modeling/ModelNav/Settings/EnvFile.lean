import ModelNav.Dictionary
import ModelNav.Text.Space

/-!
# Environment files

An environment file binds names to values, one binding a line.  A value is bare, in single quotes or
in double quotes; quoted values may span lines.  A line that is no binding is skipped up to its end.
Values may refer to other variables, which are looked up in the bindings above and in the process
environment.
-/

namespace ModelNav

/-- The variables of the process and their values. -/
abbrev Environment := Dictionary Text Text

namespace EnvFile

/-- A name with its value; the value is absent when the name stands alone. -/
abbrev Binding := Text × Option Text

/-- A blank that does not end a line. -/
def isInlineSpace (character : Char) : Bool :=
  Text.isSpace character && character != '\r' && character != '\n'

/-- A character that ends a line. -/
def isLineEnd (character : Char) : Bool :=
  character == '\r' || character == '\n'

/-- The text after blanks within the line. -/
def skipInline (text : Text) : Text :=
  text.dropWhile isInlineSpace

/-- The text after the rest of the line and its end. -/
def skipLine (text : Text) : Text :=
  match text.dropWhile (!isLineEnd ·) with
  | '\r' :: '\n' :: rest => '\n' :: rest
  | _ :: rest => rest
  | [] => []

/-- The text after the word that may stand before a name. -/
def skipExport (text : Text) : Text :=
  match Text.after? "export".toList text with
  | some (first :: rest) => if isInlineSpace first then skipInline rest else text
  | _ => text

/-- Reads a quoted text up to its closing quote, a backslash taking the character after it along;
gives the text between the quotes as written and what follows. -/
def untilQuote? (mark : Char) : Text → Option (Text × Text)
  | [] => none
  | '\\' :: next :: rest =>
    (untilQuote? mark rest).map fun (text, after) => ('\\' :: next :: text, after)
  | first :: rest =>
    if first = mark then some ([], rest)
    else (untilQuote? mark rest).map fun (text, after) => (first :: text, after)

/-- The text with escapes replaced: a backslash and a letter of the table stand for a character. -/
def unescape (table : List (Char × Char)) : Text → Text
  | [] => []
  | '\\' :: next :: rest =>
    match table.lookup next with
    | some character => character :: unescape table rest
    | none => '\\' :: unescape table (next :: rest)
  | first :: rest => first :: unescape table rest

/-- The escapes of a value in single quotes. -/
def singleEscapes : List (Char × Char) :=
  [('\\', '\\'), ('\'', '\'')]

/-- The escapes of a value in double quotes. -/
def doubleEscapes : List (Char × Char) :=
  [('\\', '\\'), ('\'', '\''), ('"', '"'), ('a', '\x07'), ('b', '\x08'), ('f', '\x0c'),
    ('n', '\n'), ('r', '\r'), ('t', '\t'), ('v', '\x0b')]

/-- Reads a name: bare, or in single quotes. -/
def readName? : Text → Option (Text × Text)
  | '\'' :: rest =>
    let name := rest.takeWhile (· != '\'')
    match rest.drop name.length with
    | _ :: after => if name = [] then none else some (name, after)
    | [] => none
  | text =>
    let name := text.takeWhile fun character =>
      character != '=' && character != '#' && !Text.isSpace character
    if name = [] then none else some (name, text.drop name.length)

/-- A bare value without a comment that blanks separate from it. -/
def dropComment : Text → Text
  | [] => []
  | first :: rest =>
    if Text.isSpace first && ((first :: rest).dropWhile Text.isSpace).head? == some '#' then []
    else first :: dropComment rest

/-- Reads the value after an equals sign.  The blanks before a bare value separate a comment from
the equals sign. -/
def readValue? (text : Text) : Option (Text × Text) :=
  match skipInline text with
  | '\'' :: rest => do
    let (raw, after) ← untilQuote? '\'' rest
    return (unescape singleEscapes raw, after)
  | '"' :: rest => do
    let (raw, after) ← untilQuote? '"' rest
    return (unescape doubleEscapes raw, after)
  | _ =>
    let raw := text.takeWhile (!isLineEnd ·)
    some (Text.trim (dropComment raw), text.drop raw.length)

/-- What follows a binding: an optional comment and the end of the line. -/
def finishLine (text : Text) : Except Text Text :=
  let plain := skipInline text
  let commented := plain.head? = some '#'
  match if commented then plain.dropWhile (!isLineEnd ·) else plain with
  | [] => .ok []
  | '\r' :: '\n' :: after => .ok after
  | '\r' :: after => .ok after
  | '\n' :: after => .ok after
  | rest => .error rest

/-- Reads one line that begins with something other than a blank: its binding, if it has one, and
what follows.  A line that is no binding gives the place where reading stopped. -/
def readLine (text : Text) : Except Text (Option Binding × Text) :=
  let named := skipExport text
  if named.head? = some '#' then do
    let after ← finishLine named
    return (none, after)
  else
    match readName? named with
    | none => .error named
    | some (name, rest) =>
      match skipInline rest with
      | '=' :: rest =>
        match readValue? rest with
        | none => .error rest
        | some (value, rest) => do
          let after ← finishLine rest
          return (some (name, some value), after)
      | rest => do
        let after ← finishLine rest
        return (some (name, none), after)

/-- Reads the bindings of a file, one line each step. -/
def readLines : Nat → Text → List Binding
  | 0, _ => []
  | fuel + 1, text =>
    match text.dropWhile Text.isSpace with
    | [] => []
    | start =>
      match readLine start with
      | .ok (some binding, after) => binding :: readLines fuel after
      | .ok (none, after) => readLines fuel after
      | .error stop => readLines fuel (skipLine stop)

/-- Reads the bindings of a file; every step takes at least one character.  A byte order mark may
precede the first line. -/
def read (text : Text) : List Binding :=
  let lines := (Text.after? ['\uFEFF'] text).getD text
  readLines lines.length lines

/-- Reads a reference after its dollar sign: a name between braces, which a colon, a dash and a
default may follow.  Gives the name, the default and what comes after. -/
def reference? : Text → Option (Text × Text × Text)
  | '\x7b' :: rest =>
    let name := rest.takeWhile fun character => character != '\x7d' && character != ':'
    match rest.drop name.length with
    | '\x7d' :: after => some (name, [], after)
    | ':' :: '-' :: more =>
      let default := more.takeWhile (· != '\x7d')
      match more.drop default.length with
      | _ :: after => some (name, default, after)
      | [] => none
    | _ => none
  | _ => none

/-- Replaces the references in a value; every step takes at least one character. -/
def interpolate (value? : Text → Option Text) : Nat → Text → Text
  | 0, text => text
  | _, [] => []
  | fuel + 1, '$' :: rest =>
    match reference? rest with
    | some (name, default, after) => (value? name).getD default ++ interpolate value? fuel after
    | none => '$' :: interpolate value? fuel rest
  | fuel + 1, first :: rest => first :: interpolate value? fuel rest

/-- The values of the bindings once their references are replaced.  A reference means the binding
above of that name, else the variable of the process; the last binding of a name counts. -/
def resolve
    (environment : Environment)
    (bindings : List Binding) :
    Dictionary Text (Option Text) :=
  bindings.foldl (fun resolved (name, value) =>
    let value? (reference : Text) : Option Text :=
      match resolved.lookup reference with
      | some bound => some (bound.getD [])
      | none => environment.lookup reference
    Dictionary.put resolved name (value.map fun text => interpolate value? text.length text)) []

end EnvFile
end ModelNav
