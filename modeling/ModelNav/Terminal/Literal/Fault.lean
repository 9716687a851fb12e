import ModelNav.Text.Quoted

/-!
# Faults of literals

Why a text cannot be read as a value, by cause, with the words for each cause.  A text that cannot
be read is told apart from one that is refused: the latter can be read, or cannot be looked at, but
is no literal.
-/

namespace ModelNav
namespace Terminal
namespace Literal

/-- What is wrong with the parameters of a function without a name. -/
inductive ParameterFault where
  | missingDefault
  | bracketed
  | nothingBeforeSlash
  | secondSlash
  | slashAfterStar
  | noCommaAfterSlash
  | nothingAfterStar
  | starredDefault
  | secondStar
  | doubleStarredDefault
  | afterDoubleStarred
  | noDefaultValue
deriving DecidableEq, Repr

/-- What is said about parameters. -/
def ParameterFault.message : ParameterFault → String
  | .missingDefault => "non-default argument follows default argument"
  | .bracketed => "Lambda expression parameters cannot be parenthesized"
  | .nothingBeforeSlash => "at least one argument must precede /"
  | .secondSlash => "/ may appear only once"
  | .slashAfterStar => "/ must be ahead of *"
  | .noCommaAfterSlash => "expected comma between / and *"
  | .nothingAfterStar => "named arguments must follow bare *"
  | .starredDefault => "var-positional argument cannot have default value"
  | .secondStar => "* argument may appear only once"
  | .doubleStarredDefault => "var-keyword argument cannot have default value"
  | .afterDoubleStarred => "arguments cannot follow var-keyword argument"
  | .noDefaultValue => "expected default value expression"

/-- What is wrong with an escape in a string. -/
inductive EscapeFault where
  | truncated (letter : Char)
  | beyondLast
  | malformedName
  | unknownName
deriving DecidableEq, Repr

/-- What is said about an escape. -/
def EscapeFault.message : EscapeFault → String
  | .truncated 'x' => "truncated \\xXX escape"
  | .truncated 'u' => "truncated \\uXXXX escape"
  | .truncated _ => "truncated \\UXXXXXXXX escape"
  | .beyondLast => "illegal Unicode character"
  | .malformedName => "malformed \\N character escape"
  | .unknownName => "unknown Unicode character name"

/-- What is wrong with a value that stands in braces inside a string. -/
inductive TemplateFault where
  | notClosed
  | loneBrace
  | noValue
  | noValueBefore (mark : Char)
  | backslash
  | comment
  | unmatched (bracket : Char)
  | mismatched (closing opening : Char)
  | tooManyBrackets
  | tooDeep
  | unterminated
  | conversion
deriving DecidableEq, Repr

/-- What is said about a value inside a string. -/
def TemplateFault.message : TemplateFault → String
  | .notClosed => "f-string: expecting '\x7d'"
  | .loneBrace => "f-string: single '\x7d' is not allowed"
  | .noValue => "f-string: empty expression not allowed"
  | .noValueBefore mark => s!"f-string: expression required before '{mark}'"
  | .backslash => "f-string expression part cannot include a backslash"
  | .comment => "f-string expression part cannot include '#'"
  | .unmatched bracket => s!"f-string: unmatched '{bracket}'"
  | .mismatched closing opening =>
    s!"f-string: closing parenthesis '{closing}' does not match opening parenthesis '{opening}'"
  | .tooManyBrackets => "f-string: too many nested parenthesis"
  | .tooDeep => "f-string: expressions nested too deeply"
  | .unterminated => "f-string: unterminated string"
  | .conversion => "f-string: invalid conversion character: expected 's', 'r', or 'a'"

/-- Why a text cannot be read as a value. -/
inductive Fault where
  | misplaced
  | indented
  | missingComma
  | missingColon
  | missingValue
  | missingElse
  | missingCall (name : Text)
  | starredAlone (double : Bool)
  | starredEntry
  | starredInBuilder
  | doubleStarredInBuilder
  | unbracketedInBuilder
  | unbracketedGenerator
  | unpackingAfterUnpacking
  | positionalAfterNamed (unpacked : Bool)
  | assignmentToName
  | assignmentTo (kind : String)
  | assignmentInCall
  | noTarget (kind : String)
  | namedAssignmentTo (kind : String)
  | parameters (fault : ParameterFault)
  | neverClosed (bracket : Char)
  | unmatched (bracket : Char)
  | mismatched (closing opening : Char) (line? : Option Nat)
  | tooNested
  | unterminated (triple : Bool) (line : Nat)
  | mixedStrings
  | bytesBeyondAscii
  | escape (fault : EscapeFault) (first last : Nat)
  | byteEscape (position : Nat)
  | template (fault : TemplateFault)
  | embedded (fault : Fault)
  | strayBackslash
  | outdented
  | strangeCharacter (character : Char)
  | hiddenCharacter (character : Char)
  | malformedNumber (kind : String)
  | strangeDigit (digit : Char) (kind : String)
  | leadingZeros
  | tooManyDigits (count : Nat)
deriving DecidableEq, Repr

/-- The code point of a character as it is named in messages. -/
def codeName (character : Char) : String :=
  "U+" ++ String.ofList ((Text.hexadecimal 4 character.toNat).map Char.toUpper)

/-- What is said about a fault. -/
def Fault.message : Fault → String
  | .misplaced => "invalid syntax"
  | .indented => "unexpected indent"
  | .missingComma => "invalid syntax. Perhaps you forgot a comma?"
  | .missingColon => "':' expected after dictionary key"
  | .missingValue => "expression expected after dictionary key and ':'"
  | .missingElse => "expected 'else' after 'if' expression"
  | .missingCall name =>
    let shown := String.ofList name
    s!"Missing parentheses in call to '{shown}'. Did you mean {shown}(...)?"
  | .starredAlone false => "cannot use starred expression here"
  | .starredAlone true => "cannot use double starred expression here"
  | .starredEntry => "cannot use a starred expression in a dictionary value"
  | .starredInBuilder => "iterable unpacking cannot be used in comprehension"
  | .doubleStarredInBuilder => "dict unpacking cannot be used in dict comprehension"
  | .unbracketedInBuilder => "did you forget parentheses around the comprehension target?"
  | .unbracketedGenerator => "Generator expression must be parenthesized"
  | .unpackingAfterUnpacking =>
    "iterable argument unpacking follows keyword argument unpacking"
  | .positionalAfterNamed false => "positional argument follows keyword argument"
  | .positionalAfterNamed true => "positional argument follows keyword argument unpacking"
  | .assignmentToName => "invalid syntax. Maybe you meant '==' or ':=' instead of '='?"
  | .assignmentTo kind => s!"cannot assign to {kind} here. Maybe you meant '==' instead of '='?"
  | .assignmentInCall => "expression cannot contain assignment, perhaps you meant \"==\"?"
  | .noTarget kind => s!"cannot assign to {kind}"
  | .namedAssignmentTo kind => s!"cannot use assignment expressions with {kind}"
  | .parameters fault => fault.message
  | .neverClosed bracket => s!"'{bracket}' was never closed"
  | .unmatched bracket => s!"unmatched '{bracket}'"
  | .mismatched closing opening none =>
    s!"closing parenthesis '{closing}' does not match opening parenthesis '{opening}'"
  | .mismatched closing opening (some line) =>
    s!"closing parenthesis '{closing}' does not match opening parenthesis '{opening}' " ++
      s!"on line {line}"
  | .tooNested => "too many nested parentheses"
  | .unterminated false line => s!"unterminated string literal (detected at line {line})"
  | .unterminated true line =>
    s!"unterminated triple-quoted string literal (detected at line {line})"
  | .mixedStrings => "cannot mix bytes and nonbytes literals"
  | .bytesBeyondAscii => "bytes can only contain ASCII literal characters"
  | .escape fault first last =>
    s!"(unicode error) 'unicodeescape' codec can't decode bytes in position {first}-{last}: " ++
      fault.message
  | .byteEscape position => s!"(value error) invalid \\x escape at position {position}"
  | .template fault => fault.message
  | .embedded fault => "f-string: " ++ fault.message
  | .strayBackslash => "unexpected character after line continuation character"
  | .outdented => "unindent does not match any outer indentation level"
  | .strangeCharacter character => s!"invalid character '{character}' ({codeName character})"
  | .hiddenCharacter character => s!"invalid non-printable character {codeName character}"
  | .malformedNumber kind => s!"invalid {kind} literal"
  | .strangeDigit digit kind => s!"invalid digit '{digit}' in {kind} literal"
  | .leadingZeros =>
    "leading zeros in decimal integer literals are not permitted; " ++
      "use an 0o prefix for octal integers"
  | .tooManyDigits count =>
    s!"Exceeds the limit (4300 digits) for integer string conversion: value has {count} digits; " ++
      "use sys.set_int_max_str_digits() to increase the limit - Consider hexadecimal for huge " ++
      "integer literals to avoid decimal conversion limits."

/-- Why something that can be read, or that is not read at all, is no literal. -/
inductive Refusal where
  | malformed
  | noKey
  | unhashable (kind : String)
  | beyondFloat
  | nullCharacter
  | tooDeep
  | tooManyLevels
deriving DecidableEq, Repr

/-- What is said about something that is no literal. -/
def Refusal.message : Refusal → String
  | .malformed => "malformed node or string"
  | .noKey => "malformed node or string: None"
  | .unhashable kind => s!"unhashable type: '{kind}'"
  | .beyondFloat => "int too large to convert to float"
  | .nullCharacter => "source code string cannot contain null bytes"
  | .tooDeep => ""
  | .tooManyLevels => "maximum recursion depth exceeded during ast construction"

/-- Why a text gives no literal. -/
inductive Rejection where
  | unreadable (fault : Fault)
  | refused (refusal : Refusal)
deriving DecidableEq, Repr

end Literal
end Terminal
end ModelNav
