import ModelNav.Http.Host.Label
import ModelNav.Http.Host.Numeric
import ModelNav.Json.Reader
import ModelNav.Text.Numeral
import ModelNav.Text.Quoted
import ModelNav.Text.Utf8

/-!
# Addresses

The address of a request is absolute, with a scheme and a host, or relative to the service.  Only
its path leads to a route: segments of one or two dots are resolved, and escaped characters are
decoded twice, once by the sender and once by the receiver.  Still, the host and the port have to be
well formed, whether they are used or not.
-/

namespace ModelNav
namespace Http

/-- The parts of an address that may become too long once they are escaped. -/
inductive AddressPart where
  | path
  | query
deriving DecidableEq, Repr

/-- The name of a part in messages. -/
def AddressPart.name : AddressPart → String
  | .path => "path"
  | .query => "query"

/-- Why a request cannot be sent to an address. -/
inductive AddressFault where
  | tooLong
  | partTooLong (part : AddressPart)
  | unprintable (character : Char) (position : Nat)
  | malformedDecimal (host : Text)
  | malformedHexadecimal (host : Text)
  | malformedName (host : Text)
  | malformedPort (port : Text)
  | doubleSlash
  | leadingColon
  | unreadableName (fault : Host.NameFault)
  | beyondAscii (characters : Text) (position : Nat)
  | unknownScheme (scheme : Text)
deriving DecidableEq, Repr

/-- What is said about an address that cannot be used. -/
def AddressFault.message : AddressFault → Text
  | .tooLong => "URL too long".toList
  | .partTooLong part => s!"URL component '{part.name}' too long".toList
  | .unprintable character position =>
    "Invalid non-printable ASCII character in URL, ".toList ++ Text.quoted [character] ++
      s!" at position {position}.".toList
  | .malformedDecimal host => "Invalid IPv4 address: ".toList ++ Text.quoted host
  | .malformedHexadecimal host => "Invalid IPv6 address: ".toList ++ Text.quoted host
  | .malformedName host => "Invalid IDNA hostname: ".toList ++ Text.quoted host
  | .malformedPort port => "Invalid port: ".toList ++ Text.quoted port
  | .doubleSlash => "Relative URLs cannot have a path starting with '//'".toList
  | .leadingColon => "Relative URLs cannot have a path starting with ':'".toList
  | .unreadableName fault => fault.message
  | .beyondAscii characters position => Text.asciiFault characters position
  | .unknownScheme scheme => Text.quoted scheme

/-- The parts of an address that count. -/
structure Address where
  scheme : Text
  user : Text
  host : Text
  port : Text
  path : Text
  query : Text
deriving DecidableEq, Repr

namespace Address

/-- A character of a scheme after its first letter. -/
def inScheme (character : Char) : Bool :=
  character.isAlphanum || character == '+' || character == '.' || character == '-'

/-- The scheme before a colon, and what follows; the scheme may be empty. -/
def splitScheme (text : Text) : Text × Text :=
  let scheme := if text.head?.any Char.isAlpha then text.takeWhile inScheme else []
  match text.drop scheme.length with
  | ':' :: rest => (scheme.map Char.toLower, rest)
  | _ => ([], text)

/-- A character that ends the authority. -/
def endsAuthority (character : Char) : Bool :=
  character == '/' || character == '?' || character == '#'

/-- The user, the host and the port of an authority. -/
def splitAuthority (authority : Text) : Text × Text × Text :=
  let (user, place) := (Text.splitAtLast? '@' authority).getD ([], authority)
  let host :=
    match place.head?, Text.splitAtLast? ']' place with
    | some '[', some (inside, _) => inside ++ [']']
    | _, _ => place.takeWhile (· != ':')
  let after := place.drop host.length
  (user, host, if after.head? = some ':' then after.drop 1 else after)

/-- The parts of an address. -/
def ofText (text : Text) : Address :=
  let (scheme, rest) := splitScheme text
  let authority := ((Text.after? ['/', '/'] rest).map (·.takeWhile (!endsAuthority ·))).getD []
  let after :=
    match Text.after? ['/', '/'] rest with
    | some located => located.drop authority.length
    | none => rest
  let (user, host, port) := splitAuthority authority
  let unmarked := after.takeWhile (· != '#')
  let path := unmarked.takeWhile (· != '?')
  ⟨scheme, user, host, port, path, unmarked.drop (path.length + 1)⟩

/-- The address tells by itself where to go. -/
def isAbsolute (address : Address) : Bool :=
  address.scheme != [] && address.host != []

/-- The address has something before its path. -/
def isLocated (address : Address) : Bool :=
  address.scheme != [] || address.user != [] || address.host != [] || address.port != []

/-- The most characters of an address, and of each of its parts. -/
def lengthLimit : Nat := 65536

/-- An ASCII character that is not printed. -/
def isUnprintable (character : Char) : Bool :=
  character.toNat < 0x20 || character.toNat == 0x7F

/-- The schemes under which the service is reached. -/
def knownSchemes : List Text :=
  ["http".toList, "https".toList]

/-- The host is given by its number in brackets. -/
def isBracketed (host : Text) : Bool :=
  host.head? == some '[' && host.getLast? == some ']'

/-- The escape of one byte. -/
def escapeByte (byte : UInt8) : Text :=
  '%' :: (Text.hexadecimal 2 byte.toNat).map Char.toUpper

/-- The text with every character escaped but those that may stand as they are. -/
def escaped (isSafe : Char → Bool) (text : Text) : Text :=
  text.flatMap fun character =>
    if isSafe character then [character] else (Utf8.encodeChar character).flatMap escapeByte

/-- A character that may stand in a host. -/
def isSafeInHost (character : Char) : Bool :=
  character.isAlphanum || "-._~!$&'()*+,;=\"`\x7b\x7d%|\\".toList.contains character

/-- A character that may stand in a path. -/
def isSafeInPath (character : Char) : Bool :=
  0x20 < character.toNat && character.toNat < 0x7F &&
    !"\"#<>?`\x7b\x7d".toList.contains character

/-- A character that may stand in a query. -/
def isSafeInQuery (character : Char) : Bool :=
  0x20 < character.toNat && character.toNat < 0x7F && !"\"#<>".toList.contains character

/-- Checks a host: a number has to be one, and a name beyond ASCII has to have a form in ASCII. -/
def checkHost (host : Text) : Except AddressFault Unit :=
  if Host.looksNumeric host then
    if Host.isDecimal host then .ok () else .error (.malformedDecimal host)
  else if isBracketed host then
    if Host.isHexadecimal (host.drop 1).dropLast then .ok ()
    else .error (.malformedHexadecimal host)
  else if host.all (·.toNat < 0x80) then .ok ()
  else
    match Host.ascii (Text.lowercase host) with
    | .ok _ => .ok ()
    | .error _ => .error (.malformedName host)

/-- The first characters beyond ASCII in a text, and their position. -/
def beyondAscii? (text : Text) : Option (Text × Nat) :=
  (text.findIdx? (0x80 ≤ ·.toNat)).map fun position =>
    ((text.drop position).takeWhile (0x80 ≤ ·.toNat), position)

/-- Checks an absolute address once more when a request is made for it: a number in brackets has to
be in ASCII with its zone, the scheme has to be known, and a name that is written in ASCII for
another one has to be read. -/
def checkRequest (address : Address) : Except AddressFault Unit := do
  if isBracketed address.host then
    match beyondAscii? address.host with
    | some (characters, position) => throw (.beyondAscii characters position)
    | none => pure ()
  if !knownSchemes.contains address.scheme then throw (.unknownScheme address.scheme)
  let name := Text.lowercase address.host
  if name.all (·.toNat < 0x80) && Text.startsWith name Host.asciiMark then
    (Host.checkWritten (escaped isSafeInHost name)).mapError .unreadableName

/-- The path without segments of one dot, and without those that two dots take back. -/
def resolveDots (path : Text) : Text :=
  let step (kept : List Text) (segment : Text) : List Text :=
    if segment = ['.'] then kept
    else if segment = ['.', '.'] then if kept = [[]] then kept else kept.tail
    else segment :: kept
  Text.join ['/'] ((Text.splitOn '/' path).foldl step []).reverse

/-- The path as it is understood by itself: dots are resolved when something stands before it. -/
def ownPath (address : Address) : Text :=
  if address.isLocated then resolveDots address.path else address.path

/-- The path below the root of the service. -/
def pathBelowRoot (address : Address) : Text :=
  '/' :: address.ownPath.dropWhile (· == '/')

/-- Checks that a relative address does not grow too long when its parts are escaped. -/
def checkParts (address : Address) : Except AddressFault Unit :=
  if lengthLimit < (escaped isSafeInPath address.pathBelowRoot).length then
    .error (.partTooLong .path)
  else if lengthLimit < (escaped isSafeInQuery address.query).length then
    .error (.partTooLong .query)
  else .ok ()

/-- Reads the parts of an address that can be used. -/
def read (text : Text) : Except AddressFault Address := do
  if lengthLimit < text.length then throw .tooLong
  match text.zipIdx.find? fun (character, _) => isUnprintable character with
  | some (character, position) => throw (.unprintable character position)
  | none => pure ()
  let address := ofText text
  checkHost address.host
  if address.port != [] && !Numeral.isWhole address.port then
    throw (.malformedPort address.port)
  if !address.isLocated then
    if Text.startsWith address.path ['/', '/'] then throw .doubleSlash
    if address.path.head? = some ':' then throw .leadingColon
  if address.isAbsolute then checkRequest address else checkParts address
  return address

/-- The text with escaped characters decoded. -/
def decodePercent : Text → Text
  | [] => []
  | '%' :: high :: low :: rest =>
    match Json.hexDigit? high, Json.hexDigit? low with
    | some first, some second => Char.ofNat (first * 16 + second) :: decodePercent rest
    | _, _ => '%' :: decodePercent (high :: low :: rest)
  | first :: rest => first :: decodePercent rest

/-- The path that reaches the service.  It is never empty. -/
def requestPath (address : Address) : Text :=
  let path :=
    if address.isAbsolute then address.ownPath else resolveDots address.pathBelowRoot
  if path = [] then ['/'] else decodePercent (decodePercent path)

end Address
end Http
end ModelNav
