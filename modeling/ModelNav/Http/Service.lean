import ModelNav.Client
import ModelNav.Host
import ModelNav.Http.Address
import ModelNav.Http.Description
import ModelNav.Http.Route
import ModelNav.Json.Encoding
import ModelNav.Record

/-!
# The HTTP interface

A lookup is posted as a JSON object with the text of a document or its path, and a position.  The
answer is the jump target or the hover content.  A body that fails its checks is answered with all
faults and the values that have them, a document that cannot be read and a lookup that finds nothing
with a detail text.  The interface also serves its own description, and pages that show it.
-/

namespace ModelNav
namespace Http

/-- The body of a request: none, a JSON value, or bytes that have to be read. -/
inductive Body where
  | absent
  | value (json : Json)
  | bytes (content : Bytes)

/-- A request. -/
structure Request where
  method : Text
  address : Text
  body : Body := .absent

/-- What is looked up. -/
structure Lookup where
  text : Option Text
  path : Option Text
  line : Nat
  character : Nat
  folders : Option (List Text)
deriving DecidableEq, Repr

/-- The answer to a request: a JSON value, a page, a refusal with its status and detail, the faults
of the body, or a status alone. -/
inductive Answer where
  | found (json : Json)
  | page (html : Text)
  | refused (status : Nat) (detail : Text)
  | invalid (faults : List Validation.Fault)
  | bare (status : Nat)

namespace Answer

/-- The status of an answer. -/
def status : Answer → Nat
  | .found _ | .page _ => 200
  | .refused status _ | .bare status => status
  | .invalid _ => 422

/-- No route has the path. -/
def noRoute : Answer := .refused 404 "Not Found".toList

/-- The route has another method. -/
def wrongMethod : Answer := .refused 405 "Method Not Allowed".toList

/-- The body cannot be taken for JSON at all. -/
def unreadableBody : Answer := .refused 400 "There was an error parsing the body".toList

/-- The lookup names no document. -/
def noDocument : Answer := .refused 400 "Provide text or path".toList

/-- The lookup found nothing. -/
def nothingFound : Answer := .refused 404 "No model method found".toList

end Answer

/-- The failure to read JSON from a text that holds none: reading stops after the gap at its
head. -/
def expectedJson (content : Text) : Failure :=
  let gap := content.takeWhile Json.Cursor.isGap
  let lines := Text.splitOn '\n' gap
  .notJson lines.length ((lines.getLast?.getD []).length + 1) gap.length

/-- The failure of a client that takes the body of every answer for JSON. -/
def Answer.clientFailure? : Answer → Option Failure
  | .page html => some (expectedJson html)
  | .bare _ => some (expectedJson [])
  | _ => none

namespace Lookup

/-- Reads a lookup from a JSON value. -/
def ofJson (record : Json) : Validated Lookup :=
  match record with
  | .obj _ =>
    Lookup.mk
      <$> Validation.defaulted record "text" none (Validation.optional Validation.string)
      <*> Validation.defaulted record "path" none (Validation.optional Validation.string)
      <*> Validation.required record "line" Validation.natural
      <*> Validation.required record "character" Validation.natural
      <*> Validation.defaulted record "workspace_folders" none
        (Validation.optional (Validation.list Validation.string))
  | _ => Validated.fault .notAnObject

/-- The answer to a body that fails its checks. -/
def refuse (faults : List Validation.Fault) : Answer :=
  .invalid (faults.map fun fault => { fault with location := .field "body" :: fault.location })

/-- The lookup in a JSON value, or the answer that refuses it.  The answer shows the values that
have faults, so it cannot be written when one of them holds a number that is not finite. -/
def check (json : Json) : Except Failure (Except Answer Lookup) :=
  match ofJson json with
  | .valid lookup => .ok (.ok lookup)
  | .invalid faults =>
    if faults.all fun fault => (fault.subject? json).all Json.allFinite then
      .ok (.error (refuse faults))
    else .error .unwritableNumber

/-- How deep a body may be nested. -/
def bodyDepth : Nat := 945

/-- The lookup in the body of a request, or the answer that refuses it. -/
def ofBody : Body → Except Failure (Except Answer Lookup)
  | .absent | .bytes [] => .ok (.error (refuse [⟨[], .missing⟩]))
  | .value json => check json
  | .bytes content =>
    match (Json.decodeBytes? content).map (Json.readWithin bodyDepth) with
    | some (.ok json) => check json
    | some (.error (.syntaxAt offset)) =>
      .ok (.error (refuse [⟨[.index offset], .malformedJson⟩]))
    | _ => .ok (.error .unreadableBody)

/-- The position of a lookup. -/
def position (lookup : Lookup) : Position :=
  ⟨lookup.line, lookup.character⟩

/-- The document of a lookup: the text that is given, else the file at the path.  A file that cannot
be read is answered, not failed. -/
def document (files : FileSystem) (lookup : Lookup) : Traced (Except Answer Document) :=
  match lookup.text, lookup.path with
  | some text, path =>
    pure (.ok ⟨text, (path.filter (· != [])).map Path.ofText⟩)
  | none, none => pure (.error .noDocument)
  | none, some path =>
    let loaded := Document.load files (Path.ofText path)
    match loaded.outcome with
    | .error (.unreadableDocument path fault) =>
      ⟨loaded.notes, .ok (.error (.refused 400 (Failure.unreadableDocument path fault).message))⟩
    | _ => loaded >>= fun document => pure (.ok document)

end Lookup

/-- What the client finds, as JSON. -/
def find
    (files : FileSystem)
    (client : Client)
    (kind : LookupKind)
    (document : Document)
    (position : Position) :
    Traced (Option Json) :=
  match kind with
  | .definition => do
    return (← client.definition files document position).map Target.toJson
  | .hover => do
    return (← client.hover files document position).map fun hover =>
      .record [("markdown", .str hover.markdown), ("hover", hover.toJson)]

/-- Answers a lookup with a client. -/
def answerLookup
    (files : FileSystem)
    (client : Client)
    (kind : LookupKind)
    (lookup : Lookup) :
    Traced Answer := do
  match ← lookup.document files with
  | .error answer => return answer
  | .ok document =>
    match ← find files client kind document lookup.position with
    | some json => return .found json
    | none => return .nothingFound

/-- The folders of a lookup: its own, else those of the service, else the working directory. -/
def foldersOf (files : FileSystem) (folders : Option (List Text)) (lookup : Lookup) : List Path :=
  match lookup.folders.or folders with
  | some texts => texts.map Path.ofText
  | none => [files.workingPath]

/-- Answers a request on a lookup route.  The body is checked before the settings are loaded. -/
def serveLookup
    (host : Host)
    (folders : Option (List Text))
    (kind : LookupKind)
    (body : Body) :
    Host × Traced Answer :=
  match Lookup.ofBody body with
  | .error failure => (host, Traced.ofExcept (.error failure))
  | .ok (.error answer) => (host, pure answer)
  | .ok (.ok lookup) =>
    let (next, settings) := host.settings
    (next, do
      let (_, settings) ← Traced.ofExcept settings
      answerLookup host.files ⟨foldersOf host.files folders lookup, settings⟩ kind lookup)

/-- Answers a request on a route. -/
def serveRoute
    (host : Host)
    (folders : Option (List Text))
    (route : Route)
    (body : Body) :
    Host × Traced Answer :=
  match route with
  | .health => (host, pure (.found (.record [("status", .str "ok".toList)])))
  | .lookup kind => serveLookup host folders kind body
  | .description => (host, pure (.found Description.json))
  | .page page => (host, pure (.page page.html))

/-- The method that asks for the status alone. -/
def statusMethod : Text := "HEAD".toList

/-- Answers a request on a path. -/
def servePath
    (host : Host)
    (folders : Option (List Text))
    (path method : Text)
    (body : Body) :
    Host × Traced Answer :=
  match routeOf? path with
  | none => (host, pure .noRoute)
  | some route =>
    if method = route.method.toList then serveRoute host folders route body
    else (host, pure .wrongMethod)

/-- Answers a request.  Its address has to be one that a request can be sent to. -/
def serve
    (host : Host)
    (folders : Option (List Text))
    (request : Request) :
    Host × Traced Answer :=
  match Address.read request.address with
  | .error fault => (host, Traced.ofExcept (.error (.unusableAddress fault)))
  | .ok address =>
    let method := methodOf request.method
    let (next, answer) := servePath host folders address.requestPath method request.body
    if method = statusMethod then (next, do return .bare (← answer).status) else (next, answer)

/-- Answers requests one after the other. -/
def serveAll
    (host : Host)
    (folders : Option (List Text)) :
    List Request → List (Traced Answer)
  | [] => []
  | request :: rest =>
    let (next, answer) := serve host folders request
    answer :: serveAll next folders rest

end Http
end ModelNav
