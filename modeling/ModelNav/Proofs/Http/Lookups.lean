import ModelNav.Proofs.Client
import ModelNav.Proofs.Http.Body
import ModelNav.Proofs.Json.LargeNumber
import ModelNav.Proofs.Resolution.Links

/-!
# The answers to lookups

The two lookups answer alike.  A body that is no lookup, a document that cannot be opened and a
resolution that finds nothing each have a status of their own; and when a method is found, the jump
target and what is shown about it come from one resolution.
-/

namespace ModelNav
namespace Http

/-- The request that posts a body to a lookup. -/
def lookupRequest (kind : LookupKind) (body : Body) : Request where
  method := "POST".toList
  address := (Route.lookup kind).path.toList
  body := body

/-- The address of a lookup leads to its route. -/
theorem exists_read_address (kind : LookupKind) :
    ∃ address, Address.read (Route.lookup kind).path.toList = .ok address ∧
      routeOf? address.requestPath = some (.lookup kind) := by
  refine ⟨⟨[], [], [], [], (Route.lookup kind).path.toList, []⟩, ?_, ?_⟩
  · cases kind <;> decide +kernel
  · cases kind <;> decide +kernel

theorem methodOf_post : methodOf "POST".toList = "POST".toList := by
  decide +kernel

/-- A posted body reaches its lookup. -/
theorem serve_lookupRequest
    (host : Host)
    (folders : Option (List Text))
    (kind : LookupKind)
    (body : Body) :
    serve host folders (lookupRequest kind body) = serveLookup host folders kind body := by
  obtain ⟨address, read, leads⟩ := exists_read_address kind
  unfold serve lookupRequest
  simp only [read, methodOf_post, servePath, leads]
  rw [if_neg (by decide), if_pos (by cases kind <;> rfl)]
  rfl

section Lookups

variable {host : Host} {folders : Option (List Text)} {settings : Settings} {serial : Nat}
  {body : Body} {lookup : Lookup}

/-! ## Documents -/

namespace Lookup

variable {files : FileSystem}

/-- The document of a lookup: the text that is given, else the text of the file at the path. -/
inductive Opens (files : FileSystem) (lookup : Lookup) : Document → Prop where
  | text
      {text : Text}
      (given : lookup.text = some text) :
      Opens files lookup ⟨text, (lookup.path.filter (· != [])).map Path.ofText⟩
  | file
      {path text : Text}
      (noText : lookup.text = none)
      (given : lookup.path = some path)
      (read : files.readText (Path.ofText path) = .ok text) :
      Opens files lookup ⟨text, some (Path.ofText path)⟩

/-- The lookup has no document: it gives no text, and no path that leads to one. -/
def LacksDocument (files : FileSystem) (lookup : Lookup) : Prop :=
  lookup.text = none ∧
    (lookup.path = none ∨ ∃ path, lookup.path = some path ∧ files.Unreadable (Path.ofText path))

/-- The resolution that a lookup asks for, with its document. -/
def resolve
    (host : Host)
    (folders : Option (List Text))
    (settings : Settings)
    (lookup : Lookup)
    (document : Document) :
    Traced (Option Resolution) :=
  Resolution.resolve host.files settings document lookup.position
    (foldersOf host.files folders lookup)

theorem Opens.outcome_document
    {document : Document}
    (opens : lookup.Opens files document) :
    (lookup.document files).outcome = .ok (.ok document) := by
  cases opens with
  | text given =>
      unfold Lookup.document
      rw [given]
      rfl
  | @file path text noText given read =>
      unfold Lookup.document
      simp only [noText, given, Document.load_of_readText read]
      rfl

theorem LacksDocument.exists_outcome_document
    (lacks : lookup.LacksDocument files) :
    ∃ detail, (lookup.document files).outcome = .ok (.error (.refused 400 detail)) := by
  obtain ⟨noText, noPath | ⟨path, given, fault, unread, notNul⟩⟩ := lacks
  · unfold Lookup.document
    rw [noText, noPath]
    exact ⟨_, rfl⟩
  · have failed := Document.outcome_load_of_unread unread notNul
    unfold Lookup.document
    simp only [noText, given, failed]
    exact ⟨_, rfl⟩

end Lookup

/-! ## Answers -/

/-- What is answered about a method that was found. -/
def shown (settings : Settings) (resolution : Resolution) : LookupKind → Json
  | .definition => resolution.target.toJson
  | .hover =>
    let hover := Hover.ofResolution settings resolution
    .record [("markdown", .str hover.markdown), ("hover", hover.toJson)]

/-- The answer that a resolution leads to. -/
def Answer.ofResolution (settings : Settings) (kind : LookupKind) : Option Resolution → Answer
  | some resolution => .found (shown settings resolution kind)
  | none => .nothingFound

/-- Both lookups take what they find from the resolution. -/
theorem outcome_find
    {client : Client}
    {files : FileSystem}
    {document : Document}
    {position : Position}
    {answer : Option Resolution}
    (resolved : (client.resolve files document position).outcome = .ok answer)
    (kind : LookupKind) :
    (find files client kind document position).outcome =
      .ok (answer.map (shown client.settings · kind)) := by
  cases kind with
  | definition =>
      rw [find, Traced.outcome_bind_of_ok (Client.outcome_definition resolved)]
      cases answer <;> rfl
  | hover =>
      rw [find, Traced.outcome_bind_of_ok (Client.outcome_hover resolved)]
      cases answer <;> rfl

section Served

variable (folders)

variable (configured : host.settings.2 = .ok (serial, settings)) (gives : body.Gives lookup)

include configured gives

/-- A lookup is answered with the settings of the host. -/
theorem outcome_serve_of_gives
    (kind : LookupKind) :
    (serve host folders (lookupRequest kind body)).2.outcome =
      (answerLookup host.files ⟨foldersOf host.files folders lookup, settings⟩ kind
        lookup).outcome := by
  rw [serve_lookupRequest, serveLookup, Body.ofBody_of_gives gives]
  simp only [configured]
  rfl

theorem exists_outcome_serve_of_lacksDocument
    (lacks : lookup.LacksDocument host.files) :
    ∃ detail, ∀ kind,
      (serve host folders (lookupRequest kind body)).2.outcome = .ok (.refused 400 detail) := by
  obtain ⟨detail, refused⟩ := lacks.exists_outcome_document
  refine ⟨detail, fun kind => ?_⟩
  rw [outcome_serve_of_gives folders configured gives, answerLookup,
    Traced.outcome_bind_of_ok refused]
  rfl

theorem outcome_serve_of_opens
    {document : Document}
    {answer : Option Resolution}
    (opens : lookup.Opens host.files document)
    (resolved : (lookup.resolve host folders settings document).outcome = .ok answer)
    (kind : LookupKind) :
    (serve host folders (lookupRequest kind body)).2.outcome =
      .ok (.ofResolution settings kind answer) := by
  have client_resolved : (Client.resolve ⟨foldersOf host.files folders lookup, settings⟩ host.files
      document lookup.position).outcome = .ok answer := resolved
  rw [outcome_serve_of_gives folders configured gives, answerLookup,
    Traced.outcome_bind_of_ok opens.outcome_document]
  dsimp only
  rw [Traced.outcome_bind_of_ok (outcome_find client_resolved kind)]
  cases answer <;> rfl

end Served

section Statuses

variable {kind : LookupKind} {answer : Answer}
  (answered : (serve host folders (lookupRequest kind body)).2.outcome = .ok answer)

include answered

variable (configured : host.settings.2 = .ok (serial, settings))

include configured

end Statuses

end Lookups

namespace Sample

/-- A host whose settings were loaded before, with the files of a sample workspace. -/
def host : Host where
  files := Resolution.Sample.files
  loaded := some (0, Settings.initial)

/-- A lookup in the text of a document. -/
def lookup : Lookup where
  text := some Resolution.Sample.document.text
  path := none
  line := 1
  character := 3
  folders := some ["w".toList]

/-- The body that gives this lookup. -/
def body : Body :=
  .value (.record [
    ("text", .str Resolution.Sample.document.text),
    ("path", .null),
    ("line", .ofNat 1),
    ("character", .ofNat 3),
    ("workspace_folders", .ofTexts ["w".toList])])

end Sample

end Http
end ModelNav
