import ModelNav.Http.Route
import ModelNav.Record
import ModelNav.Version

/-!
# The description of the interface

The interface describes itself: which routes there are, what a lookup looks like, and what is
answered when a body fails its checks.  The description is one JSON object; pages show it to a
reader.
-/

namespace ModelNav
namespace Http
namespace Description

/-- The name of the interface. -/
def title : String := "SmartCI API"

/-- A JSON string. -/
def word (text : String) : Json :=
  .str text.toList

/-- A JSON array of strings. -/
def words (texts : List String) : Json :=
  .arr (texts.map word)

/-- A schema of a type, with further members. -/
def typed (name : String) (members : List (String × Json)) : Json :=
  .record (("type", word name) :: members)

/-- A schema that is described elsewhere. -/
def reference (name : String) : Json :=
  .record [("$ref", word ("#/components/schemas/" ++ name))]

/-- A schema whose values may be null. -/
def nullable (schema : Json) (members : List (String × Json)) : Json :=
  .record (("anyOf", .arr [schema, typed "null" []]) :: members)

/-- The schema of a number that is at least zero. -/
def coordinate (name summary : String) : Json :=
  typed "integer" [("title", word name), ("description", word summary),
    ("minimum", .real (.finite false 0 0))]

/-- The schema of a lookup. -/
def lookup : Json :=
  let text := typed "string" []
  typed "object" [
    ("title", word "LookupRequest"),
    ("required", words ["line", "character"]),
    ("properties", .record [
      ("text", nullable text [
        ("title", word "Text"), ("description", word "Full text of the active document")]),
      ("path", nullable text [
        ("title", word "Path"),
        ("description", word "Path of the active document (read when text is omitted)")]),
      ("line", coordinate "Line" "Zero-based cursor line"),
      ("character", coordinate "Character" "Zero-based cursor column"),
      ("workspace_folders", nullable (typed "array" [("items", text)]) [
        ("title", word "Workspace Folders"),
        ("description", word "Override the server's workspace folders")])])]

/-- The schema of a fault of a body. -/
def fault : Json :=
  typed "object" [
    ("title", word "ValidationError"),
    ("required", words ["loc", "msg", "type"]),
    ("properties", .record [
      ("loc", typed "array" [
        ("title", word "Location"),
        ("items", .record [("anyOf", .arr [typed "string" [], typed "integer" []])])]),
      ("msg", typed "string" [("title", word "Message")]),
      ("type", typed "string" [("title", word "Error Type")]),
      ("input", .record [("title", word "Input")]),
      ("ctx", typed "object" [("title", word "Context")])])]

/-- The schema of the answer to a body that fails its checks. -/
def faults : Json :=
  typed "object" [
    ("title", word "HTTPValidationError"),
    ("properties", .record [
      ("detail", typed "array" [
        ("title", word "Detail"), ("items", reference "ValidationError")])])]

/-- A body in JSON with the given schema. -/
def content (schema : Json) : Json :=
  .record [("application/json", .record [("schema", schema)])]

/-- An answer with its summary and the schema of its body. -/
def response (summary : String) (schema : Json) : Json :=
  .record [("description", word summary), ("content", content schema)]

/-- The words for an answer that was found. -/
def success : String := "Successful Response"

/-- The description of a lookup route. -/
def lookupRoute (summary operation : String) : Json :=
  .record [("post", .record [
    ("summary", word summary),
    ("operationId", word operation),
    ("requestBody", .record [
      ("required", .bool true), ("content", content (reference "LookupRequest"))]),
    ("responses", .record [
      ("200", response success (.record [])),
      ("422", response "Validation Error" (reference "HTTPValidationError"))])])]

/-- The description of the route that tells whether the service is up. -/
def healthRoute : Json :=
  let schema := typed "object" [
    ("title", word "Response Health Health Get"),
    ("additionalProperties", typed "string" [])]
  .record [("get", .record [
    ("summary", word "Health"),
    ("operationId", word "health_health_get"),
    ("responses", .record [("200", response success schema)])])]

/-- The description as a whole. -/
def json : Json :=
  .record [
    ("openapi", word "3.1.0"),
    ("info", .record [("title", word title), ("version", word version)]),
    ("paths", .record [
      (Route.health.path, healthRoute),
      ((Route.lookup .definition).path, lookupRoute "Definition" "definition_definition_post"),
      ((Route.lookup .hover).path, lookupRoute "Hover" "hover_hover_post")]),
    ("components", .record [("schemas", .record [
      ("HTTPValidationError", faults),
      ("LookupRequest", lookup),
      ("ValidationError", fault)])])]

end Description

/-- The title of a page. -/
def Page.title : Page → String
  | .explorer => Description.title ++ " - Swagger UI"
  | .explorerLogin => "Swagger UI: OAuth2 Redirect"
  | .reference => Description.title ++ " - ReDoc"

/-- A page, which sends its reader to the description. -/
def Page.html (page : Page) : Text :=
  let address := Route.description.path
  s!"\n    <!DOCTYPE html>\n    <html>\n    <head><title>{page.title}</title></head>\n".toList ++
    s!"    <body><a href=\"{address}\">{address}</a></body>\n    </html>\n".toList

end Http
end ModelNav
