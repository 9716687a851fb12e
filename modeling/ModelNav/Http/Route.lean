import ModelNav.Text.Basic
import ModelNav.Text.Upper

/-!
# Routes

What a request of the HTTP interface asks for, by its method and its path.  Slashes at the end of a
path are dropped when a route is found without them.
-/

namespace ModelNav
namespace Http

/-- What can be looked up. -/
inductive LookupKind where
  | definition
  | hover
deriving DecidableEq, Repr

/-- The pages that show the interface to a reader. -/
inductive Page where
  | explorer
  | explorerLogin
  | reference
deriving DecidableEq, Repr

/-- The routes of the interface. -/
inductive Route where
  | health
  | lookup (kind : LookupKind)
  | description
  | page (page : Page)
deriving DecidableEq, Repr

namespace Route

/-- The routes. -/
def all : List Route :=
  [.description, .page .explorer, .page .explorerLogin, .page .reference, .health,
    .lookup .definition, .lookup .hover]

/-- The path of a route. -/
def path : Route → String
  | .health => "/health"
  | .lookup .definition => "/definition"
  | .lookup .hover => "/hover"
  | .description => "/openapi.json"
  | .page .explorer => "/docs"
  | .page .explorerLogin => "/docs/oauth2-redirect"
  | .page .reference => "/redoc"

/-- The method of a route. -/
def method : Route → String
  | .lookup _ => "POST"
  | _ => "GET"

/-- The route with a given path. -/
def ofPath? (path : Text) : Option Route :=
  all.find? fun route => route.path.toList == path

end Route

/-- The text without slashes at its end. -/
def dropSlashes (text : Text) : Text :=
  (text.reverse.dropWhile (· == '/')).reverse

/-- The route that a path leads to. -/
def routeOf? (path : Text) : Option Route :=
  (Route.ofPath? path).or (Route.ofPath? (dropSlashes path))

/-- The method as it is compared. -/
def methodOf (method : Text) : Text :=
  method.flatMap Text.upper

end Http
end ModelNav
