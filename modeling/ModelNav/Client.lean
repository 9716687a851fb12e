import ModelNav.Hover

/-!
# Clients

A client answers lookups for a list of workspace folders under fixed settings.  The first folder is
the one that counts.
-/

namespace ModelNav

/-- Workspace folders and the settings under which they are searched. -/
structure Client where
  folders : List Path
  settings : Settings

namespace Client

/-- The workspace that lookups search. -/
def root? (client : Client) : Option Path :=
  client.folders.head?

/-- Resolves the model call at a position. -/
def resolve
    (client : Client)
    (files : FileSystem)
    (document : Document)
    (position : Position) :
    Traced (Option Resolution) :=
  Resolution.resolve files client.settings document position client.folders

/-- The place where the method that is called at a position is defined. -/
def definition
    (client : Client)
    (files : FileSystem)
    (document : Document)
    (position : Position) :
    Traced (Option Target) := do
  return (← client.resolve files document position).map Resolution.target

/-- What is shown about the method that is called at a position. -/
def hover
    (client : Client)
    (files : FileSystem)
    (document : Document)
    (position : Position) :
    Traced (Option Hover) := do
  return (← client.resolve files document position).map (Hover.ofResolution client.settings)

/-- The project root and the application directories of the workspace. -/
def discover (client : Client) (files : FileSystem) : Traced (Option Discovery) :=
  match client.root? with
  | none => pure none
  | some workspace => do
    return some (← Project.discover files client.settings workspace)

/-- The file of a model in the workspace. -/
def modelFile
    (client : Client)
    (files : FileSystem)
    (modelPath : Text) :
    Traced (Option Path) :=
  match client.root? with
  | none => pure none
  | some workspace => Project.modelFile files client.settings workspace modelPath

end Client
end ModelNav
