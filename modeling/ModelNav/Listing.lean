import ModelNav.Load
import ModelNav.Project.Discovery
import ModelNav.Terminal.Table
import ModelNav.Text.Numeral

/-!
# Listings

The two listings that are shown as tables: the load statements of a document, and the application
directories of a project.
-/

namespace ModelNav
namespace Table

/-- The listing of load statements, numbered from one. -/
def ofLoads (loads : List Load) : Table where
  title := "Model Loads".toList
  columns := [
    ⟨"#".toList, .right⟩,
    ⟨"Variable".toList, .left⟩,
    ⟨"Logical Path".toList, .left⟩,
    ⟨"Lookup Path".toList, .left⟩]
  rows := loads.zipIdx.map fun (load, index) =>
    [Numeral.ofNat (index + 1), '$' :: load.modelName, load.rawPath, load.conventionPath]

/-- The title of the listing of application directories. -/
def discoveryTitle (usedDefaults : Bool) : Text :=
  (if usedDefaults then "Application Directories (defaults)" else "Application Directories").toList

/-- The word for whether a directory exists. -/
def existenceWord (found : Bool) : Text :=
  (if found then "[green]yes[/green]" else "[red]no[/red]").toList

/-- The listing of application directories in the order of the search, numbered from one. -/
def ofDiscovery (files : FileSystem) (discovery : Discovery) : Except Failure Table := do
  let rows ← discovery.appDirs.zipIdx.mapM fun (appDir, index) => do
    let found ← (files.isDirectory? (discovery.projectRoot.join appDir)).mapError .access
    return [Numeral.ofNat (index + 1), appDir, existenceWord found]
  return {
    title := discoveryTitle discovery.usedDefaults
    columns := [
      ⟨"Priority".toList, .right⟩,
      ⟨"Directory".toList, .left⟩,
      ⟨"Exists".toList, .left⟩]
    rows := rows
  }

/-- The listing for a workspace, if there is one. -/
def ofWorkspace (files : FileSystem) : Option Discovery → Except Failure Table
  | some discovery => ofDiscovery files discovery
  | none => .error .noWorkspace

end Table
end ModelNav
