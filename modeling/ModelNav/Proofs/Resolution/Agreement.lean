import ModelNav.Proofs.Project.Agreement
import ModelNav.Proofs.Resolution.Links

/-!
# What a resolution depends on

Two requests that agree on the first call of the line, on the path that its variable is loaded with,
on the first folder and on what the file systems say about that path have the same answer.  Nothing
else has any influence: not the column on the words, not the other lines, not the loads and folders
that come later, and not the order in which directories are listed.
-/

namespace ModelNav
namespace Resolution

/-- What is asked for a resolution: the files, a document with a cursor, and the open folders. -/
structure Request where
  files : FileSystem
  document : Document
  position : Position
  folders : List Path

namespace Request

/-- The line of the cursor. -/
def line (request : Request) : Text :=
  request.document.lineAt request.position.line

/-- The first load of a variable has the given conventional path. -/
def Loads (request : Request) (variableName conventionPath : Text) : Prop :=
  ∃ load, FirstOf (Load.Names · variableName) (Load.parse request.document.text) load ∧
    load.conventionPath = conventionPath

/-- The load that is found decides which path a variable is loaded with. -/
theorem loads_iff_of_find?
    {request : Request}
    {variableName conventionPath : Text}
    {load : Load}
    (found : Load.find? (Load.parse request.document.text) variableName = some load) :
    request.Loads variableName conventionPath ↔ load.conventionPath = conventionPath := by
  rw [Load.find?_parse_eq_find?_names] at found
  simp [Loads, ← find?_eq_some_iff_firstOf, found]

/-- Two requests agree on everything that an answer may depend on: both cursors touch a word, the
lines have the same first call, the first loads of its variable have the same conventional path, the
first folders are the same, and the file systems answer alike what is asked about that path. -/
structure Agree (settings : Settings) (first second : Request) : Prop where
  touchesWord_first : first.document.TouchesWord first.position
  touchesWord_second : second.document.TouchesWord second.position
  call_iff : ∀ call : Call, call.IsFirst first.line ↔ call.IsFirst second.line
  loads_iff : ∀ call : Call, call.IsFirst first.line → ∀ conventionPath : Text,
    first.Loads call.variableName conventionPath ↔ second.Loads call.variableName conventionPath
  head?_folders_eq : first.folders.head? = second.folders.head?
  agree_files : ∀ (workspace : Path) (call : Call) (conventionPath : Text),
    first.folders.head? = some workspace → call.IsFirst first.line →
      first.Loads call.variableName conventionPath →
        Project.Agree settings workspace conventionPath first.files second.files

end Request

section TwoRequests

variable {settings : Settings} {first second : Request} {workspace : Path} {call : Call}
  {conventionPath : Text}

/-- All links inside the document of a request are there, and lead to the given path. -/
def LoadedAs
    (request : Request)
    (workspace : Path)
    (call : Call)
    (conventionPath : Text) : Prop :=
  ∃ load, Loaded request.document request.position request.folders workspace call load ∧
    load.conventionPath = conventionPath

/-- Requests that agree have the same links inside their documents. -/
theorem loadedAs_iff
    (agree : Request.Agree settings first second) :
    LoadedAs first workspace call conventionPath ↔
      LoadedAs second workspace call conventionPath := by
  constructor
  · rintro ⟨load, loaded, path⟩
    obtain ⟨other, firstOf_other, otherPath⟩ :=
      (agree.loads_iff call loaded.isFirst_call conventionPath).mp ⟨load, loaded.firstOf_load, path⟩
    refine ⟨other, ⟨agree.touchesWord_second, ?_, ?_, firstOf_other⟩, otherPath⟩
    · rw [← agree.head?_folders_eq]
      exact loaded.head?_folders
    · exact (agree.call_iff call).mp loaded.isFirst_call
  · rintro ⟨load, loaded, path⟩
    have isFirst : call.IsFirst first.line := (agree.call_iff call).mpr loaded.isFirst_call
    obtain ⟨other, firstOf_other, otherPath⟩ :=
      (agree.loads_iff call isFirst conventionPath).mpr ⟨load, loaded.firstOf_load, path⟩
    refine ⟨other, ⟨agree.touchesWord_first, ?_, isFirst, firstOf_other⟩, otherPath⟩
    rw [agree.head?_folders_eq]
    exact loaded.head?_folders

/-- Without all links inside the document there is no answer. -/
theorem outcome_resolve_of_not_loadedAs
    {request : Request}
    (unloaded : ∀ workspace call conventionPath,
      ¬LoadedAs request workspace call conventionPath) :
    (resolve request.files settings request.document request.position request.folders).outcome =
      .ok none := by
  rcases exists_loaded_or_missingLink request.files settings request.document request.position
    request.folders with ⟨workspace, call, load, loaded⟩ | missing
  · exact absurd ⟨load, loaded, rfl⟩ (unloaded workspace call load.conventionPath)
  · exact outcome_resolve_of_missingLink missing

/-- Two loads with the same conventional path lead to the same answer in file systems that agree
about it. -/
theorem outcome_ofLoad_congr
    {files other : FileSystem}
    {load otherLoad : Load}
    (samePath : load.conventionPath = otherLoad.conventionPath)
    (agree : Project.Agree settings workspace load.conventionPath files other)
    (methodName : Text) :
    (ofLoad files settings workspace load methodName).outcome =
      (ofLoad other settings workspace otherLoad methodName).outcome := by
  unfold ofLoad
  rw [← samePath]
  apply Traced.outcome_bind_congr agree.outcome_modelFile_eq
  intro modelFile? found
  cases modelFile? with
  | none => rfl
  | some modelFile =>
      apply Traced.outcome_bind_congr (agree.outcome_findInFile_eq found methodName)
      intro method? _
      rfl

end TwoRequests

/-- Two requests that agree have the same answer. -/
theorem outcome_resolve_eq_of_agree
    (settings : Settings)
    (first second : Request)
    (agree : Request.Agree settings first second) :
    (resolve first.files settings first.document first.position first.folders).outcome =
      (resolve second.files settings second.document second.position second.folders).outcome := by
  by_cases found : ∃ workspace call conventionPath, LoadedAs first workspace call conventionPath
  · obtain ⟨workspace, call, conventionPath, loadedAs⟩ := found
    obtain ⟨other, loadedOther, otherPath⟩ := (loadedAs_iff agree).mp loadedAs
    obtain ⟨load, loaded, rfl⟩ := loadedAs
    have agreeFiles := agree.agree_files workspace call load.conventionPath loaded.head?_folders
      loaded.isFirst_call ⟨load, loaded.firstOf_load, rfl⟩
    rw [resolve_of_loaded first.files settings loaded,
      resolve_of_loaded second.files settings loadedOther]
    exact outcome_ofLoad_congr otherPath.symm agreeFiles call.methodName
  · simp only [not_exists] at found
    have foundOther : ∀ workspace call conventionPath,
        ¬LoadedAs second workspace call conventionPath := by
      intro workspace call conventionPath loadedOther
      exact found workspace call conventionPath ((loadedAs_iff agree).mpr loadedOther)
    rw [outcome_resolve_of_not_loadedAs found, outcome_resolve_of_not_loadedAs foundOther]

namespace Sample

/-- One of two application directories of a workspace. -/
def firstAppDir : EntryName :=
  name "app_a" (by decide)

/-- The application directory that holds the models. -/
def secondAppDir : EntryName :=
  name "app_b" (by decide)

/-- The entries of a workspace with two application directories, listed in the given order, and with
the given content of a file that is not asked for. -/
def workspaceOf (earlier later : EntryName) (content : Bytes) : FileSystem where
  workingDirectory := []
  entries := [
    (models.drop 2, .directory),
    (earlier :: models.drop 2, .directory),
    (later :: models.drop 2, .directory),
    (models.set 1 secondAppDir, .directory),
    (name "Page_model.php" (by decide) :: models.set 1 secondAppDir,
      .file (Utf8.encode "function get(".toList)),
    (name "Note_model.php" (by decide) :: models.set 1 secondAppDir, .file content)]

/-- A cursor on the variable of a call. -/
def request : Request where
  files := workspaceOf firstAppDir secondAppDir []
  document := { text := "load->model('page_model');\n$page_model->get(1);".toList }
  position := ⟨1, 3⟩
  folders := folders

/-- A cursor on the method of the same call in another document: with other lines, one more load and
one more folder, and the directories listed the other way round. -/
def otherRequest : Request where
  files := workspaceOf secondAppDir firstAppDir [0xFF]
  document := {
    text := "// pages\nload->model('page_model'); load->model('b/page_model');\n".toList ++
      "$page_model->get(2);".toList }
  position := ⟨2, 15⟩
  folders := folders ++ [Path.ofText "v".toList]

/-- The call that both cursors are on. -/
def call : Call where
  variableName := "page_model".toList
  methodName := "get".toList

/-- What is discovered in the workspace of both requests. -/
def discovery : Discovery where
  projectRoot := Path.ofText "w".toList
  appDirs := ["app_a".toList, "app_b".toList]
  usedDefaults := false

/-- The file systems of the two requests agree about the path that both documents load. -/
theorem agree_files :
    Project.Agree Settings.initial (Path.ofText "w".toList) "Page_model".toList request.files
      otherRequest.files := by
  have names : Project.appDirsBelow request.files Settings.initial
      (Project.rootOf request.files Settings.initial (Path.ofText "w".toList)) =
        .ok ["app_a".toList, "app_b".toList] := by
    decide +kernel
  have otherNames : Project.appDirsBelow otherRequest.files Settings.initial
      (Project.rootOf otherRequest.files Settings.initial (Path.ofText "w".toList)) =
        .ok ["app_b".toList, "app_a".toList] := by
    decide +kernel
  have isDiscovered :
      (Project.discover request.files Settings.initial (Path.ofText "w".toList)).outcome =
        .ok discovery := by
    have found : Project.foundAppDirs request.files Settings.initial
        (Project.rootOf request.files Settings.initial (Path.ofText "w".toList)) =
          ["app_a".toList, "app_b".toList] := by
      rw [Project.foundAppDirs, names]
    have ordered : AppDirs.sort Settings.initial.commonAppDir ["app_a".toList, "app_b".toList] =
        ["app_a".toList, "app_b".toList] :=
      List.mergeSort_of_pairwise (by decide)
    have nulFree : (Path.ofText "w".toList).NulFree := by decide
    rw [Project.discover, Traced.outcome_bind_of_ok (Project.outcome_root _ _ _),
      Project.outcome_discoverBelow (Project.nulFree_rootOf nulFree), found, ordered]
    exact congrArg Except.ok (by decide +kernel)
  refine ⟨by decide +kernel, ?_, ?_, ?_⟩
  · rw [names, otherNames]
    intro name
    simp [or_comm]
  · intro discovered ended
    obtain rfl : discovery = discovered := Except.ok.inj (isDiscovered.symm.trans ended)
    decide +kernel
  · intro discovered ended path firstOf_path text
    obtain rfl : discovery = discovered := Except.ok.inj (isDiscovered.symm.trans ended)
    have existing : (Project.candidates Settings.initial discovery.projectRoot discovery.appDirs
        "Page_model".toList).find? (fun path => decide (request.files.Has path)) =
          some (Path.ofText "w/app_b/models/Page_model.php".toList) := by
      decide +kernel
    rw [← find?_eq_some_iff_firstOf, existing, Option.some.injEq] at firstOf_path
    subst firstOf_path
    have sameText : request.files.readText (Path.ofText "w/app_b/models/Page_model.php".toList) =
        otherRequest.files.readText (Path.ofText "w/app_b/models/Page_model.php".toList) := by
      decide +kernel
    rw [sameText]

end Sample

/-- The two sample requests agree, so they have the same answer. -/
theorem outcome_resolve_eq_of_agree_sample :
    Request.Agree Settings.initial Sample.request Sample.otherRequest ∧
      (resolve Sample.request.files Settings.initial Sample.request.document
          Sample.request.position Sample.request.folders).outcome =
        (resolve Sample.otherRequest.files Settings.initial Sample.otherRequest.document
          Sample.otherRequest.position Sample.otherRequest.folders).outcome := by
  have called : Call.find? Sample.request.line = some Sample.call := by decide +kernel
  have calledOther : Call.find? Sample.otherRequest.line = some Sample.call := by decide +kernel
  have loaded : Load.find? (Load.parse Sample.request.document.text) Sample.call.variableName =
      some (Load.ofPath "page_model".toList) := by
    decide +kernel
  have loadedOther : Load.find? (Load.parse Sample.otherRequest.document.text)
      Sample.call.variableName = some (Load.ofPath "page_model".toList) := by
    decide +kernel
  have isCall : ∀ call : Call, call.IsFirst Sample.request.line → Sample.call = call := by
    intro call isFirst
    exact Option.some.inj (called.symm.trans (Call.find?_eq_some_iff.mpr isFirst))
  have agree : Request.Agree Settings.initial Sample.request Sample.otherRequest := by
    refine ⟨⟨3, 'g', ?_⟩, ⟨15, 't', ?_⟩, ?_, ?_, rfl, ?_⟩
    · decide +kernel
    · decide +kernel
    · intro call
      rw [← Call.find?_eq_some_iff, ← Call.find?_eq_some_iff, called, calledOther]
    · intro call isFirst conventionPath
      obtain rfl := isCall call isFirst
      rw [Request.loads_iff_of_find? loaded, Request.loads_iff_of_find? loadedOther]
    · intro workspace call conventionPath isHead isFirst loads
      obtain rfl : Path.ofText "w".toList = workspace := Option.some.inj isHead
      obtain rfl := isCall call isFirst
      rw [Request.loads_iff_of_find? loaded] at loads
      subst loads
      exact Sample.agree_files
  exact ⟨agree, outcome_resolve_eq_of_agree _ _ _ agree⟩

end Resolution
end ModelNav
