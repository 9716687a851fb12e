import Mathlib.Data.List.Find
import ModelNav.Proofs.Call
import ModelNav.Proofs.Document
import ModelNav.Proofs.Method.Lookup
import ModelNav.Proofs.Project.ModelFile
import ModelNav.Resolution

/-!
# The links of a resolution

A resolution follows a chain: the cursor touches a word, a folder is open, a call stands on the
line, the document loads the model of its variable, a candidate file exists, the file can be read,
and one of its lines defines the method.  This module states the links without the searches that
find them and says how a resolution ends, according to the first link that is missing.
-/

namespace ModelNav

namespace Load

/-- The last part of the path of the load is the given name. -/
def Names (load : Load) (modelName : Text) : Prop :=
  (Text.splitOn '/' load.rawPath).getLast? = some modelName

instance (modelName : Text) : DecidablePred (Names · modelName) :=
  fun load =>
    inferInstanceAs (Decidable ((Text.splitOn '/' load.rawPath).getLast? = some modelName))

/-- The name of a load of a text is the last part of its path. -/
theorem modelName_eq_iff_names
    {text modelName : Text}
    {load : Load}
    (present : load ∈ parse text) :
    load.modelName = modelName ↔ load.Names modelName := by
  obtain ⟨path, -, rfl⟩ := List.mem_map.mp present
  rw [Names, rawPath_ofPath, Text.getLast?_splitOn, Option.some.injEq]
  rfl

/-- The load that is found for a name is the first one whose path ends with it. -/
theorem find?_parse_eq_find?_names
    (text modelName : Text) :
    find? (parse text) modelName =
      (parse text).find? fun load => decide (load.Names modelName) := by
  apply List.find?_congr
  intro load present
  rw [beq_eq_decide]
  exact decide_eq_decide.mpr (modelName_eq_iff_names present)

end Load

namespace Resolution

variable {files : FileSystem} {settings : Settings} {document : Document} {position : Position}
  {folders : List Path} {workspace : Path} {call : Call} {load : Load}

/-- The links of a resolution inside the document: the cursor touches a word, the workspace is the
first folder, the call is the first one on the line of the cursor, and the load is the first one of
the variable that is called. -/
structure Loaded
    (document : Document)
    (position : Position)
    (folders : List Path)
    (workspace : Path)
    (call : Call)
    (load : Load) : Prop where
  touchesWord : document.TouchesWord position
  head?_folders : folders.head? = some workspace
  isFirst_call : call.IsFirst (document.lineAt position.line)
  firstOf_load : FirstOf (Load.Names · call.variableName) (Load.parse document.text) load

/-- With all links inside the document, what remains is to look for the model's file. -/
theorem resolve_of_loaded
    (files : FileSystem)
    (settings : Settings)
    (loaded : Loaded document position folders workspace call load) :
    resolve files settings document position folders =
      ofLoad files settings workspace load call.methodName := by
  have word : ¬(document.wordAt? position).isNone = true := by
    rw [Document.isNone_wordAt?_iff]
    exact not_not_intro loaded.touchesWord
  obtain ⟨others, rfl⟩ := List.head?_eq_some_iff.mp loaded.head?_folders
  have found := Call.find?_eq_some_iff.mpr loaded.isFirst_call
  have foundLoad : Load.find? (Load.parse document.text) call.variableName = some load := by
    rw [Load.find?_parse_eq_find?_names]
    exact find?_eq_some_iff_firstOf.mpr loaded.firstOf_load
  rw [resolve, if_neg word]
  simp only [found, foundLoad]

/-- All links inside the document are there, and the given paths are the files that may hold the
model that is called. -/
def Searches
    (files : FileSystem)
    (settings : Settings)
    (document : Document)
    (position : Position)
    (folders : List Path)
    (call : Call)
    (paths : List Path) : Prop :=
  ∃ (workspace : Path) (load : Load) (discovery : Discovery),
    Loaded document position folders workspace call load ∧
      (Project.discover files settings workspace).outcome = .ok discovery ∧
      paths = Project.candidates settings discovery.projectRoot discovery.appDirs
        load.conventionPath

/-- A link of the chain is missing: the word, the folder, the call, the load, the file, its text or
the definition.  Each of the last three is missing after all links before it. -/
inductive MissingLink
    (files : FileSystem)
    (settings : Settings)
    (document : Document)
    (position : Position)
    (folders : List Path) : Prop
  | word
      (untouched : ¬document.TouchesWord position) :
      MissingLink files settings document position folders
  | folder
      (closed : folders = []) :
      MissingLink files settings document position folders
  | call
      (absent : ∀ (call : Call) (before after : Text),
        ¬call.StandsBetween before after (document.lineAt position.line)) :
      MissingLink files settings document position folders
  | load
      (call : Call)
      (isFirst : call.IsFirst (document.lineAt position.line))
      (unloaded : ∀ load ∈ Load.parse document.text, ¬load.Names call.variableName) :
      MissingLink files settings document position folders
  | file
      (call : Call)
      (paths : List Path)
      (searches : Searches files settings document position folders call paths)
      (absent : ∀ path ∈ paths, ¬files.Has path) :
      MissingLink files settings document position folders
  | text
      (call : Call)
      (paths : List Path)
      (path : Path)
      (searches : Searches files settings document position folders call paths)
      (firstOf_path : FirstOf files.Has paths path)
      (unreadable : files.Unreadable path) :
      MissingLink files settings document position folders
  | definition
      (call : Call)
      (paths : List Path)
      (path : Path)
      (text : Text)
      (searches : Searches files settings document position folders call paths)
      (firstOf_path : FirstOf files.Has paths path)
      (read : files.readText path = .ok text)
      (undefined : ∀ line ∈ text.lines, ¬Method.Defines call.methodName line) :
      MissingLink files settings document position folders

/-- All links are there: the file of the resolution is the first candidate that exists, and its text
defines the method. -/
structure Complete
    (files : FileSystem)
    (settings : Settings)
    (document : Document)
    (position : Position)
    (folders : List Path)
    (call : Call)
    (paths : List Path)
    (text : Text)
    (resolution : Resolution) : Prop where
  searches : Searches files settings document position folders call paths
  firstOf_modelFile : FirstOf files.Has paths resolution.modelFile
  readText_modelFile : files.readText resolution.modelFile = .ok text
  findIn?_method : Method.findIn? text.lines call.methodName settings.declarationLineLimit =
    some resolution.method
  methodName_eq : resolution.methodName = call.methodName

/-! ## How a resolution ends -/

section Ending

variable {paths : List Path} {path : Path}

/-- Without an existing candidate there is no answer. -/
theorem Searches.outcome_of_absent
    (searches : Searches files settings document position folders call paths)
    (absent : ∀ path ∈ paths, ¬files.Has path) :
    (resolve files settings document position folders).outcome = .ok none := by
  obtain ⟨workspace, load, discovery, loaded, discovered, rfl⟩ := searches
  have nothing : (Project.modelFile files settings workspace load.conventionPath).outcome =
      .ok none := by
    rw [Project.outcome_modelFile discovered, Except.ok.injEq, List.find?_eq_none]
    simpa using absent
  rw [resolve_of_loaded files settings loaded, ofLoad, Traced.outcome_bind_of_ok nothing]
  rfl

/-- With a first existing candidate, the answer is what its file says about the method. -/
theorem Searches.outcome_of_file
    (searches : Searches files settings document position folders call paths)
    (firstOf_path : FirstOf files.Has paths path)
    {found : Option Method}
    (lookedUp : (Method.findInFile files settings path call.methodName).outcome = .ok found) :
    (resolve files settings document position folders).outcome =
      .ok ((found.filter fun method => !method.isEmpty).map fun method =>
        ⟨path, method, call.methodName⟩) := by
  obtain ⟨workspace, load, discovery, loaded, discovered, rfl⟩ := searches
  have existing : (Project.modelFile files settings workspace load.conventionPath).outcome =
      .ok (some path) := by
    rw [Project.outcome_modelFile discovered, find?_eq_some_iff_firstOf.mpr firstOf_path]
  rw [resolve_of_loaded files settings loaded, ofLoad, Traced.outcome_bind_of_ok existing]
  dsimp only
  rw [Traced.outcome_bind_of_ok lookedUp]
  cases found with
  | none => rfl
  | some method =>
      by_cases empty : method.isEmpty = true
      · simp [empty, Option.filter]
      · simp [empty, Option.filter]

/-- Where a link is missing there is no answer. -/
theorem outcome_resolve_of_missingLink
    (missing : MissingLink files settings document position folders) :
    (resolve files settings document position folders).outcome = .ok none := by
  cases missing with
  | word untouched =>
      unfold resolve
      rw [if_pos (Document.isNone_wordAt?_iff.mpr untouched)]
      rfl
  | folder closed =>
      subst closed
      unfold resolve
      split <;> rfl
  | call absent =>
      unfold resolve
      rw [Call.find?_eq_none_iff.mpr absent]
      split
      · rfl
      · cases folders <;> rfl
  | load call isFirst unloaded =>
      have unfound : Load.find? (Load.parse document.text) call.variableName = none := by
        rw [Load.find?_parse_eq_find?_names, List.find?_eq_none]
        simpa using unloaded
      unfold resolve
      rw [Call.find?_eq_some_iff.mpr isFirst]
      dsimp only
      rw [unfound]
      split
      · rfl
      · cases folders <;> rfl
  | file call paths searches absent => exact searches.outcome_of_absent absent
  | text call paths path searches firstOf_path unreadable =>
      rw [searches.outcome_of_file firstOf_path
        (Method.outcome_findInFile_of_unreadable unreadable settings call.methodName)]
      rfl
  | definition call paths path text searches firstOf_path read undefined =>
      rw [searches.outcome_of_file firstOf_path
        (Method.outcome_findInFile_of_read read settings call.methodName),
        Method.findIn?_eq_none_iff.mpr undefined]
      rfl

/-- With all links the method that was found is the answer; it is never the empty value. -/
theorem Complete.outcome_resolve
    {text : Text}
    {resolution : Resolution}
    (complete : Complete files settings document position folders call paths text resolution) :
    (resolve files settings document position folders).outcome = .ok (some resolution) := by
  obtain ⟨searches, firstOf_path, read, found, named⟩ := complete
  have nonempty := Method.isEmpty_eq_false_of_findIn? (Int.natCast_nonneg _) found
  rw [searches.outcome_of_file firstOf_path
    (Method.outcome_findInFile_of_read read settings call.methodName), found, ← named]
  simp [nonempty, Option.filter]

/-- Inside the document all links are there, or one is missing. -/
theorem exists_loaded_or_missingLink
    (files : FileSystem)
    (settings : Settings)
    (document : Document)
    (position : Position)
    (folders : List Path) :
    (∃ workspace call load, Loaded document position folders workspace call load) ∨
      MissingLink files settings document position folders := by
  by_cases touched : document.TouchesWord position
  · cases folders with
    | nil => exact Or.inr (.folder rfl)
    | cons workspace others =>
        cases found : Call.find? (document.lineAt position.line) with
        | none => exact Or.inr (.call (Call.find?_eq_none_iff.mp found))
        | some call =>
            have isFirst := Call.find?_eq_some_iff.mp found
            cases foundLoad : (Load.parse document.text).find?
                fun load => decide (load.Names call.variableName) with
            | none =>
                refine Or.inr (.load call isFirst ?_)
                simpa using List.find?_eq_none.mp foundLoad
            | some load =>
                exact Or.inl ⟨workspace, call, load, touched, rfl, isFirst,
                  find?_eq_some_iff_firstOf.mp foundLoad⟩
  · exact Or.inr (.word touched)

/-- Among the candidates all links are there, or one is missing. -/
theorem Searches.missingLink_or_complete
    (searches : Searches files settings document position folders call paths) :
    MissingLink files settings document position folders ∨
      ∃ text resolution,
        Complete files settings document position folders call paths text resolution := by
  cases existing : paths.find? fun path => decide (files.Has path) with
  | none =>
      refine Or.inl (.file call paths searches ?_)
      simpa using List.find?_eq_none.mp existing
  | some path =>
      have firstOf_path := find?_eq_some_iff_firstOf.mp existing
      rcases FileSystem.exists_readText_or_unreadable files firstOf_path.1.nulFree with
        ⟨text, read⟩ | unreadable
      · cases found : Method.findIn? text.lines call.methodName settings.declarationLineLimit with
        | none =>
            exact Or.inl (.definition call paths path text searches firstOf_path read
              (Method.findIn?_eq_none_iff.mp found))
        | some method =>
            exact Or.inr ⟨text, ⟨path, method, call.methodName⟩, searches, firstOf_path, read,
              found, rfl⟩
      · exact Or.inl (.text call paths path searches firstOf_path unreadable)

/-- Where discovery ends with a value in the workspace of a load, a link is missing or all links are
there. -/
theorem missingLink_or_complete
    (discovers : ∀ workspace call load, Loaded document position folders workspace call load →
      ∃ discovery, (Project.discover files settings workspace).outcome = .ok discovery) :
    MissingLink files settings document position folders ∨
      ∃ call paths text resolution,
        Complete files settings document position folders call paths text resolution := by
  rcases exists_loaded_or_missingLink files settings document position folders with
    ⟨workspace, call, load, loaded⟩ | missing
  · obtain ⟨discovery, discovered⟩ := discovers workspace call load loaded
    have searches : Searches files settings document position folders call
        (Project.candidates settings discovery.projectRoot discovery.appDirs
          load.conventionPath) :=
      ⟨workspace, load, discovery, loaded, discovered, rfl⟩
    rcases searches.missingLink_or_complete with missing | ⟨text, resolution, complete⟩
    · exact Or.inl missing
    · exact Or.inr ⟨call, _, text, resolution, complete⟩
  · exact Or.inl missing

/-- A resolution that ends with an answer was missing a link or had all of them. -/
theorem missingLink_or_complete_of_outcome
    {answer : Option Resolution}
    (ended : (resolve files settings document position folders).outcome = .ok answer) :
    MissingLink files settings document position folders ∨
      ∃ call paths text resolution,
        Complete files settings document position folders call paths text resolution := by
  apply missingLink_or_complete
  intro workspace call load loaded
  cases discovered : (Project.discover files settings workspace).outcome with
  | ok discovery => exact ⟨discovery, rfl⟩
  | error failure =>
      have unfound : (Project.modelFile files settings workspace load.conventionPath).outcome =
          .error failure :=
        Traced.outcome_bind_of_error discovered
      rw [resolve_of_loaded files settings loaded, ofLoad,
        Traced.outcome_bind_of_error unfound] at ended
      contradiction

/-- In a first folder without a NUL a resolution ends with an answer. -/
theorem exists_outcome_resolve
    (files : FileSystem)
    (settings : Settings)
    (document : Document)
    (position : Position)
    (nulFree : ∀ workspace, folders.head? = some workspace → workspace.NulFree) :
    ∃ answer, (resolve files settings document position folders).outcome = .ok answer := by
  have decided : MissingLink files settings document position folders ∨
      ∃ call paths text resolution,
        Complete files settings document position folders call paths text resolution := by
    apply missingLink_or_complete
    intro workspace call load loaded
    exact Project.exists_outcome_discover (nulFree workspace loaded.head?_folders)
  rcases decided with missing | ⟨call, paths, text, resolution, complete⟩
  · exact ⟨none, outcome_resolve_of_missingLink missing⟩
  · exact ⟨some resolution, complete.outcome_resolve⟩

end Ending

end Resolution

/-! ## A small workspace -/

namespace Resolution
namespace Sample

/-- The name of an entry of the sample workspace. -/
def name (text : String) (valid : isEntryName text.toList = true) : EntryName :=
  ⟨text.toList, valid⟩

/-- The models directory of the sample workspace. -/
def models : Location :=
  [name "models" (by decide), name "app" (by decide), name "w" (by decide)]

/-- A workspace with two models: one has its line ends from another system, the other one has a
method on its first line. -/
def files : FileSystem where
  workingDirectory := []
  entries := [
    (models.drop 2, .directory),
    (models.drop 1, .directory),
    (models, .directory),
    (name "User_model.php" (by decide) :: models,
      .file (Utf8.encode
        "class User \x7b\r\n  // all users\r\n  function get ( $id )\r\n  \x7b".toList)),
    (name "Item_vo.php" (by decide) :: models, .file (Utf8.encode "FUNCTION GET (".toList))]

/-- The folder that holds the sample workspace. -/
def folders : List Path :=
  [Path.ofText "w".toList]

/-- A document that calls a method of the first model. -/
def document : Document where
  text := "load->model('user_model');\r\n$user_model->get(1);".toList

/-- A document that calls a method of the second model. -/
def otherDocument : Document where
  text := "load->model('item_vo');\r\n$item_vo->get(1);".toList

/-- Where the method that the first document calls is defined. -/
def resolution : Resolution where
  modelFile := Path.ofText "w/app/models/User_model.php".toList
  method := {
    line := 2
    character := 11
    comment := "all users".toList
    declaration := "function get ( $id ) \x7b".toList }
  methodName := "get".toList

end Sample

end Resolution
end ModelNav
