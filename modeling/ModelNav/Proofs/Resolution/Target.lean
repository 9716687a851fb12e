import ModelNav.Proofs.Resolution.Links

/-!
# What a resolution points at

A resolution answers the first call on the cursor's line, through the first load of the variable
that is called, with a place that is really there: the model's file can be opened as a document, the
line of the resolution is the first one that defines the method, and its column lies on that line.
There is no answer exactly when a link is missing; a method that is defined is never dropped.
-/

namespace ModelNav
namespace Resolution

variable {files : FileSystem} {settings : Settings} {document : Document} {position : Position}
  {folders : List Path}

/-- The resolution points at a line of the document that defines its method, before which no line
does, and at the beginning of that line or at a place where the name stands as it is called. -/
structure PointsInto (resolution : Resolution) (modelDocument : Document) : Prop where
  line_lt : resolution.method.line < modelDocument.lines.length
  defines : Method.Defines resolution.methodName (modelDocument.lineAt resolution.method.line)
  firstLine : ∀ earlier < resolution.method.line,
    ¬Method.Defines resolution.methodName (modelDocument.lineAt earlier)
  character_le :
    resolution.method.character ≤ (modelDocument.lineAt resolution.method.line).length
  character_stands : resolution.method.character = 0 ∨
    resolution.methodName <+:
      (modelDocument.lineAt resolution.method.line).drop resolution.method.character

/-- The column of a method lies on its line, at the beginning or where the name stands. -/
theorem character_definedAt
    (lines : List Text)
    (name : Text)
    (extra : Int)
    (index : Nat)
    (line : Text) :
    (Method.definedAt lines name extra index line).character ≤ line.length ∧
      ((Method.definedAt lines name extra index line).character = 0 ∨
        name <+: line.drop (Method.definedAt lines name extra index line).character) := by
  cases found : Text.indexOf? name line with
  | none => simp [Method.definedAt, found]
  | some offset =>
      obtain ⟨bounded, stands⟩ := Text.isPrefix_drop_of_indexOf? found
      simp [Method.definedAt, found, bounded, stands]

/-- What the search finds in a text is a place of the document with that text. -/
theorem pointsInto_of_findIn?
    {resolution : Resolution}
    {modelDocument : Document}
    {extra : Int}
    (found : Method.findIn? modelDocument.lines resolution.methodName extra =
      some resolution.method) :
    resolution.PointsInto modelDocument := by
  obtain ⟨index, line, standsAt, defines, firstLine, method_eq⟩ :=
    Method.findIn?_eq_some_iff.mp found
  have line_eq : resolution.method.line = index := by rw [method_eq]; rfl
  have lineAt_eq : modelDocument.lineAt resolution.method.line = line := by
    rw [line_eq, Document.lineAt_natCast, List.getD_eq_getElem?_getD, standsAt]
    rfl
  obtain ⟨inBounds, -⟩ := List.getElem?_eq_some_iff.mp standsAt
  have column := character_definedAt modelDocument.lines resolution.methodName extra index line
  rw [← method_eq] at column
  refine ⟨?_, ?_, ?_, ?_, ?_⟩
  · rw [line_eq]
    exact inBounds
  · rw [lineAt_eq]
    exact defines
  · intro earlier before
    rw [line_eq] at before
    have earlierInBounds : earlier < modelDocument.lines.length := Nat.lt_trans before inBounds
    rw [Document.lineAt_natCast, List.getD_eq_getElem _ _ earlierInBounds]
    exact firstLine earlier before _ (List.getElem?_eq_getElem earlierInBounds)
  · rw [lineAt_eq]
    exact column.1
  · rw [lineAt_eq]
    exact column.2

/-- Every resolution leads from the first call on the line of the cursor, through the first load of
its variable and a candidate of that load below the first folder, to a line of a readable file that
is the first one to define the method. -/
theorem exists_target_of_resolve
    {resolution : Resolution}
    (resolved : (resolve files settings document position folders).outcome =
      .ok (some resolution)) :
    ∃ (workspace : Path) (call : Call) (load : Load) (discovery : Discovery)
      (modelDocument : Document),
      document.TouchesWord position ∧
        call.IsFirst (document.lineAt position.line) ∧
        resolution.methodName = call.methodName ∧
        FirstOf (Load.Names · call.variableName) (Load.parse document.text) load ∧
        folders.head? = some workspace ∧
        (Project.discover files settings workspace).outcome = .ok discovery ∧
        (discovery.projectRoot = workspace ∨
          discovery.projectRoot = workspace.join settings.subprojectDir) ∧
        resolution.modelFile ∈ Project.candidates settings discovery.projectRoot
          discovery.appDirs load.conventionPath ∧
        (Document.load files resolution.modelFile).outcome = .ok modelDocument ∧
        resolution.PointsInto modelDocument := by
  rcases missingLink_or_complete_of_outcome resolved with
    missing | ⟨call, paths, text, answer, complete⟩
  · rw [outcome_resolve_of_missingLink missing] at resolved
    cases resolved
  · rw [complete.outcome_resolve] at resolved
    obtain rfl : answer = resolution := by simpa using resolved
    obtain ⟨workspace, load, discovery, loaded, discovered, rfl⟩ := complete.searches
    have opened : (Document.load files answer.modelFile).outcome =
        .ok ⟨text, some answer.modelFile⟩ := by
      rw [Document.load, complete.readText_modelFile]
      rfl
    have found := complete.findIn?_method
    rw [← complete.methodName_eq] at found
    have root : discovery.projectRoot = workspace ∨
        discovery.projectRoot = workspace.join settings.subprojectDir := by
      rw [Project.projectRoot_of_discover discovered, Project.rootOf]
      split
      · exact Or.inr rfl
      · exact Or.inl rfl
    exact ⟨workspace, call, load, discovery, ⟨text, some answer.modelFile⟩,
      loaded.touchesWord, loaded.isFirst_call, complete.methodName_eq, loaded.firstOf_load,
      loaded.head?_folders, discovered, root, complete.firstOf_modelFile.mem, opened,
      pointsInto_of_findIn? found⟩

/-- In the sample workspace the model's file opens as a document that the resolution points into. -/
theorem exists_target_of_resolve_sample :
    (resolve Sample.files Settings.initial Sample.document ⟨1, 3⟩ Sample.folders).outcome =
        .ok (some Sample.resolution) ∧
      ∃ modelDocument,
        (Document.load Sample.files Sample.resolution.modelFile).outcome = .ok modelDocument ∧
          Sample.resolution.PointsInto modelDocument := by
  have resolved :
      (resolve Sample.files Settings.initial Sample.document ⟨1, 3⟩ Sample.folders).outcome =
        .ok (some Sample.resolution) := by
    decide +kernel
  obtain ⟨_, _, _, _, modelDocument, -, -, -, -, -, -, -, -, opened, pointsInto⟩ :=
    exists_target_of_resolve resolved
  exact ⟨resolved, modelDocument, opened, pointsInto⟩

end Resolution
end ModelNav
