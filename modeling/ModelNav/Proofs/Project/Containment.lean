import ModelNav.Proofs.Project.Candidates

/-!
# Candidates inside the models directory

A path that is written without a slash in front leads further from the place it is taken from, and
a path with a slash in front leads away from it.  The file name by convention has no slash, so the
candidate right in the models directory always stays there.  The other candidates stay there when
the path of the load statement does not begin with a slash, and need not when it does.
-/

namespace ModelNav
namespace Path

variable {base path : Path} {text part : Text}

/-- A text that names a single part of a path. -/
def IsComponent (part : Text) : Prop :=
  keeps part = true ∧ '/' ∉ part

instance (part : Text) : Decidable (IsComponent part) :=
  inferInstanceAs (Decidable (keeps part = true ∧ '/' ∉ part))

instance (path base : Path) : Decidable (path.isWithin base) :=
  inferInstanceAs (Decidable (path.anchor = base.anchor ∧ base.parts <+: path.parts))

theorem isWithin_trans
    {middle : Path}
    (inner : path.isWithin middle)
    (outer : middle.isWithin base) :
    path.isWithin base :=
  ⟨inner.1.trans outer.1, outer.2.trans inner.2⟩

theorem anchorOf_eq_relative
    (unrooted : text.head? ≠ some '/') :
    anchorOf text = .relative := by
  cases text with
  | nil => rfl
  | cons first rest =>
      rw [List.head?_cons, ne_eq, Option.some.injEq] at unrooted
      rw [anchorOf, List.takeWhile_cons_of_neg (by simpa using unrooted)]
      rfl

/-- A path without a slash in front leads further from the place it is taken from. -/
theorem isWithin_join
    (unrooted : text.head? ≠ some '/')
    (base : Path) :
    (base.join text).isWithin base := by
  rw [join, append_of_relative (anchorOf_eq_relative unrooted)]
  exact ⟨rfl, List.prefix_append _ _⟩

/-- A single part is taken as it is. -/
theorem join_of_isComponent
    (component : IsComponent part)
    (base : Path) :
    base.join part = base.child part := by
  obtain ⟨kept, slashFree⟩ := component
  have unrooted : part.head? ≠ some '/' := fun slash => slashFree (List.mem_of_head? slash)
  rw [join, append_of_relative (anchorOf_eq_relative unrooted), ofText,
    Text.splitOn_of_notMem slashFree, List.filter_cons_of_pos kept, List.filter_nil]
  rfl

end Path

namespace Project

variable {settings : Settings} {models projectRoot : Path} {appDirs : List Text}
  {appDir modelPath : Text}

theorem modelsRoot_eq_child
    (component : Path.IsComponent appDir)
    (modelsComponent : Path.IsComponent settings.modelsDir) :
    modelsRoot settings projectRoot appDir =
      (projectRoot.child appDir).child settings.modelsDir := by
  rw [modelsRoot, Path.join_of_isComponent component, Path.join_of_isComponent modelsComponent]

/-- The file name by convention names a file right in a directory. -/
theorem head?_conventionFile_ne_slash
    (extension : '/' ∉ settings.fileExtension)
    (modelPath : Text) :
    (conventionFile settings modelPath).head? ≠ some '/' := by
  intro slash
  have present := List.mem_of_head? slash
  rw [conventionFile, Convention.fileName, List.mem_append] at present
  rcases present with inStem | inExtension
  · exact Convention.slash_notMem_stem (Load.slash_notMem_splitPath modelPath) inStem
  · exact extension inExtension

/-- The directory of a path begins as the path does. -/
theorem head?_splitPath_ne_slash
    (unrooted : modelPath.head? ≠ some '/') :
    (Load.splitPath modelPath).1.head? ≠ some '/' := by
  unfold Load.splitPath
  cases cut : modelPath.splitAtLast? '/' with
  | none => simp
  | some sides =>
      obtain ⟨before, after⟩ := sides
      obtain ⟨rfl, -⟩ := Text.splitAtLast?_eq_some_iff.mp cut
      cases before with
      | nil => simp
      | cons first rest => simpa using unrooted

/-- The last variant stays in the models directory. -/
theorem isWithin_of_last_variant
    (extension : '/' ∉ settings.fileExtension)
    {offset : Nat}
    {candidate : Path}
    (last : offset + 1 = variantCount modelPath)
    (isVariant : (variants settings models modelPath)[offset]? = some candidate) :
    candidate.isWithin models := by
  have bare : candidate = models.join (conventionFile settings modelPath) := by
    unfold variants at isVariant
    unfold variantCount at last
    dsimp only at isVariant
    split at last
    · rename_i noDirectory
      obtain rfl : offset = 1 := by omega
      simpa [noDirectory] using isVariant.symm
    · rename_i directory
      obtain rfl : offset = 2 := by omega
      simpa [directory] using isVariant.symm
  rw [bare]
  exact Path.isWithin_join (head?_conventionFile_ne_slash extension modelPath) models

/-- All variants stay in the models directory when the path has no slash in front. -/
theorem isWithin_of_mem_variants
    (extension : '/' ∉ settings.fileExtension)
    (unrooted : modelPath.head? ≠ some '/')
    {candidate : Path}
    (isVariant : candidate ∈ variants settings models modelPath) :
    candidate.isWithin models := by
  have file := head?_conventionFile_ne_slash extension modelPath
  have verbatim : (modelPath ++ settings.fileExtension).head? ≠ some '/' := by
    cases modelPath with
    | nil => exact fun slash => extension (List.mem_of_head? slash)
    | cons first rest => exact unrooted
  have directory := head?_splitPath_ne_slash unrooted
  unfold variants at isVariant
  dsimp only at isVariant
  split at isVariant
  · simp only [List.mem_cons, List.not_mem_nil, or_false] at isVariant
    rcases isVariant with rfl | rfl
    · exact Path.isWithin_join verbatim models
    · exact Path.isWithin_join file models
  · simp only [List.mem_cons, List.not_mem_nil, or_false] at isVariant
    rcases isVariant with rfl | rfl | rfl
    · exact Path.isWithin_join verbatim models
    · exact Path.isWithin_trans (Path.isWithin_join file _) (Path.isWithin_join directory models)
    · exact Path.isWithin_join file models

/-- Capitalizing the name of a model puts no slash in front of its path. -/
theorem head?_conventionOf_ne_slash
    (unrooted : modelPath.head? ≠ some '/') :
    (Load.conventionOf modelPath).head? ≠ some '/' := by
  unfold Load.conventionOf
  cases cut : modelPath.splitAtLast? '/' with
  | none =>
      have absent : '/' ∉ Convention.capitalize modelPath :=
        Load.slash_notMem_capitalize (Text.splitAtLast?_eq_none_iff.mp cut)
      exact fun slash => absent (List.mem_of_head? slash)
  | some sides =>
      obtain ⟨before, after⟩ := sides
      obtain ⟨rfl, -⟩ := Text.splitAtLast?_eq_some_iff.mp cut
      cases before with
      | nil => simp at unrooted
      | cons first rest => simpa using unrooted

/-- With the default models directory and extension, the candidates for either spelling of the path
of a load lie below the models directory of the application directory they are built for: all of
them when the path has no slash in front, and the one right in the models directory whatever the
path. -/
theorem candidates_within_models
    (settings : Settings)
    (projectRoot : Path)
    (appDirs : List Text)
    (text : Text)
    (load : Load)
    (modelPath : Text)
    (modelsDir_eq : settings.modelsDir = Settings.initial.modelsDir)
    (fileExtension_eq : settings.fileExtension = Settings.initial.fileExtension)
    (components : ∀ appDir ∈ appDirs, Path.IsComponent appDir)
    (present : load ∈ Load.parse text)
    (spelling : modelPath = load.rawPath ∨ modelPath = load.conventionPath) :
    (candidates settings projectRoot appDirs modelPath).length =
        appDirs.length * variantCount modelPath ∧
      ∀ position candidate,
        (candidates settings projectRoot appDirs modelPath)[position]? = some candidate →
          ∃ appDir,
            appDirs[position / variantCount modelPath]? = some appDir ∧
              (load.rawPath.head? ≠ some '/' ∨
                  position % variantCount modelPath + 1 = variantCount modelPath →
                candidate.isWithin ((projectRoot.child appDir).child settings.modelsDir)) := by
  have extension : '/' ∉ settings.fileExtension := by
    rw [fileExtension_eq]
    decide
  have modelsComponent : Path.IsComponent settings.modelsDir := by
    rw [modelsDir_eq]
    decide
  refine ⟨length_candidates, ?_⟩
  intro position candidate isCandidate
  rw [getElem?_candidates, Option.bind_eq_some_iff] at isCandidate
  obtain ⟨appDir, placed, isVariant⟩ := isCandidate
  refine ⟨appDir, placed, ?_⟩
  rw [← modelsRoot_eq_child (components appDir (List.mem_of_getElem? placed)) modelsComponent]
  rintro (unrooted | last)
  · have unrootedSpelling : modelPath.head? ≠ some '/' := by
      obtain ⟨path, -, rfl⟩ := List.mem_map.mp present
      rcases spelling with rfl | rfl
      · exact unrooted
      · exact head?_conventionOf_ne_slash unrooted
    exact isWithin_of_mem_variants extension unrootedSpelling (List.mem_of_getElem? isVariant)
  · exact isWithin_of_last_variant extension last isVariant

/-- A path that goes up: its parts are kept behind the models directory. -/
theorem candidates_within_models_sample :
    ∃ load ∈ Load.parse "load->model('../b//c_vo')".toList,
      (∀ appDir ∈ ["app".toList, "..".toList], Path.IsComponent appDir) ∧
        load.rawPath.head? ≠ some '/' ∧
        (candidates Settings.initial (Path.ofText "w".toList) ["app".toList, "..".toList]
            load.conventionPath)[3]? = some (Path.ofText "w/../models/../b//C_vo.php".toList) ∧
        (Path.ofText "w/../models/../b//C_vo.php".toList).isWithin
          (((Path.ofText "w".toList).child "..".toList).child Settings.initial.modelsDir) := by
  have present : Load.ofPath "../b//c_vo".toList ∈
      Load.parse "load->model('../b//c_vo')".toList := by
    decide +kernel
  have components : ∀ appDir ∈ ["app".toList, "..".toList], Path.IsComponent appDir := by
    decide
  have unrooted : (Load.ofPath "../b//c_vo".toList).rawPath.head? ≠ some '/' := by
    decide
  have third : (candidates Settings.initial (Path.ofText "w".toList) ["app".toList, "..".toList]
      (Load.ofPath "../b//c_vo".toList).conventionPath)[3]? =
        some (Path.ofText "w/../models/../b//C_vo.php".toList) := by
    decide +kernel
  obtain ⟨appDir, placed, within⟩ :=
    (candidates_within_models Settings.initial (Path.ofText "w".toList)
      ["app".toList, "..".toList] _ _ _ rfl rfl components present (Or.inr rfl)).2 3 _ third
  have count : variantCount (Load.ofPath "../b//c_vo".toList).conventionPath = 3 := by
    decide +kernel
  rw [count] at placed
  obtain rfl : "..".toList = appDir := Option.some.inj placed
  exact ⟨_, present, components, unrooted, third, within (Or.inl unrooted)⟩

/-- A path with a slash in front leads away from the models directory. -/
theorem exists_candidate_outside_sample :
    ∃ load ∈ Load.parse "load->model('/a/b_model')".toList,
      Path.IsComponent "app".toList ∧
        ∃ candidate ∈
            candidates Settings.initial (Path.ofText "w".toList) ["app".toList] load.rawPath,
          candidate = Path.ofText "/a/b_model.php".toList ∧
            ¬candidate.isWithin
              (((Path.ofText "w".toList).child "app".toList).child Settings.initial.modelsDir) := by
  refine ⟨Load.ofPath "/a/b_model".toList, by decide +kernel, by decide,
    Path.ofText "/a/b_model.php".toList, by decide +kernel, rfl, by decide⟩

end Project
end ModelNav
