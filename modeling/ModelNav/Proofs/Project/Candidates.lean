import ModelNav.Project.Candidates
import ModelNav.Proofs.Convention
import ModelNav.Proofs.Load.Writing

/-!
# Two spellings of a logical path

A load statement gives its path as it is written and with the name of the model capitalized.
Cutting either path at its last slash gives the directory that cutting at every slash gives, so the
files that may hold the model are the same for both spellings, the one at the path itself excepted.
The files come in blocks of the same length, one for each application directory.
-/

namespace ModelNav

/-! ## Lists made of blocks -/

section Blocks

variable {α β : Type} {block : α → List β} {width : Nat}

theorem length_flatMap_of_uniform
    (uniform : ∀ item, (block item).length = width)
    (items : List α) :
    (items.flatMap block).length = items.length * width := by
  simp [List.length_flatMap, uniform]

/-- A position in a list made of blocks is a block and a position in it. -/
theorem getElem?_flatMap_of_uniform
    (uniform : ∀ item, (block item).length = width)
    (positive : 0 < width)
    (items : List α)
    (position : Nat) :
    (items.flatMap block)[position]? =
      items[position / width]?.bind fun item => (block item)[position % width]? := by
  induction items generalizing position with
  | nil => simp
  | cons item items inductionHypothesis =>
      rw [List.flatMap_cons]
      by_cases inside : position < width
      · rw [List.getElem?_append_left (by rwa [uniform]), Nat.div_eq_of_lt inside,
          Nat.mod_eq_of_lt inside]
        rfl
      · obtain ⟨further, rfl⟩ := Nat.exists_eq_add_of_le (Nat.le_of_not_lt inside)
        rw [List.getElem?_append_right (by rw [uniform]; omega), uniform, Nat.add_sub_cancel_left,
          inductionHypothesis, Nat.add_div_left _ positive, Nat.add_mod_left,
          List.getElem?_cons_succ]

end Blocks

/-! ## Logical paths -/

namespace Load

/-- The sides of the last slash are the parts between all slashes: the last one, and the others
joined again. -/
theorem exists_splitOn_eq (path : Text) :
    ∃ directories : List Text,
      Text.splitOn '/' path = directories ++ [(splitPath path).2] ∧
        (splitPath path).1 = Text.join ['/'] directories := by
  rw [Text.splitOn_eq_of_splitAtLast?]
  unfold splitPath
  cases path.splitAtLast? '/' with
  | none => exact ⟨[], rfl, rfl⟩
  | some sides => exact ⟨Text.splitOn '/' sides.1, rfl, (Text.join_splitOn '/' sides.1).symm⟩

theorem slash_notMem_splitPath (path : Text) : '/' ∉ (splitPath path).2 :=
  (describes_ofPath path).slash_notMem_modelName

/-- Capitalizing a name brings in no slash. -/
theorem slash_notMem_capitalize
    {name : Text}
    (absent : '/' ∉ name) :
    '/' ∉ Convention.capitalize name :=
  Convention.notMem_capitalize (by decide) (by decide) absent

/-- Capitalizing the name of a model keeps its directory. -/
theorem splitPath_conventionOf (path : Text) :
    splitPath (conventionOf path) =
      ((splitPath path).1, Convention.capitalize (splitPath path).2) := by
  have absent : '/' ∉ Convention.capitalize (splitPath path).2 :=
    slash_notMem_capitalize (slash_notMem_splitPath path)
  unfold conventionOf splitPath at *
  cases cut : path.splitAtLast? '/' with
  | none =>
      rw [cut] at absent
      rw [Option.getD_none] at absent ⊢
      rw [Text.splitAtLast?_eq_none_iff.mpr absent, Option.getD_none]
  | some sides =>
      rw [cut] at absent
      rw [Option.getD_some] at absent ⊢
      rw [Text.splitAtLast?_append_cons absent, Option.getD_some]

/-- The capitalized path has the parts of the path between its slashes, the last one capitalized. -/
theorem conventionOf_eq_join
    {path name : Text}
    {directories : List Text}
    (split : Text.splitOn '/' path = directories ++ [name]) :
    conventionOf path = Text.join ['/'] (directories ++ [Convention.capitalize name]) := by
  have ofSplit := Text.splitOn_eq_of_splitAtLast? '/' path
  rw [split] at ofSplit
  unfold conventionOf
  cases cut : path.splitAtLast? '/' with
  | none =>
      rw [cut] at ofSplit
      obtain ⟨rfl, last⟩ := List.append_inj' (ofSplit.trans (List.nil_append [path]).symm) rfl
      rw [List.singleton_inj.mp last, List.nil_append, Text.join_singleton]
  | some sides =>
      obtain ⟨before, after⟩ := sides
      rw [cut] at ofSplit
      obtain ⟨rfl, last⟩ := List.append_inj' ofSplit rfl
      obtain rfl : name = after := List.singleton_inj.mp last
      have absent : '/' ∉ Convention.capitalize name :=
        slash_notMem_capitalize (Text.splitAtLast?_eq_some_iff.mp cut).2
      calc
        before ++ '/' :: Convention.capitalize name =
            Text.join ['/'] (Text.splitOn '/' (before ++ '/' :: Convention.capitalize name)) :=
          (Text.join_splitOn '/' _).symm
        _ = Text.join ['/'] (Text.splitOn '/' before ++ [Convention.capitalize name]) := by
          rw [Text.splitOn_eq_of_splitAtLast? '/' (before ++ _),
            Text.splitAtLast?_append_cons absent]

end Load

/-! ## Candidates -/

namespace Project

variable {settings : Settings} {models projectRoot : Path} {appDirs : List Text} {modelPath : Text}

/-- The number of files that may hold a model in one models directory. -/
def variantCount (modelPath : Text) : Nat :=
  if (Load.splitPath modelPath).1 = [] then 2 else 3

theorem variantCount_pos (modelPath : Text) : 0 < variantCount modelPath := by
  unfold variantCount
  split <;> decide

theorem length_variants :
    (variants settings models modelPath).length = variantCount modelPath := by
  unfold variants variantCount
  dsimp only
  split <;> rfl

/-- There is a block of files for each application directory. -/
theorem length_candidates :
    (candidates settings projectRoot appDirs modelPath).length =
      appDirs.length * variantCount modelPath :=
  length_flatMap_of_uniform (fun _ => length_variants) appDirs

theorem getElem?_candidates (position : Nat) :
    (candidates settings projectRoot appDirs modelPath)[position]? =
      appDirs[position / variantCount modelPath]?.bind fun appDir =>
        (variants settings (modelsRoot settings projectRoot appDir)
          modelPath)[position % variantCount modelPath]? :=
  getElem?_flatMap_of_uniform (fun _ => length_variants) (variantCount_pos modelPath) appDirs
    position

/-! ## The same candidates for both spellings -/

theorem variantCount_conventionOf (path : Text) :
    variantCount (Load.conventionOf path) = variantCount path := by
  rw [variantCount, Load.splitPath_conventionOf, variantCount]

/-- The file name by convention does not depend on the spelling. -/
theorem conventionFile_conventionOf (path : Text) :
    conventionFile settings (Load.conventionOf path) = conventionFile settings path := by
  rw [conventionFile, Load.splitPath_conventionOf, conventionFile, Convention.fileName,
    Convention.stem_capitalize, Convention.fileName]

/-- All variants but the verbatim one are the same for both spellings. -/
theorem tail_variants_conventionOf (path : Text) :
    (variants settings models (Load.conventionOf path)).tail =
      (variants settings models path).tail := by
  unfold variants
  dsimp only
  rw [conventionFile_conventionOf, Load.splitPath_conventionOf]
  split <;> rfl

theorem getElem?_variants_conventionOf
    {offset : Nat}
    (notVerbatim : offset ≠ 0)
    (path : Text) :
    (variants settings models (Load.conventionOf path))[offset]? =
      (variants settings models path)[offset]? := by
  obtain ⟨further, rfl⟩ := Nat.exists_eq_succ_of_ne_zero notVerbatim
  rw [← List.getElem?_tail, ← List.getElem?_tail, tail_variants_conventionOf]

theorem getElem?_candidates_conventionOf
    {path : Text}
    {position : Nat}
    (notVerbatim : position % variantCount path ≠ 0) :
    (candidates settings projectRoot appDirs (Load.conventionOf path))[position]? =
      (candidates settings projectRoot appDirs path)[position]? := by
  simp only [getElem?_candidates, variantCount_conventionOf,
    getElem?_variants_conventionOf notVerbatim]

/-- For every load of a text, cutting the path at every slash and cutting it at the last slash give
the same directory and name, and capitalizing the name keeps the directory.  The candidates for the
two spellings of the path stand at the same positions and differ only in the first one of each
application directory. -/
theorem exists_directories_of_mem_parse
    (text : Text)
    (load : Load)
    (present : load ∈ Load.parse text) :
    ∃ directories : List Text,
      Text.splitOn '/' load.rawPath = directories ++ [load.modelName] ∧
        load.conventionPath =
          Text.join ['/'] (directories ++ [Convention.capitalize load.modelName]) ∧
        Load.splitPath load.rawPath = (Text.join ['/'] directories, load.modelName) ∧
        Load.splitPath load.conventionPath =
          (Text.join ['/'] directories, Convention.capitalize load.modelName) ∧
        ∀ (settings : Settings) (projectRoot : Path) (appDirs : List Text),
          (candidates settings projectRoot appDirs load.rawPath).length =
              appDirs.length * variantCount load.rawPath ∧
            (candidates settings projectRoot appDirs load.conventionPath).length =
              appDirs.length * variantCount load.rawPath ∧
            ∀ position, position % variantCount load.rawPath ≠ 0 →
              (candidates settings projectRoot appDirs load.rawPath)[position]? =
                (candidates settings projectRoot appDirs load.conventionPath)[position]? := by
  obtain ⟨path, -, rfl⟩ := List.mem_map.mp present
  obtain ⟨directories, split, directory⟩ := Load.exists_splitOn_eq path
  refine ⟨directories, split, Load.conventionOf_eq_join split, ?_, ?_, ?_⟩
  · rw [← directory]
    rfl
  · rw [← directory]
    exact Load.splitPath_conventionOf path
  · intro settings projectRoot appDirs
    refine ⟨length_candidates, ?_, ?_⟩
    · rw [length_candidates]
      exact congrArg (appDirs.length * ·) (variantCount_conventionOf path)
    · intro position notVerbatim
      exact (getElem?_candidates_conventionOf notVerbatim).symm

/-- A path with an empty part, whose name begins with a letter that has two capital letters. -/
theorem exists_directories_of_mem_parse_sample :
    ∃ load ∈ Load.parse "load->model('a//\u00dfx_vo')".toList,
      load.conventionPath = "a//SSx_vo".toList ∧
        ∀ position, position % 3 ≠ 0 →
          (candidates Settings.initial (Path.ofText "w".toList) ["app".toList, "app2".toList]
              load.rawPath)[position]? =
            (candidates Settings.initial (Path.ofText "w".toList) ["app".toList, "app2".toList]
              load.conventionPath)[position]? := by
  have present : Load.ofPath "a//\u00dfx_vo".toList ∈
      Load.parse "load->model('a//\u00dfx_vo')".toList := by
    decide +kernel
  obtain ⟨-, -, -, -, -, agree⟩ := exists_directories_of_mem_parse _ _ present
  exact ⟨_, present, by decide +kernel,
    (agree Settings.initial (Path.ofText "w".toList) ["app".toList, "app2".toList]).2.2⟩

end Project
end ModelNav
