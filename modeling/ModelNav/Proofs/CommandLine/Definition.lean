import ModelNav.Proofs.CommandLine.Console
import ModelNav.Proofs.CommandLine.Reading
import ModelNav.Proofs.Http.Lookups

/-!
# The same target on the command line and over HTTP

A command line counts lines and columns from one, a request from zero.  Apart from that both ask for
the same resolution: the command ends with an answer exactly when the request is answered with one,
and prints its path, line and column, as long as the terminal shows them as they are.
-/

namespace ModelNav
namespace CommandLine

/-! ## Running the command -/

/-- The report of a command line that asks for the definition at a place in a workspace. -/
def definitionReport
    (host : Host)
    (installed : Bool)
    (file workspace : Path)
    (line column : Nat) :
    Report :=
  run host installed ("definition".toList :: definitionArguments file workspace line column)

/-- The body that asks for the definition at the same place, which is counted from zero. -/
def definitionBody (file workspace : Path) (line column : Nat) : Http.Body :=
  .value (.record [
    ("path", .ofPath file),
    ("line", .ofNat (line - 1)),
    ("character", .ofNat (column - 1)),
    ("workspace_folders", .ofTexts [workspace.toText])])

/-- The answer to that body. -/
def definitionAnswer
    (host : Host)
    (folders : Option (List Text))
    (file workspace : Path)
    (line column : Nat) :
    Except Failure Http.Answer :=
  (Http.serve host folders
    (Http.lookupRequest .definition (definitionBody file workspace line column))).2.outcome

section Running

variable {host : Host} {serial : Nat} {settings : Settings} {file workspace : Path}
  {line column : Nat}

theorem runConsole_definition
    (configured : host.settings.2 = .ok (serial, settings))
    (installed : Bool)
    (arguments : List Text) :
    runConsole host installed ("definition".toList :: arguments) =
      (ofReading (Command.read host.files .definition arguments) >>= execute host installed) := by
  have invoked : Invocation.read ("definition".toList :: arguments) =
      .ok ⟨false, .definition, arguments⟩ := rfl
  unfold runConsole
  rw [invoked, configured]
  rfl

theorem exitCode_of_not_read
    (configured : host.settings.2 = .ok (serial, settings))
    (notRead : Command.read host.files .definition
      (definitionArguments file workspace line column) = .error .usage)
    (installed : Bool) :
    (definitionReport host installed file workspace line column).exitCode = 2 := by
  rw [definitionReport, run_eq, runConsole_definition configured, notRead]
  rfl

/-- A command line that is understood prints the definition at its place. -/
theorem definitionReport_of_read
    (configured : host.settings.2 = .ok (serial, settings))
    (read : Command.read host.files .definition
      (definitionArguments file workspace line column) =
        .ok (.definition ⟨file, line, column, some workspace⟩))
    (installed : Bool) :
    definitionReport host installed file workspace line column =
      .ofConsole (printDefinition host.files ⟨[workspace], settings⟩
        ⟨file, line, column, some workspace⟩) := by
  have executed : execute host installed (.definition ⟨file, line, column, some workspace⟩) =
      printDefinition host.files ⟨[workspace], settings⟩
        ⟨file, line, column, some workspace⟩ := by
    rw [execute, withClient, configured]
    rfl
  rw [definitionReport, run_eq, runConsole_definition configured, read, ← executed]
  rfl

variable {files : FileSystem} {client : Client} (place : Place)

/-- A file that cannot be read ends the command. -/
theorem fails_printDefinition_of_unread
    {fault : ReadFault}
    (unread : files.readText place.file = .error fault)
    (notNul : fault ≠ .access .nulInPath) :
    (printDefinition files client place).Fails := by
  have notOpened : (openDocument files place.file).Fails := by
    unfold openDocument
    simp only [Document.outcome_load_of_unread unread notNul]
    exact Console.fails_bind_of_ok rfl (Console.fails_complain _)
  exact notOpened.bind _

section Opened

variable {text : Text} (read : files.readText place.file = .ok text)

include read

theorem openDocument_of_read :
    openDocument files place.file = ⟨[], .ok ⟨text, some place.file⟩⟩ := by
  unfold openDocument
  rw [Document.load_of_readText read]
  rfl

/-- A place without an answer ends the command. -/
theorem fails_printDefinition_of_none
    (resolved : (client.resolve files ⟨text, some place.file⟩ place.position).outcome =
      .ok none) :
    (printDefinition files client place).Fails := by
  have nothing : (Console.ofTraced
      (client.definition files ⟨text, some place.file⟩ place.position)).outcome = .ok none :=
    Console.outcome_ofTraced_of_ok (Client.outcome_definition resolved)
  have complains : (nothingFound : Console Unit).Fails := Console.fails_complain _
  rw [printDefinition, Console.bind_of_quiet (openDocument_of_read place read)]
  exact Console.fails_bind_of_ok nothing complains

/-- A target that is found is printed as the terminal shows it. -/
theorem printDefinition_of_some
    {resolution : Resolution}
    {shown : Text}
    (resolved : (client.resolve files ⟨text, some place.file⟩ place.position).outcome =
      .ok (some resolution))
    (printed : Console.print (targetText resolution.target) = Console.act (.printed shown)) :
    (Report.ofConsole (printDefinition files client place)).exitCode = 0 ∧
      (Report.ofConsole (printDefinition files client place)).output = shown := by
  have found : (Console.ofTraced
      (client.definition files ⟨text, some place.file⟩ place.position)).outcome =
        .ok (some resolution.target) :=
    Console.outcome_ofTraced_of_ok (Client.outcome_definition resolved)
  have printDefinition_eq : printDefinition files client place =
      ⟨(client.definition files ⟨text, some place.file⟩ place.position).notes.map .noted ++
        [.printed shown], .ok ()⟩ := by
    rw [printDefinition, Console.bind_of_quiet (openDocument_of_read place read),
      Console.bind_of_ok found]
    dsimp only
    rw [printed]
    rfl
  rw [printDefinition_eq]
  exact ⟨rfl, Report.output_of_noted rfl⟩

end Opened

end Running

/-! ## The answer to the request -/

section Answering

variable {host : Host} {folders : Option (List Text)} {serial : Nat} {settings : Settings}
  {file workspace : Path} {line column : Nat}

/-- The lookup that the body gives. -/
def definitionLookup (file workspace : Path) (line column : Nat) : Http.Lookup where
  text := none
  path := some file.toText
  line := line - 1
  character := column - 1
  folders := some [workspace.toText]

theorem gives_definitionBody (file workspace : Path) (line column : Nat) :
    (definitionBody file workspace line column).Gives
      (definitionLookup file workspace line column) := by
  refine ⟨_, rfl, ?_⟩
  exact {
    isObject := ⟨_, rfl⟩
    text := Or.inl rfl
    path := rfl
    line := ⟨_, rfl, rfl⟩
    character := ⟨_, rfl, rfl⟩
    folders := rfl }

variable
  (configured : host.settings.2 = .ok (serial, settings))
  (fileNormal : file.Normal)

include configured fileNormal

theorem definitionAnswer_of_nul
    (nul : ¬file.NulFree) :
    definitionAnswer host folders file workspace line column =
      .error (.access .nulInPath) := by
  have unloaded : (Document.load host.files file).outcome = .error (.access .nulInPath) := by
    rw [Document.load, FileSystem.readText_of_not_nulFree nul]
    rfl
  have noDocument : ((definitionLookup file workspace line column).document host.files).outcome =
      .error (.access .nulInPath) := by
    unfold Http.Lookup.document definitionLookup
    simp only [fileNormal.ofText_toText, unloaded]
    exact Traced.outcome_bind_of_error unloaded
  rw [definitionAnswer, Http.outcome_serve_of_gives folders configured
    (gives_definitionBody file workspace line column), Http.answerLookup,
    Traced.outcome_bind_of_error noDocument]

theorem exists_definitionAnswer_of_unreadable
    (unreadable : host.files.Unreadable file)
    (folders : Option (List Text))
    (workspace : Path)
    (line column : Nat) :
    ∃ answer, definitionAnswer host folders file workspace line column = .ok answer ∧
      answer.status = 400 := by
  have lacks : (definitionLookup file workspace line column).LacksDocument host.files := by
    refine ⟨rfl, Or.inr ⟨file.toText, rfl, ?_⟩⟩
    rwa [fileNormal.ofText_toText]
  obtain ⟨detail, answered⟩ := Http.exists_outcome_serve_of_lacksDocument folders configured
    (gives_definitionBody file workspace line column) lacks
  exact ⟨.refused 400 detail, answered .definition, rfl⟩

theorem definitionAnswer_of_read
    {text : Text}
    {answer : Option Resolution}
    (workspaceNormal : workspace.Normal)
    (read : host.files.readText file = .ok text)
    (resolved : (Client.resolve ⟨[workspace], settings⟩ host.files ⟨text, some file⟩
      (Place.position ⟨file, line, column, some workspace⟩)).outcome = .ok answer) :
    definitionAnswer host folders file workspace line column =
      .ok (.ofResolution settings .definition answer) := by
  have opens : (definitionLookup file workspace line column).Opens host.files
      ⟨text, some file⟩ := by
    have opensPath : (definitionLookup file workspace line column).Opens host.files
        ⟨text, some (Path.ofText file.toText)⟩ := by
      refine .file rfl rfl ?_
      rwa [fileNormal.ofText_toText]
    rwa [fileNormal.ofText_toText] at opensPath
  refine Http.outcome_serve_of_opens folders configured
    (gives_definitionBody file workspace line column) opens ?_ .definition
  have folders_eq : Http.foldersOf host.files folders
      (definitionLookup file workspace line column) = [workspace] := by
    change [Path.ofText workspace.toText] = [workspace]
    rw [workspaceNormal.ofText_toText]
  rw [Http.Lookup.resolve, folders_eq]
  exact resolved

end Answering

/-! ## Agreement -/

/-- Targets that are answered alike are written alike. -/
theorem targetText_congr
    {target other : Target}
    (same : target.toJson = other.toJson) :
    targetText target = targetText other := by
  simp only [Target.toJson, Json.record, Json.ofPath, Json.ofNat, List.map_cons, List.map_nil,
    Json.obj.injEq, List.cons.injEq, Prod.mk.injEq, Json.str.injEq, Json.int.injEq, true_and,
    and_true, Nat.cast_inj] at same
  obtain ⟨samePath, sameLine, sameCharacter⟩ := same
  rw [targetText, targetText, samePath, sameLine, sameCharacter]

/-- How a command and a request for the same place end together. -/
inductive Agreement (report : Report) : Except Failure Http.Answer → Prop where
  | unanswered
      {failure : Failure}
      (code : report.exitCode = 2) :
      Agreement report (.error failure)
  | refused
      {answer : Http.Answer}
      (status : answer.status = 400 ∨ answer.status = 404)
      (code : report.exitCode = 1) :
      Agreement report (.ok answer)
  | found
      {target : Target}
      (printed : Terminal.Plain (targetText target) →
        report.exitCode = 0 ∧ report.output = targetText target ++ ['\n']) :
      Agreement report (.ok (.found target.toJson))

section Agreeing

variable {host : Host} {serial : Nat} {settings : Settings} {file workspace : Path}
  {line column : Nat}
  (configured : host.settings.2 = .ok (serial, settings))
  (askable : Askable host.files file workspace line column)

include configured askable

theorem exitCode_of_not_understood
    (notUnderstood : ¬Understood file line column)
    (installed : Bool) :
    (definitionReport host installed file workspace line column).exitCode = 2 :=
  exitCode_of_not_read configured (askable.read_of_not_understood notUnderstood) installed

/-- A target that is found is reported as the terminal shows it. -/
theorem definitionReport_of_some
    {text shown : Text}
    {resolution : Resolution}
    (understood : Understood file line column)
    (read : host.files.readText file = .ok text)
    (resolved : (Client.resolve ⟨[workspace], settings⟩ host.files ⟨text, some file⟩
      (Place.position ⟨file, line, column, some workspace⟩)).outcome = .ok (some resolution))
    (printed : Console.print (targetText resolution.target) = Console.act (.printed shown))
    (installed : Bool) :
    (definitionReport host installed file workspace line column).exitCode = 0 ∧
      (definitionReport host installed file workspace line column).output = shown := by
  rw [definitionReport_of_read configured (askable.read_of_understood understood)]
  exact printDefinition_of_some ⟨file, line, column, some workspace⟩ read resolved printed

theorem agreement_of_understood
    (understood : Understood file line column)
    (installed : Bool)
    (folders : Option (List Text)) :
    Agreement (definitionReport host installed file workspace line column)
      (definitionAnswer host folders file workspace line column) := by
  have report_eq :=
    definitionReport_of_read configured (askable.read_of_understood understood) installed
  rcases host.files.exists_readText_or_unreadable understood.1 with ⟨text, read⟩ | unreadable
  · obtain ⟨answer, resolved⟩ : ∃ answer, (Client.resolve ⟨[workspace], settings⟩ host.files
        ⟨text, some file⟩ (Place.position ⟨file, line, column, some workspace⟩)).outcome =
          .ok answer :=
      Resolution.exists_outcome_resolve _ _ _ _ (by simpa using askable.nulFree_workspace)
    rw [definitionAnswer_of_read configured askable.fileNormal askable.workspaceNormal read
      resolved]
    cases answer with
    | none =>
        refine .refused (Or.inr rfl) ?_
        rw [report_eq]
        exact Console.Fails.exitCode_eq (fails_printDefinition_of_none _ read resolved)
    | some resolution =>
        refine .found fun plain => ?_
        exact definitionReport_of_some configured askable understood read resolved
          (Console.print_of_plain plain) installed
  · obtain ⟨answer, answered, status⟩ :=
      exists_definitionAnswer_of_unreadable configured askable.fileNormal unreadable folders
        workspace line column
    obtain ⟨fault, unread, notNul⟩ := unreadable
    rw [answered, report_eq]
    exact .refused (Or.inl status)
      (Console.Fails.exitCode_eq (fails_printDefinition_of_unread _ unread notNul))

/-- Whatever the place, the two end together, unless a numeral is too long for the command line. -/
theorem agreement_of_short
    (lineShort : line < 10 ^ Numeral.digitLimit)
    (columnShort : column < 10 ^ Numeral.digitLimit)
    (installed : Bool)
    (folders : Option (List Text)) :
    Agreement (definitionReport host installed file workspace line column)
      (definitionAnswer host folders file workspace line column) := by
  by_cases nulFree : file.NulFree
  · exact agreement_of_understood configured askable ⟨nulFree, lineShort, columnShort⟩ installed
      folders
  · rw [definitionAnswer_of_nul configured askable.fileNormal nulFree]
    exact .unanswered (exitCode_of_not_understood configured askable
      (fun understood => nulFree understood.1) installed)

end Agreeing

namespace Agreement

variable {report : Report} {answer : Except Failure Http.Answer}

theorem found_of_exitCode
    (agreement : Agreement report answer)
    (code : report.exitCode = 0) :
    ∃ given, answer = .ok given ∧ given.status = 200 := by
  cases agreement with
  | unanswered failed => simp [failed] at code
  | refused _ failed => simp [failed] at code
  | found _ => exact ⟨_, rfl, rfl⟩

theorem exitCode_of_refused
    (agreement : Agreement report answer)
    {given : Http.Answer}
    (answered : answer = .ok given)
    (status : given.status = 400 ∨ given.status = 404) :
    report.exitCode = 1 := by
  cases agreement with
  | unanswered _ => cases answered
  | refused _ failed => exact failed
  | found _ =>
      cases answered
      simp [Http.Answer.status] at status

variable
  (plain : ∀ target : Target, answer = .ok (.found target.toJson) →
    Terminal.Plain (targetText target))

include plain

theorem exists_target_of_found
    (agreement : Agreement report answer)
    {given : Http.Answer}
    (answered : answer = .ok given)
    (status : given.status = 200) :
    ∃ target : Target, given = .found target.toJson ∧
      report.exitCode = 0 ∧ report.output = targetText target ++ ['\n'] := by
  cases agreement with
  | unanswered _ => cases answered
  | refused refused _ =>
      cases answered
      simp [status] at refused
  | @found target printed =>
      cases answered
      exact ⟨target, rfl, printed (plain target rfl)⟩

theorem refused_of_exitCode
    (agreement : Agreement report answer)
    (code : report.exitCode = 1) :
    ∃ given, answer = .ok given ∧ (given.status = 400 ∨ given.status = 404) := by
  cases agreement with
  | unanswered failed => simp [failed] at code
  | refused status _ => exact ⟨_, rfl, status⟩
  | @found target printed =>
      rw [(printed (plain target rfl)).1] at code
      contradiction

end Agreement

/-- A numeral that is too long for the command line ends it with exit code two.  Otherwise an exit
code of zero means that the request finds a target, and a request that is refused goes with exit
code one.  When the terminal shows the target that is found as it is, both hold in both directions,
and what is printed is the path, the line and the column of the target, counted from one. -/
theorem definition_agrees
    {host : Host}
    {serial : Nat}
    {settings : Settings}
    {file workspace : Path}
    {line column : Nat}
    (configured : host.settings.2 = .ok (serial, settings))
    (askable : Askable host.files file workspace line column)
    (installed : Bool)
    (folders : Option (List Text)) :
    (10 ^ Numeral.digitLimit ≤ line ∨ 10 ^ Numeral.digitLimit ≤ column →
        (definitionReport host installed file workspace line column).exitCode = 2) ∧
      (line < 10 ^ Numeral.digitLimit → column < 10 ^ Numeral.digitLimit →
        ((definitionReport host installed file workspace line column).exitCode = 0 →
          ∃ given, definitionAnswer host folders file workspace line column = .ok given ∧
            given.status = 200) ∧
        (∀ given, definitionAnswer host folders file workspace line column = .ok given →
          given.status = 400 ∨ given.status = 404 →
          (definitionReport host installed file workspace line column).exitCode = 1) ∧
        ((∀ target : Target, definitionAnswer host folders file workspace line column =
              .ok (.found target.toJson) →
            Terminal.Plain (targetText target)) →
          ((definitionReport host installed file workspace line column).exitCode = 0 ↔
            ∃ given, definitionAnswer host folders file workspace line column = .ok given ∧
              given.status = 200) ∧
          ((definitionReport host installed file workspace line column).exitCode = 1 ↔
            ∃ given, definitionAnswer host folders file workspace line column = .ok given ∧
              (given.status = 400 ∨ given.status = 404)) ∧
          ∀ given, definitionAnswer host folders file workspace line column = .ok given →
            given.status = 200 →
            ∃ target : Target,
              given = .found (.record [
                ("path", .ofPath target.path),
                ("line", .ofNat target.line),
                ("character", .ofNat target.character)]) ∧
              (definitionReport host installed file workspace line column).output =
                target.path.toText ++ ':' :: Numeral.ofNat (target.line + 1) ++
                  ':' :: Numeral.ofNat (target.character + 1) ++ ['\n'])) := by
  constructor
  · intro tooLong
    refine exitCode_of_not_understood configured askable ?_ installed
    rintro ⟨-, lineShort, columnShort⟩
    omega
  · intro lineShort columnShort
    have agreement :=
      agreement_of_short configured askable lineShort columnShort installed folders
    refine ⟨agreement.found_of_exitCode, fun given => agreement.exitCode_of_refused, ?_⟩
    intro plain
    refine ⟨⟨agreement.found_of_exitCode, ?_⟩, ⟨agreement.refused_of_exitCode plain, ?_⟩, ?_⟩
    · rintro ⟨given, answered, status⟩
      obtain ⟨target, -, code, -⟩ := agreement.exists_target_of_found plain answered status
      exact code
    · rintro ⟨given, answered, status⟩
      exact agreement.exitCode_of_refused answered status
    · intro given answered status
      obtain ⟨target, rfl, -, printed⟩ :=
        agreement.exists_target_of_found plain answered status
      exact ⟨target, rfl, printed⟩

namespace Sample

open Resolution.Sample (name models)

/-- The text of a model whose method stands below a number of empty lines. -/
def modelText (above : Nat) : Text :=
  List.replicate above '\n' ++ "function get(".toList

/-- The text of a file that calls this method. -/
def text : Text :=
  "load->model('cart_vo');\n$cart_vo->get(1);".toList

/-- A host with the model and the file. -/
def host (above : Nat) : Host where
  files := {
    workingDirectory := []
    entries := [
      (models.drop 2, .directory),
      (models.drop 1, .directory),
      (models, .directory),
      (name "Cart_vo.php" (by decide) :: models, .file (Utf8.encode (modelText above))),
      (name "call.php" (by decide) :: models.drop 2, .file (Utf8.encode text))] }
  loaded := some (0, Settings.initial)

/-- The path of the file that calls the method. -/
def file : Path :=
  ⟨.root, ["w".toList, "call.php".toList]⟩

/-- The path of the workspace. -/
def workspace : Path :=
  ⟨.root, ["w".toList]⟩

/-- Where the method is defined. -/
def resolution (above : Nat) : Resolution where
  modelFile := ⟨.root, ["w".toList, "app".toList, "models".toList, "Cart_vo.php".toList]⟩
  method := {
    line := above
    character := 9
    comment := []
    declaration := "function get(".toList }
  methodName := "get".toList

theorem normal_file : file.Normal := by
  constructor <;> decide

theorem normal_workspace : workspace.Normal := by
  constructor <;> decide

theorem holds_host : ∀ above ∈ [0, 99],
    (host above).files.isDirectory? file ≠ .ok true ∧
      (host above).files.isDirectory? workspace = .ok true ∧
      (host above).files.readText file = .ok text ∧
      (Client.resolve ⟨[workspace], Settings.initial⟩ (host above).files ⟨text, some file⟩
        (Place.position ⟨file, 2, 4, some workspace⟩)).outcome = .ok (some (resolution above)) := by
  decide +kernel

theorem askable
    {above : Nat}
    (known : above ∈ [0, 99]) :
    Askable (host above).files file workspace 2 4 := by
  obtain ⟨notDirectory, isDirectory, -⟩ := holds_host above known
  exact ⟨normal_file, normal_workspace, notDirectory, isDirectory, by decide, by decide⟩

theorem understood : Understood file 2 4 := by
  have small : ∀ number ≤ Numeral.digitLimit, number < 10 ^ Numeral.digitLimit :=
    fun number atMost => Nat.lt_of_le_of_lt atMost (Nat.lt_pow_self (by decide))
  exact ⟨by decide, small 2 (by decide), small 4 (by decide)⟩

theorem answer_eq
    {above : Nat}
    (known : above ∈ [0, 99]) :
    definitionAnswer (host above) none file workspace 2 4 =
      .ok (.found (resolution above).target.toJson) := by
  obtain ⟨-, -, read, resolved⟩ := holds_host above known
  exact definitionAnswer_of_read rfl normal_file normal_workspace read resolved

end Sample

/-- A method on the first line of a model is printed as the request answers it. -/
theorem definition_agrees_sample :
    Askable (Sample.host 0).files Sample.file Sample.workspace 2 4 ∧
      (definitionReport (Sample.host 0) false Sample.file Sample.workspace 2 4).exitCode = 0 ∧
      (definitionReport (Sample.host 0) false Sample.file Sample.workspace 2 4).output =
        "/w/app/models/Cart_vo.php:1:10\n".toList := by
  have known : 0 ∈ [0, 99] := by decide
  have answer_eq := Sample.answer_eq known
  have plain : Terminal.Plain (targetText (Sample.resolution 0).target) :=
    Terminal.plain_place (List.all_iff_forall_prop.mp (by decide +kernel)) (by decide) (by decide) _
  have configured : (Sample.host 0).settings.2 = .ok (0, Settings.initial) := rfl
  obtain ⟨-, agrees⟩ := definition_agrees configured (Sample.askable known) false none
  obtain ⟨-, -, agreesWhenPlain⟩ := agrees Sample.understood.2.1 Sample.understood.2.2
  obtain ⟨exitCode_iff, -, printed⟩ := agreesWhenPlain (by
    intro target answered
    rw [answer_eq, Except.ok.injEq, Http.Answer.found.injEq] at answered
    rwa [← targetText_congr answered])
  refine ⟨Sample.askable known, exitCode_iff.mpr ⟨_, answer_eq, rfl⟩, ?_⟩
  obtain ⟨target, found, output⟩ := printed _ answer_eq rfl
  have same := targetText_congr (Http.Answer.found.inj found)
  rw [output, ← targetText, ← same]
  rfl

/-- A method on line one hundred is found, but a sign is printed in place of the number. -/
theorem definition_differs_sample :
    definitionAnswer (Sample.host 99) none Sample.file Sample.workspace 2 4 =
        .ok (.found (.record [
          ("path", .str "/w/app/models/Cart_vo.php".toList),
          ("line", .ofNat 99),
          ("character", .ofNat 9)])) ∧
      (definitionReport (Sample.host 99) false Sample.file Sample.workspace 2 4).exitCode = 0 ∧
      (definitionReport (Sample.host 99) false Sample.file Sample.workspace 2 4).output =
        "/w/app/models/Cart_vo.php💯10\n".toList ∧
      (definitionReport (Sample.host 99) false Sample.file Sample.workspace 2 4).output ≠
        "/w/app/models/Cart_vo.php:100:10\n".toList := by
  have known : 99 ∈ [0, 99] := by decide
  have configured : (Sample.host 99).settings.2 = .ok (0, Settings.initial) := rfl
  have printed : Console.print (targetText (Sample.resolution 99).target) =
      Console.act (.printed "/w/app/models/Cart_vo.php💯10\n".toList) := rfl
  obtain ⟨-, -, read, resolved⟩ := Sample.holds_host 99 known
  obtain ⟨code, output⟩ := definitionReport_of_some configured (Sample.askable known)
    Sample.understood read resolved printed false
  refine ⟨Sample.answer_eq known, code, output, ?_⟩
  rw [output]
  decide

end CommandLine
end ModelNav
