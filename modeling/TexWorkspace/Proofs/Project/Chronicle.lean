import TexWorkspace.Proofs.Project.Transcript

set_option autoImplicit false

/-!
Accounts of a run. At every step one of a few things happens; the account of the step says which,
and with it what was asked, what was answered, and what becomes of the report and the model. A run
is the chronicle of its steps: their transcripts one after the other, and their effects in turn.
-/

namespace TexWorkspace.Project

open Files

/-! ## Main files -/

/-- What happened to a main file. -/
inductive Seeding where
  | notCreated (cause : IoError)
  | noTemplate (cause : TemplateError)
  | notWritten (text : String) (cause : IoError)
  | written (text : String)

namespace Seeding

/-- The calls for a main file. The first that fails is the last. -/
def events (project : Project) (template : String) (path : Path) : Seeding → List Event
  | .notCreated cause => [.createFile path (.error cause)]
  | .noTemplate cause => [.createFile path (.ok ()), .lookup project template (.error cause)]
  | .notWritten text cause =>
      [.createFile path (.ok ()), .lookup project template (.ok text),
        .writeFile path text.toUTF8 (.error cause)]
  | .written text =>
      [.createFile path (.ok ()), .lookup project template (.ok text),
        .writeFile path text.toUTF8 (.ok ())]

/-- The main file, or the error of the call that failed. -/
def result (path : Path) : Seeding → Except ScaffoldError Path
  | .notCreated cause => .error (.createMainFile path cause)
  | .noTemplate cause => .error (.template cause)
  | .notWritten _ cause => .error (.writeMainFile path cause)
  | .written _ => .ok path

/-- The status of a source folder with this main file. -/
def status : Seeding → StepStatus
  | .written _ => .done
  | _ => .failed

end Seeding

/-! ## Steps -/

/-- What happened at a step. Whether the directory could be made is part of every account but has no
consequence: what counts is where it was found, if it was. -/
inductive Account where
  | abandoned (source : SourceRoot)
  | sourceLost (source : SourceRoot) (made : Except IoError Unit)
  | sourceFound (source : SourceRoot) (made : Except IoError Unit) (found : Path)
      (seeding : Seeding)
  | folderLost (path : Path) (made : Except IoError Unit)
  | folderFound (path : Path) (made : Except IoError Unit) (found : Path)
  | outputExcluded

namespace Account

def step : Account → Step
  | .abandoned source => .sourceRoot source
  | .sourceLost source _ => .sourceRoot source
  | .sourceFound source _ _ _ => .sourceRoot source
  | .folderLost path _ => .excludeFolder path
  | .folderFound path _ _ => .excludeFolder path
  | .outputExcluded => .excludeOutput

/-- The status that the step is reported with. -/
def status : Account → StepStatus
  | .abandoned _ => .abandoned
  | .sourceLost _ _ => .skipped
  | .sourceFound _ _ _ seeding => seeding.status
  | .folderLost _ _ => .skipped
  | .folderFound _ _ _ => .done
  | .outputExcluded => .done

/-- The calls made at the step. -/
def events (plan : Plan) (project : Project) : Account → List Event
  | .abandoned _ => []
  | .sourceLost source made =>
      [.createDirectories source.path made, .findDirectory source.path none]
  | .sourceFound source made found seeding =>
      .createDirectories source.path made :: .findDirectory source.path (some found) ::
        seeding.events project plan.template (source.path.join ⟨plan.mainFile⟩)
  | .folderLost path made => [.createDirectories path made, .findDirectory path none]
  | .folderFound path made found =>
      [.createDirectories path made, .findDirectory path (some found)]
  | .outputExcluded => []

def found? : Account → Option Path
  | .sourceFound _ _ found _ => some found
  | .folderFound _ _ found => some found
  | _ => none

/-- The error that the step ends in. -/
def error? (plan : Plan) : Account → Option ScaffoldError
  | .sourceFound source _ _ seeding =>
      match seeding.result (source.path.join ⟨plan.mainFile⟩) with
      | .error error => some error
      | .ok _ => none
  | _ => none

/-- The main file that the step leaves, if it is a source folder that is done. -/
def mainFile? (plan : Plan) (account : Account) : Option Path :=
  match account.step, account.status with
  | .sourceRoot source, .done => some (source.path.join ⟨plan.mainFile⟩)
  | _, _ => none

/-- What the step registers in the model. -/
def register (plan : Plan) (model : RootModel) : Account → RootModel
  | .sourceFound source _ found _ =>
      model.update plan.root (·.addSource ⟨found, false, source.package⟩)
  | .folderFound _ _ found => model.update plan.root (·.addExclude found)
  | .outputExcluded => model.setExcludeOutput true
  | _ => model

def IsSource (account : Account) : Prop :=
  ∃ source, account.step = .sourceRoot source

theorem eq_outputExcluded {account : Account} (step : account.step = .excludeOutput) :
    account = .outputExcluded := by
  cases account with
  | outputExcluded => rfl
  | abandoned => cases step
  | sourceLost => cases step
  | sourceFound => cases step
  | folderLost => cases step
  | folderFound => cases step

/-- The step leads from one state of the run to the other. Source folders, and only they, are
abandoned after a failure. -/
structure Advances (plan : Plan) (account : Account) (run next : Run) : Prop where
  steps : next.report.steps = run.report.steps ++ [(account.step, account.status)]
  mainFiles : next.report.mainFiles = run.report.mainFiles ++ (account.mainFile? plan).toList
  failure : next.failure = run.failure.or (account.error? plan)
  model : next.model = account.register plan run.model
  abandoned : account.status = .abandoned ↔ run.failure.isSome ∧ account.IsSource

end Account

def StepResult.error? : StepResult → Option ScaffoldError
  | .failed error => some error
  | _ => none

/-- A step that is carried out leads to what is recorded of it, if its result is that of the account
and everything else was seen to before. -/
theorem Account.advances_record {plan : Plan} {account : Account} {run readied : Run}
    {result : StepResult} (status : account.status = result.status)
    (error : account.error? plan = result.error?)
    (steps : readied.report.steps = run.report.steps)
    (mainFiles : readied.report.mainFiles =
      run.report.mainFiles ++ (account.mainFile? plan).toList)
    (failure : readied.failure = run.failure)
    (model : readied.model = account.register plan run.model)
    (allowed : account.IsSource → run.failure = none) :
    account.Advances plan run (readied.record account.step result) := by
  constructor
  · rw [status, ← steps]
    cases result <;> rfl
  · rw [← mainFiles]
    cases result <;> rfl
  · rw [error, ← failure]
    cases result with
    | failed cause =>
        change (readied.failure <|> some cause) = readied.failure.or (some cause)
        cases readied.failure <;> rfl
    | done => exact Option.or_none.symm
    | skipped => exact Option.or_none.symm
  · rw [← model]
    cases result <;> rfl
  · constructor
    · intro abandoned
      rw [status] at abandoned
      cases result <;> cases abandoned
    · rintro ⟨failed, isSource⟩
      rw [allowed isSource] at failed
      cases failed

/-- The transcript of a run: the content root is made first. -/
def transcript (plan : Plan) (project : Project) (opened : Except IoError Unit)
    (accounts : List Account) : List Event :=
  .createDirectories plan.root opened :: accounts.flatMap (Account.events plan project)

section

variable {σ : Type} {workshop : Workshop (StateM σ)}

theorem provideDirectory_yields (path : Path) :
    Yields workshop (provideDirectory workshop.files path) fun directory events =>
      ∃ made, events = [.createDirectories path made, .findDirectory path directory.value] := by
  refine (Yields.createDirectories path).bind ?_
  rintro made _ rfl
  refine (Yields.findDirectory path).bind ?_
  rintro found _ rfl
  cases made with
  | ok _ => exact .pure ⟨_, rfl⟩
  | error _ => exact .pure ⟨_, rfl⟩

theorem seedMainFile_yields (plan : Plan) (project : Project) (sourceRoot : Path) :
    Yields workshop (seedMainFile workshop plan project sourceRoot) fun seeded events =>
      ∃ seeding : Seeding, seeded.value = seeding.result (plan.mainFileIn sourceRoot) ∧
        events = seeding.events project plan.template (plan.mainFileIn sourceRoot) := by
  refine (Yields.createFile (plan.mainFileIn sourceRoot)).bind ?_
  rintro created _ rfl
  cases created with
  | error cause => exact .pure ⟨.notCreated cause, rfl, rfl⟩
  | ok _ =>
      refine (Yields.lookup project plan.template).bind ?_
      rintro ⟨result, log⟩ _ rfl
      cases result with
      | error cause => exact .pure ⟨.noTemplate cause, rfl, rfl⟩
      | ok text =>
          refine (Yields.writeFile (plan.mainFileIn sourceRoot) text.toUTF8).bind ?_
          rintro written _ rfl
          cases written with
          | error cause => exact .pure ⟨.notWritten text cause, rfl, rfl⟩
          | ok _ => exact .pure ⟨.written text, rfl, rfl⟩

def Accounted (plan : Plan) (project : Project) (step : Step) (run next : Run)
    (events : List Event) : Prop :=
  ∃ account : Account,
    account.step = step ∧ events = account.events plan project ∧ account.Advances plan run next

theorem runSource_yields (plan : Plan) (project : Project) (source : SourceRoot) {run : Run}
    (unfailed : run.failure = none) :
    Yields workshop (runSource workshop plan project source run)
      (Accounted plan project (.sourceRoot source) run) := by
  refine (provideDirectory_yields source.path).bind ?_
  rintro ⟨value, log⟩ _ ⟨made, rfl⟩
  cases value with
  | none =>
      refine .pure ⟨.sourceLost source made, rfl, rfl, ?_⟩
      exact Account.advances_record rfl rfl rfl (List.append_nil _).symm rfl rfl fun _ => unfailed
  | some found =>
      -- The folder is registered before its main file is written, so a failure leaves it there.
      refine (seedMainFile_yields plan project source.path).bind ?_
      rintro ⟨_, more⟩ _ ⟨seeding, rfl, rfl⟩
      cases seeding with
      | notCreated cause =>
          refine .pure ⟨.sourceFound source made found (.notCreated cause), rfl, rfl, ?_⟩
          exact Account.advances_record rfl rfl rfl (List.append_nil _).symm rfl rfl
            fun _ => unfailed
      | noTemplate cause =>
          refine .pure ⟨.sourceFound source made found (.noTemplate cause), rfl, rfl, ?_⟩
          exact Account.advances_record rfl rfl rfl (List.append_nil _).symm rfl rfl
            fun _ => unfailed
      | notWritten text cause =>
          refine .pure ⟨.sourceFound source made found (.notWritten text cause), rfl, rfl, ?_⟩
          exact Account.advances_record rfl rfl rfl (List.append_nil _).symm rfl rfl
            fun _ => unfailed
      | written text =>
          refine .pure ⟨.sourceFound source made found (.written text), rfl, rfl, ?_⟩
          exact Account.advances_record rfl rfl rfl rfl rfl rfl fun _ => unfailed

theorem runExclude_yields (plan : Plan) (project : Project) (path : Path) (run : Run) :
    Yields workshop (runExclude workshop plan path run)
      (Accounted plan project (.excludeFolder path) run) := by
  refine (provideDirectory_yields path).bind ?_
  rintro ⟨value, log⟩ _ ⟨made, rfl⟩
  cases value with
  | none =>
      refine .pure ⟨.folderLost path made, rfl, rfl, ?_⟩
      exact Account.advances_record rfl rfl rfl (List.append_nil _).symm rfl rfl nofun
  | some found =>
      refine .pure ⟨.folderFound path made found, rfl, rfl, ?_⟩
      exact Account.advances_record rfl rfl rfl (List.append_nil _).symm rfl rfl nofun

theorem runStep_yields (plan : Plan) (project : Project) (run : Run) (step : Step) :
    Yields workshop (runStep workshop plan project run step) (Accounted plan project step run) := by
  cases step with
  | sourceRoot source =>
      cases failed : run.failure with
      | none =>
          rw [runStep, failed]
          exact runSource_yields plan project source failed
      | some error =>
          rw [runStep, failed]
          refine .pure ⟨.abandoned source, rfl, rfl, ?_⟩
          exact {
            steps := rfl
            mainFiles := (List.append_nil _).symm
            failure := Option.or_none.symm
            model := rfl
            abandoned := by simp [Account.status, Account.IsSource, Account.step, failed] }
  | excludeFolder path => exact runExclude_yields plan project path run
  | excludeOutput =>
      refine .pure ⟨.outputExcluded, rfl, rfl, ?_⟩
      exact Account.advances_record rfl rfl rfl (List.append_nil _).symm rfl rfl nofun

end

/-! ## Runs -/

/-- The accounts of a plan are those of its source folders, then those of its exclusions. -/
theorem accounts_split {plan : Plan} {accounts : List Account}
    (covers : accounts.map Account.step = plan.steps) :
    ∃ sources output auxiliary,
      accounts = sources ++ [output, auxiliary, .outputExcluded] ∧
      sources.map Account.step = plan.sourceRoots.map .sourceRoot ∧
      output.step = .excludeFolder plan.outputDir ∧
      auxiliary.step = .excludeFolder plan.auxiliaryDir := by
  obtain ⟨sources, exclusions, rfl, atSources, atExclusions⟩ := List.map_eq_append_iff.mp covers
  obtain ⟨output, more, rfl, atOutput, rest⟩ := List.map_eq_cons_iff.mp atExclusions
  obtain ⟨auxiliary, final, rfl, atAuxiliary, rest⟩ := List.map_eq_cons_iff.mp rest
  obtain ⟨exclusion, none, rfl, atOutputExclusion, rest⟩ := List.map_eq_cons_iff.mp rest
  obtain rfl := List.map_eq_nil_iff.mp rest
  obtain rfl := Account.eq_outputExcluded atOutputExclusion
  exact ⟨sources, output, auxiliary, rfl, atSources, atOutput, atAuxiliary⟩

/-- The steps lead, one after the other, from one state of the run to the other. -/
inductive Chronicle (plan : Plan) : Run → List Account → Run → Prop
  | nil {run : Run} : Chronicle plan run [] run
  | cons {run next last : Run} {account : Account} {rest : List Account} :
      account.Advances plan run next → Chronicle plan next rest last →
      Chronicle plan run (account :: rest) last

-- By induction on the steps, for every state of the run, since each step changes it.
theorem foldlM_runStep_yields {σ : Type} {workshop : Workshop (StateM σ)} (plan : Plan)
    (project : Project) (steps : List Step) (run : Run) :
    Yields workshop (steps.foldlM (runStep workshop plan project) run) fun last events =>
      ∃ accounts : List Account, accounts.map Account.step = steps ∧
        events = accounts.flatMap (Account.events plan project) ∧
        Chronicle plan run accounts last := by
  induction steps generalizing run with
  | nil => exact .pure ⟨[], rfl, rfl, .nil⟩
  | cons step rest ih =>
      rw [List.foldlM_cons]
      refine (runStep_yields plan project run step).bind ?_
      rintro next _ ⟨account, rfl, rfl, advances⟩
      refine (ih next).mono ?_
      rintro last _ ⟨accounts, rfl, rfl, chronicle⟩
      exact ⟨account :: accounts, rfl, rfl, .cons advances chronicle⟩

/-- Every run, whatever the answers, is a chronicle of accounts of the steps of its plan. It starts
with an empty report and the content root registered; only the log is added to at its end. -/
theorem scaffold_chronicle {σ : Type} (workshop : Workshop (StateM σ)) (plan : Plan)
    (project : Project) (model : RootModel) (start : σ) :
    ∃ run opened accounts finish last log,
      scaffold workshop plan project model start = (run, finish) ∧
      Answers workshop start (transcript plan project opened accounts) finish ∧
      accounts.map Account.step = plan.steps ∧
      Chronicle plan { model := model.addEntry plan.root, log } accounts last ∧
      run.report = last.report ∧ run.model = last.model ∧ run.failure = last.failure := by
  have yields : Yields workshop (scaffold workshop plan project model) fun run events =>
      ∃ opened accounts last log,
        events = transcript plan project opened accounts ∧
        accounts.map Account.step = plan.steps ∧
        Chronicle plan { model := model.addEntry plan.root, log } accounts last ∧
        run.report = last.report ∧ run.model = last.model ∧ run.failure = last.failure := by
    have opens : Yields workshop (openRoot workshop plan model) fun run events =>
        ∃ opened log, events = [.createDirectories plan.root opened] ∧
          run = { model := model.addEntry plan.root, log } := by
      refine (Yields.createDirectories plan.root).bind ?_
      rintro opened _ rfl
      exact .pure ⟨opened, _, rfl, rfl⟩
    refine opens.bind ?_
    rintro _ _ ⟨opened, log, rfl, rfl⟩
    refine (foldlM_runStep_yields plan project plan.steps _).bind ?_
    rintro last _ ⟨accounts, covers, rfl, chronicle⟩
    refine .pure ⟨opened, accounts, last, log, ?_, covers, chronicle, ?_⟩
    · rw [List.append_nil]
      rfl
    · unfold Run.conclude
      split <;> exact ⟨rfl, rfl, rfl⟩
  obtain ⟨run, events, finish, ran, answered, opened, accounts, last, log, rfl, rest⟩ :=
    yields start
  exact ⟨run, opened, accounts, finish, last, log, ran, answered, rest⟩

namespace Chronicle

variable {plan : Plan} {run last : Run} {accounts : List Account}

theorem split {front back : List Account} (chronicle : Chronicle plan run (front ++ back) last) :
    ∃ middle, Chronicle plan run front middle ∧ Chronicle plan middle back last := by
  induction front generalizing run with
  | nil => exact ⟨run, .nil, chronicle⟩
  | cons account rest ih =>
      cases chronicle with
      | cons advances later =>
          obtain ⟨middle, first, second⟩ := ih later
          exact ⟨middle, .cons advances first, second⟩

theorem steps (chronicle : Chronicle plan run accounts last) :
    last.report.steps =
      run.report.steps ++ accounts.map fun account => (account.step, account.status) := by
  induction chronicle with
  | nil => simp
  | cons advances _ ih => rw [ih, advances.steps, List.append_assoc, List.map_cons]; rfl

theorem mainFiles (chronicle : Chronicle plan run accounts last) :
    last.report.mainFiles =
      run.report.mainFiles ++ accounts.filterMap (Account.mainFile? plan) := by
  induction chronicle with
  | nil => simp
  | @cons _ _ _ account _ advances _ ih =>
      rw [ih, advances.mainFiles, List.append_assoc, List.filterMap_cons]
      cases account.mainFile? plan <;> rfl

theorem failure (chronicle : Chronicle plan run accounts last) :
    last.failure = run.failure.or (accounts.findSome? (Account.error? plan)) := by
  induction chronicle with
  | nil => exact Option.or_none.symm
  | @cons _ _ _ account _ advances _ ih =>
      rw [ih, advances.failure, Option.or_assoc, List.findSome?_cons]
      cases account.error? plan <;> rfl

theorem model (chronicle : Chronicle plan run accounts last) :
    last.model = accounts.foldl (Account.register plan) run.model := by
  induction chronicle with
  | nil => rfl
  | cons advances _ ih => rw [ih, advances.model, List.foldl_cons]

end Chronicle

end TexWorkspace.Project
