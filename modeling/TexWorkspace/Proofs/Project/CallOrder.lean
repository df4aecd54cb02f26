import TexWorkspace.Proofs.Project.Chronicle

set_option autoImplicit false

/-!
The calls of a run, in their order. Each call is written down with its answer, which changes neither
the run nor the state it leaves, so what is written down are the calls that were made. Main
statement: behind the call for the content root stand those of the steps, in the order of the plan;
which calls a step makes is decided by its status and by the answers to its earlier calls, and none
is on any path but that of the step and of its main file.
-/

namespace TexWorkspace.Project

open Files

/-! ## Which calls are made -/

/-- The calls for a main file, each of them made only if the one before it was answered well. -/
inductive SeedingCalls (project : Project) (template : String) (path : Path) :
    List Event → Prop where
  | notCreated {cause : IoError} :
      SeedingCalls project template path [.createFile path (.error cause)]
  | noTemplate {cause : TemplateError} :
      SeedingCalls project template path
        [.createFile path (.ok ()), .lookup project template (.error cause)]
  | writing {text : String} {answer : Except IoError Unit} :
      SeedingCalls project template path
        [.createFile path (.ok ()), .lookup project template (.ok text),
          .writeFile path text.toUTF8 answer]

/-- The calls of a step with the given status. A directory is looked for whether or not it could be
made, and a main file is made only where the directory was found. -/
inductive StepCalls (plan : Plan) (project : Project) : Step → StepStatus → List Event → Prop where
  | abandoned {source : SourceRoot} :
      StepCalls plan project (.sourceRoot source) .abandoned []
  | sourceLost {source : SourceRoot} {status : StepStatus} {made : Except IoError Unit} :
      status ≠ .abandoned →
      StepCalls plan project (.sourceRoot source) status
        [.createDirectories source.path made, .findDirectory source.path none]
  | sourceFound {source : SourceRoot} {status : StepStatus} {made : Except IoError Unit}
      {found : Path} {seeding : List Event} :
      status ≠ .abandoned →
      SeedingCalls project plan.template (source.path.join ⟨plan.mainFile⟩) seeding →
      StepCalls plan project (.sourceRoot source) status
        (.createDirectories source.path made :: .findDirectory source.path (some found) :: seeding)
  | folder {path : Path} {status : StepStatus} {made : Except IoError Unit}
      {found : Option Path} :
      status ≠ .abandoned →
      StepCalls plan project (.excludeFolder path) status
        [.createDirectories path made, .findDirectory path found]
  | outputExcluded {status : StepStatus} : StepCalls plan project .excludeOutput status []

/-- The calls of steps with the given statuses, one step after the other. -/
inductive StepsCalls (plan : Plan) (project : Project) :
    List (Step × StepStatus) → List Event → Prop where
  | nil : StepsCalls plan project [] []
  | cons {step : Step} {status : StepStatus} {rest : List (Step × StepStatus)}
      {events more : List Event} :
      StepCalls plan project step status events → StepsCalls plan project rest more →
      StepsCalls plan project ((step, status) :: rest) (events ++ more)

theorem Seeding.calls (project : Project) (template : String) (path : Path) (seeding : Seeding) :
    SeedingCalls project template path (seeding.events project template path) := by
  cases seeding with
  | notCreated => exact .notCreated
  | noTemplate => exact .noTemplate
  | notWritten => exact .writing
  | written => exact .writing

theorem Account.calls (plan : Plan) (project : Project) (account : Account) :
    StepCalls plan project account.step account.status (account.events plan project) := by
  cases account with
  | abandoned => exact .abandoned
  | sourceLost => exact .sourceLost nofun
  | sourceFound source made found seeding =>
      refine .sourceFound ?_ (seeding.calls project plan.template _)
      cases seeding <;> exact nofun
  | folderLost => exact .folder nofun
  | folderFound => exact .folder nofun
  | outputExcluded => exact .outputExcluded

theorem stepsCalls (plan : Plan) (project : Project) (accounts : List Account) :
    StepsCalls plan project (accounts.map fun account => (account.step, account.status))
      (accounts.flatMap (Account.events plan project)) := by
  induction accounts with
  | nil => exact .nil
  | cons account rest ih => exact .cons (account.calls plan project) ih

/-! ## Writing calls down -/

section

variable {σ α β : Type}

/-- Makes a call and writes it down. -/
def recording (call : StateM σ α) (event : α → Event) : StateM (σ × List Event) α :=
  fun (state, events) =>
    let (answer, after) := call state
    (answer, after, events ++ [event answer])

/-- A workshop that makes the same calls and writes them down. -/
def Workshop.recorded (workshop : Workshop (StateM σ)) : Workshop (StateM (σ × List Event)) where
  files :=
    { createDirectories path :=
        recording (workshop.files.createDirectories path) (.createDirectories path)
      findDirectory path := recording (workshop.files.findDirectory path) (.findDirectory path)
      createFile path := recording (workshop.files.createFile path) (.createFile path)
      writeFile path content :=
        recording (workshop.files.writeFile path content) (.writeFile path content) }
  templates project name :=
    recording (workshop.templates project name) fun answer => .lookup project name answer.result

/-- The first computation does what the second does, and writes something down. -/
def Follows (recorded : StateM (σ × List Event) α) (plain : StateM σ α) : Prop :=
  ∀ state events, ∃ written, recorded (state, events) = ((plain state).1, (plain state).2, written)

namespace Follows

theorem recording (call : StateM σ α) (event : α → Event) :
    Follows (recording call event) call :=
  fun _ events => ⟨events ++ [_], rfl⟩

theorem pure (value : α) : Follows (σ := σ) (Pure.pure value) (Pure.pure value) :=
  fun _ events => ⟨events, rfl⟩

theorem bind {recorded : StateM (σ × List Event) α} {plain : StateM σ α}
    {recordedNext : α → StateM (σ × List Event) β} {plainNext : α → StateM σ β}
    (first : Follows recorded plain)
    (second : ∀ value, Follows (recordedNext value) (plainNext value)) :
    Follows (recorded >>= recordedNext) (plain >>= plainNext) := by
  intro state events
  obtain ⟨written, ran⟩ := first state events
  obtain ⟨all, ranOn⟩ := second (plain state).1 (plain state).2 written
  refine ⟨all, ?_⟩
  calc (recorded >>= recordedNext) (state, events)
      = recordedNext (recorded (state, events)).1 (recorded (state, events)).2 := rfl
    _ = _ := by rw [ran, ranOn]; rfl

end Follows

variable (workshop : Workshop (StateM σ))

theorem provideDirectory_follows (path : Path) :
    Follows (provideDirectory workshop.recorded.files path)
      (provideDirectory workshop.files path) := by
  refine (Follows.recording _ _).bind fun made => (Follows.recording _ _).bind fun found => ?_
  cases made with
  | ok _ => exact .pure _
  | error _ => exact .pure _

theorem seedMainFile_follows (plan : Plan) (project : Project) (sourceRoot : Path) :
    Follows (seedMainFile workshop.recorded plan project sourceRoot)
      (seedMainFile workshop plan project sourceRoot) := by
  refine (Follows.recording _ _).bind fun created => ?_
  rcases created with _ | ⟨⟩
  · exact .pure _
  · refine Follows.bind (Follows.recording (workshop.templates project plan.template)
      fun answer => .lookup project plan.template answer.result) fun lookup => ?_
    obtain ⟨result, log⟩ := lookup
    cases result with
    | error _ => exact .pure _
    | ok text =>
        refine Follows.bind (Follows.recording _ _) fun written => ?_
        rcases written with _ | ⟨⟩
        · exact .pure _
        · exact .pure _

theorem runStep_follows (plan : Plan) (project : Project) (run : Run) (step : Step) :
    Follows (runStep workshop.recorded plan project run step)
      (runStep workshop plan project run step) := by
  cases step with
  | sourceRoot source =>
      rw [runStep, runStep]
      split
      · exact .pure _
      · refine (provideDirectory_follows workshop source.path).bind fun directory => ?_
        obtain ⟨_ | found, log⟩ := directory
        · exact .pure _
        · have seeds := seedMainFile_follows workshop plan project source.path
          refine seeds.bind fun seeded => ?_
          obtain ⟨_ | path, more⟩ := seeded
          · exact .pure _
          · exact .pure _
  | excludeFolder path =>
      refine (provideDirectory_follows workshop path).bind fun directory => ?_
      obtain ⟨_ | found, log⟩ := directory
      · exact .pure _
      · exact .pure _
  | excludeOutput => exact .pure _

theorem foldlM_runStep_follows (plan : Plan) (project : Project) (steps : List Step) (run : Run) :
    Follows (steps.foldlM (runStep workshop.recorded plan project) run)
      (steps.foldlM (runStep workshop plan project) run) := by
  induction steps generalizing run with
  | nil => exact .pure _
  | cons step rest ih =>
      rw [List.foldlM_cons, List.foldlM_cons]
      exact (runStep_follows workshop plan project run step).bind ih

/-- Writing down the calls changes nothing else. -/
theorem scaffold_follows (plan : Plan) (project : Project) (model : RootModel) :
    Follows (scaffold workshop.recorded plan project model)
      (scaffold workshop plan project model) := by
  have opens : Follows (openRoot workshop.recorded plan model) (openRoot workshop plan model) :=
    (Follows.recording _ _).bind fun _ => .pure _
  refine opens.bind fun opened => ?_
  refine (foldlM_runStep_follows workshop plan project plan.steps opened).bind fun run => ?_
  exact .pure _

variable {workshop}

theorem written_of_recording {call : StateM σ α} {event : α → Event} {answer : α}
    {before after : σ × List Event} (ran : recording call event before = (answer, after)) :
    after.2 = before.2 ++ [event answer] := by
  obtain ⟨rfl, rfl⟩ := Prod.mk.inj ran
  rfl

theorem Event.Occurs.written {before after : σ × List Event} {event : Event}
    (occurs : event.Occurs workshop.recorded before after) : after.2 = before.2 ++ [event] := by
  cases occurs with
  | createDirectories answered => exact written_of_recording answered
  | findDirectory answered => exact written_of_recording answered
  | createFile answered => exact written_of_recording answered
  | @lookup _ project name _ answered =>
      exact @written_of_recording _ _ (workshop.templates project name)
        (fun answer => .lookup project name answer.result) _ _ _ answered
  | writeFile answered => exact written_of_recording answered

theorem Answers.written {before after : σ × List Event} {events : List Event}
    (answered : Answers workshop.recorded before events after) : after.2 = before.2 ++ events := by
  induction answered with
  | nil => rw [List.append_nil]
  | cons occurs _ ih => rw [ih, occurs.written, List.append_assoc, List.singleton_append]

end

/-! ## Which paths are touched -/

/-- The path that a call is on. Templates are looked up by name. -/
def Event.path? : Event → Option Path
  | .createDirectories path _ => some path
  | .findDirectory path _ => some path
  | .createFile path _ => some path
  | .lookup _ _ _ => none
  | .writeFile path _ _ => some path

/-- A path that a step is about: its folder, or the main file in it. -/
inductive Step.Concerns (plan : Plan) : Step → Path → Prop where
  | source {source : SourceRoot} : Concerns plan (.sourceRoot source) source.path
  | mainFile {source : SourceRoot} :
      Concerns plan (.sourceRoot source) (source.path.join ⟨plan.mainFile⟩)
  | folder {path : Path} : Concerns plan (.excludeFolder path) path

section

variable {plan : Plan} {project : Project}

theorem SeedingCalls.touched {template : String} {path : Path} {events : List Event}
    (calls : SeedingCalls project template path events) :
    ∀ touched ∈ events.filterMap Event.path?, touched = path := by
  cases calls <;> simp [Event.path?]

theorem StepCalls.touched {step : Step} {status : StepStatus} {events : List Event}
    (calls : StepCalls plan project step status events) :
    ∀ touched ∈ events.filterMap Event.path?, step.Concerns plan touched := by
  intro touched member
  cases calls with
  | abandoned => cases member
  | sourceLost =>
      obtain rfl : touched = _ := by simpa [Event.path?] using member
      exact .source
  | sourceFound _ seeding =>
      rcases List.mem_cons.mp member with rfl | member
      · exact .source
      · rcases List.mem_cons.mp member with rfl | member
        · exact .source
        · rw [seeding.touched touched member]
          exact .mainFile
  | folder =>
      obtain rfl : touched = _ := by simpa [Event.path?] using member
      exact .folder
  | outputExcluded => cases member

theorem StepsCalls.touched {steps : List (Step × StepStatus)} {events : List Event}
    (calls : StepsCalls plan project steps events) :
    ∀ touched ∈ events.filterMap Event.path?,
      ∃ step ∈ steps.map Prod.fst, step.Concerns plan touched := by
  induction calls with
  | nil => nofun
  | cons first _ ih =>
      intro touched member
      rw [List.filterMap_append, List.mem_append] at member
      rcases member with early | late
      · exact ⟨_, List.mem_cons_self, first.touched touched early⟩
      · obtain ⟨step, listed, concerns⟩ := ih touched late
        exact ⟨step, List.mem_cons_of_mem _ listed, concerns⟩

end

/-- Whatever is answered, the calls of a run are that for the content root, then those of the steps
in the order of the plan, first the source folders and then the exclusions, each as its status and
the answers to its earlier calls have it. No other path is touched. -/
theorem scaffold_calls {σ : Type} (workshop : Workshop (StateM σ)) (plan : Plan) (project : Project)
    (model : RootModel) (start : σ) :
    ∃ run finish opened events,
      scaffold workshop plan project model start = (run, finish) ∧
      scaffold workshop.recorded plan project model (start, []) =
        (run, finish, .createDirectories plan.root opened :: events) ∧
      run.report.steps.map Prod.fst = plan.sourceRoots.map .sourceRoot ++
        [.excludeFolder plan.outputDir, .excludeFolder plan.auxiliaryDir, .excludeOutput] ∧
      StepsCalls plan project run.report.steps events ∧
      ∀ touched ∈ events.filterMap Event.path?,
        ∃ step ∈ run.report.steps.map Prod.fst, step.Concerns plan touched := by
  obtain ⟨run, opened, accounts, ⟨finish, all⟩, last, log, ran, answered, covers, chronicle, report,
    -, -⟩ := scaffold_chronicle workshop.recorded plan project model (start, [])
  obtain ⟨written, same⟩ := scaffold_follows workshop plan project model start []
  have steps : run.report.steps = accounts.map fun account => (account.step, account.status) := by
    rw [report, chronicle.steps]
    rfl
  have inOrder : run.report.steps.map Prod.fst = plan.sourceRoots.map .sourceRoot ++
      [.excludeFolder plan.outputDir, .excludeFolder plan.auxiliaryDir, .excludeOutput] := by
    rw [steps, List.map_map]
    exact covers
  have calls : StepsCalls plan project run.report.steps
      (accounts.flatMap (Account.events plan project)) := by
    rw [steps]
    exact stepsCalls plan project accounts
  refine ⟨run, finish, opened, accounts.flatMap (Account.events plan project), ?_, ?_, inOrder,
    calls, calls.touched⟩
  · rw [ran] at same
    obtain ⟨isRun, rest⟩ := Prod.mk.inj same
    exact Prod.ext isRun.symm (Prod.mk.inj rest).1.symm
  · rw [ran]
    exact congrArg (fun all => (run, finish, all)) answered.written

end TexWorkspace.Project
