import TexWorkspace.Files.FileSystem
import TexWorkspace.Project.Plan
import TexWorkspace.Project.RootModel
import TexWorkspace.Project.Template

set_option autoImplicit false

/-!
Carrying out a plan. A folder that cannot be found after it was made is skipped. A source folder
whose main file cannot be written fails, and the source folders after it are abandoned; exclusions
are carried out in any case. What was done before a failure stays.
-/

namespace TexWorkspace.Project

open Files

/-! ## Reports -/

inductive ScaffoldError where
  | createMainFile (path : Path) (cause : IoError)
  | writeMainFile (path : Path) (cause : IoError)
  | template (cause : TemplateError)
  deriving DecidableEq, Repr

namespace ScaffoldError

def message : ScaffoldError → String
  | .createMainFile path _ => "problem with creating main file " ++ path.quoted
  | .writeMainFile path _ => "could not apply template to main file " ++ path.quoted
  | .template _ => "could not load main file template"

def chain (error : ScaffoldError) : List String :=
  error.message ::
    match error with
    | .createMainFile _ cause => [cause.message]
    | .writeMainFile _ cause => [cause.message]
    | .template cause => cause.chain

end ScaffoldError

def incompleteMessage : String := "scaffolding did not complete"

inductive StepStatus where
  | done
  | skipped
  | failed
  | abandoned
  deriving DecidableEq, Repr

structure Report where
  steps : List (Step × StepStatus) := []
  mainFiles : List Path := []
  deriving DecidableEq, Repr

namespace Report

/-- What became of a step, at its first occurrence. -/
def status? (report : Report) (step : Step) : Option StepStatus :=
  (report.steps.find? fun (other, _) => other.same step).map Prod.snd

def skipped (report : Report) : List Step :=
  (report.steps.filter fun (_, status) => status = .skipped).map Prod.fst

end Report

/-! ## Steps -/

structure Workshop (m : Type → Type) where
  files : FileSystem m
  templates : TemplateSource m

def scaffoldNote (level : LogLevel) (message : String) : LogLine :=
  ⟨level, "texkit_project::scaffold", message⟩

/-- A result with what was logged on the way. -/
structure Logged (α : Type) where
  value : α
  log : List LogLine := []

inductive StepResult where
  | done
  | skipped
  | failed (error : ScaffoldError)
  deriving DecidableEq, Repr

def StepResult.status : StepResult → StepStatus
  | .done => .done
  | .skipped => .skipped
  | .failed _ => .failed

/-- The state of a run: the model, the report so far, the failure if there was one, and the log. -/
structure Run where
  model : RootModel
  report : Report := {}
  failure : Option ScaffoldError := none
  log : List LogLine := []
  deriving DecidableEq, Repr

variable {m : Type → Type} [Monad m]

/-- Makes a directory and finds it. If it cannot be made this is only noted: what is found counts.
-/
def provideDirectory (files : FileSystem m) (path : Path) : m (Logged (Option Path)) := do
  let made ← files.createDirectories path
  let found ← files.findDirectory path
  match made with
  | .ok () => return { value := found }
  | .error error =>
      return { value := found
               log := [scaffoldNote .warn
                 ("Could not create " ++ path.quoted ++ ": " ++ error.message)] }

/-- Writes the main file of a source folder: first an empty file is made if there is none, then its
template is looked up, then its content is replaced. -/
def seedMainFile (workshop : Workshop m) (plan : Plan) (project : Project) (sourceRoot : Path) :
    m (Logged (Except ScaffoldError Path)) := do
  let path := plan.mainFileIn sourceRoot
  match ← workshop.files.createFile path with
  | .error error => return { value := .error (.createMainFile path error) }
  | .ok () =>
      let lookup ← workshop.templates project plan.template
      match lookup.result with
      | .error error => return { value := .error (.template error), log := lookup.log }
      | .ok text =>
          match ← workshop.files.writeFile path text.toUTF8 with
          | .error error =>
              return { value := .error (.writeMainFile path error), log := lookup.log }
          | .ok () =>
              return { value := .ok path
                       log := lookup.log ++ [scaffoldNote .info
                         ("Seeded " ++ path.quoted ++ " from template '" ++ plan.template ++ "'")] }

def Run.record (run : Run) (step : Step) (result : StepResult) : Run :=
  let reported := { run.report with steps := run.report.steps ++ [(step, result.status)] }
  match result with
  | .done => { run with report := reported }
  | .skipped =>
      { run with
        report := reported
        log := run.log ++ [scaffoldNote .warn
          ("Skipped " ++ step.describe ++ ": directory could not be resolved")] }
  | .failed error =>
      { run with
        report := reported
        failure := run.failure <|> some error
        log := run.log ++ [scaffoldNote .warn
          ("Scaffold step " ++ step.describe ++ " failed: " ++ error.message)] }

def Run.abandon (run : Run) (step : Step) : Run :=
  { run with report := { run.report with steps := run.report.steps ++ [(step, .abandoned)] } }

def Run.note (run : Run) (lines : List LogLine) : Run :=
  { run with log := run.log ++ lines }

def runSource (workshop : Workshop m) (plan : Plan) (project : Project) (source : SourceRoot)
    (run : Run) : m Run := do
  let step := Step.sourceRoot source
  let directory ← provideDirectory workshop.files source.path
  let run := run.note directory.log
  match directory.value with
  | none => return run.record step .skipped
  | some found =>
      let registered := { run with
        model := run.model.update plan.root (·.addSource ⟨found, false, source.package⟩)
        log := run.log ++ [scaffoldNote .info ("Registered source folder " ++ found.quoted)] }
      let seeded ← seedMainFile workshop plan project source.path
      let run := registered.note seeded.log
      match seeded.value with
      | .error error => return run.record step (.failed error)
      | .ok path =>
          let report := { run.report with mainFiles := run.report.mainFiles ++ [path] }
          return { run with report }.record step .done

def runExclude (workshop : Workshop m) (plan : Plan) (path : Path) (run : Run) : m Run := do
  let step := Step.excludeFolder path
  let directory ← provideDirectory workshop.files path
  let run := run.note directory.log
  match directory.value with
  | none => return run.record step .skipped
  | some found =>
      let registered := { run with
        model := run.model.update plan.root (·.addExclude found)
        log := run.log ++ [scaffoldNote .info ("Registered excluded folder " ++ found.quoted)] }
      return registered.record step .done

/-- Carries out a step, unless an earlier failure rules it out. -/
def runStep (workshop : Workshop m) (plan : Plan) (project : Project) (run : Run) (step : Step) :
    m Run :=
  match step with
  | .sourceRoot source =>
      if run.failure.isSome then pure (run.abandon step)
      else runSource workshop plan project source run
  | .excludeFolder path => runExclude workshop plan path run
  | .excludeOutput =>
      pure ({ run with model := run.model.setExcludeOutput true }.record step .done)

def openRoot (workshop : Workshop m) (plan : Plan) (model : RootModel) : m Run := do
  let made ← workshop.files.createDirectories plan.root
  let log := match made with
    | .ok () => []
    | .error error =>
        [scaffoldNote .warn
          ("Could not create content root " ++ plan.root.quoted ++ ": " ++ error.message)]
  return { model := model.addEntry plan.root, log }

/-- Ends a run. Success is noted. -/
def Run.conclude (run : Run) (plan : Plan) : Run :=
  match run.failure with
  | some _ => run
  | none => run.note [scaffoldNote .info ("Scaffolded module " ++ plan.root.quoted)]

def scaffold (workshop : Workshop m) (plan : Plan) (project : Project) (model : RootModel) :
    m Run := do
  let opened ← openRoot workshop plan model
  let run ← plan.steps.foldlM (runStep workshop plan project) opened
  return run.conclude plan

end TexWorkspace.Project
