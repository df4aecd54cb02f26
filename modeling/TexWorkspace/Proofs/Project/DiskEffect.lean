import TexWorkspace.Proofs.Files.Soundness
import TexWorkspace.Proofs.Project.FailureModel
import TexWorkspace.Proofs.Project.Registration

set_option autoImplicit false

/-!
What a run does to a disk, with templates that always give the same answer. Directories and links
stay; files stay, and keep what they hold unless they are the main file of a source folder that is
done; what is new is a directory or the main file of a source folder that was tried.
-/

namespace TexWorkspace.Project

open Files

/-! ## Calls on a disk -/

/-- The source gives the same answer for a template on every disk, and leaves the disk alone. -/
def TemplateSource.Steady (templates : TemplateSource (StateM Disk)) (project : Project)
    (template : String) (answer : Except TemplateError String) : Prop :=
  ∀ disk, ∃ log, templates project template disk = ({ result := answer, log }, disk)

/-- What is written into a main file, if anything is. -/
def filling : Except TemplateError String → ByteArray
  | .ok text => text.toUTF8
  | .error _ => .empty

section

variable {templates : TemplateSource (StateM Disk)} {before after : Disk} {path : Path}

namespace Event.Occurs

theorem createDirectories_eq {answer : Except IoError Unit}
    (occurs : Occurs ⟨Disk.fileSystem, templates⟩ before (.createDirectories path answer) after) :
    after = (before.createDirectories path).2 := by
  cases occurs with
  | createDirectories ran => exact (congrArg Prod.snd ran).symm

theorem findDirectory_eq {answer : Option Path}
    (occurs : Occurs ⟨Disk.fileSystem, templates⟩ before (.findDirectory path answer) after) :
    answer = before.findDirectory? path ∧ after = before := by
  cases occurs with
  | findDirectory ran =>
      exact ⟨(congrArg Prod.fst ran).symm, (congrArg Prod.snd ran).symm⟩

theorem attempt_ok (change : Disk → Except IoError Disk)
    (ran : Disk.attempt change before = (.ok (), after)) : change before = .ok after := by
  unfold Disk.attempt at ran
  cases changed : change before <;> rw [changed] at ran <;> cases ran
  rfl

theorem attempt_error (change : Disk → Except IoError Disk) {cause : IoError}
    (ran : Disk.attempt change before = (.error cause, after)) :
    change before = .error cause ∧ after = before := by
  unfold Disk.attempt at ran
  cases changed : change before <;> rw [changed] at ran <;> cases ran
  exact ⟨rfl, rfl⟩

theorem createFile_ok
    (occurs : Occurs ⟨Disk.fileSystem, templates⟩ before (.createFile path (.ok ())) after) :
    before.createFile path = .ok after := by
  cases occurs with
  | createFile ran => exact attempt_ok (·.createFile path) ran

theorem createFile_error {cause : IoError}
    (occurs : Occurs ⟨Disk.fileSystem, templates⟩ before (.createFile path (.error cause)) after) :
    before.createFile path = .error cause ∧ after = before := by
  cases occurs with
  | createFile ran => exact attempt_error (·.createFile path) ran

theorem writeFile_ok {content : ByteArray}
    (occurs : Occurs ⟨Disk.fileSystem, templates⟩ before (.writeFile path content (.ok ())) after) :
    before.writeFile path content = .ok after := by
  cases occurs with
  | writeFile ran => exact attempt_ok (·.writeFile path content) ran

theorem writeFile_error {content : ByteArray} {cause : IoError}
    (occurs : Occurs ⟨Disk.fileSystem, templates⟩ before (.writeFile path content (.error cause))
      after) : before.writeFile path content = .error cause ∧ after = before := by
  cases occurs with
  | writeFile ran => exact attempt_error (·.writeFile path content) ran

theorem lookup_eq {project : Project} {template : String}
    {answer given : Except TemplateError String} (steady : templates.Steady project template answer)
    (occurs : Occurs ⟨Disk.fileSystem, templates⟩ before (.lookup project template given) after) :
    given = answer ∧ after = before := by
  cases occurs with
  | lookup ran =>
      obtain ⟨log, ran'⟩ := steady before
      cases ran.symm.trans ran'
      exact ⟨rfl, rfl⟩

end Event.Occurs

end

/-! ## Effects -/

/-- The main file of a source folder, of a status as stated, resolves to the place. -/
def MainFileAt (plan : Plan) (settled : StepStatus → Prop) (accounts : List Account) (disk : Disk)
    (location : Location) : Prop :=
  ∃ account ∈ accounts, ∃ source held, account.step = .sourceRoot source ∧
    settled account.status ∧ disk.Holds (source.path.join ⟨plan.mainFile⟩) location held

/-- The source folder was tried: it was found, whether or not its main file could be written. -/
def Tried (status : StepStatus) : Prop :=
  status = .done ∨ status = .failed

/-- What steps do to a disk: which places they change, what of a sound disk they found, and what
their main files hold. -/
structure DiskEffect (plan : Plan) (answer : Except TemplateError String) (accounts : List Account)
    (before after : Disk) : Prop where
  changes : before.Changes (MainFileAt plan Tried accounts after)
    (MainFileAt plan (· = .done) accounts after) (filling answer) after
  sound : before.Sound → after.Sound
  found : before.Sound → ∀ account ∈ accounts, ∀ path, account.found? = some path →
    (after.directory? path).isSome
  mainFile : ∀ account ∈ accounts, ∀ path, account.mainFile? plan = some path →
    ∃ text location, answer = .ok text ∧ after.Holds path location text.toUTF8
  untemplated : ∀ account ∈ accounts, ∀ source cause, account.step = .sourceRoot source →
    account.error? plan = some (.template cause) → answer = .error cause ∧
      ∃ location held, after.Holds (source.path.join ⟨plan.mainFile⟩) location held
  writable : ∀ account ∈ accounts, ∀ path cause,
    account.error? plan ≠ some (.writeMainFile path cause)

variable {plan : Plan} {answer : Except TemplateError String} {before middle after : Disk}

namespace MainFileAt

variable {settled : StepStatus → Prop} {accounts more : List Account} {location : Location}

theorem later (keeps : before.Keeps after)
    (there : MainFileAt plan settled accounts before location) :
    MainFileAt plan settled accounts after location := by
  obtain ⟨account, member, source, held, step, status, holds⟩ := there
  obtain ⟨later, stays⟩ := keeps.file holds.node?
  exact ⟨account, member, source, later, step, status, holds.of_keeps keeps stays⟩

theorem mono (within : accounts ⊆ more) (there : MainFileAt plan settled accounts after location) :
    MainFileAt plan settled more after location := by
  obtain ⟨account, member, rest⟩ := there
  exact ⟨account, within member, rest⟩

end MainFileAt

namespace DiskEffect

theorem nil (disk : Disk) : DiskEffect plan answer [] disk disk where
  changes := .refl disk
  sound := id
  found _ _ listed := absurd listed List.not_mem_nil
  mainFile _ listed := absurd listed List.not_mem_nil
  untemplated _ listed := absurd listed List.not_mem_nil
  writable _ listed := absurd listed List.not_mem_nil

/-- Steps do what the first of them do and then what the others do. What the first ones left is
there in the end: files are only ever filled with the same text. -/
theorem append {front back : List Account} (first : DiskEffect plan answer front before middle)
    (second : DiskEffect plan answer back middle after) :
    DiskEffect plan answer (front ++ back) before after where
  changes := by
    have keeps := second.changes.keeps
    have early := List.subset_append_left front back
    have late := List.subset_append_right front back
    exact (first.changes.mono (fun _ there => (there.later keeps).mono early)
      fun _ there => (there.later keeps).mono early).trans
      (second.changes.mono (fun _ there => there.mono late) fun _ there => there.mono late)
  sound sound := second.sound (first.sound sound)
  found sound := by
    refine List.forall_mem_append.mpr ⟨?_, second.found (first.sound sound)⟩
    intro account member path registers
    exact Disk.isSome_directory?_of_keeps second.changes.keeps
      (first.found sound account member path registers)
  mainFile := by
    refine List.forall_mem_append.mpr ⟨?_, second.mainFile⟩
    intro account member path leaves
    obtain ⟨text, location, rfl, holds⟩ := first.mainFile account member path leaves
    have change := second.changes.nodes location
    rw [holds.node?] at change
    have still : after.node? location = some (.file text.toUTF8) := by
      generalize after.node? location = node? at change
      cases change <;> rfl
    exact ⟨text, location, rfl, holds.of_keeps second.changes.keeps still⟩
  untemplated := by
    refine List.forall_mem_append.mpr ⟨?_, second.untemplated⟩
    intro account member source cause step ends
    obtain ⟨given, location, held, holds⟩ :=
      first.untemplated account member source cause step ends
    obtain ⟨later, stays⟩ := second.changes.keeps.file holds.node?
    exact ⟨given, location, later, holds.of_keeps second.changes.keeps stays⟩
  writable := List.forall_mem_append.mpr ⟨first.writable, second.writable⟩

theorem createDirectories (disk : Disk) (path : Path) :
    DiskEffect plan answer [] disk (disk.createDirectories path).2 where
  changes := Disk.createDirectories_changes disk path
  sound sound := sound.createDirectories path
  found _ _ listed := absurd listed List.not_mem_nil
  mainFile _ listed := absurd listed List.not_mem_nil
  untemplated _ listed := absurd listed List.not_mem_nil
  writable _ listed := absurd listed List.not_mem_nil

theorem single {account : Account}
    (changes : before.Changes (MainFileAt plan Tried [account] after)
      (MainFileAt plan (· = .done) [account] after) (filling answer) after)
    (sound : before.Sound → after.Sound)
    (found : before.Sound → ∀ path, account.found? = some path → (after.directory? path).isSome)
    (mainFile : ∀ path, account.mainFile? plan = some path →
      ∃ text location, answer = .ok text ∧ after.Holds path location text.toUTF8)
    (untemplated : ∀ source cause, account.step = .sourceRoot source →
      account.error? plan = some (.template cause) → answer = .error cause ∧
        ∃ location held, after.Holds (source.path.join ⟨plan.mainFile⟩) location held)
    (writable : ∀ path cause, account.error? plan ≠ some (.writeMainFile path cause)) :
    DiskEffect plan answer [account] before after where
  changes := changes
  sound := sound
  found sound := List.forall_mem_singleton.mpr (found sound)
  mainFile := List.forall_mem_singleton.mpr mainFile
  untemplated := List.forall_mem_singleton.mpr untemplated
  writable := List.forall_mem_singleton.mpr writable

/-- A step without a main file does nothing to a disk but make its directory. -/
theorem quiet {account : Account} (effect : DiskEffect plan answer [] before after)
    (found : before.Sound → ∀ path, account.found? = some path → (after.directory? path).isSome)
    (mainFile : account.mainFile? plan = none) (error : account.error? plan = none) :
    DiskEffect plan answer [account] before after := by
  have nowhere {settled : StepStatus → Prop} (location : Location)
      (there : MainFileAt plan settled [] after location) :
      MainFileAt plan settled [account] after location := there.mono (List.nil_subset _)
  refine single (effect.changes.mono nowhere nowhere) effect.sound found ?_ ?_ ?_
  · intro path leaves
    cases mainFile.symm.trans leaves
  · intro source cause step ends
    cases error.symm.trans ends
  · intro path cause ends
    cases error.symm.trans ends

end DiskEffect

section

variable {templates : TemplateSource (StateM Disk)} {project : Project}

/-- A directory is made, and then looked for on the disk that this left. -/
theorem provided_effect (plan : Plan) (answer : Except TemplateError String) {path : Path}
    {made : Except IoError Unit} {found : Option Path} {rest : List Event}
    (answered : Answers ⟨Disk.fileSystem, templates⟩ before
      (.createDirectories path made :: .findDirectory path found :: rest) after) :
    ∃ middle, DiskEffect plan answer [] before middle ∧ found = middle.findDirectory? path ∧
      Answers ⟨Disk.fileSystem, templates⟩ middle rest after := by
  obtain ⟨middle, makes, finding⟩ := answered.of_cons
  obtain ⟨looked, finds, later⟩ := finding.of_cons
  obtain ⟨same, rfl⟩ := finds.findDirectory_eq
  obtain rfl := makes.createDirectories_eq
  exact ⟨_, .createDirectories before path, same, later⟩

/-- A main file is made unless it is there, and then filled; without a text for it, it is left as it
was. Where it could be made, it can be written. -/
theorem seeded_effect (made : Except IoError Unit) {source : SourceRoot} {found : Path}
    {seeding : Seeding} (steady : templates.Steady project plan.template answer)
    (registered : before.Sound → (before.directory? found).isSome)
    (answered : Answers ⟨Disk.fileSystem, templates⟩ before
      (seeding.events project plan.template (source.path.join ⟨plan.mainFile⟩)) after) :
    DiskEffect plan answer [.sourceFound source made found seeding] before after := by
  have resolved (settled : StepStatus → Prop) (settles : settled seeding.status)
      {location : Location} {held : ByteArray}
      (holds : after.Holds (source.path.join ⟨plan.mainFile⟩) location held) :
      MainFileAt plan settled [.sourceFound source made found seeding] after location :=
    ⟨_, List.mem_singleton_self _, source, held, rfl, settles, holds⟩
  have stays (keeps : before.Keeps after) (sound : before.Sound) (path : Path)
      (same : some found = some path) : (after.directory? path).isSome := by
    cases same
    exact Disk.isSome_directory?_of_keeps keeps (registered sound)
  cases seeding with
  | notCreated cause =>
      cases answered with
      | cons creates rest =>
          cases rest
          obtain ⟨-, rfl⟩ := creates.createFile_error
          exact .single (.refl after) id (stays (.refl after)) nofun nofun nofun
  | noTemplate cause =>
      obtain ⟨created, creates, answered⟩ := answered.of_cons
      obtain ⟨looked, looks, rest⟩ := answered.of_cons
      cases rest
      obtain ⟨given, rfl⟩ := looks.lookup_eq steady
      have made := creates.createFile_ok
      obtain ⟨location, held, holds, changes⟩ :=
        Disk.createFile_changes (fun _ => False) (filling answer) made
      refine .single (changes.mono ?_ (fun _ => False.elim)) (·.createFile made)
        (stays changes.keeps) nofun ?_ nofun
      · rintro _ rfl
        exact resolved Tried (.inr rfl) holds
      · intro other _ step ends
        cases step
        cases ends
        exact ⟨given.symm, location, held, holds⟩
  | notWritten text cause =>
      obtain ⟨created, creates, answered⟩ := answered.of_cons
      obtain ⟨looked, looks, answered⟩ := answered.of_cons
      obtain ⟨written, writes, rest⟩ := answered.of_cons
      obtain ⟨-, rfl⟩ := looks.lookup_eq steady
      obtain ⟨location, held, holds, -⟩ :=
        Disk.createFile_changes (fun _ => False) (filling answer) creates.createFile_ok
      cases (Disk.writeFile_of_holds holds).symm.trans writes.writeFile_error.1
  | written text =>
      obtain ⟨created, creates, answered⟩ := answered.of_cons
      obtain ⟨looked, looks, answered⟩ := answered.of_cons
      obtain ⟨written, writes, rest⟩ := answered.of_cons
      cases rest
      obtain ⟨rfl, rfl⟩ := looks.lookup_eq steady
      have made := creates.createFile_ok
      have filled := writes.writeFile_ok
      obtain ⟨first, held, holds, creation⟩ :=
        Disk.createFile_changes (fun _ => False) text.toUTF8 made
      obtain ⟨location, holdsText, writing⟩ := Disk.writeFile_changes filled
      obtain ⟨later, still⟩ := writing.keeps.file holds.node?
      have changes := (creation.mono
          (fun place same => resolved Tried (.inl rfl)
            (same ▸ holds.of_keeps writing.keeps still)) (fun _ => False.elim)).trans
        (writing.mono (fun place same => resolved Tried (.inl rfl) (same ▸ holdsText))
          (fun place same => resolved (· = .done) rfl (same ▸ holdsText)))
      refine .single changes (fun sound => (sound.createFile made).writeFile filled)
        (stays changes.keeps) ?_ nofun nofun
      intro path leaves
      cases leaves
      exact ⟨text, location, rfl, holdsText⟩

theorem account_effect {account : Account}
    (steady : templates.Steady project plan.template answer)
    (answered : Answers ⟨Disk.fileSystem, templates⟩ before (account.events plan project) after) :
    DiskEffect plan answer [account] before after := by
  cases account with
  | abandoned source =>
      cases answered
      exact (DiskEffect.nil before).quiet nofun rfl rfl
  | outputExcluded =>
      cases answered
      exact (DiskEffect.nil before).quiet nofun rfl rfl
  | sourceLost source made =>
      obtain ⟨middle, effect, -, rest⟩ := provided_effect plan answer answered
      cases rest
      exact effect.quiet nofun rfl rfl
  | folderLost path made =>
      obtain ⟨middle, effect, -, rest⟩ := provided_effect plan answer answered
      cases rest
      exact effect.quiet nofun rfl rfl
  | folderFound path made found =>
      obtain ⟨middle, effect, there, rest⟩ := provided_effect plan answer answered
      cases rest
      refine effect.quiet (fun sound other same => ?_) rfl rfl
      cases same
      exact (effect.sound sound).directory?_of_found there.symm
  | sourceFound source made found seeding =>
      obtain ⟨middle, effect, there, rest⟩ := provided_effect plan answer answered
      exact effect.append
        (seeded_effect made steady (fun sound => sound.directory?_of_found there.symm) rest)

-- By induction on the steps, for every disk, since each step leaves another one.
theorem run_effect {accounts : List Account}
    (steady : templates.Steady project plan.template answer)
    (answered : Answers ⟨Disk.fileSystem, templates⟩ before
      (accounts.flatMap (Account.events plan project)) after) :
    DiskEffect plan answer accounts before after := by
  induction accounts generalizing before with
  | nil =>
      cases answered
      exact .nil after
  | cons account rest ih =>
      rw [List.flatMap_cons] at answered
      obtain ⟨middle, first, later⟩ := answered.of_append
      exact (account_effect steady first).append (ih later)

/-- The whole run, from the content root on. -/
theorem transcript_effect {accounts : List Account} {opened : Except IoError Unit}
    (steady : templates.Steady project plan.template answer)
    (answered : Answers ⟨Disk.fileSystem, templates⟩ before
      (transcript plan project opened accounts) after) :
    DiskEffect plan answer accounts before after := by
  obtain ⟨middle, makes, later⟩ := answered.of_cons
  obtain rfl := makes.createDirectories_eq
  exact (DiskEffect.createDirectories before plan.root).append (run_effect steady later)

end

/-! ## Reports -/

/-- A source folder that is reported with a status as stated has its main file at the place. -/
def Report.MainFileAt (report : Report) (plan : Plan) (settled : StepStatus → Prop) (disk : Disk)
    (location : Location) (content : ByteArray) : Prop :=
  ∃ source status, (.sourceRoot source, status) ∈ report.steps ∧ settled status ∧
    disk.Holds (source.path.join ⟨plan.mainFile⟩) location content

theorem MainFileAt.reported {settled : StepStatus → Prop} {accounts : List Account}
    {report : Report} {location : Location}
    (steps : report.steps = accounts.map fun account => (account.step, account.status))
    (there : MainFileAt plan settled accounts after location) :
    ∃ content, after.node? location = some (.file content) ∧
      report.MainFileAt plan settled after location content := by
  obtain ⟨account, member, source, held, step, status, holds⟩ := there
  refine ⟨held, holds.node?, source, account.status, ?_, status, holds⟩
  rw [steps]
  exact List.mem_map.mpr ⟨account, member, by rw [step]⟩

namespace Account

variable {account : Account}

theorem found?_of_source? {folder : SourceFolder} (registers : account.source? = some folder) :
    account.found? = some folder.path := by
  cases account with
  | sourceFound source made found seeding => cases seeding <;> cases registers <;> rfl
  | abandoned => cases registers
  | sourceLost => cases registers
  | folderLost => cases registers
  | folderFound => cases registers
  | outputExcluded => cases registers

theorem found?_of_exclude? {path : Path} (registers : account.exclude? = some path) :
    account.found? = some path := by
  cases account with
  | folderFound other made found => exact registers
  | sourceFound source made found seeding => cases seeding <;> cases registers
  | abandoned => cases registers
  | sourceLost => cases registers
  | folderLost => cases registers
  | outputExcluded => cases registers

theorem mainFile?_of_done {source : SourceRoot} (step : account.step = .sourceRoot source)
    (status : account.status = .done) :
    account.mainFile? plan = some (source.path.join ⟨plan.mainFile⟩) := by
  unfold mainFile?
  rw [step, status]

end Account

namespace DiskEffect

variable {accounts : List Account}

theorem file_kept {location : Location} {content : ByteArray}
    (effect : DiskEffect plan answer accounts before after)
    (there : before.node? location = some (.file content)) :
    after.node? location = some (.file content) ∨
      MainFileAt plan (· = .done) accounts after location := by
  have change := effect.changes.nodes location
  rw [there] at change
  generalize after.node? location = later at change
  cases change with
  | same => exact .inl rfl
  | fileRewritten done => exact .inr done

theorem made {location : Location} {node : Node}
    (effect : DiskEffect plan answer accounts before after) (free : before.node? location = none)
    (there : after.node? location = some node) :
    node = .directory ∨ MainFileAt plan Tried accounts after location := by
  have change := effect.changes.nodes location
  rw [free, there] at change
  cases change with
  | directoryMade => exact .inl rfl
  | fileMade tried => exact .inr tried
  | fileWritten tried => exact .inr tried

/-- Without a text, nothing is rewritten and what is new is empty. -/
theorem unwritten {cause : TemplateError} {location : Location} {content : ByteArray}
    (effect : DiskEffect plan (.error cause) accounts before after)
    (there : after.node? location = some (.file content)) :
    before.node? location = some (.file content) ∨
      before.node? location = none ∧ content = .empty := by
  have change := effect.changes.nodes location
  rw [there] at change
  have nothingDone : ¬MainFileAt plan (· = .done) accounts after location := by
    rintro ⟨account, member, source, held, step, status, holds⟩
    obtain ⟨text, -, given, -⟩ :=
      effect.mainFile account member _ (account.mainFile?_of_done step status)
    cases given
  generalize earlier : before.node? location = node? at change ⊢
  cases change with
  | same => exact .inl rfl
  | fileMade => exact .inr ⟨rfl, rfl⟩
  | fileWritten _ done => exact absurd done nothingDone
  | fileRewritten done => exact absurd done nothingDone

end DiskEffect

/-- What a run leaves on a disk, whether or not it failed. -/
structure Leaves (plan : Plan) (answer : Except TemplateError String) (model : RootModel)
    (start : Disk) (run : Run) (finish : Disk) : Prop where
  /-- Directories stay. -/
  directory : ∀ location, start.node? location = some .directory →
    finish.node? location = some .directory
  /-- Links stay. -/
  link : ∀ location text, start.node? location = some (.link text) →
    finish.node? location = some (.link text)
  /-- Files stay, and keep what they hold unless they are the main file of a source folder that is
  done. -/
  file : ∀ location content, start.node? location = some (.file content) →
    finish.node? location = some (.file content) ∨
      ∃ later, finish.node? location = some (.file later) ∧
        run.report.MainFileAt plan (· = .done) finish location later
  /-- Where a main file could be made, it could be written. -/
  writable : ∀ path cause, run.failure ≠ some (.writeMainFile path cause)
  /-- What is new is a directory, or the main file of a source folder that is done or failed. -/
  new : ∀ location node, start.node? location = none → finish.node? location = some node →
    node = .directory ∨ ∃ content, node = .file content ∧
      run.report.MainFileAt plan Tried finish location content
  /-- The main files of the report hold the text of the template. -/
  mainFile : ∀ path ∈ run.report.mainFiles, ∃ text location, answer = .ok text ∧
    finish.Holds path location text.toUTF8
  /-- The folders that the run registered are directories. -/
  registered : ∃ sources excludes, run.model.contentEntries =
      updateEntry plan.root (ContentEntry.extend sources excludes) model.contentEntries ∧
    (∀ folder ∈ sources, (finish.directory? folder.path).isSome) ∧
    ∀ path ∈ excludes, (finish.directory? path).isSome
  /-- If there was no text, the main file of the step that failed holds what it held before, or
  nothing if it is new. -/
  untemplated : ∀ cause, run.failure = some (.template cause) →
    (∃ source, (.sourceRoot source, .failed) ∈ run.report.steps) ∧
    ∀ source, (.sourceRoot source, .failed) ∈ run.report.steps →
      ∃ location content, finish.Holds (source.path.join ⟨plan.mainFile⟩) location content ∧
        (start.node? location = some (.file content) ∨
          start.node? location = none ∧ content = .empty)

/-- With templates that always give the same answer, a run changes a sound disk in no other way than
by making directories and by making and filling the main files of the source folders it reports. -/
theorem scaffold_leaves {templates : TemplateSource (StateM Disk)} {plan : Plan} {project : Project}
    {answer : Except TemplateError String} {start : Disk} (model : RootModel) (sound : start.Sound)
    (steady : templates.Steady project plan.template answer) :
    ∃ run finish, scaffold ⟨Disk.fileSystem, templates⟩ plan project model start = (run, finish) ∧
      Leaves plan answer model start run finish := by
  obtain ⟨run, opened, accounts, finish, last, log, ran, answered, covers, chronicle, report,
    modelled, failure⟩ := scaffold_chronicle ⟨Disk.fileSystem, templates⟩ plan project model start
  have effect := transcript_effect steady answered
  have steps : run.report.steps = accounts.map fun account => (account.step, account.status) := by
    rw [report, chronicle.steps]
    rfl
  have failed : run.failure = accounts.findSome? (Account.error? plan) := by
    rw [failure, chronicle.failure]
    rfl
  refine ⟨run, finish, ran, fun _ => effect.changes.keeps.directory,
    fun _ _ => effect.changes.keeps.link, ?file, ?writable, ?new, ?mainFile, ?registered,
    ?untemplated⟩
  case file =>
    intro location content there
    exact (effect.file_kept there).imp_right fun done => done.reported steps
  case writable =>
    intro path cause fails
    rw [failed] at fails
    obtain ⟨account, member, ends⟩ := List.exists_of_findSome?_eq_some fails
    exact effect.writable account member path cause ends
  case new =>
    intro location node free there
    refine (effect.made free there).imp_right fun tried => ?_
    obtain ⟨content, held, reported⟩ := tried.reported steps
    exact ⟨content, Option.some.inj (there.symm.trans held), reported⟩
  case mainFile =>
    intro path listed
    rw [report, chronicle.mainFiles] at listed
    obtain ⟨account, member, leaves⟩ := List.mem_filterMap.mp listed
    exact effect.mainFile account member path leaves
  case registered =>
    refine ⟨accounts.filterMap Account.source?, accounts.filterMap Account.exclude?, ?_, ?_, ?_⟩
    · have opens : (model.addEntry plan.root).contentEntries =
          updateEntry plan.root (ContentEntry.extend [] []) model.contentEntries := by
        rw [ContentEntry.extend_nil]
        rfl
      rw [modelled, chronicle.model]
      exact foldl_register_entries accounts opens
    · intro folder listed
      obtain ⟨account, member, registers⟩ := List.mem_filterMap.mp listed
      exact effect.found sound account member _ (account.found?_of_source? registers)
    · intro path listed
      obtain ⟨account, member, registers⟩ := List.mem_filterMap.mp listed
      exact effect.found sound account member _ (account.found?_of_exclude? registers)
  case untemplated =>
    intro cause fails
    constructor
    · rw [failed] at fails
      obtain ⟨account, member, ends⟩ := List.exists_of_findSome?_eq_some fails
      have status := Account.failed_iff.mpr ⟨_, ends⟩
      obtain ⟨source, step⟩ := Account.isSource_of_failed status
      refine ⟨source, ?_⟩
      rw [steps]
      exact List.mem_map.mpr ⟨account, member, by rw [step, status]⟩
    · intro source reported
      rw [steps] at reported
      obtain ⟨account, member, same⟩ := List.mem_map.mp reported
      obtain ⟨step, status⟩ := Prod.mk.inj same
      have ends : account.error? plan = some (.template cause) := by
        rw [← (chronicle.failure_of_failed member status).2, ← failure, fails]
      obtain ⟨rfl, location, content, holds⟩ :=
        effect.untemplated account member source cause step ends
      exact ⟨location, content, holds, effect.unwritten holds.node?⟩

/-- A disk whose source folder is a link to a directory with a main file in it. -/
def linkedDisk : Disk :=
  ((({} : Disk).put ["shared"] .directory).put ["shared", "main.tex"] (.file "kept".toUTF8)).put
    ["src"] (.link "shared")

theorem sound_linkedDisk : linkedDisk.Sound := by
  have shared : (({} : Disk).put ([] ++ ["shared"]) .directory).Sound :=
    Disk.sound_empty.putNew rfl (by decide) rfl nofun
  have filled : ((({} : Disk).put ["shared"] .directory).put (["shared"] ++ ["main.tex"])
      (.file "kept".toUTF8)).Sound :=
    shared.putNew rfl (by decide) rfl nofun
  change (Disk.put _ ([] ++ ["src"]) _).Sound
  refine filled.putNew rfl (by decide) rfl ?_
  intro _ same
  obtain rfl := Node.link.inj same
  decide

theorem scaffold_leaves_linked :
    linkedDisk.Sound ∧
      (TemplateSource.constant (.error (.unknown "LaTeX Source"))).Steady ⟨"thesis", ⟨"."⟩⟩
        "LaTeX Source" (.error (.unknown "LaTeX Source")) ∧
      ∃ run finish,
        scaffold
            ⟨Disk.fileSystem, TemplateSource.constant (.error (.unknown "LaTeX Source"))⟩
            (Plan.ofLayout ⟨"."⟩ {}) ⟨"thesis", ⟨"."⟩⟩ { moduleName := "thesis" } linkedDisk =
          (run, finish) ∧
        Leaves (Plan.ofLayout ⟨"."⟩ {}) (.error (.unknown "LaTeX Source"))
          { moduleName := "thesis" } linkedDisk run finish := by
  have steady : (TemplateSource.constant (.error (.unknown "LaTeX Source"))).Steady
      ⟨"thesis", ⟨"."⟩⟩ "LaTeX Source" (.error (.unknown "LaTeX Source")) := fun _ => ⟨[], rfl⟩
  exact ⟨sound_linkedDisk, steady,
    scaffold_leaves { moduleName := "thesis" } sound_linkedDisk steady⟩

end TexWorkspace.Project
