import Mathlib.Data.List.Basic
import TexWorkspace.Proofs.Project.DiskEffect

set_option autoImplicit false

/-!
Carrying out a plan again. Whatever a run found or wrote is there in its end, since nothing that it
does later takes anything away. If every step was done, the disk is therefore ready for all of them,
and a step that the disk is ready for changes nothing and is done in the same way.
-/

namespace TexWorkspace.Project

open Files

/-! ## Steps -/

/-- The main file of a source folder. -/
def Step.mainFile? (plan : Plan) : Step → Option Path
  | .sourceRoot source => some (source.path.join ⟨plan.mainFile⟩)
  | _ => none

/-- What a step that is done registers: what it is about, where the disk has it. -/
def Step.registered (plan : Plan) (disk : Disk) (model : RootModel) : Step → RootModel
  | .sourceRoot source =>
      match disk.findDirectory? source.path with
      | some found => model.update plan.root (·.addSource ⟨found, false, source.package⟩)
      | none => model
  | .excludeFolder path =>
      match disk.findDirectory? path with
      | some found => model.update plan.root (·.addExclude found)
      | none => model
  | .excludeOutput => model.setExcludeOutput true

/-- The folder of the step is on the disk, and so is its main file. -/
structure Step.Ready (plan : Plan) (disk : Disk) (step : Step) : Prop where
  folder : ∀ path, step.folder? = some path → ∃ found, disk.findDirectory? path = some found
  mainFile : ∀ path, step.mainFile? plan = some path →
    ∃ location held, disk.Holds path location held

/-- The main file of the step, if it has one, is on the disk and holds the text. -/
def Step.Filled (plan : Plan) (text : String) (disk : Disk) (step : Step) : Prop :=
  ∀ path, step.mainFile? plan = some path → ∃ location, disk.Holds path location text.toUTF8

/-- The step is done, and its folder was found where the disk has it. -/
structure Account.Settled (disk : Disk) (account : Account) : Prop where
  done : account.status = .done
  folder : ∀ path, account.step.folder? = some path →
    ∃ found, disk.findDirectory? path = some found ∧ account.found? = some found

variable {plan : Plan} {project : Project} {text : String} {before disk after : Disk}
  {templates : TemplateSource (StateM Disk)}

theorem Step.Ready.of_keeps {step : Step} (keeps : before.Keeps after)
    (ready : step.Ready plan before) : step.Ready plan after where
  folder path about := by
    obtain ⟨found, there⟩ := ready.folder path about
    exact ⟨found, Disk.findDirectory?_of_keeps keeps there⟩
  mainFile path about := by
    obtain ⟨location, held, holds⟩ := ready.mainFile path about
    obtain ⟨later, still⟩ := keeps.file holds.node?
    exact ⟨location, later, holds.of_keeps keeps still⟩

theorem Step.Filled.of_alike {step : Step} (alike : before.Alike after)
    (filled : step.Filled plan text before) : step.Filled plan text after := by
  intro path about
  unfold Disk.Holds
  rw [alike.resolve]
  exact filled path about

namespace Account.Settled

variable {account : Account}

theorem of_keeps (keeps : before.Keeps after) (settled : account.Settled before) :
    account.Settled after where
  done := settled.done
  folder path about := by
    obtain ⟨found, there, same⟩ := settled.folder path about
    exact ⟨found, Disk.findDirectory?_of_keeps keeps there, same⟩

theorem registers (settled : account.Settled disk) (model : RootModel) :
    account.register plan model = account.step.registered plan disk model := by
  cases account with
  | sourceFound source made found seeding =>
      obtain ⟨other, there, ⟨⟩⟩ := settled.folder source.path rfl
      rw [step, Step.registered, there]
      rfl
  | folderFound path made found =>
      obtain ⟨other, there, ⟨⟩⟩ := settled.folder path rfl
      rw [step, Step.registered, there]
      rfl
  | outputExcluded => rfl
  | abandoned => cases settled.done
  | sourceLost => cases settled.done
  | folderLost => cases settled.done

theorem mainFile? (settled : account.Settled disk) :
    account.mainFile? plan = account.step.mainFile? plan := by
  unfold Account.mainFile?
  rw [settled.done]
  cases account.step <;> rfl

theorem error? (settled : account.Settled disk) : account.error? plan = none := by
  cases ends : account.error? plan with
  | none => rfl
  | some error => cases settled.done.symm.trans (Account.failed_iff.mpr ⟨error, ends⟩)

end Account.Settled

/-- A run whose steps are all done is told by the plan and by where the disk has the folders. -/
theorem Chronicle.of_settled {run last : Run} {accounts : List Account}
    (chronicle : Chronicle plan run accounts last)
    (settled : ∀ account ∈ accounts, account.Settled disk) :
    last.report = {
        steps := run.report.steps ++ (accounts.map Account.step).map (·, .done)
        mainFiles := run.report.mainFiles ++
          (accounts.map Account.step).filterMap (Step.mainFile? plan) } ∧
      last.failure = run.failure ∧
      last.model = (accounts.map Account.step).foldl (Step.registered plan disk) run.model := by
  have statuses : accounts.map (fun account => (account.step, account.status)) =
      (accounts.map Account.step).map (·, .done) := by
    rw [List.map_map]
    refine List.map_congr_left fun account member => ?_
    rw [(settled account member).done]
    rfl
  have mainFiles : accounts.filterMap (Account.mainFile? plan) =
      (accounts.map Account.step).filterMap (Step.mainFile? plan) := by
    rw [List.filterMap_map]
    exact List.filterMap_congr fun account member => (settled account member).mainFile?
  have unfailed : accounts.findSome? (Account.error? plan) = none :=
    List.findSome?_eq_none_iff.mpr fun account member => (settled account member).error?
  refine ⟨?_, ?_, ?_⟩
  · calc last.report = ⟨last.report.steps, last.report.mainFiles⟩ := rfl
      _ = _ := by rw [chronicle.steps, chronicle.mainFiles, statuses, mainFiles]
  · rw [chronicle.failure, unfailed, Option.or_none]
  · rw [chronicle.model, List.foldl_map]
    exact List.foldl_ext _ _ _ fun model account member => (settled account member).registers model

/-! ## Steps that are done -/

theorem Account.settled_of_done {account : Account} {answer : Except TemplateError String}
    (steady : templates.Steady project plan.template answer) (done : account.status = .done)
    (answered : Answers ⟨Disk.fileSystem, templates⟩ before (account.events plan project) after) :
    account.Settled after := by
  cases account with
  | sourceFound source made found seeding =>
      obtain ⟨middle, -, there, rest⟩ := provided_effect plan answer answered
      have seeded :=
        seeded_effect made steady (fun sound => sound.directory?_of_found there.symm) rest
      refine ⟨done, ?_⟩
      rintro _ ⟨⟩
      exact ⟨found, Disk.findDirectory?_of_keeps seeded.changes.keeps there.symm, rfl⟩
  | folderFound path made found =>
      obtain ⟨middle, -, there, rest⟩ := provided_effect plan answer answered
      cases rest
      refine ⟨done, ?_⟩
      rintro _ ⟨⟩
      exact ⟨found, there.symm, rfl⟩
  | outputExcluded => exact ⟨done, nofun⟩
  | abandoned => cases done
  | sourceLost => cases done
  | folderLost => cases done

-- By induction on the steps, for every disk: what is settled after a step stays so.
theorem settled_of_done {accounts : List Account} {answer : Except TemplateError String}
    (steady : templates.Steady project plan.template answer)
    (done : ∀ account ∈ accounts, account.status = .done)
    (answered : Answers ⟨Disk.fileSystem, templates⟩ before
      (accounts.flatMap (Account.events plan project)) after) :
    ∀ account ∈ accounts, account.Settled after := by
  induction accounts generalizing before with
  | nil => exact fun _ listed => absurd listed List.not_mem_nil
  | cons account rest ih =>
      rw [List.flatMap_cons] at answered
      obtain ⟨middle, first, later⟩ := answered.of_append
      obtain ⟨here, others⟩ := List.forall_mem_cons.mp done
      have settled := Account.settled_of_done steady here first
      exact List.forall_mem_cons.mpr
        ⟨settled.of_keeps (run_effect steady later).changes.keeps, ih others later⟩

/-- In the end the disk is ready for every step that was done. -/
theorem Account.Settled.ready {account : Account} {accounts : List Account}
    (settled : account.Settled after) (effect : DiskEffect plan (.ok text) accounts before after)
    (member : account ∈ accounts) :
    account.step.Ready plan after ∧ account.step.Filled plan text after := by
  have filled : account.step.Filled plan text after := by
    intro path about
    obtain ⟨_, location, ⟨⟩, holds⟩ :=
      effect.mainFile account member path (settled.mainFile?.trans about)
    exact ⟨location, holds⟩
  refine ⟨⟨fun path about => ?_, fun path about => ?_⟩, filled⟩
  · exact (settled.folder path about).imp fun _ there => there.1
  · exact (filled path about).imp fun _ holds => ⟨_, holds⟩

/-! ## Steps that the disk is ready for -/

/-- A directory that is found is not made again. -/
theorem provided_again {path found : Path} {made : Except IoError Unit} {given : Option Path}
    {rest : List Event} (there : disk.findDirectory? path = some found)
    (answered : Answers ⟨Disk.fileSystem, templates⟩ disk
      (.createDirectories path made :: .findDirectory path given :: rest) after) :
    given = some found ∧ Answers ⟨Disk.fileSystem, templates⟩ disk rest after := by
  obtain ⟨-, location, leads, -⟩ := Disk.findDirectory?_eq_some_iff.mp there
  obtain ⟨middle, makes, finding⟩ := answered.of_cons
  obtain ⟨looked, finds, later⟩ := finding.of_cons
  obtain ⟨same, rfl⟩ := finds.findDirectory_eq
  obtain rfl := makes.createDirectories_eq
  rw [Disk.createDirectories_of_leadsTo leads] at same later
  exact ⟨same.trans there, later⟩

/-- A main file that is there is filled with the text. -/
theorem seeded_again {path : Path} {location : Location} {held : ByteArray} {seeding : Seeding}
    (steady : templates.Steady project plan.template (.ok text))
    (holds : disk.Holds path location held)
    (answered : Answers ⟨Disk.fileSystem, templates⟩ disk
      (seeding.events project plan.template path) after) :
    seeding.status = .done ∧ after = disk.put location (.file text.toUTF8) := by
  have creates := Disk.createFile_of_holds holds
  have writes : disk.writeFile path text.toUTF8 = .ok (disk.put location (.file text.toUTF8)) :=
    Disk.writeFile_of_holds holds
  cases seeding with
  | notCreated cause =>
      obtain ⟨created, creation, -⟩ := answered.of_cons
      cases creates.symm.trans creation.createFile_error.1
  | noTemplate cause =>
      obtain ⟨created, -, looking⟩ := answered.of_cons
      obtain ⟨looked, looks, -⟩ := looking.of_cons
      cases (looks.lookup_eq steady).1
  | notWritten given cause =>
      obtain ⟨created, creation, looking⟩ := answered.of_cons
      obtain ⟨looked, looks, writing⟩ := looking.of_cons
      obtain ⟨written, wrote, -⟩ := writing.of_cons
      obtain ⟨⟨⟩, rfl⟩ := looks.lookup_eq steady
      obtain rfl := Except.ok.inj (creates.symm.trans creation.createFile_ok)
      cases writes.symm.trans wrote.writeFile_error.1
  | written given =>
      obtain ⟨created, creation, looking⟩ := answered.of_cons
      obtain ⟨looked, looks, writing⟩ := looking.of_cons
      obtain ⟨written, wrote, ⟨⟩⟩ := writing.of_cons
      obtain ⟨⟨⟩, rfl⟩ := looks.lookup_eq steady
      obtain rfl := Except.ok.inj (creates.symm.trans creation.createFile_ok)
      exact ⟨rfl, (Except.ok.inj (writes.symm.trans wrote.writeFile_ok)).symm⟩

/-- A step that the disk is ready for is done. If its main file holds the text, nothing changes. -/
theorem Account.done_of_ready {account : Account}
    (steady : templates.Steady project plan.template (.ok text))
    (ready : account.step.Ready plan disk) (tried : account.status ≠ .abandoned)
    (answered : Answers ⟨Disk.fileSystem, templates⟩ disk (account.events plan project) after) :
    account.status = .done ∧ (account.step.Filled plan text disk → disk.Alike after) := by
  cases account with
  | sourceFound source made found seeding =>
      obtain ⟨other, there⟩ := ready.folder source.path rfl
      obtain ⟨-, rest⟩ := provided_again there answered
      obtain ⟨location, held, holds⟩ := ready.mainFile _ rfl
      refine ⟨(seeded_again steady holds rest).1, fun filled => ?_⟩
      obtain ⟨place, holdsText⟩ := filled _ rfl
      rw [(seeded_again steady holdsText rest).2]
      exact Disk.alike_put holdsText.inner holdsText.node?
  | folderFound path made found =>
      obtain ⟨other, there⟩ := ready.folder path rfl
      obtain ⟨-, ⟨⟩⟩ := provided_again there answered
      exact ⟨rfl, fun _ => .refl disk⟩
  | sourceLost source made =>
      obtain ⟨found, there⟩ := ready.folder source.path rfl
      cases (provided_again there answered).1
  | folderLost path made =>
      obtain ⟨found, there⟩ := ready.folder path rfl
      cases (provided_again there answered).1
  | outputExcluded =>
      cases answered
      exact ⟨rfl, fun _ => .refl disk⟩
  | abandoned => exact absurd rfl tried

-- By induction on the steps, for every disk that is ready for them: none of them fails, so none is
-- abandoned, and what the disk is ready for it stays ready for.
theorem Chronicle.done_of_ready {run last : Run} {accounts : List Account}
    (chronicle : Chronicle plan run accounts last)
    (steady : templates.Steady project plan.template (.ok text)) (unfailed : run.failure = none)
    (ready : ∀ account ∈ accounts, account.step.Ready plan disk)
    (answered : Answers ⟨Disk.fileSystem, templates⟩ disk
      (accounts.flatMap (Account.events plan project)) after) :
    (∀ account ∈ accounts, account.status = .done) ∧
      ((∀ account ∈ accounts, account.step.Filled plan text disk) → disk.Alike after) := by
  induction chronicle generalizing disk with
  | nil =>
      cases answered
      exact ⟨fun _ listed => absurd listed List.not_mem_nil, fun _ => .refl after⟩
  | @cons run next last account rest advances _ ih =>
      rw [List.flatMap_cons] at answered
      obtain ⟨middle, first, later⟩ := answered.of_append
      obtain ⟨readyHere, readyLater⟩ := List.forall_mem_cons.mp ready
      have keeps := (account_effect steady first).changes.keeps
      have tried : account.status ≠ .abandoned := by
        intro abandoned
        have failed := (advances.abandoned.mp abandoned).1
        rw [unfailed] at failed
        cases failed
      obtain ⟨done, stays⟩ := Account.done_of_ready steady readyHere tried first
      have still : next.failure = none := by
        rw [advances.failure, unfailed, (Account.settled_of_done steady done first).error?]
        rfl
      obtain ⟨others, stayOn⟩ :=
        ih still (fun other member => (readyLater other member).of_keeps keeps) later
      refine ⟨List.forall_mem_cons.mpr ⟨done, others⟩, fun filled => ?_⟩
      obtain ⟨here, rest⟩ := List.forall_mem_cons.mp filled
      have alike := stays here
      exact alike.trans (stayOn fun other member => (rest other member).of_alike alike)

/-! ## Runs -/

/-- If the content root and the folders of a plan are on the disk, and so are the main files, every
step is done, and the content root is still there. -/
theorem scaffold_done_of_ready (model : RootModel) {location : Location}
    (steady : templates.Steady project plan.template (.ok text))
    (rooted : disk.LeadsTo plan.root location)
    (ready : ∀ step ∈ plan.steps, step.Ready plan disk) :
    ∃ run finish, scaffold ⟨Disk.fileSystem, templates⟩ plan project model disk = (run, finish) ∧
      (∀ entry ∈ run.report.steps, entry.2 = .done) ∧ finish.LeadsTo plan.root location := by
  obtain ⟨run, opened, accounts, finish, last, log, ran, answered, covers, chronicle, report, -,
    -⟩ := scaffold_chronicle ⟨Disk.fileSystem, templates⟩ plan project model disk
  have keeps := (transcript_effect steady answered).changes.keeps
  obtain ⟨middle, makes, later⟩ := answered.of_cons
  obtain rfl := makes.createDirectories_eq
  rw [Disk.createDirectories_of_leadsTo rooted] at later
  have readyFor : ∀ account ∈ accounts, account.step.Ready plan disk := by
    intro account member
    refine ready account.step ?_
    rw [← covers]
    exact List.mem_map_of_mem member
  have done := (chronicle.done_of_ready steady rfl readyFor later).1
  refine ⟨run, finish, ran, ?_, rooted.of_keeps keeps⟩
  rw [report, chronicle.steps]
  intro entry member
  obtain ⟨account, listed, rfl⟩ := List.mem_map.mp member
  exact done account listed

/-- If every step was done and the content root is a directory, the plan can be carried out again:
the disk stays as it is, and there is no difference in what is reported and registered. -/
theorem scaffold_again {model : RootModel} {start finish : Disk} {first : Run} {location : Location}
    (steady : templates.Steady project plan.template (.ok text))
    (ran : scaffold ⟨Disk.fileSystem, templates⟩ plan project model start = (first, finish))
    (done : ∀ entry ∈ first.report.steps, entry.2 = .done)
    (rooted : finish.LeadsTo plan.root location) :
    ∃ second again,
      scaffold ⟨Disk.fileSystem, templates⟩ plan project model finish = (second, again) ∧
      finish.Alike again ∧ first.failure = none ∧ second.failure = none ∧
      second.report = first.report ∧ second.model = first.model := by
  obtain ⟨_, opened, accounts, _, last, log, ranFirst, answered, covers, chronicle, report,
    modelled, failure⟩ := scaffold_chronicle ⟨Disk.fileSystem, templates⟩ plan project model start
  obtain ⟨rfl, rfl⟩ := Prod.mk.inj (ran.symm.trans ranFirst)
  obtain ⟨second, reopened, others, again, final, log', ranAgain, answeredAgain, coversAgain,
    chronicleAgain, reportAgain, modelledAgain, failureAgain⟩ :=
    scaffold_chronicle ⟨Disk.fileSystem, templates⟩ plan project model finish
  have settled : ∀ account ∈ accounts, account.Settled finish := by
    obtain ⟨middle, -, later⟩ := answered.of_cons
    refine settled_of_done steady (fun account member => ?_) later
    refine done (account.step, account.status) ?_
    rw [report, chronicle.steps]
    exact List.mem_map_of_mem member
  have ready : ∀ account ∈ others,
      account.step.Ready plan finish ∧ account.step.Filled plan text finish := by
    intro account member
    have listed : account.step ∈ accounts.map Account.step := by
      rw [covers, ← coversAgain]
      exact List.mem_map_of_mem member
    obtain ⟨earlier, listed, same⟩ := List.mem_map.mp listed
    rw [← same]
    exact (settled earlier listed).ready (transcript_effect steady answered) listed
  obtain ⟨middle, makes, later⟩ := answeredAgain.of_cons
  obtain rfl := makes.createDirectories_eq
  rw [Disk.createDirectories_of_leadsTo rooted] at later
  obtain ⟨doneAgain, stays⟩ :=
    chronicleAgain.done_of_ready steady rfl (fun account member => (ready account member).1) later
  have alike := stays fun account member => (ready account member).2
  have settledAgain : ∀ account ∈ others, account.Settled finish := fun account member =>
    (settled_of_done steady doneAgain later account member).of_keeps alike.symm.keeps
  obtain ⟨reported, unfailed, registered⟩ := chronicle.of_settled settled
  obtain ⟨reportedAgain, unfailedAgain, registeredAgain⟩ := chronicleAgain.of_settled settledAgain
  refine ⟨second, again, ranAgain, alike, failure.trans unfailed, failureAgain.trans unfailedAgain,
    ?_, ?_⟩
  · rw [reportAgain, reportedAgain, report, reported, coversAgain, covers]
  · rw [modelledAgain, registeredAgain, modelled, registered, coversAgain, covers]

/-- A plan for the disk whose source folder is a link. -/
def linkedPlan : Plan where
  root := ⟨"/"⟩
  sourceRoots := [⟨⟨"/src"⟩, "thesis"⟩]
  outputDir := ⟨"/"⟩
  auxiliaryDir := ⟨"/"⟩
  mainFile := "main.tex"
  template := "LaTeX Source"

theorem leadsTo_root (disk : Disk) : disk.LeadsTo ⟨"/"⟩ [] := by
  have names : Path.segments "/" = ["", ""] := rfl
  unfold Disk.LeadsTo
  rw [names]
  exact .stay (.inl rfl) (.stay (.inl rfl) .arrived)

theorem linkedDisk_leads_src {names : List String} {target : Disk.Target}
    (inside : linkedDisk.Leads .find 39 ["shared"] names target) :
    linkedDisk.Leads .find 40 [] ("" :: "src" :: names) target := by
  have held : Path.segments "shared" = ["shared"] := rfl
  have src : Disk.Proper "src" := by decide
  have shared : Disk.Proper "shared" := by decide
  refine .stay (.inl rfl) (.link (src.followed.find names) rfl ?_)
  rw [held]
  exact .enter (shared.followed.find names) rfl inside

theorem ready_linkedPlan : ∀ step ∈ linkedPlan.steps, step.Ready linkedPlan linkedDisk := by
  have root : linkedDisk.findDirectory? ⟨"/"⟩ = some ⟨"/"⟩ :=
    Disk.findDirectory?_eq_some_iff.mpr
      ⟨rfl, [], leadsTo_root linkedDisk, by decide, rfl⟩
  have src : linkedDisk.LeadsTo ⟨"/src"⟩ ["shared"] := by
    have names : Path.segments "/src" = ["", "src"] := rfl
    unfold Disk.LeadsTo
    rw [names]
    exact linkedDisk_leads_src .arrived
  have main : linkedDisk.Holds ⟨"/src/main.tex"⟩ ["shared", "main.tex"] "kept".toUTF8 := by
    have names : Path.segments "/src/main.tex" = ["", "src", "main.tex"] := rfl
    have file : Disk.Proper "main.tex" := by decide
    exact Disk.resolve_of_leads names rfl
      (linkedDisk_leads_src (.file file.followed rfl))
  have joined : (⟨"/src"⟩ : Path).join ⟨linkedPlan.mainFile⟩ = ⟨"/src/main.tex"⟩ := rfl
  intro step member
  have cases : step = .sourceRoot ⟨⟨"/src"⟩, "thesis"⟩ ∨ step = .excludeFolder ⟨"/"⟩ ∨
      step = .excludeOutput := by
    simpa [Plan.steps, linkedPlan] using member
  rcases cases with rfl | rfl | rfl
  · refine ⟨?_, ?_⟩
    · rintro _ ⟨⟩
      exact ⟨⟨"/shared"⟩, Disk.findDirectory?_eq_some_iff.mpr
        ⟨rfl, _, src, by decide, rfl⟩⟩
    · rintro _ ⟨⟩
      rw [joined]
      exact ⟨_, _, main⟩
  · refine ⟨?_, nofun⟩
    rintro _ ⟨⟩
    exact ⟨_, root⟩
  · exact ⟨nofun, nofun⟩

theorem scaffold_again_linked :
    (TemplateSource.constant (.ok "filled")).Steady ⟨"thesis", ⟨"."⟩⟩ linkedPlan.template
        (.ok "filled") ∧
      ∃ first finish,
        scaffold ⟨Disk.fileSystem, TemplateSource.constant (.ok "filled")⟩ linkedPlan
            ⟨"thesis", ⟨"."⟩⟩ { moduleName := "thesis" } linkedDisk = (first, finish) ∧
        (∀ entry ∈ first.report.steps, entry.2 = .done) ∧ finish.LeadsTo linkedPlan.root [] ∧
        ∃ second again,
          scaffold ⟨Disk.fileSystem, TemplateSource.constant (.ok "filled")⟩ linkedPlan
              ⟨"thesis", ⟨"."⟩⟩ { moduleName := "thesis" } finish = (second, again) ∧
          finish.Alike again ∧ first.failure = none ∧ second.failure = none ∧
          second.report = first.report ∧ second.model = first.model := by
  have steady : (TemplateSource.constant (.ok "filled")).Steady ⟨"thesis", ⟨"."⟩⟩
      linkedPlan.template (.ok "filled") := fun _ => ⟨[], rfl⟩
  obtain ⟨first, finish, ran, done, rooted⟩ := scaffold_done_of_ready { moduleName := "thesis" }
    steady (leadsTo_root linkedDisk) ready_linkedPlan
  exact ⟨steady, first, finish, ran, done, rooted, scaffold_again steady ran done rooted⟩

end TexWorkspace.Project
