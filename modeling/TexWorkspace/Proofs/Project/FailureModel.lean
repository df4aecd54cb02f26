import TexWorkspace.Proofs.Project.Chronicle

set_option autoImplicit false

/-!
How a run fails. Source folders are done or skipped until one fails, and abandoned after that;
exclusions never fail and are never abandoned. A run fails if one of its steps does, with the error
of the call that failed there.
-/

namespace TexWorkspace.Project

open Files

/-- Steps that are done or skipped, and possibly one that failed, after which all are abandoned. -/
inductive Orderly : List StepStatus → Prop
  | nil : Orderly []
  | settled {status : StepStatus} {rest : List StepStatus} :
      status = .done ∨ status = .skipped → Orderly rest → Orderly (status :: rest)
  | failed (count : Nat) : Orderly (.failed :: List.replicate count .abandoned)

/-- A call for the main file of a source folder fails, and this is its error. -/
inductive FailedCall (plan : Plan) (project : Project) (source : SourceRoot) :
    Event → ScaffoldError → Prop
  | createFile (cause : IoError) :
      FailedCall plan project source
        (.createFile (source.path.join ⟨plan.mainFile⟩) (.error cause))
        (.createMainFile (source.path.join ⟨plan.mainFile⟩) cause)
  | lookup (cause : TemplateError) :
      FailedCall plan project source (.lookup project plan.template (.error cause))
        (.template cause)
  | writeFile (text : String) (cause : IoError) :
      FailedCall plan project source
        (.writeFile (source.path.join ⟨plan.mainFile⟩) text.toUTF8 (.error cause))
        (.writeMainFile (source.path.join ⟨plan.mainFile⟩) cause)

namespace Account

variable {plan : Plan} {project : Project} {account : Account}

theorem failed_iff : account.status = .failed ↔ ∃ error, account.error? plan = some error := by
  cases account with
  | sourceFound source _ _ seeding =>
      cases seeding <;> simp [status, error?, Seeding.status, Seeding.result]
  | abandoned => simp [status, error?]
  | sourceLost => simp [status, error?]
  | folderLost => simp [status, error?]
  | folderFound => simp [status, error?]
  | outputExcluded => simp [status, error?]

/-- A step ends in an error only at the main file of a source folder: that of its last call. -/
theorem failedCall_of_error {error : ScaffoldError} (ends : account.error? plan = some error) :
    ∃ source event, account.step = .sourceRoot source ∧
      (account.events plan project).getLast? = some event ∧
      FailedCall plan project source event error := by
  cases account with
  | sourceFound source made found seeding =>
      cases seeding with
      | notCreated cause =>
          cases ends
          exact ⟨source, _, rfl, rfl, .createFile cause⟩
      | noTemplate cause =>
          cases ends
          exact ⟨source, _, rfl, rfl, .lookup cause⟩
      | notWritten text cause =>
          cases ends
          exact ⟨source, _, rfl, rfl, .writeFile text cause⟩
      | written => cases ends
  | abandoned => cases ends
  | sourceLost => cases ends
  | folderLost => cases ends
  | folderFound => cases ends
  | outputExcluded => cases ends

theorem isSource_of_failed (failed : account.status = .failed) : account.IsSource := by
  cases account with
  | sourceFound source => exact ⟨source, rfl⟩
  | abandoned => cases failed
  | sourceLost => cases failed
  | folderLost => cases failed
  | folderFound => cases failed
  | outputExcluded => cases failed

theorem excludeFolder_settled {path : Path} (step : account.step = .excludeFolder path) :
    account.status = .done ∨ account.status = .skipped := by
  cases account with
  | folderLost => exact .inr rfl
  | folderFound => exact .inl rfl
  | abandoned => cases step
  | sourceLost => cases step
  | sourceFound => cases step
  | outputExcluded => cases step

end Account

namespace Chronicle

variable {plan : Plan} {run last : Run} {accounts : List Account}

/-- After a failure every source folder is abandoned. -/
theorem abandons (chronicle : Chronicle plan run accounts last) (failed : run.failure.isSome)
    (sources : ∀ account ∈ accounts, account.IsSource) :
    accounts.map Account.status = List.replicate accounts.length .abandoned := by
  induction chronicle with
  | nil => rfl
  | @cons run next _ account rest advances _ ih =>
      have still : next.failure.isSome := by
        rw [advances.failure, Option.isSome_or, failed, Bool.true_or]
      have abandoned : account.status = .abandoned :=
        advances.abandoned.mpr ⟨failed, sources account List.mem_cons_self⟩
      rw [List.map_cons, abandoned,
        ih still fun other member => sources other (List.mem_cons_of_mem account member)]
      rfl

/-- Up to the first failure source folders are done or skipped; from there `abandons` applies. -/
theorem orderly (chronicle : Chronicle plan run accounts last) (unfailed : run.failure = none)
    (sources : ∀ account ∈ accounts, account.IsSource) :
    Orderly (accounts.map Account.status) := by
  induction chronicle with
  | nil => exact .nil
  | @cons run next _ account rest advances later ih =>
      have others : ∀ other ∈ rest, other.IsSource := fun other member =>
        sources other (List.mem_cons_of_mem account member)
      have failure : next.failure = account.error? plan := by
        rw [advances.failure, unfailed, Option.none_or]
      rw [List.map_cons]
      cases ends : account.error? plan with
      | some error =>
          rw [Account.failed_iff.mpr ⟨error, ends⟩,
            later.abandons (by rw [failure, ends, Option.isSome_some]) others]
          exact .failed rest.length
      | none =>
          refine .settled ?_ (ih (failure.trans ends) others)
          cases status : account.status with
          | done => exact .inl rfl
          | skipped => exact .inr rfl
          | failed =>
              obtain ⟨error, fails⟩ := Account.failed_iff.mp status
              cases fails.symm.trans ends
          | abandoned =>
              have failed := (advances.abandoned.mp status).1
              rw [unfailed] at failed
              cases failed

/-- A step that failed gives the run its error: nothing failed before it. -/
theorem failure_of_failed (chronicle : Chronicle plan run accounts last) {account : Account}
    (member : account ∈ accounts) (failed : account.status = .failed) :
    run.failure = none ∧ last.failure = account.error? plan := by
  induction chronicle with
  | nil => cases member
  | @cons run next last head rest advances later ih =>
      rcases List.mem_cons.mp member with rfl | after
      · -- A source folder that was tried shows that nothing had failed.
        have unfailed : run.failure = none := by
          cases failure : run.failure with
          | none => rfl
          | some error =>
              have abandoned := advances.abandoned.mpr
                ⟨by rw [failure, Option.isSome_some], Account.isSource_of_failed failed⟩
              cases abandoned.symm.trans failed
        obtain ⟨error, ends⟩ := Account.failed_iff.mp failed
        refine ⟨unfailed, ?_⟩
        rw [later.failure, advances.failure, unfailed, ends]
        rfl
      · obtain ⟨unfailed, failure⟩ := ih after
        rw [advances.failure, Option.or_eq_none_iff] at unfailed
        exact ⟨unfailed.1, failure⟩

theorem fails_iff (chronicle : Chronicle plan run accounts last) (unfailed : run.failure = none) :
    last.failure.isSome ↔ ∃ account ∈ accounts, account.status = .failed := by
  constructor
  · intro fails
    obtain ⟨error, failure⟩ := Option.isSome_iff_exists.mp fails
    rw [chronicle.failure, unfailed] at failure
    obtain ⟨account, member, ends⟩ := List.exists_of_findSome?_eq_some failure
    exact ⟨account, member, Account.failed_iff.mpr ⟨error, ends⟩⟩
  · rintro ⟨account, member, failed⟩
    obtain ⟨error, ends⟩ := Account.failed_iff.mp failed
    rw [(chronicle.failure_of_failed member failed).2, ends, Option.isSome_some]

end Chronicle

theorem isSource_of_steps {sources : List Account} {roots : List SourceRoot}
    (steps : sources.map Account.step = roots.map .sourceRoot) :
    ∀ account ∈ sources, account.IsSource := by
  intro account member
  have listed : account.step ∈ roots.map Step.sourceRoot := steps ▸ List.mem_map_of_mem member
  obtain ⟨source, -, same⟩ := List.mem_map.mp listed
  exact ⟨source, same.symm⟩

/-- Whatever is answered: every step is reported once, in the order of the plan; the statuses of the
source folders are orderly, and exclusions are done or skipped; the run fails if and only if a step
does, and with the error of the call that failed there. -/
theorem scaffold_failure_reported {σ : Type} (workshop : Workshop (StateM σ)) (plan : Plan)
    (project : Project) (model : RootModel) (start : σ) :
    ∃ run opened accounts finish,
      scaffold workshop plan project model start = (run, finish) ∧
      Answers workshop start (transcript plan project opened accounts) finish ∧
      run.report.steps = accounts.map (fun account => (account.step, account.status)) ∧
      run.report.steps.map Prod.fst = plan.steps ∧
      (∃ sources output auxiliary,
        run.report.steps = sources ++
          [(.excludeFolder plan.outputDir, output), (.excludeFolder plan.auxiliaryDir, auxiliary),
            (.excludeOutput, .done)] ∧
        sources.map Prod.fst = plan.sourceRoots.map .sourceRoot ∧
        Orderly (sources.map Prod.snd) ∧ (output = .done ∨ output = .skipped) ∧
        (auxiliary = .done ∨ auxiliary = .skipped)) ∧
      (run.failure.isSome ↔ ∃ step, (step, .failed) ∈ run.report.steps) ∧
      ∀ account ∈ accounts, account.status = .failed →
        ∃ source event error, account.step = .sourceRoot source ∧
          (account.events plan project).getLast? = some event ∧
          FailedCall plan project source event error ∧ run.failure = some error := by
  obtain ⟨run, opened, accounts, finish, last, log, ran, answered, covers, chronicle, report, -,
    failure⟩ := scaffold_chronicle workshop plan project model start
  have steps : run.report.steps = accounts.map fun account => (account.step, account.status) := by
    rw [report, chronicle.steps]
    rfl
  refine ⟨run, opened, accounts, finish, ran, answered, steps, ?_, ?_, ?_, ?_⟩
  · rw [steps, List.map_map]
    exact covers
  · obtain ⟨sources, output, auxiliary, rfl, atSources, atOutput, atAuxiliary⟩ :=
      accounts_split covers
    obtain ⟨middle, early, -⟩ := chronicle.split
    refine ⟨sources.map fun account => (account.step, account.status), output.status,
      auxiliary.status, ?_, ?_, ?_, output.excludeFolder_settled atOutput,
      auxiliary.excludeFolder_settled atAuxiliary⟩
    · rw [steps, List.map_append, ← atOutput, ← atAuxiliary]
      rfl
    · rw [List.map_map]
      exact atSources
    · rw [List.map_map]
      exact early.orderly rfl (isSource_of_steps atSources)
  · rw [failure, chronicle.fails_iff rfl, steps]
    constructor
    · rintro ⟨account, member, failed⟩
      exact ⟨account.step, List.mem_map.mpr ⟨account, member, by rw [failed]⟩⟩
    · rintro ⟨step, reported⟩
      obtain ⟨account, member, same⟩ := List.mem_map.mp reported
      exact ⟨account, member, (Prod.mk.inj same).2⟩
  · intro account member failed
    obtain ⟨error, ends⟩ := Account.failed_iff.mp failed
    obtain ⟨source, event, atSource, isLast, fails⟩ := Account.failedCall_of_error ends
    refine ⟨source, event, error, atSource, isLast, fails, ?_⟩
    rw [failure, (chronicle.failure_of_failed member failed).2, ends]

end TexWorkspace.Project
