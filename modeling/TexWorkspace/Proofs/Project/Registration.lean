import TexWorkspace.Proofs.Project.Chronicle

set_option autoImplicit false

/-!
What a run registers. The content root has one entry, found or made; in the order of the steps, it
is extended by the source folders whose directories were found, whether or not their main files were
written, and by the excluded folders that were found. All other entries stay as they are.
-/

namespace TexWorkspace

theorem Path.same_self (path : Path) : path.same path = true := by
  simp [Path.same]

end TexWorkspace

namespace TexWorkspace.Project

/-! ## Entries -/

def ContentEntry.extend (sources : List SourceFolder) (excludes : List Path)
    (entry : ContentEntry) : ContentEntry :=
  { entry with
    sourceFolders := entry.sourceFolders ++ sources
    excludeFolders := entry.excludeFolders ++ excludes }

namespace ContentEntry

theorem extend_nil : ContentEntry.extend [] [] = id := by
  funext entry
  simp [extend]

theorem extend_extend (entry : ContentEntry) (sources moreSources : List SourceFolder)
    (excludes moreExcludes : List Path) :
    (entry.extend sources excludes).extend moreSources moreExcludes =
      entry.extend (sources ++ moreSources) (excludes ++ moreExcludes) := by
  simp [extend]

theorem addSource_eq_extend (folder : SourceFolder) : addSource folder = extend [folder] [] := by
  funext entry
  simp [addSource, extend]

theorem addExclude_eq_extend (path : Path) : addExclude path = extend [] [path] := by
  funext entry
  simp [addExclude, extend]

end ContentEntry

/-- Two changes in turn are one, since the entry found first is found again. -/
theorem updateEntry_updateEntry {root : Path} {first second : ContentEntry → ContentEntry}
    (keeps : ∀ entry, (first entry).root = entry.root) (entries : List ContentEntry) :
    updateEntry root second (updateEntry root first entries) =
      updateEntry root (fun entry => second (first entry)) entries := by
  induction entries with
  | nil => simp [updateEntry, keeps, Path.same_self]
  | cons entry rest ih =>
      cases found : entry.root.same root with
      | true => simp [updateEntry, keeps, found]
      | false => simp [updateEntry, found, ih]

theorem updateEntry_extend (root : Path) (sources moreSources : List SourceFolder)
    (excludes moreExcludes : List Path) (entries : List ContentEntry) :
    updateEntry root (ContentEntry.extend moreSources moreExcludes)
        (updateEntry root (ContentEntry.extend sources excludes) entries) =
      updateEntry root (ContentEntry.extend (sources ++ moreSources) (excludes ++ moreExcludes))
        entries := by
  have keeps (entry : ContentEntry) : (entry.extend sources excludes).root = entry.root := rfl
  rw [updateEntry_updateEntry keeps]
  simp only [ContentEntry.extend_extend]

/-- The place that is changed: the first entry of the root, or the end, where one is made. -/
theorem updateEntry_place (root : Path) (entries : List ContentEntry) :
    ∃ before entry after,
      (entries = before ++ entry :: after ∨
        entries = before ∧ entry = { root := root } ∧ after = []) ∧
      entry.root.same root ∧ (∀ other ∈ before, other.root.same root = false) ∧
      ∀ change, updateEntry root change entries = before ++ change entry :: after := by
  induction entries with
  | nil => exact ⟨[], _, [], .inr ⟨rfl, rfl, rfl⟩, Path.same_self root, nofun, fun _ => rfl⟩
  | cons first rest ih =>
      cases found : first.root.same root with
      | true =>
          refine ⟨[], first, rest, .inl rfl, found, nofun, ?_⟩
          intro change
          rw [updateEntry, if_pos found]
          rfl
      | false =>
          obtain ⟨before, entry, after, place, same, others, changed⟩ := ih
          refine ⟨first :: before, entry, after, ?_, same, ?_, ?_⟩
          · rcases place with rfl | ⟨rfl, made, none⟩
            · exact .inl rfl
            · exact .inr ⟨rfl, made, none⟩
          · intro other member
            rcases List.mem_cons.mp member with rfl | later
            · exact found
            · exact others other later
          · intro change
            rw [updateEntry, found, if_neg Bool.false_ne_true, changed]
            rfl

/-! ## Steps -/

/-- The folder that a step is about. -/
def Step.folder? : Step → Option Path
  | .sourceRoot source => some source.path
  | .excludeFolder path => some path
  | .excludeOutput => none

namespace Account

/-- The source folder that the step registers: where its directory was found, if it is a source
folder that is done or failed. -/
def source? (account : Account) : Option SourceFolder :=
  match account.step, account.status with
  | .sourceRoot source, .done => account.found?.map fun found => ⟨found, false, source.package⟩
  | .sourceRoot source, .failed => account.found?.map fun found => ⟨found, false, source.package⟩
  | _, _ => none

/-- The excluded folder that the step registers: where its directory was found, if it is an
exclusion that is done. -/
def exclude? (account : Account) : Option Path :=
  match account.step, account.status with
  | .excludeFolder _, .done => account.found?
  | _, _ => none

variable {plan : Plan} {project : Project} {account : Account}

theorem found_of_settled (settled : account.status = .done ∨ account.status = .failed)
    {path : Path} (folder : account.step.folder? = some path) :
    ∃ found, .findDirectory path (some found) ∈ account.events plan project ∧
      account.found? = some found := by
  cases account with
  | sourceFound source _ found _ =>
      cases folder
      exact ⟨found, by simp [events], rfl⟩
  | folderFound path _ found =>
      cases folder
      exact ⟨found, by simp [events], rfl⟩
  | outputExcluded => cases folder
  | abandoned => rcases settled with status | status <;> cases status
  | sourceLost => rcases settled with status | status <;> cases status
  | folderLost => rcases settled with status | status <;> cases status

theorem register_moduleName (model : RootModel) :
    (account.register plan model).moduleName = model.moduleName := by
  cases account <;> rfl

/-- A step extends the entry of the content root by what it registers. -/
theorem register_entries {model : RootModel} {sources : List SourceFolder}
    {excludes : List Path} {entries : List ContentEntry}
    (registered : model.contentEntries =
      updateEntry plan.root (ContentEntry.extend sources excludes) entries) :
    (account.register plan model).contentEntries =
      updateEntry plan.root (ContentEntry.extend (sources ++ account.source?.toList)
        (excludes ++ account.exclude?.toList)) entries := by
  cases account with
  | sourceFound source made found seeding =>
      have registers : (sourceFound source made found seeding).source? =
          some ⟨found, false, source.package⟩ := by
        cases seeding <;> rfl
      have leavesOut : (sourceFound source made found seeding).exclude? = none := by
        cases seeding <;> rfl
      change updateEntry plan.root (ContentEntry.addSource _) model.contentEntries = _
      rw [registers, leavesOut, registered, ContentEntry.addSource_eq_extend, updateEntry_extend]
      rfl
  | folderFound path made found =>
      change updateEntry plan.root (ContentEntry.addExclude found) model.contentEntries = _
      rw [registered, ContentEntry.addExclude_eq_extend, updateEntry_extend]
      rfl
  | abandoned => exact registered.trans (by simp [source?, exclude?, step, status])
  | sourceLost => exact registered.trans (by simp [source?, exclude?, step, status])
  | folderLost => exact registered.trans (by simp [source?, exclude?, step, status])
  | outputExcluded => exact registered.trans (by simp [source?, exclude?, step, status])

end Account

/-! ## Runs -/

section

variable {plan : Plan}

theorem foldl_register_moduleName (accounts : List Account) (model : RootModel) :
    (accounts.foldl (Account.register plan) model).moduleName = model.moduleName := by
  induction accounts generalizing model with
  | nil => rfl
  | cons account rest ih => rw [List.foldl_cons, ih, Account.register_moduleName]

theorem foldl_register_entries (accounts : List Account) {model : RootModel}
    {sources : List SourceFolder} {excludes : List Path} {entries : List ContentEntry}
    (registered : model.contentEntries =
      updateEntry plan.root (ContentEntry.extend sources excludes) entries) :
    (accounts.foldl (Account.register plan) model).contentEntries =
      updateEntry plan.root (ContentEntry.extend (sources ++ accounts.filterMap Account.source?)
        (excludes ++ accounts.filterMap Account.exclude?)) entries := by
  induction accounts generalizing model sources excludes with
  | nil =>
      rw [List.filterMap_nil, List.filterMap_nil, List.append_nil, List.append_nil]
      exact registered
  | cons account rest ih =>
      rw [List.foldl_cons, ih (Account.register_entries registered), List.append_assoc,
        List.append_assoc, List.filterMap_cons, List.filterMap_cons]
      cases account.source? <;> cases account.exclude? <;> rfl

theorem foldl_register_excludeOutput {accounts : List Account} (model : RootModel)
    (covers : accounts.map Account.step = plan.steps) :
    (accounts.foldl (Account.register plan) model).excludeOutput = true := by
  obtain ⟨sources, output, auxiliary, rfl, -, -, -⟩ := accounts_split covers
  rw [List.foldl_append]
  rfl

end

/-- Whatever is answered, the model says what the report says. The entry of the content root is the
first there is, or a new one at the end; it is extended by what was found for the source folders
that are done or failed and for the exclusions that are done, in the order of the steps. The main
files are those of the source folders that are done. -/
theorem scaffold_model_reported {σ : Type} (workshop : Workshop (StateM σ)) (plan : Plan)
    (project : Project) (model : RootModel) (start : σ) :
    ∃ run opened accounts finish before entry after,
      scaffold workshop plan project model start = (run, finish) ∧
      Answers workshop start (transcript plan project opened accounts) finish ∧
      accounts.map Account.step = plan.steps ∧
      run.report.steps = accounts.map (fun account => (account.step, account.status)) ∧
      run.report.mainFiles = accounts.filterMap (Account.mainFile? plan) ∧
      (model.contentEntries = before ++ entry :: after ∨
        model.contentEntries = before ∧ entry = { root := plan.root } ∧ after = []) ∧
      entry.root.same plan.root ∧ (∀ other ∈ before, other.root.same plan.root = false) ∧
      run.model = {
        moduleName := model.moduleName
        contentEntries := before ++
          { entry with
            sourceFolders := entry.sourceFolders ++ accounts.filterMap Account.source?
            excludeFolders := entry.excludeFolders ++ accounts.filterMap Account.exclude? } ::
          after
        excludeOutput := true } ∧
      ∀ account ∈ accounts, account.status = .done ∨ account.status = .failed →
        ∀ path, account.step.folder? = some path →
          ∃ found, .findDirectory path (some found) ∈ account.events plan project ∧
            account.found? = some found := by
  obtain ⟨run, opened, accounts, finish, last, log, ran, answered, covers, chronicle, report,
    modelled, -⟩ := scaffold_chronicle workshop plan project model start
  obtain ⟨before, entry, after, place, same, others, changed⟩ :=
    updateEntry_place plan.root model.contentEntries
  -- Making the content root registers it without a folder; every step extends what is there.
  have opens : (model.addEntry plan.root).contentEntries =
      updateEntry plan.root (ContentEntry.extend [] []) model.contentEntries := by
    rw [ContentEntry.extend_nil]
    rfl
  have entries : run.model.contentEntries = before ++
      entry.extend (accounts.filterMap Account.source?) (accounts.filterMap Account.exclude?) ::
        after := by
    rw [modelled, chronicle.model, foldl_register_entries accounts opens, changed]
    rfl
  have moduleName : run.model.moduleName = model.moduleName := by
    rw [modelled, chronicle.model, foldl_register_moduleName]
    rfl
  have excludeOutput : run.model.excludeOutput = true := by
    rw [modelled, chronicle.model, foldl_register_excludeOutput _ covers]
  refine ⟨run, opened, accounts, finish, before, entry, after, ran, answered, covers, ?_, ?_, place,
    same, others, ?_, fun account _ settled _ folder => account.found_of_settled settled folder⟩
  · rw [report, chronicle.steps]
    rfl
  · rw [report, chronicle.mainFiles]
    rfl
  · calc run.model
        = ⟨run.model.moduleName, run.model.contentEntries, run.model.excludeOutput⟩ := rfl
      _ = _ := by
        rw [moduleName, entries, excludeOutput]
        rfl

end TexWorkspace.Project
