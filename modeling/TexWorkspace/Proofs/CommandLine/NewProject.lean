import TexWorkspace.Proofs.CommandLine.Arguments
import TexWorkspace.Proofs.Files.Soundness
import TexWorkspace.Proofs.Json.Lines
import TexWorkspace.Proofs.Project.FailureModel
import TexWorkspace.Proofs.Project.PartialLayout
import TexWorkspace.Proofs.Project.TemplateChain

set_option autoImplicit false

/-!
The command that lays out a project, on a disk. It first reads the layout that it is asked for; if
it cannot, that is all it does. Otherwise it carries out the plan of that layout, and it succeeds if
no step fails; then it prints the model, a line for each of its parts.
-/

namespace TexWorkspace.CommandLine

open Files
open Project

/-- The machine whose files are on a disk. -/
def Machine.onDisk (session : Session) : Machine (StateM Disk) where
  files := Disk.fileSystem
  readText := Disk.reader
  session := session

/-- The lines of a model in JSON. -/
def modelLines (model : RootModel) : List Json.Line :=
  let source (folder : SourceFolder) : Json.Value := .object
    [("path", .string folder.path.text), ("is_test", .bool folder.isTest),
      ("package_prefix", .string folder.package)]
  let entry (entry : ContentEntry) : Json.Value := .object
    [("root", .string entry.root.text),
      ("source_folders", .list (entry.sourceFolders.map source)),
      ("exclude_folders", .list (entry.excludeFolders.map fun path => .string path.text))]
  Json.Value.lines (.object
    [("module_name", .string model.moduleName),
      ("content_entries", .list (model.contentEntries.map entry)),
      ("exclude_output", .bool model.excludeOutput)])

theorem print_lines (model : RootModel) :
    (model.print ++ "\n").toList = (modelLines model).flatMap (· ++ ['\n']) :=
  model.toJson.pretty_lines

theorem eq_join_of_lines {text : String} {lines : List Json.Line}
    (same : text.toList = lines.flatMap (· ++ ['\n'])) :
    text = String.join ((lines.map String.ofList).map (· ++ "\n")) := by
  rw [← String.toList_inj, same, String.toList_join, List.flatMap_map, List.flatMap_map]
  simp

namespace NewOptions

/-- The options lead to the layout: it is stored in the file they name, or if they name none, it is
the usual one. -/
inductive Loads (options : NewOptions) (disk : Disk) : Layout → Prop
  | usual : options.config = none → Loads options disk {}
  | stored {path : Path} {text : String} {layout : Layout} :
      options.config = some path → disk.readText path = .ok text →
      Layout.read text = .ok layout → Loads options disk layout

/-- The project, under the name it is given or else under that of its directory. -/
def project (options : NewOptions) : Project where
  name :=
    match options.name, options.path.fileName? with
    | some name, _ => name
    | none, some name => name
    | none, none => "main"
  root := options.path

/-- The plan of a layout, in which only the template can be another one than the layout says. -/
def plan (options : NewOptions) (layout : Layout) : Plan where
  root := options.path
  sourceRoots :=
    ⟨options.path.join ⟨layout.sourceDir⟩, layout.sourcePackage⟩ ::
      layout.extraSourceDirs.map fun dir => ⟨options.path.join ⟨dir⟩, ""⟩
  outputDir := options.path.join ⟨layout.outputDir⟩
  auxiliaryDir := options.path.join ⟨layout.auxiliaryDir⟩
  mainFile := layout.mainFile
  template :=
    match options.template with
    | some template => template
    | none => layout.template

/-- The disk, and templates from the directory that is given or else only those built in. -/
def workshop (options : NewOptions) (session : Session) : Workshop (StateM Disk) where
  files := Disk.fileSystem
  templates :=
    match options.templates with
    | some place => .directory session Disk.reader place (.builtin session)
    | none => .builtin session

/-- Carries out the plan of a layout. -/
def carryOut (options : NewOptions) (session : Session) (layout : Layout) : StateM Disk Run :=
  scaffold (options.workshop session) (options.plan layout) options.project
    { moduleName := options.project.name }

variable {options : NewOptions} {session : Session} {disk : Disk} {layout : Layout}

theorem plan_eq (options : NewOptions) (layout : Layout) :
    options.plan layout = Plan.ofLayout options.path
      { layout with template := options.template.getD layout.template } := by
  unfold plan
  cases options.template <;> rfl

theorem project_eq (options : NewOptions) :
    options.project = ⟨options.projectName, options.path⟩ := by
  unfold project projectName
  cases options.name <;> cases options.path.fileName? <;> rfl

theorem workshop_eq (options : NewOptions) (session : Session) :
    options.workshop session =
      ⟨Disk.fileSystem, options.templateSource (Machine.onDisk session)⟩ := by
  unfold workshop templateSource
  cases options.templates <;> rfl

/-! ## Loading -/

theorem Loads.unique {other : Layout} (loads : options.Loads disk layout)
    (also : options.Loads disk other) : other = layout := by
  cases loads with
  | usual unnamed =>
      cases also with
      | usual => rfl
      | stored named => cases unnamed.symm.trans named
  | stored named held read =>
      cases also with
      | usual unnamed => cases unnamed.symm.trans named
      | stored namedAlso heldAlso readAlso =>
          obtain rfl := Option.some.inj (named.symm.trans namedAlso)
          obtain rfl := Except.ok.inj (held.symm.trans heldAlso)
          exact Except.ok.inj (readAlso.symm.trans read)

/-- What a file holds is read as a layout, and the disk is left alone. -/
theorem load_onDisk (session : Session) (path : Path) (disk : Disk) :
    Layout.load (Machine.onDisk session).readText path disk =
      (match disk.readText path with
        | .error cause => .error (.inaccessible path cause)
        | .ok text => (Layout.read text).mapError (.invalid path), disk) :=
  Layout.load_reader path disk

theorem layout_of_config {path : Path} {loaded : Except LayoutError Layout} (session : Session)
    (named : options.config = some path)
    (loads : Layout.load (Machine.onDisk session).readText path disk = (loaded, disk)) :
    options.layout (Machine.onDisk session) disk =
      (loaded.map fun layout =>
        { layout with template := options.template.getD layout.template }, disk) := by
  simp only [NewOptions.layout, named, bind, StateT.bind, loads]
  rfl

theorem layout_of_loads (session : Session) (loads : options.Loads disk layout) :
    options.layout (Machine.onDisk session) disk =
      (.ok { layout with template := options.template.getD layout.template }, disk) := by
  cases loads with
  | usual unnamed =>
      unfold NewOptions.layout
      rw [unnamed]
      rfl
  | @stored path _ _ named held read =>
      have loaded := load_onDisk session path disk
      simp only [held, read] at loaded
      exact layout_of_config session named loaded

theorem layout_of_not_loads (session : Session) (fails : ¬∃ layout, options.Loads disk layout) :
    ∃ error, options.layout (Machine.onDisk session) disk = (.error error, disk) := by
  cases named : options.config with
  | none => exact absurd ⟨_, .usual named⟩ fails
  | some path =>
      have loaded := load_onDisk session path disk
      cases held : disk.readText path with
      | error cause =>
          rw [held] at loaded
          exact ⟨_, layout_of_config session named loaded⟩
      | ok text =>
          cases read : Layout.read text with
          | ok layout => exact absurd ⟨layout, .stored named held read⟩ fails
          | error fault =>
              simp only [held, read] at loaded
              exact ⟨_, layout_of_config session named loaded⟩

end NewOptions

/-! ## Running -/

variable {options : NewOptions} {session : Session} {disk finish : Disk} {layout : Layout}

theorem runNew_of_not_loads (session : Session) (fails : ¬∃ layout, options.Loads disk layout) :
    ∃ chain, runNew (Machine.onDisk session) options disk = (failed chain, disk) := by
  obtain ⟨error, loading⟩ := options.layout_of_not_loads session fails
  refine ⟨error.chain, ?_⟩
  simp only [runNew, bind, StateT.bind, loading]
  rfl

theorem runNew_of_loads {run : Run} (loads : options.Loads disk layout)
    (ran : options.carryOut session layout disk = (run, finish)) :
    runNew (Machine.onDisk session) options disk =
      (match run.failure with
        | some error =>
            failed (("Failed to scaffold " ++ options.path.quoted) :: incompleteMessage ::
              error.chain) run.log
        | none => { exitCode := 0, output := run.model.print ++ "\n", log := run.log },
        finish) := by
  have loading := options.layout_of_loads session loads
  unfold NewOptions.carryOut at ran
  rw [NewOptions.plan_eq, NewOptions.project_eq, NewOptions.workshop_eq] at ran
  have files : (Machine.onDisk session).files = Disk.fileSystem := rfl
  simp only [runNew, bind, StateT.bind, loading, files, ran]
  cases run.failure <;> rfl

theorem carryOut_unfailed_iff (options : NewOptions) (session : Session) (layout : Layout)
    (disk : Disk) :
    (options.carryOut session layout disk).1.failure = none ↔
      ∀ entry ∈ (options.carryOut session layout disk).1.report.steps, entry.2 ≠ .failed := by
  obtain ⟨final, opened, accounts, finish, last, log, ran, -, -, chronicle, report, -, failure⟩ :=
    scaffold_chronicle (options.workshop session) (options.plan layout) options.project
      { moduleName := options.project.name } disk
  have carried : options.carryOut session layout disk = (final, finish) := ran
  have fails := chronicle.fails_iff rfl
  rw [carried, failure, report, chronicle.steps, ← Option.not_isSome_iff_eq_none, fails]
  simp

/-- What the command comes to, and what it leaves on the disk. -/
structure NewOptions.Fulfilled (options : NewOptions) (session : Session) (disk : Disk)
    (outcome : Outcome) (finish : Disk) : Prop where
  /-- It succeeds if and only if the layout can be loaded and no step of its plan fails. -/
  exitCode : outcome.exitCode = 0 ↔ ∃ layout, options.Loads disk layout ∧
    ∀ entry ∈ (options.carryOut session layout disk).1.report.steps, entry.2 ≠ .failed
  /-- If it succeeds, the lines of the model are printed. -/
  output : ∀ layout, options.Loads disk layout → outcome.exitCode = 0 →
    outcome.output.toList =
      (modelLines (options.carryOut session layout disk).1.model).flatMap (· ++ ['\n'])
  /-- If it fails, nothing is printed. -/
  silent : outcome.exitCode ≠ 0 → outcome.output = ""
  /-- What is done is to carry out the plan. -/
  carriedOut : ∀ layout, options.Loads disk layout →
    finish = (options.carryOut session layout disk).2
  /-- Without a layout nothing is done. -/
  untouched : (¬∃ layout, options.Loads disk layout) → finish = disk

theorem fulfilled_of_loads {final : Run} {outcome : Outcome} (loads : options.Loads disk layout)
    (ran : options.carryOut session layout disk = (final, finish))
    (succeeds : final.failure = none ↔ outcome.exitCode = 0)
    (output : outcome.exitCode = 0 → outcome.output = final.model.print ++ "\n")
    (silent : outcome.exitCode ≠ 0 → outcome.output = "") :
    options.Fulfilled session disk outcome finish := by
  have only (other : Layout) (also : options.Loads disk other) :
      options.carryOut session other disk = (final, finish) := by
    rw [loads.unique also, ran]
  refine ⟨?_, ?_, silent, ?_, fun unloaded => absurd ⟨layout, loads⟩ unloaded⟩
  · have unfailed := carryOut_unfailed_iff options session layout disk
    rw [← succeeds, show final = (options.carryOut session layout disk).1 by rw [ran], unfailed]
    constructor
    · exact fun settled => ⟨layout, loads, settled⟩
    · rintro ⟨other, also, settled⟩
      rwa [only other also, ← ran] at settled
  · intro other also succeeded
    rw [only other also, output succeeded, print_lines]
  · intro other also
    rw [only other also]

theorem fulfilled_runNew (options : NewOptions) (session : Session) (disk : Disk) :
    ∃ outcome finish, runNew (Machine.onDisk session) options disk = (outcome, finish) ∧
      options.Fulfilled session disk outcome finish := by
  by_cases loadable : ∃ layout, options.Loads disk layout
  · obtain ⟨layout, loads⟩ := loadable
    obtain ⟨final, finish, ran⟩ :
        ∃ final finish, options.carryOut session layout disk = (final, finish) := ⟨_, _, rfl⟩
    refine ⟨_, finish, runNew_of_loads loads ran, ?_⟩
    cases failure : final.failure with
    | none =>
        exact fulfilled_of_loads loads ran (iff_of_true failure rfl) (fun _ => rfl)
          fun fails => absurd rfl fails
    | some error =>
        refine fulfilled_of_loads loads ran (iff_of_false ?_ Nat.one_ne_zero)
          (fun succeeds => absurd succeeds Nat.one_ne_zero) fun _ => rfl
        rw [failure]
        exact nofun
  · obtain ⟨chain, ran⟩ := runNew_of_not_loads session loadable
    refine ⟨_, disk, ran, ?_, ?_, fun _ => rfl, ?_, fun _ => rfl⟩
    · exact iff_of_false Nat.one_ne_zero fun ⟨layout, loads, _⟩ => loadable ⟨layout, loads⟩
    · exact fun layout loads => absurd ⟨layout, loads⟩ loadable
    · exact fun layout loads => absurd ⟨layout, loads⟩ loadable

/-! ## Free places -/

/-- A folder that is free is made and found. -/
theorem provideDirectory_of_free {disk : Disk} {path : Path} {front : List String} {name : String}
    {parent : Location} (whole : Path.segments path.text = front ++ [name])
    (allowed : Disk.refusal? path = none) (followed : Disk.Followed .find name [])
    (reached : disk.Leads .find maxLinks (disk.start path) front (.existing parent .directory))
    (free : disk.node? (parent ++ [name]) = none)
    (short : (Location.toPath (parent ++ [name])).text.utf8ByteSize ≤ maxPathLength) :
    provideDirectory Disk.fileSystem path disk =
      ({ value := some (Location.toPath (parent ++ [name])) },
        disk.put (parent ++ [name]) .directory) := by
  obtain ⟨made, leads⟩ := Disk.createDirectories_of_free whole allowed followed reached free
  have found := Disk.findDirectory?_eq_some_iff.mpr
    ⟨Disk.textRefusal?_of_refusal? allowed, _, leads, short, rfl⟩
  simp only [provideDirectory, Disk.fileSystem, bind, StateT.bind, made, found]
  rfl

/-- A main file that is free is made and filled. -/
theorem seedMainFile_of_vacant {templates : TemplateSource (StateM Disk)} {plan : Plan}
    {project : Project} {sourceRoot : Path} {directory : Location} {name text : String}
    {log : List LogLine}
    (free : disk.resolve .create (sourceRoot.join ⟨plan.mainFile⟩) = .ok (.vacant directory name))
    (looked : templates project plan.template (disk.put (directory ++ [name]) (.file .empty)) =
      ({ result := .ok text, log }, disk.put (directory ++ [name]) (.file .empty))) :
    ∃ log, seedMainFile ⟨Disk.fileSystem, templates⟩ plan project sourceRoot disk =
      ({ value := .ok (sourceRoot.join ⟨plan.mainFile⟩), log },
        disk.put (directory ++ [name]) (.file text.toUTF8)) := by
  have created : disk.createFile (sourceRoot.join ⟨plan.mainFile⟩) =
      .ok (disk.put (directory ++ [name]) (.file .empty)) := by
    rw [Disk.createFile, free]
  have written : (disk.put (directory ++ [name]) (.file .empty)).writeFile
      (sourceRoot.join ⟨plan.mainFile⟩) text.toUTF8 =
        .ok (disk.put (directory ++ [name]) (.file text.toUTF8)) := by
    rw [Disk.writeFile_of_holds (Disk.holds_put free), Disk.put_put]
  simp only [seedMainFile, Plan.mainFileIn, Disk.fileSystem, Disk.attempt, bind, StateT.bind,
    created, looked, written]
  exact ⟨_, rfl⟩

/-! ## A run with all options

Where the paths lead is derived from the rules, name by name: a path is followed by well-founded
recursion, which does not compute. -/

/-- What a layout that is not the usual one is stored as. -/
def layoutText : String :=
  "\x7b\"source_dir\": \"tex\", \"main_file\": \"notes.tex\", \"template\": \"BibTeX\"\x7d"

def storedLayout : Layout where
  sourceDir := "tex"
  mainFile := "notes.tex"
  template := "BibTeX"

def templateText : String :=
  "% $\x7bPROJECT_NAME\x7d, $\x7bUSER\x7d\n"

/-- The stored layout, and a template in a directory of templates. -/
def preparedDisk : Disk :=
  ((({} : Disk).put ["layout.json"] (.file layoutText.toUTF8)).put ["styles"] .directory).put
    ["styles", "Notes.tex"] (.file templateText.toUTF8)

def allOptions : NewOptions where
  path := ⟨"paper"⟩
  name := some "On \"x\""
  template := some "Notes"
  templates := some ⟨"styles"⟩
  config := some ⟨"layout.json"⟩

def someSession : Session := ⟨"2024-05-01", "kim"⟩

def rootedDisk : Disk :=
  preparedDisk.put ["paper"] .directory

def sourcedDisk : Disk :=
  rootedDisk.put ["paper", "tex"] .directory

def seededDisk : Disk :=
  sourcedDisk.put ["paper", "tex", "notes.tex"] (.file "% On \"x\", kim\n".toUTF8)

def keptDisk : Disk :=
  seededDisk.put ["paper", "out"] .directory

def laidOutDisk : Disk :=
  keptDisk.put ["paper", "auxil"] .directory

theorem loads_storedLayout : allOptions.Loads preparedDisk storedLayout := by
  have proper : Disk.Proper "layout.json" := by decide
  have names : Path.segments "layout.json" = ["layout.json"] := rfl
  have holds : preparedDisk.Holds ⟨"layout.json"⟩ ["layout.json"] layoutText.toUTF8 :=
    Disk.resolve_of_leads names rfl (.file proper.followed rfl)
  have read : (Layout.read layoutText).toOption = some storedLayout := by decide +kernel
  exact .stored rfl (Disk.readText_of_holds holds) (Json.ok_of_toOption read)

theorem provideDirectory_paper (disk : Disk) (path : Path) (name : String)
    (whole : Path.segments path.text = ["paper", name]) (proper : Disk.Proper name)
    (allowed : Disk.refusal? path = none) (current : disk.start path = [])
    (there : disk.node? ["paper"] = some .directory) (free : disk.node? ["paper", name] = none)
    (short : (Location.toPath ["paper", name]).text.utf8ByteSize ≤ maxPathLength) :
    provideDirectory Disk.fileSystem path disk =
      ({ value := some (Location.toPath ["paper", name]) },
        disk.put ["paper", name] .directory) := by
  have paper : Disk.Proper "paper" := by decide
  have reached : disk.Leads .find maxLinks (disk.start path) ["paper"]
      (.existing ["paper"] .directory) := by
    rw [current]
    exact .enter paper.followed there .arrived
  exact provideDirectory_of_free whole allowed proper.followed reached free short

theorem readText_template :
    (sourcedDisk.put ["paper", "tex", "notes.tex"] (.file .empty)).readText ⟨"styles/Notes.tex"⟩ =
      .ok templateText := by
  have styles : Disk.Proper "styles" := by decide
  have notes : Disk.Proper "Notes.tex" := by decide
  have names : Path.segments "styles/Notes.tex" = ["styles", "Notes.tex"] := rfl
  have holds : (sourcedDisk.put ["paper", "tex", "notes.tex"] (.file .empty)).Holds
      ⟨"styles/Notes.tex"⟩ ["styles", "Notes.tex"] templateText.toUTF8 :=
    Disk.resolve_of_leads names rfl
      (.enter (styles.followed.find _) rfl (.file notes.followed rfl))
  exact Disk.readText_of_holds holds

theorem seedMainFile_paper :
    ∃ log, seedMainFile (allOptions.workshop someSession) (allOptions.plan storedLayout)
      allOptions.project ⟨"paper/tex"⟩ sourcedDisk =
        ({ value := .ok ⟨"paper/tex/notes.tex"⟩, log }, seededDisk) := by
  have paper : Disk.Proper "paper" := by decide
  have tex : Disk.Proper "tex" := by decide
  have notes : Disk.Proper "notes.tex" := by decide
  have joined : (⟨"paper/tex"⟩ : Path).join ⟨(allOptions.plan storedLayout).mainFile⟩ =
      ⟨"paper/tex/notes.tex"⟩ := rfl
  have names : Path.segments "paper/tex/notes.tex" = ["paper", "tex", "notes.tex"] := rfl
  have free : sourcedDisk.resolve .create
      ((⟨"paper/tex"⟩ : Path).join ⟨(allOptions.plan storedLayout).mainFile⟩) =
        .ok (.vacant ["paper", "tex"] "notes.tex") := by
    rw [joined]
    refine Disk.resolve_of_leads names rfl ?_
    refine .enter { paper.followed with unended := by decide } rfl ?_
    refine .enter { tex.followed with unended := by decide } rfl ?_
    exact .vacant { notes.followed with unended := by decide } rfl
  have placed : (⟨"styles"⟩ : Path).join ⟨"Notes" ++ ".tex"⟩ = ⟨"styles/Notes.tex"⟩ := rfl
  have read : Disk.reader ((⟨"styles"⟩ : Path).join ⟨"Notes" ++ ".tex"⟩)
      (sourcedDisk.put ["paper", "tex", "notes.tex"] (.file .empty)) = (.ok templateText,
        sourcedDisk.put ["paper", "tex", "notes.tex"] (.file .empty)) := by
    rw [placed, Disk.reader, readText_template]
  have rendered : Variables.render
      ⟨allOptions.project.name, someSession.date, someSession.user⟩ templateText =
        "% On \"x\", kim\n" := by decide +kernel
  have looked := @TemplateSource.chain_used _ someSession Disk.reader (.builtin someSession)
    allOptions.project "Notes" ⟨"styles"⟩ [] _ _ _ read
  rw [rendered] at looked
  have seeded := @seedMainFile_of_vacant sourcedDisk (allOptions.workshop someSession).templates
    (allOptions.plan storedLayout) allOptions.project ⟨"paper/tex"⟩ _ _ _ _ free looked
  rwa [joined] at seeded

theorem carryOut_allOptions :
    (allOptions.carryOut someSession storedLayout preparedDisk).2 = laidOutDisk ∧
    (allOptions.carryOut someSession storedLayout preparedDisk).1.failure = none ∧
    (allOptions.carryOut someSession storedLayout preparedDisk).1.model = {
      moduleName := "On \"x\""
      contentEntries := [{
        root := ⟨"paper"⟩
        sourceFolders := [⟨⟨"/paper/tex"⟩, false, ""⟩]
        excludeFolders := [⟨"/paper/out"⟩, ⟨"/paper/auxil"⟩] }]
      excludeOutput := true } := by
  have root : Disk.fileSystem.createDirectories ⟨"paper"⟩ preparedDisk = (.ok (), rootedDisk) := by
    have paper : Disk.Proper "paper" := by decide
    have names : Path.segments "paper" = [] ++ ["paper"] := rfl
    exact (Disk.createDirectories_of_free names rfl paper.followed .arrived rfl).1
  have source : provideDirectory Disk.fileSystem ⟨"paper/tex"⟩ rootedDisk =
      ({ value := some ⟨"/paper/tex"⟩ }, sourcedDisk) :=
    provideDirectory_paper rootedDisk ⟨"paper/tex"⟩ "tex" rfl (by decide) rfl rfl rfl rfl
      (by decide)
  obtain ⟨log, seeded⟩ := seedMainFile_paper
  have output : provideDirectory Disk.fileSystem ⟨"paper/out"⟩ seededDisk =
      ({ value := some ⟨"/paper/out"⟩ }, keptDisk) :=
    provideDirectory_paper seededDisk ⟨"paper/out"⟩ "out" rfl (by decide) rfl rfl rfl rfl
      (by decide)
  have auxiliary : provideDirectory Disk.fileSystem ⟨"paper/auxil"⟩ keptDisk =
      ({ value := some ⟨"/paper/auxil"⟩ }, laidOutDisk) :=
    provideDirectory_paper keptDisk ⟨"paper/auxil"⟩ "auxil" rfl (by decide) rfl rfl rfl rfl
      (by decide)
  have planned : allOptions.plan storedLayout = {
      root := ⟨"paper"⟩
      sourceRoots := [⟨⟨"paper/tex"⟩, ""⟩]
      outputDir := ⟨"paper/out"⟩
      auxiliaryDir := ⟨"paper/auxil"⟩
      mainFile := "notes.tex"
      template := "Notes" } := rfl
  have returned {α : Type} (value : α) (disk : Disk) :
      (pure value : StateM Disk α) disk = (value, disk) := rfl
  have shop : (allOptions.workshop someSession).files = Disk.fileSystem := rfl
  unfold NewOptions.carryOut
  rw [planned] at seeded ⊢
  simp only [scaffold, openRoot, Plan.steps, List.map_cons, List.map_nil, List.cons_append,
    List.nil_append, List.foldlM_cons, List.foldlM_nil, runStep, runSource, runExclude, bind,
    StateT.bind, returned, Option.isSome_none, Bool.false_eq_true, if_false, Run.record, Run.note,
    shop, root, source, seeded, output, auxiliary]
  exact ⟨trivial, rfl, rfl⟩

/-! ## Main statement -/

/-- The command that lays out a project, with any options and on any disk. It can be asked for if no
path is empty, and however it is asked for, it comes to the same. -/
theorem run_new (options : NewOptions) (session : Session) (disk : Disk) :
    ∃ outcome finish, options.Fulfilled session disk outcome finish ∧
      (options.Valid ↔ ∃ arguments, command? arguments = some (.new options)) ∧
      ∀ arguments, command? arguments = some (.new options) →
        run (Machine.onDisk session) arguments disk = (outcome, finish) := by
  obtain ⟨outcome, finish, ran, fulfilled⟩ := fulfilled_runNew options session disk
  refine ⟨outcome, finish, fulfilled, options.valid_iff, fun arguments asked => ?_⟩
  unfold run
  rw [asked]
  exact ran

/-- The name and the template that are given stand in place of the usual name and of the template
of the stored layout; its other options hold. -/
theorem run_new_stored :
    ∃ outcome, run (Machine.onDisk someSession)
        ["new", "--config", "layout.json", "paper", "--name=On \"x\"", "--template", "Notes",
          "--templates=styles"] preparedDisk = (outcome, laidOutDisk) ∧
      outcome.exitCode = 0 ∧
      outcome.output = String.join ([
        "\x7b",
        "  \"module_name\": \"On \\\"x\\\"\",",
        "  \"content_entries\": [",
        "    \x7b",
        "      \"root\": \"paper\",",
        "      \"source_folders\": [",
        "        \x7b",
        "          \"path\": \"/paper/tex\",",
        "          \"is_test\": false,",
        "          \"package_prefix\": \"\"",
        "        \x7d",
        "      ],",
        "      \"exclude_folders\": [",
        "        \"/paper/out\",",
        "        \"/paper/auxil\"",
        "      ]",
        "    \x7d",
        "  ],",
        "  \"exclude_output\": true",
        "\x7d"].map (· ++ "\n")) := by
  obtain ⟨outcome, finish, fulfilled, -, ran⟩ := run_new allOptions someSession preparedDisk
  obtain ⟨left, unfailed, model⟩ := carryOut_allOptions
  have loads := loads_storedLayout
  have succeeds : outcome.exitCode = 0 :=
    fulfilled.exitCode.mpr ⟨_, loads, (carryOut_unfailed_iff _ _ _ _).mp unfailed⟩
  obtain rfl : finish = laidOutDisk := (fulfilled.carriedOut _ loads).trans left
  have printed := fulfilled.output _ loads succeeds
  rw [model] at printed
  refine ⟨outcome, ran _ (by decide +kernel), succeeds, (eq_join_of_lines printed).trans ?_⟩
  exact congrArg (fun lines : List String => String.join (lines.map (· ++ "\n"))) rfl

end TexWorkspace.CommandLine
