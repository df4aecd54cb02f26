import TexWorkspace.Project.Scaffold

set_option autoImplicit false

/-!
Transcripts. Carrying out a plan asks a file system and a source of templates. Nothing is assumed of
their answers: they are functions of a state of any kind, which every call may change, so the same
call may be answered differently each time. A transcript lists the calls with their answers; since
the state may hold a list of what was asked, it is the transcript of the calls that were made.
-/

namespace TexWorkspace.Project

open Files

/-- A call with the answer it got. -/
inductive Event where
  | createDirectories (path : Path) (answer : Except IoError Unit)
  | findDirectory (path : Path) (answer : Option Path)
  | createFile (path : Path) (answer : Except IoError Unit)
  | lookup (project : Project) (template : String) (answer : Except TemplateError String)
  | writeFile (path : Path) (content : ByteArray) (answer : Except IoError Unit)

section

variable {σ : Type} {workshop : Workshop (StateM σ)}

/-- A call made in one state gets its answer and leaves the other state. What a template source logs
is no part of its answer. -/
inductive Event.Occurs (workshop : Workshop (StateM σ)) : σ → Event → σ → Prop
  | createDirectories {before after : σ} {path : Path} {answer : Except IoError Unit} :
      workshop.files.createDirectories path before = (answer, after) →
      Occurs workshop before (.createDirectories path answer) after
  | findDirectory {before after : σ} {path : Path} {answer : Option Path} :
      workshop.files.findDirectory path before = (answer, after) →
      Occurs workshop before (.findDirectory path answer) after
  | createFile {before after : σ} {path : Path} {answer : Except IoError Unit} :
      workshop.files.createFile path before = (answer, after) →
      Occurs workshop before (.createFile path answer) after
  | lookup {before after : σ} {project : Project} {template : String} {answer : Lookup} :
      workshop.templates project template before = (answer, after) →
      Occurs workshop before (.lookup project template answer.result) after
  | writeFile {before after : σ} {path : Path} {content : ByteArray}
      {answer : Except IoError Unit} :
      workshop.files.writeFile path content before = (answer, after) →
      Occurs workshop before (.writeFile path content answer) after

/-- Calls made one after the other get these answers and lead from one state to the other. -/
inductive Answers (workshop : Workshop (StateM σ)) : σ → List Event → σ → Prop
  | nil {state : σ} : Answers workshop state [] state
  | cons {before between after : σ} {event : Event} {rest : List Event} :
      event.Occurs workshop before between → Answers workshop between rest after →
      Answers workshop before (event :: rest) after

theorem Answers.append {before between after : σ} {front back : List Event}
    (first : Answers workshop before front between)
    (second : Answers workshop between back after) :
    Answers workshop before (front ++ back) after := by
  induction first with
  | nil => exact second
  | cons occurs _ ih => exact .cons occurs (ih second)

theorem Answers.of_cons {before after : σ} {event : Event} {rest : List Event}
    (answered : Answers workshop before (event :: rest) after) :
    ∃ between, event.Occurs workshop before between ∧ Answers workshop between rest after := by
  cases answered with
  | cons occurs later => exact ⟨_, occurs, later⟩

theorem Answers.of_append {before after : σ} {front back : List Event}
    (answered : Answers workshop before (front ++ back) after) :
    ∃ between, Answers workshop before front between ∧ Answers workshop between back after := by
  induction front generalizing before with
  | nil => exact ⟨before, .nil, answered⟩
  | cons event rest ih =>
      obtain ⟨next, occurs, later⟩ := answered.of_cons
      obtain ⟨between, first, second⟩ := ih later
      exact ⟨between, .cons occurs first, second⟩

theorem Event.Occurs.answers {before after : σ} {event : Event}
    (occurs : event.Occurs workshop before after) : Answers workshop before [event] after :=
  .cons occurs .nil

/-- From every state, the computation makes some calls and returns a value, and the two are related
as stated. -/
def Yields (workshop : Workshop (StateM σ)) {α : Type} (computation : StateM σ α)
    (post : α → List Event → Prop) : Prop :=
  ∀ before, ∃ value events after,
    computation before = (value, after) ∧ Answers workshop before events after ∧ post value events

namespace Yields

variable {α β : Type}

theorem pure {value : α} {post : α → List Event → Prop} (holds : post value []) :
    Yields workshop (Pure.pure value) post := by
  intro before
  exact ⟨value, [], before, rfl, .nil, holds⟩

theorem bind {computation : StateM σ α} {next : α → StateM σ β}
    {first : α → List Event → Prop} {post : β → List Event → Prop}
    (yields : Yields workshop computation first)
    (continues : ∀ value events, first value events →
      Yields workshop (next value) fun result more => post result (events ++ more)) :
    Yields workshop (computation >>= next) post := by
  intro before
  obtain ⟨value, events, between, ran, answered, holds⟩ := yields before
  obtain ⟨result, more, after, ranOn, answeredOn, holdsOn⟩ :=
    continues value events holds between
  refine ⟨result, events ++ more, after, ?_, answered.append answeredOn, holdsOn⟩
  -- In a state monad the second computation starts where the first one ended.
  calc (computation >>= next) before
      = next (computation before).1 (computation before).2 := rfl
    _ = (result, after) := by rw [ran, ranOn]

theorem mono {computation : StateM σ α} {post weaker : α → List Event → Prop}
    (yields : Yields workshop computation post)
    (implied : ∀ value events, post value events → weaker value events) :
    Yields workshop computation weaker := by
  intro before
  obtain ⟨value, events, after, ran, answered, holds⟩ := yields before
  exact ⟨value, events, after, ran, answered, implied value events holds⟩

theorem createDirectories (path : Path) :
    Yields workshop (workshop.files.createDirectories path) fun answer events =>
      events = [.createDirectories path answer] := by
  intro before
  exact ⟨_, _, _, rfl, (Event.Occurs.createDirectories rfl).answers, rfl⟩

theorem findDirectory (path : Path) :
    Yields workshop (workshop.files.findDirectory path) fun answer events =>
      events = [.findDirectory path answer] := by
  intro before
  exact ⟨_, _, _, rfl, (Event.Occurs.findDirectory rfl).answers, rfl⟩

theorem createFile (path : Path) :
    Yields workshop (workshop.files.createFile path) fun answer events =>
      events = [.createFile path answer] := by
  intro before
  exact ⟨_, _, _, rfl, (Event.Occurs.createFile rfl).answers, rfl⟩

theorem lookup (project : Project) (template : String) :
    Yields workshop (workshop.templates project template) fun answer events =>
      events = [.lookup project template answer.result] := by
  intro before
  exact ⟨_, _, _, rfl, (Event.Occurs.lookup rfl).answers, rfl⟩

theorem writeFile (path : Path) (content : ByteArray) :
    Yields workshop (workshop.files.writeFile path content) fun answer events =>
      events = [.writeFile path content answer] := by
  intro before
  exact ⟨_, _, _, rfl, (Event.Occurs.writeFile rfl).answers, rfl⟩

end Yields

end

end TexWorkspace.Project
