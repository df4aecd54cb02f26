import TexWorkspace.Project.Template

set_option autoImplicit false

/-!
Chains of template directories, with another source of templates behind the last. Nothing is assumed
of what reading a file answers, nor of that source: both are functions of a state of any kind, which
they may change. Since the state may hold a list of what was asked, a chain that ends in the state
after some readings has asked for nothing else. Main statement: the first directory whose file is
not missing decides, be it by its text or by an error, and if there is none the last source does.
-/

namespace TexWorkspace.Project

open Files

namespace TemplateSource

/-- Directories of templates, each asked only if the file is missing in all before it. -/
def chain {m : Type → Type} [Monad m] (session : Session)
    (readText : Path → m (Except IoError String)) (places : List Path) (last : TemplateSource m) :
    TemplateSource m :=
  places.foldr (directory session readText) last

/-- What is noted where the file of a template is missing. -/
def missingNote (name : String) (place : Path) : LogLine where
  level := .debug
  source := "texkit_project::template"
  message := "No user template at " ++ (place.join ⟨name ++ ".tex"⟩).quoted ++ ", using fallback"

/-- What is noted where the file of a template is used. -/
def usedNote (name : String) (place : Path) : LogLine where
  level := .debug
  source := "texkit_project::template"
  message := "Using user template " ++ (place.join ⟨name ++ ".tex"⟩).quoted

/-- The names of the built-in templates. -/
def builtinNames : List String :=
  ["LaTeX Source", "BibTeX", "LaTeX Package", "LaTeX Document Class"]

section

variable {σ : Type}

/-- In every directory, asked one after the other, the file is missing, and the readings lead from
one state to the other. -/
inductive Missing (readText : Path → StateM σ (Except IoError String)) (name : String) :
    σ → List Path → σ → Prop where
  | nil {state : σ} : Missing readText name state [] state
  | cons {before between after : σ} {place : Path} {rest : List Path} {error : IoError} :
      readText (place.join ⟨name ++ ".tex"⟩) before = (.error error, between) →
      error.kind = .notFound →
      Missing readText name between rest after → Missing readText name before (place :: rest) after

/-- What asking a chain in a state comes to: the answer, and the state it leaves. -/
inductive Answered (session : Session) (readText : Path → StateM σ (Except IoError String))
    (last : TemplateSource (StateM σ)) (project : Project) (name : String) (before : σ) :
    List Path → Lookup × σ → Prop where
  | used {front back : List Path} {place : Path} {between after : σ} {text : String} :
      Missing readText name before front between →
      readText (place.join ⟨name ++ ".tex"⟩) between = (.ok text, after) →
      Answered session readText last project name before (front ++ place :: back)
        ({ result := .ok (Variables.render ⟨project.name, session.date, session.user⟩ text)
           log := front.map (missingNote name) ++ [usedNote name place] }, after)
  | unreadable {front back : List Path} {place : Path} {between after : σ} {error : IoError} :
      Missing readText name before front between →
      readText (place.join ⟨name ++ ".tex"⟩) between = (.error error, after) →
      error.kind ≠ .notFound →
      Answered session readText last project name before (front ++ place :: back)
        ({ result := .error (.unreadable (place.join ⟨name ++ ".tex"⟩) error)
           log := front.map (missingNote name) }, after)
  | exhausted {places : List Path} {between after : σ} {found : Lookup} :
      Missing readText name before places between →
      last project name between = (found, after) →
      Answered session readText last project name before places
        ({ result := found.result, log := places.map (missingNote name) ++ found.log }, after)

variable {session : Session} {readText : Path → StateM σ (Except IoError String)}
  {last : TemplateSource (StateM σ)} {project : Project} {name : String}

/-! ## One directory -/

theorem chain_cons (place : Path) (rest : List Path) :
    chain session readText (place :: rest) last =
      directory session readText place (chain session readText rest last) := rfl

theorem chain_used {place : Path} {rest : List Path} {before after : σ} {text : String}
    (read : readText (place.join ⟨name ++ ".tex"⟩) before = (.ok text, after)) :
    chain session readText (place :: rest) last project name before =
      ({ result := .ok (Variables.render ⟨project.name, session.date, session.user⟩ text)
         log := [usedNote name place] }, after) := by
  have asked : readText (userFile place name) before = (.ok text, after) := read
  rw [chain_cons, directory]
  simp only [bind, StateT.bind, asked]
  rfl

theorem chain_unreadable {place : Path} {rest : List Path} {before after : σ} {error : IoError}
    (read : readText (place.join ⟨name ++ ".tex"⟩) before = (.error error, after))
    (there : error.kind ≠ .notFound) :
    chain session readText (place :: rest) last project name before =
      ({ result := .error (.unreadable (place.join ⟨name ++ ".tex"⟩) error) }, after) := by
  have asked : readText (userFile place name) before = (.error error, after) := read
  rw [chain_cons, directory]
  simp only [bind, StateT.bind, asked, there]
  rfl

theorem chain_missing {place : Path} {rest : List Path} {before between after : σ}
    {error : IoError} {found : Lookup}
    (read : readText (place.join ⟨name ++ ".tex"⟩) before = (.error error, between))
    (missing : error.kind = .notFound)
    (later : chain session readText rest last project name between = (found, after)) :
    chain session readText (place :: rest) last project name before =
      ({ result := found.result, log := missingNote name place :: found.log }, after) := by
  have asked : readText (userFile place name) before = (.error error, between) := read
  rw [chain_cons, directory]
  simp only [bind, StateT.bind, asked]
  rw [if_pos missing]
  simp only [StateT.bind, later]
  rfl

/-! ## Whole chains -/

theorem chain_of_missing {front rest : List Path} {before between after : σ} {found : Lookup}
    (missing : Missing readText name before front between)
    (later : chain session readText rest last project name between = (found, after)) :
    chain session readText (front ++ rest) last project name before =
      ({ result := found.result, log := front.map (missingNote name) ++ found.log }, after) := by
  induction missing with
  | nil => exact later
  | cons read absent _ ih => exact chain_missing read absent (ih later)

theorem Answered.chain_eq {places : List Path} {before : σ} {answer : Lookup × σ}
    (answered : Answered session readText last project name before places answer) :
    chain session readText places last project name before = answer := by
  cases answered with
  | used missing read => exact chain_of_missing missing (chain_used read)
  | unreadable missing read there =>
      rw [chain_of_missing missing (chain_unreadable read there), List.append_nil]
  | exhausted missing asked =>
      have decided := @chain_of_missing σ session readText last project name places [] _ _ _ _
        missing asked
      rwa [List.append_nil] at decided

/-- One directory more, in which the file is missing, leaves what the others decide. -/
theorem Answered.behind {place : Path} {rest : List Path} {before between after : σ}
    {error : IoError} {found : Lookup}
    (read : readText (place.join ⟨name ++ ".tex"⟩) before = (.error error, between))
    (missing : error.kind = .notFound)
    (answered : Answered session readText last project name between rest (found, after)) :
    Answered session readText last project name before (place :: rest)
      ({ result := found.result, log := missingNote name place :: found.log }, after) := by
  cases answered with
  | used absent found => exact .used (.cons read missing absent) found
  | unreadable absent found there => exact .unreadable (.cons read missing absent) found there
  | exhausted absent asked => exact .exhausted (.cons read missing absent) asked

theorem answered_chain (places : List Path) (before : σ) :
    Answered session readText last project name before places
      (chain session readText places last project name before) := by
  induction places generalizing before with
  | nil => exact .exhausted .nil rfl
  | cons place rest ih =>
      cases read : readText (place.join ⟨name ++ ".tex"⟩) before with
      | mk answer between =>
          cases answer with
          | ok text =>
              rw [chain_used read]
              exact .used .nil read
          | error error =>
              by_cases missing : error.kind = .notFound
              · rw [chain_missing read missing rfl]
                exact (ih between).behind read missing
              · rw [chain_unreadable read missing]
                exact .unreadable .nil read missing

/-! ## Main statement -/

theorem builtinText?_isSome (name : String) :
    (builtinText? name).isSome = true ↔ name ∈ builtinNames := by
  unfold builtinText? builtinNames
  split <;> simp_all

/-- The built-in templates refuse a name just if it is the name of none of them. -/
theorem builtin_eq_error_iff {session : Session} {project : Project} {name : String}
    {error : TemplateError} {state : σ} :
    ((builtin session : TemplateSource (StateM σ)) project name state).1.result = .error error ↔
      name ∉ builtinNames ∧ error = .unknown name := by
  rw [← builtinText?_isSome]
  unfold builtin
  cases builtinText? name with
  | none =>
      constructor
      · rintro ⟨⟩
        exact ⟨nofun, rfl⟩
      · rintro ⟨-, rfl⟩
        rfl
  | some text =>
      constructor
      · rintro ⟨⟩
      · rintro ⟨unnamed, -⟩
        exact absurd rfl unnamed

/-- What a chain answers is decided by the first directory in which the file is not missing, by its
text or by the error of reading it, and nothing behind it is asked. If the file is missing in all of
them the last source decides; where that is the built-in templates, the name is unknown just if it
is the name of none. -/
theorem chain_eq_iff (session : Session) (readText : Path → StateM σ (Except IoError String))
    (places : List Path) (last : TemplateSource (StateM σ)) (project : Project) (name : String)
    (before : σ) (answer : Lookup × σ) :
    (chain session readText places last project name before = answer ↔
      Answered session readText last project name before places answer) ∧
    ∀ (error : TemplateError) (state : σ),
      ((builtin session : TemplateSource (StateM σ)) project name state).1.result = .error error ↔
        name ∉ builtinNames ∧ error = .unknown name := by
  refine ⟨⟨?_, Answered.chain_eq⟩, fun _ _ => builtin_eq_error_iff⟩
  rintro rfl
  exact answered_chain places before

end

end TemplateSource

end TexWorkspace.Project
