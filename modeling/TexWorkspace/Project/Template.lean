import TexWorkspace.Files.IoError
import TexWorkspace.Log
import TexWorkspace.Path

set_option autoImplicit false

/-!
Templates of new files. A template is looked up by its name and filled in for a project; user
templates in a directory come before those that are built in.
-/

namespace TexWorkspace

structure Project where
  name : String
  root : Path
  deriving DecidableEq, Repr

end TexWorkspace

namespace TexWorkspace.Project

open Files

/-! ## Filling in -/

/-- Replaces every occurrence of a mark, from left to right; the texts put in are not searched. -/
def replaceAll (mark replacement : List Char) (text : List Char) : List Char :=
  match text with
  | [] => []
  | c :: rest =>
      if mark.isPrefixOf (c :: rest) then
        replacement ++ replaceAll mark replacement (rest.drop (mark.length - 1))
      else c :: replaceAll mark replacement rest
termination_by text.length
decreasing_by
  · simp only [List.length_drop, List.length_cons]
    omega
  · simp

structure Variables where
  projectName : String
  date : String
  user : String
  deriving DecidableEq, Repr

def projectNameMark : String := "$\x7bPROJECT_NAME\x7d"

def dateMark : String := "$\x7bDATE\x7d"

def userMark : String := "$\x7bUSER\x7d"

/-- Fills in a template: first the name of the project, then in the result the date, then in that
result the user. Marks of any other kind stay. -/
def Variables.render (values : Variables) (text : String) : String :=
  let named := replaceAll projectNameMark.toList values.projectName.toList text.toList
  let dated := replaceAll dateMark.toList values.date.toList named
  String.ofList (replaceAll userMark.toList values.user.toList dated)

structure Session where
  date : String
  user : String
  deriving DecidableEq, Repr

/-- The user named by the first of two settings that is there. -/
def Session.userOf (first second : Option String) : String :=
  (first <|> second).getD ""

def Session.valuesFor (session : Session) (project : Project) : Variables :=
  ⟨project.name, session.date, session.user⟩

/-! ## Looking up -/

inductive TemplateError where
  | unknown (name : String)
  | unreadable (path : Path) (cause : IoError)
  deriving DecidableEq, Repr

def TemplateError.chain : TemplateError → List String
  | .unknown name => ["unknown template `" ++ name ++ "`"]
  | .unreadable path cause => ["failed to read template " ++ path.quoted, cause.message]

/-- The answer of a search for a template, with what was logged on the way. -/
structure Lookup where
  result : Except TemplateError String
  log : List LogLine := []

/-- Where templates come from: the text of a template, filled in for a project. -/
abbrev TemplateSource (m : Type → Type) := Project → String → m Lookup

def builtinText? : String → Option String
  | "LaTeX Source" => some <|
      "\\documentclass[11pt]\x7barticle\x7d\n\n\\title\x7b$\x7bPROJECT_NAME\x7d\x7d\n" ++
      "\\author\x7b$\x7bUSER\x7d\x7d\n\\date\x7b$\x7bDATE\x7d\x7d\n\n" ++
      "\\begin\x7bdocument\x7d\n\n    \\maketitle\n\n\\end\x7bdocument\x7d\n"
  | "BibTeX" => some "% Bibliography for $\x7bPROJECT_NAME\x7d, created $\x7bDATE\x7d\n"
  | "LaTeX Package" => some <|
      "\\NeedsTeXFormat\x7bLaTeX2e\x7d\n" ++
      "\\ProvidesPackage\x7b$\x7bPROJECT_NAME\x7d\x7d[$\x7bDATE\x7d]\n\n\\endinput\n"
  | "LaTeX Document Class" => some <|
      "\\NeedsTeXFormat\x7bLaTeX2e\x7d\n" ++
      "\\ProvidesClass\x7b$\x7bPROJECT_NAME\x7d\x7d[$\x7bDATE\x7d]\n\n" ++
      "\\LoadClass\x7barticle\x7d\n\n\\endinput\n"
  | _ => none

namespace TemplateSource

variable {m : Type → Type} [Monad m]

def constant (result : Except TemplateError String) : TemplateSource m := fun _ _ =>
  pure { result }

def builtin (session : Session) : TemplateSource m := fun project name =>
  match builtinText? name with
  | some text => pure { result := .ok ((session.valuesFor project).render text) }
  | none => pure { result := .error (.unknown name) }

def userFile (directory : Path) (name : String) : Path :=
  directory.join ⟨name ++ ".tex"⟩

def note (message : String) : LogLine :=
  ⟨.debug, "texkit_project::template", message⟩

/-- The templates of a directory; those that are not there come from elsewhere. -/
def directory (session : Session) (readText : Path → m (Except IoError String)) (place : Path)
    (fallback : TemplateSource m) : TemplateSource m := fun project name => do
  let path := userFile place name
  match ← readText path with
  | .ok text =>
      return { result := .ok ((session.valuesFor project).render text)
               log := [note ("Using user template " ++ path.quoted)] }
  | .error error =>
      if error.kind = .notFound then
        let found ← fallback project name
        return { found with
          log := note ("No user template at " ++ path.quoted ++ ", using fallback") :: found.log }
      else return { result := .error (.unreadable path error) }

end TemplateSource

end TexWorkspace.Project
