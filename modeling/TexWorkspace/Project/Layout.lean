import TexWorkspace.Files.IoError
import TexWorkspace.Json.Printer
import TexWorkspace.Json.Reader
import TexWorkspace.Path

set_option autoImplicit false

/-!
The layout of new projects: the names of their folders, of their main file and of its template. It
is stored as JSON; what a stored layout does not say is as usual.
-/

namespace TexWorkspace.Project

open Files

structure Layout where
  sourceDir : String := "src"
  sourcePackage : String := ""
  extraSourceDirs : List String := []
  outputDir : String := "out"
  auxiliaryDir : String := "auxil"
  mainFile : String := "main.tex"
  template : String := "LaTeX Source"
  deriving DecidableEq, Repr

inductive LayoutError where
  | inaccessible (path : Path) (cause : IoError)
  | invalid (path : Path) (fault : Json.Fault)
  | unprintable (path : Path)

/-- The wording of a layout error, then that of its cause. What is wrong with JSON text is not put
into words. -/
def LayoutError.chain : LayoutError → List String
  | .inaccessible path cause => ["failed to access config " ++ path.quoted, cause.message]
  | .invalid path _ => ["invalid config " ++ path.quoted]
  | .unprintable path => ["could not serialize config for " ++ path.quoted]

namespace Layout

def toJson (layout : Layout) : Json.Value :=
  .object
    [("source_dir", .string layout.sourceDir),
      ("source_prefix", .string layout.sourcePackage),
      ("extra_source_dirs", .list (layout.extraSourceDirs.map .string)),
      ("output_dir", .string layout.outputDir),
      ("auxiliary_dir", .string layout.auxiliaryDir),
      ("main_file", .string layout.mainFile),
      ("template", .string layout.template)]

def print (layout : Layout) : String :=
  layout.toJson.pretty

structure Draft where
  sourceDir : Option String := none
  sourcePackage : Option String := none
  extraSourceDirs : Option (List String) := none
  outputDir : Option String := none
  auxiliaryDir : Option String := none
  mainFile : Option String := none
  template : Option String := none

/-- The layout that a draft says, as usual where it says nothing. -/
def Draft.complete (draft : Draft) : Layout :=
  let usual : Layout := {}
  { sourceDir := draft.sourceDir.getD usual.sourceDir
    sourcePackage := draft.sourcePackage.getD usual.sourcePackage
    extraSourceDirs := draft.extraSourceDirs.getD usual.extraSourceDirs
    outputDir := draft.outputDir.getD usual.outputDir
    auxiliaryDir := draft.auxiliaryDir.getD usual.auxiliaryDir
    mainFile := draft.mainFile.getD usual.mainFile
    template := draft.template.getD usual.template }

def shape : Json.Shape Draft Layout where
  title := "struct ScaffoldConfig"
  fields :=
    [.of "source_dir" (·.sourceDir) (fun draft value => { draft with sourceDir := some value })
        Json.string,
      .of "source_prefix" (·.sourcePackage)
        (fun draft value => { draft with sourcePackage := some value }) Json.string,
      .of "extra_source_dirs" (·.extraSourceDirs)
        (fun draft value => { draft with extraSourceDirs := some value }) (Json.list Json.string),
      .of "output_dir" (·.outputDir) (fun draft value => { draft with outputDir := some value })
        Json.string,
      .of "auxiliary_dir" (·.auxiliaryDir)
        (fun draft value => { draft with auxiliaryDir := some value }) Json.string,
      .of "main_file" (·.mainFile) (fun draft value => { draft with mainFile := some value })
        Json.string,
      .of "template" (·.template) (fun draft value => { draft with template := some value })
        Json.string]
  start := {}
  optional := true
  finish := fun draft => .ok draft.complete

def read (text : String) : Except Json.Fault Layout :=
  Json.readAll shape.read text

variable {m : Type → Type} [Monad m]

/-- Reads the layout that a file holds. -/
def load (readText : Path → m (Except IoError String)) (path : Path) :
    m (Except LayoutError Layout) := do
  match ← readText path with
  | .error error => return .error (.inaccessible path error)
  | .ok text =>
      match read text with
      | .error fault => return .error (.invalid path fault)
      | .ok layout => return .ok layout

def save (writeFile : Path → ByteArray → m (Except IoError Unit)) (path : Path) (layout : Layout) :
    m (Except LayoutError Unit) := do
  match ← writeFile path layout.print.toUTF8 with
  | .error error => return .error (.inaccessible path error)
  | .ok () => return .ok ()

end Layout

end TexWorkspace.Project
