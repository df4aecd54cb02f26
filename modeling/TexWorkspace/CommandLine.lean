import TexWorkspace.Bib.KeyIndex
import TexWorkspace.Project.Scaffold

set_option autoImplicit false

/-!
The command line: which arguments are understood, what each command does, and what it leaves on the
two output streams.
-/

namespace TexWorkspace.CommandLine

open Files
open Project

/-! ## Arguments -/

inductive Topic where
  | overview
  | new
  | ids
  | help
  deriving DecidableEq, Repr

structure NewOptions where
  path : Path
  name : Option String := none
  template : Option String := none
  templates : Option Path := none
  config : Option Path := none
  deriving DecidableEq, Repr

inductive Command where
  | new (options : NewOptions)
  | ids (path : Path) (stubs : Bool)
  | help (topic : Topic)
  deriving DecidableEq, Repr

inductive OptionForm where
  | flag
  | text
  | path
  deriving DecidableEq, Repr

abbrev OptionTable := List (String × OptionForm)

structure Given where
  operand : Option String := none
  options : List (String × String) := []
  deriving DecidableEq, Repr

inductive Reading where
  | accepted (given : Given)
  | helpWanted
  | refused
  deriving DecidableEq, Repr

namespace Given

/-- Takes the one operand of a command. It is a path, so it is not empty. -/
def addOperand? (given : Given) (operand : String) : Option Given :=
  if given.operand.isSome ∨ operand = "" then none
  else some { given with operand := some operand }

/-- Takes an option with its value. No option is given twice, and no path is empty. -/
def addOption? (given : Given) (name : String) (form : OptionForm) (value : String) :
    Option Given :=
  if (given.options.lookup name).isSome ∨ (form = .path ∧ value = "") then none
  else some { given with options := given.options ++ [(name, value)] }

end Given

def longOption? (argument : String) : Option (String × Option String) :=
  match argument.toList with
  | '-' :: '-' :: c :: rest =>
      let body := c :: rest
      let name := String.ofList (body.takeWhile (· ≠ '='))
      match body.dropWhile (· ≠ '=') with
      | [] => some (name, none)
      | _ :: value => some (name, some (String.ofList value))
  | _ => none

/-- Whether an argument is an option or a mark, and so no operand and no value. A single dash is an
operand like any other. -/
def looksLikeOption (argument : String) : Bool :=
  match argument.toList with
  | '-' :: _ :: _ => true
  | _ => false

def readOperands (given : Given) : List String → Reading
  | [] => .accepted given
  | operand :: rest =>
      match given.addOperand? operand with
      | some extended => readOperands extended rest
      | none => .refused

/-- Reads the arguments of a command. Options may stand anywhere, up to a double dash. -/
def readArguments (table : OptionTable) (given : Given) : List String → Reading
  | [] => .accepted given
  | "--" :: rest => readOperands given rest
  | argument :: rest =>
      match longOption? argument with
      | some (name, attached) =>
          if name = "help" then (if attached.isNone then .helpWanted else .refused)
          else
            match table.lookup name with
            | none => .refused
            | some .flag =>
                if attached.isSome then .refused
                else
                  match given.addOption? name .flag "" with
                  | some extended => readArguments table extended rest
                  | none => .refused
            | some form =>
                match attached with
                | some value =>
                    match given.addOption? name form value with
                    | some extended => readArguments table extended rest
                    | none => .refused
                | none =>
                    match rest with
                    | [] => .refused
                    | value :: rest =>
                        if looksLikeOption value then .refused
                        else
                          match given.addOption? name form value with
                          | some extended => readArguments table extended rest
                          | none => .refused
      | none =>
          if looksLikeOption argument then
            if argument.toList.take 2 = ['-', 'h'] then .helpWanted else .refused
          else
            match given.addOperand? argument with
            | some extended => readArguments table extended rest
            | none => .refused

def newTable : OptionTable :=
  [("name", .text), ("template", .text), ("templates", .path), ("config", .path)]

def idsTable : OptionTable :=
  [("stubs", .flag)]

def command? : List String → Option Command
  | "new" :: rest =>
      match readArguments newTable {} rest with
      | .accepted given => do
          let path ← given.operand
          return .new
            { path := ⟨path⟩
              name := given.options.lookup "name"
              template := given.options.lookup "template"
              templates := (given.options.lookup "templates").map Path.mk
              config := (given.options.lookup "config").map Path.mk }
      | .helpWanted => some (.help .new)
      | .refused => none
  | "ids" :: rest =>
      match readArguments idsTable {} rest with
      | .accepted given => do
          let path ← given.operand
          return .ids ⟨path⟩ (given.options.lookup "stubs").isSome
      | .helpWanted => some (.help .ids)
      | .refused => none
  | "help" :: topics =>
      match topics with
      | [] => some (.help .overview)
      | ["new"] => some (.help .new)
      | ["ids"] => some (.help .ids)
      | ["help"] => some (.help .help)
      | _ => none
  | argument :: _ =>
      if argument = "--help" ∨ argument.toList.take 2 = ['-', 'h'] then some (.help .overview)
      else none
  | [] => none

def helpText : Topic → String
  | .overview =>
      "texkit CLI tools\n\nUsage: texkit <COMMAND>\n\nCommands:\n" ++
      "  new   Scaffold a new LaTeX project and print its module model as JSON\n" ++
      "  ids   List the entry keys of a BibTeX file\n" ++
      "  help  Print this message or the help of the given subcommand(s)\n\n" ++
      "Options:\n  -h, --help  Print help\n"
  | .new =>
      "Scaffold a new LaTeX project and print its module model as JSON\n\n" ++
      "Usage: texkit new [OPTIONS] <DIR>\n\n" ++
      "Arguments:\n  <DIR>  Content root of the new project\n\nOptions:\n" ++
      "      --name <NAME>          Project name used in templates " ++
      "(defaults to the directory name)\n" ++
      "      --template <TEMPLATE>  Template for the main file\n" ++
      "      --templates <DIR>      Directory with user templates (`<id>.tex`)\n" ++
      "      --config <FILE>        JSON scaffold configuration\n" ++
      "  -h, --help                 Print help\n"
  | .ids =>
      "List the entry keys of a BibTeX file\n\nUsage: texkit ids [OPTIONS] <FILE>\n\n" ++
      "Arguments:\n  <FILE>  Path to the .bib file\n\nOptions:\n" ++
      "      --stubs  Print the serialized id stubs instead\n" ++
      "  -h, --help   Print help\n"
  | .help =>
      "Print this message or the help of the given subcommand(s)\n\n" ++
      "Usage: texkit help [COMMAND]...\n\n" ++
      "Arguments:\n  [COMMAND]...  Print help for the subcommand(s)\n"

/-! ## Errors -/

/-- A cause in the list of causes: `lead` before its first line, as many blanks before the others.
-/
def indentCause (lead : String) (cause : String) : String :=
  let blanks := String.ofList (List.replicate lead.length ' ')
  lead ++ ("\n" ++ blanks).intercalate ((Text.cut '\n' cause.toList).map String.ofList)

/-- The text of an error and its causes. Several causes are numbered. -/
def errorText : List String → String
  | [] => ""
  | [error] => "Error: " ++ error ++ "\n"
  | [error, cause] => "Error: " ++ error ++ "\n\nCaused by:\n" ++ indentCause "    " cause ++ "\n"
  | error :: causes =>
      let numbered := causes.zipIdx.map fun (cause, number) =>
        let digits := toString number
        let padding := String.ofList (List.replicate (5 - digits.length) ' ')
        indentCause (padding ++ digits ++ ": ") cause ++ "\n"
      "Error: " ++ error ++ "\n\nCaused by:\n" ++ String.join numbered

/-! ## Running -/

structure Outcome where
  exitCode : Nat
  output : String := ""
  errors : String := ""
  log : List LogLine := []
  deriving DecidableEq, Repr

/-- What commands are run with. -/
structure Machine (m : Type → Type) where
  files : FileSystem m
  readText : Path → m (Except IoError String)
  session : Session

variable {m : Type → Type} [Monad m]

def failed (chain : List String) (log : List LogLine := []) : Outcome :=
  { exitCode := 1, errors := errorText chain, log }

/-- The layout that the options ask for: that of the given file, or the usual one, with the given
template. -/
def NewOptions.layout (options : NewOptions) (machine : Machine m) :
    m (Except LayoutError Layout) := do
  let loaded ← match options.config with
    | some path => Layout.load machine.readText path
    | none => pure (.ok {})
  return loaded.map fun layout =>
    { layout with template := options.template.getD layout.template }

/-- The name of the project: the given one, or that of its directory. -/
def NewOptions.projectName (options : NewOptions) : String :=
  (options.name <|> options.path.fileName?).getD "main"

def NewOptions.templateSource (options : NewOptions) (machine : Machine m) : TemplateSource m :=
  let builtin := TemplateSource.builtin machine.session
  match options.templates with
  | some place => TemplateSource.directory machine.session machine.readText place builtin
  | none => builtin

def runNew (machine : Machine m) (options : NewOptions) : m Outcome := do
  match ← options.layout machine with
  | .error error => return failed error.chain
  | .ok layout =>
      let name := options.projectName
      let workshop : Workshop m := ⟨machine.files, options.templateSource machine⟩
      let run ← scaffold workshop (Plan.ofLayout options.path layout) ⟨name, options.path⟩
        { moduleName := name }
      match run.failure with
      | some error =>
          let context := "Failed to scaffold " ++ options.path.quoted
          return failed (context :: incompleteMessage :: error.chain) run.log
      | none => return { exitCode := 0, output := run.model.print ++ "\n", log := run.log }

def problemNote (path : Path) (diagnostic : Bib.Diagnostic) : LogLine :=
  ⟨.warn, "texkit", path.quoted ++ ": " ++ diagnostic.problem.message ++ " at " ++
    toString diagnostic.span.start ++ ".." ++ toString diagnostic.span.stop⟩

def keyListing (text : String) (stubs : Bool) : String :=
  let document := Bib.Document.ofText text
  if stubs then (Bib.KeyIndex.ofDocument document).print ++ "\n"
  else String.join (document.keys.map fun node => (Bib.Key.ofNode node).display ++ "\n")

def runIds (machine : Machine m) (path : Path) (stubs : Bool) : m Outcome := do
  match ← machine.readText path with
  | .error error => return failed ["Failed to read " ++ path.quoted, error.message]
  | .ok text =>
      return {
        exitCode := 0
        output := keyListing text stubs
        log := (Bib.parse text).diagnostics.map (problemNote path) }

def Command.run (machine : Machine m) : Command → m Outcome
  | .new options => runNew machine options
  | .ids path stubs => runIds machine path stubs
  | .help topic => pure { exitCode := 0, output := helpText topic }

def usageText : String :=
  "Usage: texkit <COMMAND>\n\nFor more information, try '--help'.\n"

/-- Runs the program. Arguments that ask for nothing it can do end it with exit code 2. -/
def run (machine : Machine m) (arguments : List String) : m Outcome :=
  match command? arguments with
  | some command => command.run machine
  | none => pure { exitCode := 2, errors := usageText }

end TexWorkspace.CommandLine
