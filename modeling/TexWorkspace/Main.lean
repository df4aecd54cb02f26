import Std.Time.Zoned
import TexWorkspace.CommandLine

set_option autoImplicit false

/-!
The program itself: the command line run on the machine it is started on. Everything that decides
something lies in the modules imported here; this one reads, writes and prints.
-/

namespace TexWorkspace

open Files

def ioErrorOfNumber (number : UInt32) (message : String) : IoError :=
  match number.toNat with
  | 2 => .notFound
  | 17 => .alreadyExists
  | 20 => .notADirectory
  | 21 => .isADirectory
  | 36 => .nameTooLong
  | 40 => .tooManyLinks
  | _ => ⟨.other, message⟩

/-- An error of this machine as an error of a file system. -/
def ioErrorOf (error : IO.Error) : IoError :=
  match error with
  | .noFileOrDirectory _ _ _ => .notFound
  | .alreadyExists _ _ _ => .alreadyExists
  | .permissionDenied _ _ _ => ⟨.permissionDenied, "Permission denied (os error 13)"⟩
  | .inappropriateType _ number message => ioErrorOfNumber number message
  | .invalidArgument _ number message => ioErrorOfNumber number message
  | .resourceExhausted _ number message => ioErrorOfNumber number message
  | .noSuchThing _ number message => ioErrorOfNumber number message
  | .otherError number message => ioErrorOfNumber number message
  | other => ⟨.other, toString other⟩

def attempt {α : Type} (action : IO α) : IO (Except IoError α) := do
  try
    return .ok (← action)
  catch error =>
    return .error (ioErrorOf error)

def findOnMachine (path : Path) : IO (Option Path) := do
  match ← attempt (IO.FS.realPath path.text) with
  | .ok found => return if ← found.isDir then some ⟨found.toString⟩ else none
  | .error _ => return none

def ensureOnMachine (path : Path) : IO (Except IoError Unit) := do
  match ← attempt (IO.FS.createDir path.text) with
  | .ok () => return .ok ()
  | .error error =>
      return if ← (System.mkFilePath [path.text]).isDir then .ok () else .error error

/-- Makes a directory on this machine after those that contain it, as far as they are missing. -/
def createOnMachine (path : Path) (parents : List Path) : IO (Except IoError Unit) := do
  if path.text = "" then return .ok ()
  match ← ensureOnMachine path, parents with
  | .error error, parent :: outer =>
      if error.kind = .notFound then
        match ← createOnMachine parent outer with
        | .ok () => ensureOnMachine path
        | .error error => return .error error
      else return .error error
  | answer, _ => return answer
termination_by parents

def machineFiles : FileSystem IO where
  createDirectories path := createOnMachine path path.parents
  findDirectory path := findOnMachine path
  createFile path := attempt do discard (IO.FS.Handle.mk path.text .append)
  writeFile path content := attempt (IO.FS.writeBinFile path.text content)

def readOnMachine (path : Path) : IO (Except IoError String) := do
  match ← attempt (IO.FS.readBinFile path.text) with
  | .error error => return .error error
  | .ok content =>
      match String.fromUTF8? content with
      | some text => return .ok text
      | none => return .error .notText

def padDigits (count n : Nat) : String :=
  let digits := toString n
  String.ofList (List.replicate (count - digits.length) '0') ++ digits

/-- Who works on this machine, and the date of today. -/
def currentSession : IO Project.Session := do
  let today := (← Std.Time.PlainDateTime.now).date
  let date := padDigits 4 today.year.toInt.toNat ++ "-" ++ padDigits 2 today.month.val.toNat ++
    "-" ++ padDigits 2 today.day.val.toNat
  return { date, user := Project.Session.userOf (← IO.getEnv "USER") (← IO.getEnv "USERNAME") }

def LogLevel.word : LogLevel → String
  | .error => "ERROR"
  | .warn => "WARN "
  | .info => "INFO "
  | .debug => "DEBUG"
  | .trace => "TRACE"

def LogLine.print (line : LogLine) : String :=
  "[" ++ line.level.word ++ " " ++ line.source ++ "] " ++ "\n".intercalate line.lines

def runProgram (arguments : List String) : IO UInt32 := do
  let machine : CommandLine.Machine IO :=
    { files := machineFiles, readText := readOnMachine, session := ← currentSession }
  let reading := LogFilter.ofSetting (← IO.getEnv "RUST_LOG")
  IO.eprint reading.warnings
  let outcome ← CommandLine.run machine arguments
  for line in outcome.log.filter reading.filter.shows do
    IO.eprintln line.print
  IO.eprint outcome.errors
  IO.print outcome.output
  return UInt32.ofNat outcome.exitCode

end TexWorkspace

def main (arguments : List String) : IO UInt32 :=
  TexWorkspace.runProgram arguments
