import TexWorkspace.Files.FileSystem

set_option autoImplicit false

/-!
A file system that keeps no files and follows a script. Every call succeeds and every directory is
found under the path it was asked for, except where a rule of the script says otherwise.
-/

namespace TexWorkspace.Files

inductive CallName where
  | createDirectories
  | findDirectory
  | createFile
  | writeFile
  deriving DecidableEq, Repr

inductive Outcome where
  | fails (error : IoError)
  | resolves (path : Option Path)
  deriving Repr

/-- A rule of a script: for the calls of one name, on one path or on all, at every time or only at
the `nth`. It counts the calls that it matches. -/
structure ScriptRule where
  call : CallName
  path : Option Path
  nth : Option Nat
  outcome : Outcome
  count : Nat := 0

namespace ScriptRule

def covers (rule : ScriptRule) (call : CallName) (path : Path) : Bool :=
  rule.call = call && rule.path.all (· = path)

def step (rule : ScriptRule) (call : CallName) (path : Path) : ScriptRule :=
  if rule.covers call path then { rule with count := rule.count + 1 } else rule

/-- Whether the rule, which has counted the call, decides about it. -/
def applies (rule : ScriptRule) (call : CallName) (path : Path) : Bool :=
  rule.covers call path && rule.nth.all (· = rule.count)

end ScriptRule

/-- What the first rule that applies makes of a call, if one does. -/
def consult (call : CallName) (path : Path) : StateM (List ScriptRule) (Option Outcome) :=
  fun rules =>
    let counted := rules.map (·.step call path)
    ((counted.find? (·.applies call path)).map (·.outcome), counted)

def Outcome.answer : Option Outcome → Except IoError Unit
  | some (.fails error) => .error error
  | _ => .ok ()

def Outcome.directory (path : Path) : Option Outcome → Option Path
  | some (.resolves found) => found
  | some (.fails _) => none
  | none => some path

def scripted : FileSystem (StateM (List ScriptRule)) where
  createDirectories path := do return Outcome.answer (← consult .createDirectories path)
  findDirectory path := do return Outcome.directory path (← consult .findDirectory path)
  createFile path := do return Outcome.answer (← consult .createFile path)
  writeFile path _ := do return Outcome.answer (← consult .writeFile path)

end TexWorkspace.Files
