import TexWorkspace.Text.Pattern.Reader

set_option autoImplicit false

/-!
Log lines, and the filter that decides which of them are shown. A filter is written as clauses with
commas between them, and after a slash a pattern that messages have to fit.
-/

namespace TexWorkspace

inductive LogLevel where
  | error
  | warn
  | info
  | debug
  | trace
  deriving DecidableEq, Repr

def LogLevel.rank : LogLevel → Nat
  | .error => 1
  | .warn => 2
  | .info => 3
  | .debug => 4
  | .trace => 5

structure LogLine where
  level : LogLevel
  source : String
  message : String
  deriving DecidableEq, Repr

/-- The lines that a message takes in the log: all but the first are set in. -/
def LogLine.lines (line : LogLine) : List String :=
  match Text.cut '\n' line.message.toList with
  | [] => []
  | first :: more => String.ofList first :: more.map fun next => "    " ++ String.ofList next

/-- One clause of a filter: how much is shown of the sources whose names start with a text, or of
all. -/
structure LogClause where
  source : Option String
  shown : Nat
  deriving DecidableEq, Repr

/-- Which log lines are shown: the clause with the longest source that covers a line decides, and
the message has to fit the pattern. -/
structure LogFilter where
  clauses : List LogClause
  pattern : Option Text.Pattern := none

inductive FilterProblem where
  | clause (text : String)
  | slashes (text : String)
  | pattern (text : List Char) (problem : Text.Pattern.Problem)
  deriving DecidableEq, Repr

def FilterProblem.message : FilterProblem → String
  | .clause text => "warning: invalid logging spec '" ++ text ++ "', ignoring it"
  | .slashes text =>
      "warning: invalid logging spec '" ++ text ++ "', ignoring it (too many '/'s)"
  | .pattern text problem => "warning: invalid regex filter - " ++ problem.message text

structure FilterReading where
  filter : LogFilter
  problems : List FilterProblem := []

namespace LogFilter

/-! ## Clauses -/

/-- How many levels a level word shows. -/
def levelWord? (word : String) : Option Nat :=
  match word.toLower with
  | "off" => some 0
  | "error" => some 1
  | "warn" => some 2
  | "info" => some 3
  | "debug" => some 4
  | "trace" => some 5
  | _ => none

def trim (text : List Char) : List Char :=
  ((text.dropWhile Text.isBlank).reverse.dropWhile Text.isBlank).reverse

def readClause (part : List Char) : Except FilterProblem LogClause :=
  match (Text.cut '=' part).map String.ofList with
  | [word] =>
      match levelWord? word with
      | some shown => .ok ⟨none, shown⟩
      | none => .ok ⟨some word, 5⟩
  | [source, level] =>
      let word := String.ofList (trim level.toList)
      if word = "" then .ok ⟨some source, 5⟩
      else
        match levelWord? word with
        | some shown => .ok ⟨some source, shown⟩
        | none => .error (.clause word)
  | _ => .error (.clause (String.ofList part))

/-- Puts a clause in the place of the one on the same sources, or else after all others. -/
def put (clause : LogClause) : List LogClause → List LogClause
  | [] => [clause]
  | other :: rest =>
      if other.source = clause.source then clause :: rest else other :: put clause rest

def readClauses (text : List Char) : List LogClause × List FilterProblem :=
  let parts := ((Text.cut ',' text).map trim).filter (· ≠ [])
  parts.foldl
    (fun (clauses, problems) part =>
      match readClause part with
      | .ok clause => (put clause clauses, problems)
      | .error problem => (clauses, problems ++ [problem]))
    ([], [])

/-! ## Filters -/

/-- A filter with the given clauses. Without any it shows errors only. -/
def ofClauses (clauses : List LogClause) (pattern : Option Text.Pattern) : LogFilter :=
  ⟨if clauses = [] then [⟨none, 1⟩] else clauses, pattern⟩

def read (text : String) : FilterReading :=
  match Text.cut '/' text.toList with
  | [] => { filter := ofClauses [] none }
  | [clauses] =>
      let (clauses, problems) := readClauses clauses
      ⟨ofClauses clauses none, problems⟩
  | [clauses, pattern] =>
      let (clauses, problems) := readClauses clauses
      match Text.Pattern.read pattern with
      | .ok read => ⟨ofClauses clauses (some read), problems⟩
      | .error problem => ⟨ofClauses clauses none, problems ++ [.pattern pattern problem]⟩
  | _ => ⟨ofClauses [] none, [.slashes text]⟩

def standard : LogFilter := { clauses := [⟨none, 3⟩] }

def ofSetting : Option String → FilterReading
  | some text => read text
  | none => { filter := standard }

def covers (line : LogLine) (clause : LogClause) : Bool :=
  clause.source.all fun start => start.toList.isPrefixOf line.source.toList

def precision (clause : LogClause) : Nat :=
  (clause.source.map String.utf8ByteSize).getD 0

/-- Whether the clauses show a line. Of equally precise ones the last one decides. -/
def admits (clauses : List LogClause) (line : LogLine) : Bool :=
  let covering := clauses.filter (covers line)
  let deciding := (covering.mergeSort fun left right => precision left ≤ precision right).getLast?
  deciding.any fun clause => line.level.rank ≤ clause.shown

def shows (filter : LogFilter) (line : LogLine) : Bool :=
  admits filter.clauses line &&
    filter.pattern.all fun pattern => pattern.fits line.message.toList

end LogFilter

def FilterReading.warnings (reading : FilterReading) : String :=
  String.join (reading.problems.map fun problem => problem.message ++ "\n")

end TexWorkspace
