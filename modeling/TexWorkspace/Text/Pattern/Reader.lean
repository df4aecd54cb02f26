import TexWorkspace.Text.Letters
import TexWorkspace.Text.Pattern.Bracketed
import TexWorkspace.Text.Pattern.Meaning
import TexWorkspace.Text.Pattern.Openings
import TexWorkspace.Text.Pattern.Program

set_option autoImplicit false

/-!
Reading patterns. A fault in how a pattern is written comes before any fault in what it asks for,
and of two of one kind the first in the text comes first.
-/

namespace TexWorkspace.Text.Pattern

/-- What has been read of a group: where it starts within its brackets, the branches that have
ended, where the branch starts that is under way, and the items of that; the last comes first. -/
structure Level where
  start : Nat
  branches : List Expression := []
  branchStart : Nat
  items : List Expression := []

/-- A group that is open: its bracket, its number if it is captured, the flags outside it, and what
has been read of the group around it. -/
structure OpenGroup where
  opening : Stretch
  number : Option Nat
  flags : Flags
  outside : Level

/-- How far a pattern has been read. The bound is the length of its text. -/
structure Progress where
  bound : Nat
  cursor : Cursor
  flags : Flags := {}
  level : Level := { start := 0, branchStart := 0 }
  groups : List OpenGroup := []
  captured : Nat := 0
  names : List (List Char × Stretch) := []

/-! ## Putting parts together -/

def Level.add (level : Level) (item : Expression) : Level :=
  { level with items := item :: level.items }

def Level.branch (level : Level) (stop : Nat) : Expression :=
  .ofItems ⟨level.branchStart, stop⟩ level.items

def Level.whole (level : Level) (stop : Nat) : Expression :=
  .ofBranches ⟨level.start, stop⟩ (level.branch stop :: level.branches)

def Progress.add (progress : Progress) (item : Expression) (after : Cursor) : Progress :=
  { progress with cursor := after, level := progress.level.add item }

/-! ## Flags -/

def Flags.set? (flags : Flags) (letter : Char) (value : Bool) : Option Flags :=
  match letter with
  | 'i' => some { flags with caseless := value }
  | 'm' => some { flags with multiline := value }
  | 's' => some { flags with dotAll := value }
  | 'u' => some { flags with unicode := value }
  | 'R' => some { flags with returns := value }
  | 'x' => some { flags with loose := value }
  | 'U' => some { flags with swapped := value }
  | _ => none

/-- Reads flags up to a colon or a closing bracket. Those after a dash are turned off. Each letter
read is kept with its place. -/
def readFlags (fuel : Nat) (flags : Flags) (seen : List (Char × Nat)) (cursor : Cursor) :
    Except Fault ((Flags × List (Char × Nat)) × Cursor) :=
  match fuel, cursor.rest with
  | 0, _ => fault .flagCut cursor.here
  | _, [] => fault .flagCut cursor.here
  | fuel + 1, c :: _ =>
      if c = ':' ∨ c = ')' then
        match seen with
        | ('-', spot) :: _ => fault .flagDangling ⟨spot, spot + 1⟩
        | _ => .ok ((flags, seen), cursor)
      else
        let negated := seen.any (·.1 = '-')
        let clash := (seen.lookup c).map fun spot => (⟨spot, spot + 1⟩ : Stretch)
        match if c = '-' then some flags else flags.set? c (!negated) with
        | none => fault .flagUnknown cursor.next
        | some changed =>
            if clash.isSome then
              fault (if c = '-' then .flagNegatedTwice else .flagTwice) cursor.next clash
            else readFlags fuel changed ((c, cursor.place) :: seen) (cursor.drop 1)

/-! ## Groups -/

def isNameChar (first : Bool) (c : Char) : Bool :=
  c = '_' || isLetter c || (!first && (isNumber c || c = '.' || c = '[' || c = ']'))

def readName (names : List (List Char × Stretch)) (cursor : Cursor) :
    Except Fault ((List Char × Stretch) × Cursor) :=
  let name := cursor.rest.takeWhile (· ≠ '>')
  let close := cursor.drop name.length
  let stretch : Stretch := ⟨cursor.place, close.place⟩
  match name.zipIdx.find? fun (c, index) => !isNameChar (index = 0) c with
  | some (_, index) => fault .nameChar ⟨cursor.place + index, cursor.place + index + 1⟩
  | none =>
      if close.rest = [] then fault .nameCut close.here
      else if name = [] then fault .nameEmpty cursor.here
      else
        match names.lookup name with
        | some earlier => fault .nameTwice stretch (some earlier)
        | none => .ok ((name, stretch), close.drop 1)

def lookAround? (cursor : Cursor) : Option Cursor :=
  cursor.past? "?=" <|> cursor.past? "?!" <|> cursor.past? "?<=" <|> cursor.past? "?<!"

def Progress.enter (progress : Progress) (number : Option Nat) (flags : Flags) (after : Cursor) :
    Progress :=
  { progress with
    cursor := after
    flags
    level := { start := after.place, branchStart := after.place }
    groups := ⟨progress.cursor.next, number, progress.flags, progress.level⟩ :: progress.groups }

def Progress.capture (progress : Progress) (after : Cursor) : Progress :=
  let number := progress.captured + 1
  { progress with captured := number }.enter (some number) progress.flags after

def Progress.openGroup (progress : Progress) : Except Fault Progress := do
  let opening := progress.cursor.next
  let inside := progress.cursor.step progress.flags.loose
  match lookAround? inside with
  | some after => fault .lookAround ⟨opening.start, after.place⟩
  | none =>
      match inside.past? "?P<" <|> inside.past? "?<" with
      | some start =>
          let (name, after) ← readName progress.names start
          return { progress with names := name :: progress.names }.capture after
      | none =>
          match inside.past? "?" with
          | none => return progress.capture inside
          | some start =>
              if start.rest = [] then fault .groupUnclosed opening
              else
                let ((flags, seen), close) ← readFlags (progress.bound + 1) progress.flags [] start
                let after := close.drop 1
                if close.rest.head? = some ':' then return progress.enter none flags after
                else if seen = [] then fault .nothingRepeated inside.here
                else
                  let setting := .setting ⟨opening.start, after.place⟩
                  return { progress with flags }.add setting after

def Progress.closeGroup (progress : Progress) : Except Fault Progress :=
  match progress.groups with
  | [] => fault .groupUnopened progress.cursor.next
  | group :: outer =>
      let after := progress.cursor.drop 1
      let inner := progress.level.whole progress.cursor.place
      let item := .group inner group.number ⟨group.opening.start, after.place⟩
      .ok
        { progress with
          cursor := after
          flags := group.flags
          level := group.outside.add item
          groups := outer }

def Progress.nextBranch (progress : Progress) : Progress :=
  let after := progress.cursor.drop 1
  let branch := progress.level.branch progress.cursor.place
  { progress with
    cursor := after
    level :=
      { progress.level with
        branches := branch :: progress.level.branches
        branchStart := after.place
        items := [] } }

/-! ## Repetition -/

def maxNumber : Nat := 4294967295

/-- Reads a number with the blanks around it. What is wrong with it may not be the first thing that
is wrong, so it comes with the place after it. -/
def readNumber (loose : Bool) (cursor : Cursor) : Except Fault Nat × Cursor :=
  let start := cursor.pastBlanks
  let (digits, stop) := start.span loose Char.isDigit
  let stretch : Stretch := ⟨start.place, stop.place⟩
  let value := digits.foldl (fun value (_, c) => 10 * value + (c.toNat - '0'.toNat)) 0
  let number :=
    if digits = [] then fault .countEmpty stretch
    else if maxNumber < value then fault .numberTooLarge stretch
    else .ok value
  (number, stop.pastBlanks)

def readBounds (loose : Bool) (brace : Cursor) : Except Fault ((Nat × Option Nat) × Cursor) :=
  let unclosed (cursor : Cursor) : Except Fault ((Nat × Option Nat) × Cursor) :=
    fault .countUnclosed ⟨brace.place, cursor.place⟩
  let first := brace.step loose
  if first.rest = [] then unclosed first
  else
    let (least, afterLeast) := readNumber loose first
    match afterLeast.rest with
    | [] => unclosed afterLeast
    | ',' :: _ =>
        let second := afterLeast.step loose
        match second.rest with
        | [] => unclosed second
        | '\x7d' :: _ => least.map fun least => ((least, none), second)
        | _ => do
            let least ← least
            let (most, afterMost) := readNumber loose second
            let most ← most
            return ((least, some most), afterMost)
    | _ => least.map fun least => ((least, some least), afterLeast)

/-- A count with the mark after it that makes a repetition as short as possible, or as long as
possible where that is swapped. -/
def readGreed (flags : Flags) (least : Nat) (most : Option Nat) (cursor : Cursor) :
    Count × Cursor :=
  match cursor.past? "?" with
  | some after => (⟨least, most, flags.swapped⟩, after)
  | none => (⟨least, most, !flags.swapped⟩, cursor)

def readCount (flags : Flags) (cursor : Cursor) : Except Fault (Count × Cursor) :=
  match cursor.rest with
  | '?' :: _ => .ok (readGreed flags 0 (some 1) (cursor.drop 1))
  | '*' :: _ => .ok (readGreed flags 0 none (cursor.drop 1))
  | '+' :: _ => .ok (readGreed flags 1 none (cursor.drop 1))
  | _ => do
      let ((least, most), close) ← readBounds flags.loose cursor
      if close.rest.head? ≠ some '\x7d' then
        fault .countUnclosed ⟨cursor.place, close.place⟩
      else
        let (count, after) := readGreed flags least most (close.step flags.loose)
        if most.any (· < least) then fault .countOrder ⟨cursor.place, after.place⟩
        else return (count, after)

/-- Repeats the last item, which has to be one that means something. -/
def Progress.repeatLast (progress : Progress) : Except Fault Progress :=
  match progress.level.items with
  | item :: before =>
      if item.isRepeatable then do
        let (count, after) ← readCount progress.flags progress.cursor
        let repeated := .repeated item count ⟨item.stretch.start, after.place⟩
        return { progress with
          cursor := after
          level := { progress.level with items := repeated :: before } }
      else fault .nothingRepeated progress.cursor.here
  | [] => fault .nothingRepeated progress.cursor.here

/-! ## Patterns -/

def Progress.next (progress : Progress) (c : Char) : Except Fault Progress := do
  let flags := progress.flags
  let cursor := progress.cursor
  match c with
  | '(' => progress.openGroup
  | ')' => progress.closeGroup
  | '|' => return progress.nextBranch
  | '[' =>
      let (set, after) ← readSet flags.loose progress.bound cursor
      return progress.add (.set set flags) after
  | '?' | '*' | '+' | '\x7b' => progress.repeatLast
  | '.' => return progress.add (.atom ⟨.dot, cursor.next⟩ flags) (cursor.drop 1)
  | '^' => return progress.add (.atom ⟨.lineStart, cursor.next⟩ flags) (cursor.drop 1)
  | '$' => return progress.add (.atom ⟨.lineStop, cursor.next⟩ flags) (cursor.drop 1)
  | _ =>
      let (atom, after) ← readItem flags.loose cursor
      return progress.add (.atom atom flags) after

/-- Reads parts of a pattern until its text ends. Each takes a character, so the text bounds their
number. -/
def readParts : Nat → Progress → Except Fault Expression
  | 0, progress => .ok (progress.level.whole progress.cursor.place)
  | fuel + 1, progress =>
      let settled := { progress with cursor := progress.cursor.settle progress.flags.loose }
      match settled.cursor.rest with
      | [] =>
          match settled.groups with
          | [] => .ok (settled.level.whole settled.cursor.place)
          | group :: _ => fault .groupUnclosed group.opening
      | c :: _ =>
          match settled.next c with
          | .error error => .error error
          | .ok further => readParts fuel further

def readExpression (text : List Char) : Except Fault Expression :=
  let bound := text.length
  readParts (bound + 1) { bound, cursor := ⟨0, text⟩ }

def readMeaning (text : List Char) : Except Fault Pattern := do
  let expression ← readExpression text
  match expression.excess? maxNesting with
  | some stretch => fault .nestedTooDeep stretch
  | none => expression.meaning

inductive Problem where
  | faulty (fault : Fault)
  | tooLarge
  | undecidable
  deriving DecidableEq, Repr

def Problem.message (problem : Problem) (text : List Char) : String :=
  match problem with
  | .faulty fault => fault.display text
  | .tooLarge => "Compiled regex exceeds size limit of " ++ toString maxBytes ++ " bytes."
  | .undecidable => "error building NFA"

/-- Reads a pattern. The machine that reads forward is made first. -/
def read (text : List Char) : Except Problem Pattern :=
  match readMeaning text with
  | .error fault => .error (.faulty fault)
  | .ok pattern =>
      if pattern.isTooLarge .forward then .error .tooLarge
      else if !pattern.isDecidable then .error .undecidable
      else if pattern.isTooLarge .backward then .error .tooLarge
      else .ok pattern

end TexWorkspace.Text.Pattern
