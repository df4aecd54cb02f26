import TexWorkspace.Text.Pattern.Condition
import TexWorkspace.Text.Pattern.Cursor

set_option autoImplicit false

/-!
The parts of a pattern that stand for one character or one place, above all those that start with a
backslash.
-/

namespace TexWorkspace.Text.Pattern

/-- A part that stands for one character or one place. A character given by two digits may be meant
as a byte. -/
inductive Atom where
  | literal (c : Char) (byte : Bool)
  | dot
  | lineStart
  | lineStop
  | textStart
  | textStop
  | word (edge : WordEdge)
  | shorthand (set : CharSet) (negated : Bool)
  | property (missing : FaultKind)
  deriving DecidableEq, Repr

/-! ## Numbers -/

def hexValue? (c : Char) : Option Nat :=
  if c.isDigit then some (c.toNat - '0'.toNat)
  else if 'a' ≤ c ∧ c ≤ 'f' then some (c.toNat - 'a'.toNat + 10)
  else if 'A' ≤ c ∧ c ≤ 'F' then some (c.toNat - 'A'.toNat + 10)
  else none

def hexNumber (digits : List Char) : Nat :=
  digits.foldl (fun value c => 16 * value + (hexValue? c).getD 0) 0

def hexChar (digits : List Char) (stretch : Stretch) : Except Fault Char :=
  let code := hexNumber digits
  if code.isValidChar then .ok (Char.ofNat code) else fault .hexNoChar stretch

def readDigits (loose : Bool) : Nat → Cursor → Except Fault (List Char × Cursor)
  | 0, cursor => .ok ([], cursor)
  | more + 1, cursor =>
      match cursor.rest with
      | [] => fault .escapeCut cursor.here
      | c :: _ =>
          if (hexValue? c).isNone then fault .hexDigit cursor.next
          else
            match readDigits loose more (cursor.step loose) with
            | .ok (digits, after) => .ok (c :: digits, after)
            | .error error => .error error

def readBraced (loose : Bool) (brace : Cursor) : Except Fault (Char × Cursor) :=
  let (digits, close) := (brace.step loose).span loose (· ≠ '\x7d')
  match digits.find? fun (_, c) => (hexValue? c).isNone with
  | some (spot, _) => fault .hexDigit ⟨spot, spot + 1⟩
  | none =>
      if close.rest = [] then fault .escapeCut ⟨brace.place, close.place⟩
      else
        let after := close.step loose
        if digits = [] then fault .hexEmpty ⟨brace.place, after.place⟩
        else
          match hexChar (digits.map Prod.snd) ⟨brace.place + 1, close.place⟩ with
          | .ok c => .ok (c, after)
          | .error error => .error error

/-- Reads a character given by its code point, from the letter that says how many digits there are.
-/
def readHex (loose : Bool) (letter : Char) (cursor : Cursor) : Except Fault (Atom × Cursor) :=
  let start := cursor.step loose
  match start.rest with
  | [] => fault .escapeCut start.here
  | '\x7b' :: _ => (readBraced loose start).map fun (c, after) => (.literal c false, after)
  | _ =>
      let count := if letter = 'x' then 2 else if letter = 'u' then 4 else 8
      match readDigits loose count start with
      | .error error => .error error
      | .ok (digits, after) =>
          (hexChar digits ⟨start.place, after.place⟩).map fun c =>
            (.literal c (letter = 'x'), after)

/-! ## Properties and edges of words -/

/-- A name of a property, whatever its case, blanks, dashes, underscores and a leading `is`. -/
def looseName (name : List Char) : List Char :=
  let startsWithIs := match name with
    | a :: b :: _ => (a = 'i' || a = 'I') && (b = 's' || b = 'S')
    | _ => false
  let body := if startsWithIs then name.drop 2 else name
  let kept := body.filterMap fun c =>
    if c = ' ' || c = '_' || c = '-' || 128 ≤ c.toNat then none else some c.toLower
  if startsWithIs && kept = ['c'] then ['i', 's', 'c'] else kept

/-- Why a property is not there: no property is known, and for a few names no value is. -/
def missingProperty (name : List Char) : FaultKind :=
  if name.any fun c => c = ':' || c = '=' then .noProperty
  else if looseName name ∈ [['c', 'f'], ['s', 'c'], ['l', 'c']] then .noPropertyValue
  else .noProperty

def readProperty (loose : Bool) (cursor : Cursor) : Except Fault (Atom × Cursor) :=
  let start := cursor.step loose
  match start.rest with
  | [] => fault .escapeCut start.here
  | '\x7b' :: _ =>
      let (name, close) := (start.step loose).span loose (· ≠ '\x7d')
      if close.rest = [] then fault .escapeCut close.here
      else .ok (.property (missingProperty (name.map Prod.snd)), close.drop 1)
  | '\\' :: _ => fault .propertyName start.next
  | c :: _ => .ok (.property (missingProperty [c]), start.step loose)

/-- Reads which edge of a word is meant, from the brace after the mark that starts at a place. A
brace that holds a number belongs to a repetition. -/
def readEdge (loose : Bool) (start : Nat) (brace : Cursor) : Except Fault (WordEdge × Cursor) :=
  let inside := brace.step loose
  let isNameChar (c : Char) : Bool := c.isAlpha || c = '-'
  match inside.rest with
  | [] => fault .edgeCut ⟨start, inside.place⟩
  | c :: _ =>
      if !isNameChar c then .ok (.boundary, brace)
      else
        let (name, close) := inside.span loose isNameChar
        if close.rest.head? ≠ some '\x7d' then fault .edgeUnclosed ⟨brace.place, close.place⟩
        else
          match String.ofList (name.map Prod.snd) with
          | "start" => .ok (.start, close.drop 1)
          | "end" => .ok (.stop, close.drop 1)
          | "start-half" => .ok (.startHalf, close.drop 1)
          | "end-half" => .ok (.stopHalf, close.drop 1)
          | _ => fault .edgeUnknown ⟨inside.place, close.place⟩

/-! ## Escapes -/

def isEscapable (c : Char) : Bool :=
  c.toNat < 128 && !c.isAlphanum && c ≠ '<' && c ≠ '>'

def shortEscape? (c : Char) : Option Atom :=
  match c with
  | 'a' => some (.literal '\x07' false)
  | 'f' => some (.literal '\x0c' false)
  | 't' => some (.literal '\t' false)
  | 'n' => some (.literal '\n' false)
  | 'r' => some (.literal '\r' false)
  | 'v' => some (.literal '\x0b' false)
  | 'A' => some .textStart
  | 'z' => some .textStop
  | 'b' => some (.word .boundary)
  | 'B' => some (.word .inside)
  | '<' => some (.word .start)
  | '>' => some (.word .stop)
  | 'd' => some (.shorthand .digits false)
  | 's' => some (.shorthand .spaces false)
  | 'w' => some (.shorthand .wordChars false)
  | 'D' => some (.shorthand .digits true)
  | 'S' => some (.shorthand .spaces true)
  | 'W' => some (.shorthand .wordChars true)
  | _ => if isEscapable c then some (.literal c false) else none

def readEscape (loose : Bool) (start : Nat) (cursor : Cursor) : Except Fault (Atom × Cursor) :=
  match cursor.rest with
  | [] => fault .escapeCut ⟨start, cursor.place⟩
  | c :: rest =>
      if c.isDigit then fault .backReference ⟨start, cursor.place + 1⟩
      else if c = 'x' ∨ c = 'u' ∨ c = 'U' then readHex loose c cursor
      else if c = 'p' ∨ c = 'P' then readProperty loose cursor
      else if c = 'b' ∧ rest.head? = some '\x7b' then
        (readEdge loose start (cursor.drop 1)).map fun (edge, after) => (.word edge, after)
      else
        match shortEscape? c with
        | some atom => .ok (atom, cursor.drop 1)
        | none => fault .escapeUnknown ⟨start, cursor.place + 1⟩

def readItem (loose : Bool) (cursor : Cursor) : Except Fault (Located Atom × Cursor) :=
  match cursor.rest with
  | [] => fault .escapeCut cursor.here
  | '\\' :: _ =>
      (readEscape loose cursor.place (cursor.drop 1)).map fun (atom, after) =>
        (⟨atom, cursor.place, after.place⟩, after)
  | c :: _ => .ok (⟨.literal c false, cursor.next⟩, cursor.drop 1)

end TexWorkspace.Text.Pattern
