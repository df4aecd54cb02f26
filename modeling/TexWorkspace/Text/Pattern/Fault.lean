import TexWorkspace.Text.Cut

set_option autoImplicit false

/-!
What can be wrong with the text of a pattern, and how it is shown: the text with the faulty part
marked below it.
-/

namespace TexWorkspace.Text.Pattern

structure Stretch where
  start : Nat
  stop : Nat
  deriving DecidableEq, Repr

inductive FaultKind where
  | setEscape
  | setRangeOrder
  | setRangeEnd
  | setUnclosed
  | numberTooLarge
  | hexEmpty
  | hexNoChar
  | hexDigit
  | escapeCut
  | escapeUnknown
  | flagDangling
  | flagTwice
  | flagNegatedTwice
  | flagCut
  | flagUnknown
  | nameTwice
  | nameEmpty
  | nameChar
  | nameCut
  | groupUnclosed
  | groupUnopened
  | countOrder
  | countEmpty
  | countUnclosed
  | nothingRepeated
  | edgeUnclosed
  | edgeUnknown
  | edgeCut
  | propertyName
  | backReference
  | lookAround
  | nestedTooDeep
  | beyondUnicode
  | brokenChars
  | noProperty
  | noPropertyValue
  | noShorthand
  | noCase
  deriving DecidableEq, Repr

/-- How many parts of a pattern may stand inside each other. -/
def maxNesting : Nat := 250

def FaultKind.message : FaultKind → String
  | .setEscape => "invalid escape sequence found in character class"
  | .setRangeOrder => "invalid character class range, the start must be <= the end"
  | .setRangeEnd => "invalid range boundary, must be a literal"
  | .setUnclosed => "unclosed character class"
  | .numberTooLarge => "decimal literal invalid"
  | .hexEmpty => "hexadecimal literal empty"
  | .hexNoChar => "hexadecimal literal is not a Unicode scalar value"
  | .hexDigit => "invalid hexadecimal digit"
  | .escapeCut => "incomplete escape sequence, reached end of pattern prematurely"
  | .escapeUnknown => "unrecognized escape sequence"
  | .flagDangling => "dangling flag negation operator"
  | .flagTwice => "duplicate flag"
  | .flagNegatedTwice => "flag negation operator repeated"
  | .flagCut => "expected flag but got end of regex"
  | .flagUnknown => "unrecognized flag"
  | .nameTwice => "duplicate capture group name"
  | .nameEmpty => "empty capture group name"
  | .nameChar => "invalid capture group character"
  | .nameCut => "unclosed capture group name"
  | .groupUnclosed => "unclosed group"
  | .groupUnopened => "unopened group"
  | .countOrder => "invalid repetition count range, the start must be <= the end"
  | .countEmpty => "repetition quantifier expects a valid decimal"
  | .countUnclosed => "unclosed counted repetition"
  | .nothingRepeated => "repetition operator missing expression"
  | .edgeUnclosed =>
      "special word boundary assertion is either unclosed or contains an invalid character"
  | .edgeUnknown =>
      "unrecognized special word boundary assertion, " ++
      "valid choices are: start, end, start-half or end-half"
  | .edgeCut =>
      "found either the beginning of a special word boundary or a bounded repetition " ++
      "on a \\b with an opening brace, but no closing brace"
  | .propertyName => "invalid Unicode character class"
  | .backReference => "backreferences are not supported"
  | .lookAround => "look-around, including look-ahead and look-behind, is not supported"
  | .nestedTooDeep =>
      "exceed the maximum number of nested parentheses/brackets (" ++ toString maxNesting ++ ")"
  | .beyondUnicode => "Unicode not allowed here"
  | .brokenChars => "pattern can match invalid UTF-8"
  | .noProperty => "Unicode property not found"
  | .noPropertyValue => "Unicode property value not found"
  | .noShorthand =>
      "Unicode-aware Perl class not found (make sure the unicode-perl feature is enabled)"
  | .noCase =>
      "Unicode-aware case insensitivity matching is not available " ++
      "(make sure the unicode-case feature is enabled)"

structure Located (α : Type) where
  value : α
  stretch : Stretch

/-- A fault with the stretch that it is about, and an earlier one that it clashes with. -/
structure Fault where
  kind : FaultKind
  stretch : Stretch
  clash : Option Stretch := none
  deriving DecidableEq, Repr

def fault {α : Type} (kind : FaultKind) (stretch : Stretch) (clash : Option Stretch := none) :
    Except Fault α :=
  .error ⟨kind, stretch, clash⟩

/-! ## Display -/

structure LineColumn where
  line : Nat
  column : Nat
  deriving DecidableEq, Repr

def lineColumn (text : List Char) (place : Nat) : LineColumn :=
  let before := text.take place
  ⟨1 + before.count '\n', 1 + (before.reverse.takeWhile (· ≠ '\n')).length⟩

def withoutReturn (line : List Char) : List Char :=
  if line.getLast? = some '\r' then line.dropLast else line

/-- The lines of a text. A line feed ends a line, so none follows the last one. -/
def textLines (text : List Char) : List (List Char) :=
  match (cut '\n' text).reverse with
  | [] => []
  | last :: ended => (ended.map withoutReturn).reverse ++ if last = [] then [] else [last]

def blanks (count : Nat) : List Char :=
  List.replicate count ' '

/-- Marks below a line, in the order of their columns, of which some are passed already. -/
def underline (column : Nat) : List (LineColumn × LineColumn) → List Char
  | [] => []
  | (start, stop) :: more =>
      let gap := start.column - 1 - column
      let width := max 1 (stop.column - start.column)
      blanks gap ++ List.replicate width '^' ++ underline (column + gap + width) more

def Fault.stretches (fault : Fault) : List Stretch :=
  match fault.clash with
  | none => [fault.stretch]
  | some clash =>
      if clash.start < fault.stretch.start then [clash, fault.stretch] else [fault.stretch, clash]

/-- A text with its lines numbered, if it has several, and the parts of each line marked below it.
-/
def markedLines (text : List Char) (parts : List (LineColumn × LineColumn)) : List (List Char) :=
  let lines := textLines text
  let count := lines.length + if text.getLast? = some '\n' then 1 else 0
  let width := if count ≤ 1 then 0 else (toString count).length
  lines.zipIdx.flatMap fun (line, index) =>
    let number := (toString (index + 1)).toList
    let margin :=
      if width = 0 then blanks 4
      else blanks (width - number.length) ++ number ++ [':', ' ']
    match parts.filter fun (start, _) => start.line = index + 1 with
    | [] => [margin ++ line]
    | here => [margin ++ line, blanks margin.length ++ underline 0 here]

/-- A fault as it is shown. A text of several lines stands between two rules, and a stretch that
goes over the end of a line is named by its ends. -/
def Fault.display (fault : Fault) (text : List Char) : String :=
  let parts := fault.stretches.map fun stretch =>
    (lineColumn text stretch.start, lineColumn text stretch.stop)
  let marked := markedLines text (parts.filter fun (start, stop) => start.line = stop.line)
  let rule := String.ofList (List.replicate 79 '~')
  let body :=
    if text.contains '\n' then
      let notes := (parts.filter fun (start, stop) => start.line ≠ stop.line).map
        fun (start, stop) =>
          "on line " ++ toString start.line ++ " (column " ++ toString start.column ++
          ") through line " ++ toString stop.line ++ " (column " ++
          toString (stop.column - 1) ++ ")"
      [rule] ++ marked.map String.ofList ++ [rule] ++ notes
    else marked.map String.ofList
  "\n".intercalate (["regex parse error:"] ++ body ++ ["error: " ++ fault.kind.message])

end TexWorkspace.Text.Pattern
