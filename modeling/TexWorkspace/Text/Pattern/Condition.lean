import TexWorkspace.Text.CharSet

set_option autoImplicit false

/-!
What a pattern can ask of a place. A text of `n` characters has `n + 1` places, each with the
characters before and after it.
-/

namespace TexWorkspace.Text

inductive WordEdge where
  | boundary
  | inside
  | start
  | stop
  | startHalf
  | stopHalf
  deriving DecidableEq, Repr

/-- What can be asked of a place. Words are runs of ASCII letters, digits and underscores; the edges
of words of all alphabets are not known here. -/
inductive Condition where
  | textStart
  | textStop
  | lineStart
  | lineStop
  | returnLineStart
  | returnLineStop
  | word (edge : WordEdge)
  | anyWord (edge : WordEdge)
  deriving DecidableEq, Repr

abbrev Surroundings := Option Char × Option Char

def WordEdge.holds (edge : WordEdge) (before after : Bool) : Bool :=
  match edge with
  | .boundary => before != after
  | .inside => before == after
  | .start => !before && after
  | .stop => before && !after
  | .startHalf => !before
  | .stopHalf => !after

/-- Whether a place meets a condition. Lines end at a line feed; where a return counts too, a return
with a line feed after it is one end. -/
def Condition.holds (condition : Condition) : Surroundings → Bool
  | (before, after) =>
      match condition with
      | .textStart => before.isNone
      | .textStop => after.isNone
      | .lineStart => before.all (· == '\n')
      | .lineStop => after.all (· == '\n')
      | .returnLineStart => before.all fun c => c == '\n' || (c == '\r' && after != some '\n')
      | .returnLineStop => after.all fun c => c == '\r' || (c == '\n' && before != some '\r')
      | .word edge => edge.holds (before.any CharSet.wordChars.contains)
          (after.any CharSet.wordChars.contains)
      | .anyWord _ => false

def Condition.isDecidable : Condition → Bool
  | .anyWord _ => false
  | _ => true

end TexWorkspace.Text
