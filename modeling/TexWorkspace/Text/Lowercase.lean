import TexWorkspace.Text.CaseTables
import TexWorkspace.Text.CharSet

set_option autoImplicit false

/-!
Lower case forms of text, by the full mapping of the Unicode standard, and the coarser comparison
that folds ASCII letters only.
-/

namespace TexWorkspace.Text

def isCased (c : Char) : Bool :=
  inRanges casedRanges c.toNat

/-- Whether the character is passed over when looking for a cased neighbour. -/
def isCaseIgnorable (c : Char) : Bool :=
  inRanges caseIgnorableRanges c.toNat

def meetsCased (chars : List Char) : Bool :=
  ((chars.dropWhile isCaseIgnorable).head?.map isCased).getD false

/-- The lower case of a capital sigma between `before`, nearest character first, and `after`: the
final form at the end of a word. -/
def lowerSigma (before after : List Char) : Char :=
  if meetsCased before && !meetsCased after then 'ς' else 'σ'

def lowerChar (c : Char) : List Char :=
  if c = 'İ' then ['i', Char.ofNat 0x307]
  else
    match capitalRuns.find? fun run => run.covers c.toNat with
    | some run => [Char.ofNat (c.toNat + run.shift).toNat]
    | none => [c]

/-- The lower case form of the characters, those `before` them nearest first. -/
def lowerChars (before : List Char) : List Char → List Char
  | [] => []
  | c :: after =>
      (if c = 'Σ' then [lowerSigma before after] else lowerChar c) ++ lowerChars (c :: before) after

def lowercase (text : String) : String :=
  String.ofList (lowerChars [] text.toList)

def sameIgnoringAsciiCase (left right : String) : Bool :=
  left.toList.map Char.toLower == right.toList.map Char.toLower

end TexWorkspace.Text
