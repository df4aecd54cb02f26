import TexWorkspace.Text.Pattern.Expression

set_option autoImplicit false

/-!
What written patterns mean. Some things can be written that no pattern stands for: those that would
need to know the letters of all alphabets, and those that would fit a part of a character. Of
several faults the one comes first that is found out first, from left to right and from the inside
out.
-/

namespace TexWorkspace.Text.Pattern

namespace Flags

/-! ## Atoms -/

def literal (flags : Flags) (c : Char) (byte : Bool) (stretch : Stretch) : Except Fault Pattern :=
  if flags.unicode then
    if flags.caseless then fault .noCase stretch else .ok (.literal [c])
  else if byte ∧ 128 ≤ c.toNat then fault .brokenChars stretch
  else if flags.caseless then .ok (ofSet (CharSet.single c).caseless true)
  else .ok (.literal [c])

def shorthand (flags : Flags) (set : CharSet) (negated : Bool) (stretch : Stretch) :
    Except Fault CharSet :=
  if flags.unicode then fault .noShorthand stretch
  else if negated then fault .brokenChars stretch
  else .ok set

/-- What a property stands for: none is known. -/
def property (flags : Flags) (missing : FaultKind) (stretch : Stretch) : Except Fault CharSet :=
  if flags.unicode then fault missing stretch else fault .beyondUnicode stretch

def dot (flags : Flags) (stretch : Stretch) : Except Fault Pattern :=
  if !flags.unicode then fault .brokenChars stretch
  else if flags.dotAll then .ok (ofSet .all false)
  else if flags.returns then .ok (ofSet (CharSet.complement ⟨[(10, 10), (13, 13)]⟩) false)
  else .ok (ofSet (CharSet.single '\n').complement false)

def lineStart (flags : Flags) : Condition :=
  if !flags.multiline then .textStart else if flags.returns then .returnLineStart else .lineStart

def lineStop (flags : Flags) : Condition :=
  if !flags.multiline then .textStop else if flags.returns then .returnLineStop else .lineStop

def atom (flags : Flags) (atom : Located Atom) : Except Fault Pattern :=
  match atom.value with
  | .literal c byte => flags.literal c byte atom.stretch
  | .dot => flags.dot atom.stretch
  | .lineStart => .ok (.place flags.lineStart)
  | .lineStop => .ok (.place flags.lineStop)
  | .textStart => .ok (.place .textStart)
  | .textStop => .ok (.place .textStop)
  | .word edge => .ok (.place (if flags.unicode then .anyWord edge else .word edge))
  | .shorthand set negated =>
      (flags.shorthand set negated atom.stretch).map (ofSet · true)
  | .property missing => (flags.property missing atom.stretch).map (ofSet · true)

/-! ## Sets -/

/-- A character of a set, which has to be a byte where the set is one of bytes. -/
def setChar (flags : Flags) (c : Located SetChar) : Except Fault Char :=
  if flags.unicode ∨ c.value.char.toNat < 128 then .ok c.value.char
  else if c.value.byte then fault .brokenChars c.stretch
  else fault .beyondUnicode c.stretch

/-- A set in both cases, where case does not matter. A set of all alphabets cannot be had so, unless
it has no character that was put into it as it is. -/
def foldCase (flags : Flags) (raw : Bool) (set : CharSet) (stretch : Stretch) :
    Except Fault CharSet :=
  if !flags.caseless then .ok set
  else if flags.unicode then if raw then fault .noCase stretch else .ok set
  else .ok set.caseless

/-- A set or its complement, in both cases where case does not matter. -/
def finishSet (flags : Flags) (raw : Bool) (set : CharSet) (negated : Bool) (stretch : Stretch) :
    Except Fault CharSet := do
  let folded ← flags.foldCase raw set stretch
  if !negated then return folded
  else if flags.unicode then return folded.complement
  else fault .brokenChars stretch

end Flags

def SetOperator.apply : SetOperator → CharSet → CharSet → CharSet
  | .intersection => .intersection
  | .difference => .difference
  | .exclusive => .exclusive

namespace SetExpression

def isRange : SetExpression → Bool
  | .range _ _ => true
  | _ => false

def isRaw : SetExpression → Bool
  | .union parts _ => parts.any isRange
  | part => part.isRange

mutual

def meaning (flags : Flags) : SetExpression → Except Fault CharSet
  | .range first last => do
      let low ← flags.setChar first
      let high ← flags.setChar last
      return .between low high
  | .named set negated stretch => flags.finishSet true set negated stretch
  | .shorthand set negated stretch => flags.shorthand set negated stretch
  | .property missing stretch => flags.property missing stretch
  | .bracketed inner negated stretch => do
      let set ← meaning flags inner
      flags.finishSet inner.isRaw set negated stretch
  | .union parts _ => meaningOf flags [] parts
  | .operation operator left right _ => do
      let leftSet ← meaning flags left
      let rightSet ← meaning flags right
      let rightFolded ← flags.foldCase right.isRaw rightSet right.stretch
      let leftFolded ← flags.foldCase left.isRaw leftSet left.stretch
      return operator.apply leftFolded rightFolded

/-- The characters of written sets together, besides those of the given ranges. -/
def meaningOf (flags : Flags) (ranges : List (Nat × Nat)) :
    List SetExpression → Except Fault CharSet
  | [] => .ok (.ofRanges ranges)
  | part :: parts =>
      match meaning flags part with
      | .error error => .error error
      | .ok set => meaningOf flags (set.ranges.reverseAux ranges) parts

end

end SetExpression

/-! ## Patterns -/

namespace Expression

mutual

def meaning : Expression → Except Fault Pattern
  | .atom part flags => flags.atom part
  | .set part flags => (part.meaning flags).map (ofSet · (!flags.unicode))
  | .setting _ => .ok .nothing
  | .repeated item count _ => (meaning item).map (times count)
  | .group item number _ => (meaning item).map fun inner =>
      match number with
      | some number => .captured inner number
      | none => inner
  | .sequence items _ => (meanings [] items).map inOrder
  | .either branches _ => (meanings [] branches).map anyOf

def meanings (done : List Pattern) : List Expression → Except Fault (List Pattern)
  | [] => .ok done.reverse
  | item :: items =>
      match meaning item with
      | .error error => .error error
      | .ok pattern => meanings (pattern :: done) items

end

end Expression

end TexWorkspace.Text.Pattern
