import TexWorkspace.Text.Pattern
import TexWorkspace.Text.Pattern.Escape

set_option autoImplicit false

/-!
Patterns as they are written, with the stretch of the text that each part takes. Parts may stand
inside each other only so deep: each of them counts that is put together from others.
-/

namespace TexWorkspace.Text.Pattern

structure Flags where
  caseless : Bool := false
  multiline : Bool := false
  dotAll : Bool := false
  unicode : Bool := true
  returns : Bool := false
  loose : Bool := false
  swapped : Bool := false
  deriving DecidableEq, Repr

/-! ## Sets -/

structure SetChar where
  char : Char
  byte : Bool
  deriving DecidableEq, Repr

inductive SetOperator where
  | intersection
  | difference
  | exclusive
  deriving DecidableEq, Repr

inductive SetExpression where
  | range (first last : Located SetChar)
  | named (set : CharSet) (negated : Bool) (stretch : Stretch)
  | shorthand (set : CharSet) (negated : Bool) (stretch : Stretch)
  | property (missing : FaultKind) (stretch : Stretch)
  | bracketed (inner : SetExpression) (negated : Bool) (stretch : Stretch)
  | union (parts : List SetExpression) (stretch : Stretch)
  | operation (operator : SetOperator) (left right : SetExpression) (stretch : Stretch)

namespace SetExpression

def stretch : SetExpression → Stretch
  | .range first last => ⟨first.stretch.start, last.stretch.stop⟩
  | .named _ _ stretch => stretch
  | .shorthand _ _ stretch => stretch
  | .property _ stretch => stretch
  | .bracketed _ _ stretch => stretch
  | .union _ stretch => stretch
  | .operation _ _ _ stretch => stretch

/-- Sets put together at a place; the last comes first. A single one is not put together. -/
def gathered (place : Nat) (parts : List SetExpression) : SetExpression :=
  match parts, parts.getLast? with
  | [part], _ => part
  | last :: _, some first => .union parts.reverse ⟨first.stretch.start, last.stretch.stop⟩
  | _, _ => .union [] ⟨place, place⟩

mutual

/-- The first part of a set that is nested too deep, if there is room for some levels. -/
def excess? (room : Nat) : SetExpression → Option Stretch
  | .range .. => none
  | .named .. => none
  | .shorthand .. => none
  | .property .. => none
  | .bracketed inner _ stretch => if room = 0 then some stretch else excess? (room - 1) inner
  | .union parts stretch =>
      if parts.isEmpty then none
      else if room = 0 then some stretch
      else excessIn? (room - 1) parts
  | .operation _ left right stretch =>
      if room = 0 then some stretch
      else
        match excess? (room - 1) left with
        | some found => some found
        | none => excess? (room - 1) right

def excessIn? (room : Nat) : List SetExpression → Option Stretch
  | [] => none
  | part :: parts =>
      match excess? room part with
      | some found => some found
      | none => excessIn? room parts

end

end SetExpression

/-! ## Patterns -/

/-- A pattern as it is written. A setting only changes the flags of what follows. -/
inductive Expression where
  | atom (atom : Located Atom) (flags : Flags)
  | set (set : SetExpression) (flags : Flags)
  | setting (stretch : Stretch)
  | repeated (item : Expression) (count : Count) (stretch : Stretch)
  | group (item : Expression) (number : Option Nat) (stretch : Stretch)
  | sequence (items : List Expression) (stretch : Stretch)
  | either (branches : List Expression) (stretch : Stretch)

namespace Expression

def stretch : Expression → Stretch
  | .atom part _ => part.stretch
  | .set part _ => part.stretch
  | .setting stretch => stretch
  | .repeated _ _ stretch => stretch
  | .group _ _ stretch => stretch
  | .sequence _ stretch => stretch
  | .either _ stretch => stretch

def isRepeatable : Expression → Bool
  | .setting _ => false
  | _ => true

/-- Patterns one after the other in a stretch; the last comes first. -/
def ofItems (stretch : Stretch) : List Expression → Expression
  | [item] => item
  | items => .sequence items.reverse stretch

def ofBranches (stretch : Stretch) : List Expression → Expression
  | [branch] => branch
  | branches => .either branches.reverse stretch

mutual

def excess? (room : Nat) : Expression → Option Stretch
  | .atom .. => none
  | .set part _ => part.excess? room
  | .setting _ => none
  | .repeated item _ stretch => if room = 0 then some stretch else excess? (room - 1) item
  | .group item _ stretch => if room = 0 then some stretch else excess? (room - 1) item
  | .sequence items stretch =>
      if items.isEmpty then none
      else if room = 0 then some stretch
      else excessIn? (room - 1) items
  | .either branches stretch => if room = 0 then some stretch else excessIn? (room - 1) branches

def excessIn? (room : Nat) : List Expression → Option Stretch
  | [] => none
  | item :: items =>
      match excess? room item with
      | some found => some found
      | none => excessIn? room items

end

end Expression

end TexWorkspace.Text.Pattern
