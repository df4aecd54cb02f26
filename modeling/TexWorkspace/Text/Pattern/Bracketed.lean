import TexWorkspace.Text.Pattern.Expression

set_option autoImplicit false

/-!
Reading sets of characters between brackets. Sets can stand inside sets, and two of them can be
joined by an operator; operators are taken from left to right, after the parts between them are put
together.
-/

namespace TexWorkspace.Text.Pattern

/-- A set that is open: where its bracket stands with what belongs to that, whether it is negated,
the operand and operator that wait for another operand, and the parts since the given place, the
last first. -/
structure OpenSet where
  header : Stretch
  negated : Bool
  pending : Option (SetExpression × SetOperator) := none
  place : Nat
  parts : List SetExpression

namespace OpenSet

def add (set : OpenSet) (part : SetExpression) : OpenSet :=
  { set with parts := part :: set.parts }

def joined (set : OpenSet) : SetExpression :=
  let right := SetExpression.gathered set.place set.parts
  match set.pending with
  | none => right
  | some (left, operator) =>
      .operation operator left right ⟨left.stretch.start, right.stretch.stop⟩

def operate (set : OpenSet) (operator : SetOperator) (place : Nat) : OpenSet :=
  { set with pending := some (set.joined, operator), place, parts := [] }

def close (set : OpenSet) (stop : Nat) : SetExpression :=
  .bracketed set.joined set.negated ⟨set.header.start, stop⟩

end OpenSet

def SetExpression.single (c : Char) (stretch : Stretch) : SetExpression :=
  .range ⟨⟨c, false⟩, stretch⟩ ⟨⟨c, false⟩, stretch⟩

/-- Reads an opening bracket with what belongs to it: a caret that negates the set, dashes, and a
closing bracket that stands for itself because the set would be empty. -/
def readOpening (loose : Bool) (cursor : Cursor) : Except Fault (OpenSet × Cursor) :=
  let start := cursor.place
  let first := cursor.step loose
  if first.rest = [] then fault .setUnclosed ⟨start, first.place⟩
  else
    let negated := first.rest.head? = some '^'
    let inside := if negated then first.step loose else first
    if inside.rest = [] then fault .setUnclosed ⟨start, inside.place⟩
    else
      let (dashes, after) := inside.span loose (· = '-')
      let parts := dashes.foldl
        (fun parts (spot, c) => .single c ⟨spot, spot + 1⟩ :: parts) ([] : List SetExpression)
      if after.rest = [] then fault .setUnclosed ⟨start, start⟩
      else if dashes = [] ∧ after.rest.head? = some ']' then
        let later := after.step loose
        if later.rest = [] then fault .setUnclosed ⟨start, later.place⟩
        else
          let parts := [.single ']' after.next]
          .ok ({ header := ⟨start, later.place⟩, negated, place := inside.place, parts }, later)
      else .ok ({ header := ⟨start, after.place⟩, negated, place := inside.place, parts }, after)

def readNamed? (cursor : Cursor) : Option (SetExpression × Cursor) := do
  let inside ← cursor.past? "[:"
  let (negated, start) := match inside.past? "^" with
    | some after => (true, after)
    | none => (false, inside)
  let name := start.rest.takeWhile (· ≠ ':')
  let after ← (start.drop name.length).past? ":]"
  let set ← CharSet.named.lookup (String.ofList name)
  return (.named set negated ⟨cursor.place, after.place⟩, after)

def setPart (atom : Located Atom) : Except Fault SetExpression :=
  match atom.value with
  | .literal c byte => .ok (.range ⟨⟨c, byte⟩, atom.stretch⟩ ⟨⟨c, byte⟩, atom.stretch⟩)
  | .shorthand set negated => .ok (.shorthand set negated atom.stretch)
  | .property missing => .ok (.property missing atom.stretch)
  | _ => fault .setEscape atom.stretch

def rangeEnd (atom : Located Atom) : Except Fault (Located SetChar) :=
  match atom.value with
  | .literal c byte => .ok ⟨⟨c, byte⟩, atom.stretch⟩
  | _ => fault .setRangeEnd atom.stretch

def setRange (low high : Located Atom) : Except Fault SetExpression := do
  let first ← rangeEnd low
  let last ← rangeEnd high
  if last.value.char < first.value.char then
    fault .setRangeOrder ⟨first.stretch.start, last.stretch.stop⟩
  else return .range first last

/-- Reads a single part of a set or a range of characters. A dash before a closing bracket or before
another dash makes no range. -/
def readRange (loose : Bool) (header : Stretch) (cursor : Cursor) :
    Except Fault (SetExpression × Cursor) := do
  let (low, afterLow) ← readItem loose cursor
  let dash := afterLow.settle loose
  let following := dash.second? loose
  if dash.rest = [] then fault .setUnclosed header
  else if dash.rest.head? ≠ some '-' ∨ following = some ']' ∨ following = some '-' then
    return (← setPart low, dash)
  else
    let start := dash.step loose
    if start.rest = [] then fault .setUnclosed header
    else
      let (high, after) ← readItem loose start
      return (← setRange low high, after)

def operator? (cursor : Cursor) : Option SetOperator :=
  match cursor.rest with
  | '&' :: '&' :: _ => some .intersection
  | '-' :: '-' :: _ => some .difference
  | '~' :: '~' :: _ => some .exclusive
  | _ => none

/-- What one step in reading a set comes to: sets still open, the innermost first, or the set. -/
abbrev SetStep := List OpenSet ⊕ SetExpression

def readSetPart (loose : Bool) (set : OpenSet) (outer : List OpenSet) (cursor : Cursor) :
    Except Fault (SetStep × Cursor) :=
  match cursor.rest with
  | [] => fault .setUnclosed set.header
  | '[' :: _ =>
      match readNamed? cursor with
      | some (part, after) => .ok (.inl (set.add part :: outer), after)
      | none => (readOpening loose cursor).map fun (inner, after) =>
          (.inl (inner :: set :: outer), after)
  | ']' :: _ =>
      let after := cursor.drop 1
      let closed := set.close after.place
      match outer with
      | [] => .ok (.inr closed, after)
      | parent :: more => .ok (.inl (parent.add closed :: more), after)
  | _ =>
      match operator? cursor with
      | some operator =>
          let after := cursor.drop 2
          .ok (.inl (set.operate operator after.place :: outer), after)
      | none => (readRange loose set.header cursor).map fun (part, after) =>
          (.inl (set.add part :: outer), after)

/-- Reads sets until the outermost one ends. Each step takes a character, so the text that is left
bounds their number. -/
def readSets (loose : Bool) : Nat → List OpenSet → Cursor → Except Fault (SetExpression × Cursor)
  | 0, _, cursor => fault .setUnclosed cursor.here
  | _ + 1, [], cursor => fault .setUnclosed cursor.here
  | fuel + 1, set :: outer, cursor =>
      match readSetPart loose set outer (cursor.settle loose) with
      | .error error => .error error
      | .ok (.inr whole, after) => .ok (whole, after)
      | .ok (.inl opened, after) => readSets loose fuel opened after

def readSet (loose : Bool) (bound : Nat) (cursor : Cursor) :
    Except Fault (SetExpression × Cursor) := do
  let (set, after) ← readOpening loose cursor
  readSets loose (bound + 1) [set] after

end TexWorkspace.Text.Pattern
