import TexWorkspace.Text.Pattern.Condition

set_option autoImplicit false

/-!
Patterns of text. The functions that put patterns together keep them plain: a sequence has at least
two items, none of which is a sequence or asks for nothing, and no two literals stand side by side
in it; branches are at least two, none of them has branches of its own, and they are not all sets.
-/

namespace TexWorkspace.Text

/-- How often something is repeated, and whether as often as possible. -/
structure Count where
  least : Nat
  most : Option Nat
  greedy : Bool
  deriving DecidableEq, Repr

/-- A pattern. A set may be meant as one of bytes, which are then those of ASCII characters. A group
that is captured has a number. -/
inductive Pattern where
  | nothing
  | literal (chars : List Char)
  | one (set : CharSet) (bytes : Bool)
  | place (condition : Condition)
  | repeated (item : Pattern) (count : Count)
  | captured (item : Pattern) (number : Nat)
  | sequence (items : List Pattern)
  | either (branches : List Pattern)

namespace Pattern

/-! ## Equality -/

mutual

def same : Pattern → Pattern → Bool
  | .nothing, .nothing => true
  | .literal left, .literal right => left == right
  | .one left leftBytes, .one right rightBytes => leftBytes == rightBytes && left == right
  | .place left, .place right => left == right
  | .repeated left leftCount, .repeated right rightCount =>
      leftCount == rightCount && same left right
  | .captured left leftNumber, .captured right rightNumber =>
      leftNumber == rightNumber && same left right
  | .sequence left, .sequence right => sameAll left right
  | .either left, .either right => sameAll left right
  | _, _ => false

def sameAll : List Pattern → List Pattern → Bool
  | [], [] => true
  | left :: lefts, right :: rights => same left right && sameAll lefts rights
  | _, _ => false

end

/-! ## Measures -/

/-- What to make of each kind of pattern, given its parts with what has been made of them. -/
structure Rule (α : Type) where
  nothing : α
  literal : List Char → α
  one : CharSet → Bool → α
  place : Condition → α
  repeated : Pattern × α → Count → α
  captured : Pattern × α → Nat → α
  sequence : List (Pattern × α) → α
  either : List (Pattern × α) → α

mutual

def measure {α : Type} (rule : Rule α) : Pattern → α
  | .nothing => rule.nothing
  | .literal chars => rule.literal chars
  | .one set bytes => rule.one set bytes
  | .place condition => rule.place condition
  | .repeated item count => rule.repeated (item, measure rule item) count
  | .captured item number => rule.captured (item, measure rule item) number
  | .sequence items => rule.sequence (measureAll rule [] items)
  | .either branches => rule.either (measureAll rule [] branches)

/-- What a rule makes of patterns, each with the pattern, after others of which the last comes
first. -/
def measureAll {α : Type} (rule : Rule α) (done : List (Pattern × α)) :
    List Pattern → List (Pattern × α)
  | [] => done.reverse
  | pattern :: rest => measureAll rule ((pattern, measure rule pattern) :: done) rest

end

/-- How many characters a text has at least that fits a pattern, if that is known: it is not if some
part fits nothing. -/
def shortest : Pattern → Option Nat :=
  measure
    { nothing := some 0
      literal := fun chars => some chars.length
      one := fun set _ => if set.ranges = [] then none else some 1
      place := fun _ => some 0
      repeated := fun (_, length) count => length.map (· * count.least)
      captured := fun (_, length) _ => length
      sequence := fun parts =>
        parts.foldl (fun total (_, length) => total.bind fun sum => length.map (sum + ·)) (some 0)
      either := fun parts => (parts.mapM Prod.snd).bind List.min? }

def longest : Pattern → Option Nat :=
  measure
    { nothing := some 0
      literal := fun chars => some chars.length
      one := fun set _ => if set.ranges = [] then none else some 1
      place := fun _ => some 0
      repeated := fun (_, length) count => length.bind fun once => count.most.map (once * ·)
      captured := fun (_, length) _ => length
      sequence := fun parts =>
        parts.foldl (fun total (_, length) => total.bind fun sum => length.map (sum + ·)) (some 0)
      either := fun parts => (parts.mapM Prod.snd).bind List.max? }

/-- Whether a pattern has a part that has to fit and for which there is no character. -/
def isHopeless : Pattern → Bool :=
  measure
    { nothing := false
      literal := fun _ => false
      one := fun set _ => set.ranges.isEmpty
      place := fun _ => false
      repeated := fun (_, hopeless) count => 0 < count.least && hopeless
      captured := fun (_, hopeless) _ => hopeless
      sequence := fun parts => parts.any Prod.snd
      either := fun parts => parts.all Prod.snd }

def isDecidable : Pattern → Bool :=
  measure
    { nothing := true
      literal := fun _ => true
      one := fun _ _ => true
      place := Condition.isDecidable
      repeated := fun (_, known) _ => known
      captured := fun (_, known) _ => known
      sequence := fun parts => parts.all Prod.snd
      either := fun parts => parts.all Prod.snd }

/-! ## Putting patterns together -/

def failing : Pattern := .one .empty true

def ofSet (set : CharSet) (bytes : Bool) : Pattern :=
  if set.ranges = [] then failing
  else
    match set.only? with
    | some c => .literal [c]
    | none => .one set bytes

def toSet? : Pattern → Option CharSet
  | .literal [c] => some (.single c)
  | .one set _ => some set
  | _ => none

/-- A pattern repeated. What fits only the empty text need not be repeated. -/
def times (count : Count) (item : Pattern) : Pattern :=
  let needed :=
    if item.longest = some 0 then
      { count with least := min count.least 1, most := some (min (count.most.getD 1) 1) }
    else count
  if needed.most = some 0 then .nothing
  else if needed.least = 1 ∧ needed.most = some 1 then item
  else .repeated item needed

def items : Pattern → List Pattern
  | .sequence items => items
  | pattern => [pattern]

def items? : Pattern → Option (List Pattern)
  | .sequence items => some items
  | _ => none

def branches : Pattern → List Pattern
  | .either branches => branches
  | pattern => [pattern]

def withLiteral (chars : List Char) (done : List Pattern) : List Pattern :=
  if chars = [] then done else .literal chars.reverse :: done

/-- Items with neighbouring literals made one and without those that ask for nothing. The characters
of the literal that is under way, and the items before it, come last first. -/
def joinLiterals (chars : List Char) (done : List Pattern) : List Pattern → List Pattern
  | [] => (withLiteral chars done).reverse
  | .nothing :: rest => joinLiterals chars done rest
  | .literal more :: rest => joinLiterals (more.reverseAux chars) done rest
  | item :: rest => joinLiterals [] (item :: withLiteral chars done) rest

def inOrder (patterns : List Pattern) : Pattern :=
  match joinLiterals [] [] (patterns.flatMap items) with
  | [] => .nothing
  | [pattern] => pattern
  | joined => .sequence joined

def choice (patterns : List Pattern) : Pattern :=
  match patterns.flatMap branches with
  | [] => failing
  | [pattern] => pattern
  | choices =>
      match choices.mapM toSet? with
      | some sets => ofSet (.ofRanges (sets.flatMap CharSet.ranges)) false
      | none => .either choices

/-- With how many items two sequences start alike, after some that do. -/
def sharedItems (count : Nat) : List Pattern → List Pattern → Nat
  | left :: lefts, right :: rights =>
      if same left right then sharedItems (count + 1) lefts rights else count
  | _, _ => count

/-- Patterns of which any will do. If all are sequences, what they start with is shared. -/
def anyOf (patterns : List Pattern) : Pattern :=
  match choice patterns with
  | .either choices =>
      match choices.mapM items? with
      | some (first :: others) =>
          let shared :=
            others.foldl (fun count other => min count (sharedItems 0 first other)) first.length
          if shared = 0 then .either choices
          else
            let rest := (first :: others).map fun items => inOrder (items.drop shared)
            inOrder (first.take shared ++ [choice rest])
      | _ => .either choices
  | pattern => pattern

end Pattern

end TexWorkspace.Text
