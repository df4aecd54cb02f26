import TexWorkspace.Text.Pattern.Weight

set_option autoImplicit false

/-!
The bytes that texts start with which fit a pattern. If a pattern comes down to a few literals it is
looked for by them, and no machine is made for it.
-/

namespace TexWorkspace.Text.Pattern

/-- Bytes that fitting texts start with, and whether these are whole texts. -/
structure Opening where
  bytes : List Nat
  whole : Bool
  deriving DecidableEq, Repr

/-- The openings of the texts that fit a pattern, the preferred ones first; none if there is no
useful limit to them. -/
abbrev Openings := Option (List Opening)

namespace Openings

/-! ## Limits -/

def maxChars : Nat := 10

def maxTimes : Nat := 10

def maxLength : Nat := 100

def maxCount : Nat := 250

/-! ## Operations -/

def ofEmpty : Openings := some [⟨[], true⟩]

def areWhole (openings : Openings) : Bool :=
  openings.any fun list => list.all (·.whole)

def extended (openings : Openings) : Openings :=
  openings.map fun list => list.map fun opening => { opening with whole := false }

def cutList (length : Nat) (list : List Opening) : List Opening :=
  list.map fun opening =>
    if opening.bytes.length ≤ length then opening else ⟨opening.bytes.take length, false⟩

/-- Neighbouring openings with the same bytes made one, which is whole if both are. -/
def mergeList (list : List Opening) : List Opening :=
  (list.foldl
    (fun merged next =>
      match merged with
      | last :: before =>
          if last.bytes = next.bytes then ⟨last.bytes, last.whole && next.whole⟩ :: before
          else next :: last :: before
      | [] => [next])
    []).reverse

def append (first second : Openings) : Openings :=
  match first, second with
  | none, _ => none
  | some firsts, none =>
      if firsts.any (·.bytes.isEmpty) then none else extended (some firsts)
  | some firsts, some seconds =>
      if maxCount < firsts.length * seconds.length then
        if firsts.any (·.bytes.isEmpty) then none else extended (some firsts)
      else
        let joined := firsts.flatMap fun left =>
          if left.whole then
            seconds.map fun right => ⟨left.bytes ++ right.bytes, right.whole⟩
          else [left]
        some (cutList maxLength (mergeList joined))

/-- The openings of texts of two kinds. If they are too many, short ones have to do. -/
def union (first second : Openings) : Openings :=
  match first, second with
  | some firsts, some seconds =>
      if firsts.length + seconds.length ≤ maxCount then some (mergeList (firsts ++ seconds))
      else
        let left := mergeList (cutList 4 firsts)
        let right := mergeList (cutList 4 seconds)
        if left.length + right.length ≤ maxCount then some (mergeList (left ++ right)) else none
  | _, _ => none

def sequence (parts : List Openings) : Openings :=
  parts.foldl (fun openings next => if openings.areWhole then openings.append next else openings)
    ofEmpty

def times (once : Openings) (count : Count) : Openings :=
  match count.least with
  | 0 =>
      let taken := if count.most = some 1 then once else once.extended
      if count.greedy then taken.union ofEmpty else ofEmpty.union taken
  | least =>
      let openings := sequence (List.replicate (min least maxTimes) once)
      if count.most = some least ∧ least ≤ maxTimes then openings else openings.extended

def ofSet (set : CharSet) : Openings :=
  let count := set.ranges.foldl (fun count (first, last) => count + (last - first + 1)) 0
  if maxChars < count then none
  else
    some (set.ranges.flatMap fun (first, last) =>
      (List.range (last - first + 1)).map fun offset => ⟨codeBytes (first + offset), true⟩)

def rule : Rule Openings where
  nothing := ofEmpty
  literal := fun chars => some (cutList maxLength [⟨literalBytes chars, true⟩])
  one := fun set _ => ofSet set
  place := fun _ => ofEmpty
  repeated := fun (_, once) count => once.times count
  captured := fun (_, openings) _ => openings
  sequence := fun parts => sequence (parts.map Prod.snd)
  either := fun parts => parts.foldl (fun openings (_, next) => openings.union next) (some [])

/-! ## Choice -/

def withoutLonger (list : List Opening) : List Opening :=
  (list.foldl
    (fun kept next =>
      if kept.any fun opening => opening.bytes.isPrefixOf next.bytes then kept else next :: kept)
    []).reverse

def sharedLength : List Opening → Nat
  | [] => 0
  | first :: others =>
      others.foldl
        (fun length other =>
          min length ((first.bytes.zip other.bytes).takeWhile fun (l, r) => l == r).length)
        first.bytes.length

/-- The ASCII characters that are so common that looking for one of them is of no use. -/
def commonChars : List Char :=
  "\n\r (),-./0129:_abcdefghilmnoprstuvxy|".toList

def isCommon (byte : Nat) : Bool :=
  128 ≤ byte || commonChars.any (·.toNat == byte)

/-- Openings cut shorter step by step until they are few: each step gives a length, and the number
of openings that needs no further step. -/
def shortened (list : List Opening) : List Opening :=
  [(5, 10), (4, 10), (3, 64), (2, 64), (1, 10)].foldl
    (fun list (length, limit) =>
      if list.length ≤ limit then list else withoutLonger (cutList length list)) list

/-- Whether short openings are better than the given ones: there are few of them, and none is too
short. -/
def areUseful (list : List Opening) : Bool :=
  list.length ≤ 64 && list.all fun opening => 2 < opening.bytes.length

/-- Whether openings which are whole are looked for as they are. They are not if it is better to
look for what they have in common, or for shorter ones. -/
def areTaken (list : List Opening) : Bool :=
  let kept := withoutLonger list
  let shared := sharedLength kept
  let isRare := kept.any fun opening => opening.bytes.head?.any (!isCommon ·)
  if list.isEmpty || list.any (·.bytes.isEmpty) then false
  else if 1 < list.length ∧ 1 ≤ shared ∧ shared ≤ 3 ∧ isRare then
    kept.all (·.bytes.length ≤ 1)
  else if 4 < shared ∨ (1 < shared ∧ 16 < kept.length) then kept.length = 1
  else
    let short := shortened kept
    short.all (·.whole) || !areUseful short

end Openings

def keepsPlaces : Pattern → Bool :=
  measure
    { nothing := false
      literal := fun _ => false
      one := fun _ _ => false
      place := fun _ => true
      repeated := fun (_, inside) _ => inside
      captured := fun _ _ => true
      sequence := fun parts => parts.any Prod.snd
      either := fun parts => parts.any Prod.snd }

def isLiteral (pattern : Pattern) : Bool :=
  !pattern.keepsPlaces &&
    (measure Openings.rule pattern).any fun list =>
      list.all (·.whole) && Openings.areTaken list

def isTooLarge (direction : Direction) (pattern : Pattern) : Bool :=
  maxBytes < pattern.machineBytes direction && !pattern.isLiteral

end TexWorkspace.Text.Pattern
