set_option autoImplicit false

/-!
Blank characters, and sets of characters as ranges of code points. The ranges of a set are in order,
and there is a gap between any two of them, so that a set has one form. The code points that are no
characters stand between two neighbours.
-/

namespace TexWorkspace.Text

/-- Whether the character separates words: a tab, a line or page break, a space of any width. These
are the characters with the Unicode property White_Space. -/
def isBlank (c : Char) : Bool :=
  let code := c.toNat
  (0x09 ≤ code && code ≤ 0x0d) || code == 0x20 || code == 0x85 || code == 0xa0 || code == 0x1680 ||
    (0x2000 ≤ code && code ≤ 0x200a) || code == 0x2028 || code == 0x2029 || code == 0x202f ||
    code == 0x205f || code == 0x3000

def inRanges (ranges : List (Nat × Nat)) (code : Nat) : Bool :=
  ranges.any fun (first, last) => first ≤ code && code ≤ last

/-- A set of characters: ranges of code points, ends included. -/
structure CharSet where
  ranges : List (Nat × Nat)
  deriving DecidableEq, Repr

namespace CharSet

def maxCode : Nat := 0x10ffff

def nextCode (code : Nat) : Nat :=
  if code = 0xd7ff then 0xe000 else code + 1

def previousCode (code : Nat) : Nat :=
  if code = 0xe000 then 0xd7ff else code - 1

def range (left right : Nat) : Nat × Nat :=
  if left ≤ right then (left, right) else (right, left)

/-- Puts a range after others that start before it, the last of which comes first. -/
def extend (ranges : List (Nat × Nat)) (next : Nat × Nat) : List (Nat × Nat) :=
  match ranges with
  | [] => [next]
  | (first, last) :: before =>
      if next.1 ≤ last + 1 then (first, max last next.2) :: before
      else next :: (first, last) :: before

def ofRanges (ranges : List (Nat × Nat)) : CharSet :=
  let sorted := ranges.mergeSort fun left right =>
    left.1 < right.1 || (left.1 == right.1 && left.2 ≤ right.2)
  ⟨(sorted.foldl extend []).reverse⟩

def contains (set : CharSet) (c : Char) : Bool :=
  inRanges set.ranges c.toNat

def empty : CharSet := ⟨[]⟩

def all : CharSet := ⟨[(0, maxCode)]⟩

def between (first last : Char) : CharSet := ⟨[(first.toNat, last.toNat)]⟩

def single (c : Char) : CharSet := between c c

def union (left right : CharSet) : CharSet :=
  ofRanges (left.ranges ++ right.ranges)

/-- The gaps between ranges, after a code point. -/
def gaps (after : Nat) : List (Nat × Nat) → List (Nat × Nat)
  | [] => if after < maxCode then [(nextCode after, maxCode)] else []
  | (first, last) :: rest => range (nextCode after) (previousCode first) :: gaps last rest

def complement (set : CharSet) : CharSet :=
  match set.ranges with
  | [] => all
  | (first, last) :: rest =>
      let before := if 0 < first then [(0, previousCode first)] else []
      ⟨before ++ gaps last rest⟩

def intersection (left right : CharSet) : CharSet :=
  ⟨left.ranges.flatMap fun (first, last) =>
    right.ranges.filterMap fun (other, otherLast) =>
      let start := max first other
      let stop := min last otherLast
      if start ≤ stop then some (start, stop) else none⟩

/-- What one range leaves of another. -/
def cutOut (removed : Nat × Nat) : Nat × Nat → List (Nat × Nat)
  | (first, last) =>
      if removed.2 < first ∨ last < removed.1 then [(first, last)]
      else
        (if first < removed.1 then [range first (previousCode removed.1)] else []) ++
          if removed.2 < last then [range (nextCode removed.2) last] else []

def difference (left right : CharSet) : CharSet :=
  ⟨right.ranges.foldl (fun ranges removed => ranges.flatMap (cutOut removed)) left.ranges⟩

def exclusive (left right : CharSet) : CharSet :=
  (left.union right).difference (left.intersection right)

/-- A set with its ASCII letters in both cases. -/
def caseless (set : CharSet) : CharSet :=
  let lower := (set.intersection ⟨[(97, 122)]⟩).ranges.map fun (first, last) =>
    (first - 32, last - 32)
  let upper := (set.intersection ⟨[(65, 90)]⟩).ranges.map fun (first, last) =>
    (first + 32, last + 32)
  ofRanges (set.ranges ++ lower ++ upper)

def isAscii (set : CharSet) : Bool :=
  set.ranges.all fun (_, last) => last < 128

def only? (set : CharSet) : Option Char :=
  match set.ranges with
  | [(first, last)] => if first = last then some (Char.ofNat first) else none
  | _ => none

def digits : CharSet := ⟨[(48, 57)]⟩

def spaces : CharSet := ⟨[(9, 13), (32, 32)]⟩

def wordChars : CharSet := ⟨[(48, 57), (65, 90), (95, 95), (97, 122)]⟩

/-- The sets of ASCII characters that have a name of their own. -/
def named : List (String × CharSet) :=
  [("alnum", ⟨[(48, 57), (65, 90), (97, 122)]⟩),
    ("alpha", ⟨[(65, 90), (97, 122)]⟩),
    ("ascii", ⟨[(0, 127)]⟩),
    ("blank", ⟨[(9, 9), (32, 32)]⟩),
    ("cntrl", ⟨[(0, 31), (127, 127)]⟩),
    ("digit", digits),
    ("graph", ⟨[(33, 126)]⟩),
    ("lower", ⟨[(97, 122)]⟩),
    ("print", ⟨[(32, 126)]⟩),
    ("punct", ⟨[(33, 47), (58, 64), (91, 96), (123, 126)]⟩),
    ("space", spaces),
    ("upper", ⟨[(65, 90)]⟩),
    ("word", wordChars),
    ("xdigit", ⟨[(48, 57), (65, 70), (97, 102)]⟩)]

end CharSet

end TexWorkspace.Text
