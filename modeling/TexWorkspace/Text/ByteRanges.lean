set_option autoImplicit false

/-!
The bytes of characters, for whole ranges of code points at once: a range falls into runs whose
characters have equally many bytes, such that each byte ranges by itself.
-/

namespace TexWorkspace.Text

abbrev ByteRange := Nat × Nat

def codeBytes (code : Nat) : List Nat :=
  if code < 0x80 then [code]
  else if code < 0x800 then [0xc0 + code / 64, 0x80 + code % 64]
  else if code < 0x10000 then [0xe0 + code / 4096, 0x80 + code / 64 % 64, 0x80 + code % 64]
  else
    [0xf0 + code / 262144, 0x80 + code / 4096 % 64, 0x80 + code / 64 % 64, 0x80 + code % 64]

def widthLimits : List Nat := [0x7f, 0x7ff, 0xffff]

/-- The sizes of the blocks of code points that share all bytes but the last one, two or three. -/
def blockSizes : List Nat := [64, 4096, 262144]

/-- Where a range of code points is to be cut, if it does not make one run yet: the last code point
of the first part and the first of the second. -/
def cutPoint? (first last : Nat) : Option (Nat × Nat) :=
  if first < 0xe000 ∧ 0xd7ff < last then some (0xd7ff, 0xe000)
  else
    match widthLimits.find? fun limit => first ≤ limit && limit < last with
    | some limit => some (limit, limit + 1)
    | none =>
        if last < 0x80 then none
        else
          blockSizes.findSome? fun size =>
            if first / size = last / size then none
            else if first % size ≠ 0 then
              let stop := first / size * size + size - 1
              some (stop, stop + 1)
            else if last % size ≠ size - 1 then
              let start := last / size * size
              some (start - 1, start)
            else none

/-- The runs of ranges of code points, in order. A range that is to be cut is replaced by its parts;
one that holds no character is passed over. -/
def byteRuns : Nat → List (Nat × Nat) → List (List ByteRange) → List (List ByteRange)
  | 0, _, runs => runs.reverse
  | _ + 1, [], runs => runs.reverse
  | fuel + 1, (first, last) :: rest, runs =>
      match cutPoint? first last with
      | some (stop, start) => byteRuns fuel ((first, stop) :: (start, last) :: rest) runs
      | none =>
          if last < first then byteRuns fuel rest runs
          else byteRuns fuel rest (((codeBytes first).zip (codeBytes last)) :: runs)

def runsOf (ranges : List (Nat × Nat)) : List (List ByteRange) :=
  byteRuns (100 * (ranges.length + 1)) ranges []

end TexWorkspace.Text
