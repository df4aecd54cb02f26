import TexWorkspace.Text.ByteRanges
import TexWorkspace.Text.Pattern
import TexWorkspace.Text.Pattern.LiteralTree

set_option autoImplicit false

/-!
How much memory a machine takes that looks for a pattern byte by byte. A pattern for which it would
take too much is refused, however well the pattern could be handled otherwise. There are two
machines, one that reads a text from its start and one that reads it from its end.
-/

namespace TexWorkspace.Text.Pattern

inductive Direction where
  | forward
  | backward
  deriving DecidableEq, Repr

/-- What a part of a machine takes in bytes, and whether it ends in a fork. -/
structure Weight where
  bytes : Nat
  forked : Bool := false
  deriving DecidableEq, Repr

def stateBytes : Nat := 32

def wayBytes : Nat := 4

def rangeBytes : Nat := 8

def maxBytes : Nat := 10485760

/-- Parts in the order in which a machine reads them. -/
def Direction.arrange {α : Type} (direction : Direction) (parts : List α) : List α :=
  match direction with
  | .forward => parts
  | .backward => parts.reverse

def Direction.outset : Direction → Condition
  | .forward => .textStart
  | .backward => .textStop

/-! ## Sets -/

/-- A node of the tree of runs of bytes: what is left of the runs that lead there, in order. -/
abbrev RunNode := List (List ByteRange)

def RunNode.groups (node : RunNode) : List (List (List ByteRange)) :=
  node.splitBy fun left right => left.head? == right.head?

def RunNode.children (node : RunNode) : List RunNode :=
  (node.groups.map (·.map List.tail)).filter fun rest => rest.all (!·.isEmpty)

/-- The nodes of the tree of runs, level by level. A character has at most four bytes. -/
def runNodes (runs : List (List ByteRange)) : List RunNode :=
  let level (nodes : List RunNode) : List RunNode := (nodes.flatMap RunNode.children).eraseDups
  let second := level [runs]
  let third := level second
  ([runs] ++ second ++ third ++ level third).eraseDups

def startCount (runs : List (List ByteRange)) : Nat :=
  let (count, _) := runs.foldl
    (fun (count, before) run =>
      let shared := ((run.zip before).takeWhile fun (left, right) => left == right).length
      (count + (run.length - shared), run))
    (0, ([] : List ByteRange))
  count

/-- What a set takes. Nodes of the tree of its runs are shared if all that follows is the same, and
read backward if all that comes before is. -/
def setBytes (direction : Direction) (set : CharSet) (bytes : Bool) : Nat :=
  if bytes || set.isAscii then 2 * stateBytes + rangeBytes * set.ranges.length
  else
    let runs := runsOf set.ranges
    match direction with
    | .forward =>
        (runNodes runs).foldl
          (fun total node => total + stateBytes + rangeBytes * node.groups.length) stateBytes
    | .backward => 2 * stateBytes + wayBytes * runs.length + stateBytes * startCount runs

/-! ## Literals -/

def literalBytes (chars : List Char) : List Nat :=
  chars.flatMap fun c => codeBytes c.toNat

def literalBytes? : Pattern → Option (List Nat)
  | .literal chars => some (literalBytes chars)
  | _ => none

/-- What a node of a tree of literals takes: a fork to its chunks, and to the end between any two
of them, and a state for each chunk that leads on. -/
def treeNodeBytes (node : TextNode) : Nat :=
  let chunks := node.chunks
  let ways := (chunks.map fun chunk => (TextNode.children chunk).length).filter (0 < ·)
  ways.foldl
    (fun total count => total + stateBytes + if count = 1 then 0 else rangeBytes * count)
    (stateBytes + wayBytes * (ways.length + chunks.length - 1))

def treeBytes (direction : Direction) (literals : List (List Nat)) : Nat :=
  (TextNode.innerNodes (literals.map direction.arrange)).foldl
    (fun total node => total + treeNodeBytes node) stateBytes

/-! ## Patterns -/

namespace Weight

def link (weight : Weight) : Nat :=
  if weight.forked then wayBytes else 0

def append (first second : Weight) : Weight :=
  ⟨first.bytes + first.link + second.bytes, second.forked⟩

def exactly (once : Weight) : Nat → Weight
  | 0 => ⟨stateBytes, false⟩
  | more + 1 => ⟨(more + 1) * once.bytes + more * once.link, once.forked⟩

/-- What a part takes that may be repeated without end. If it can be passed without reading
anything, the fork that leads back is not the one that leads past it. -/
def unbounded (once : Weight) (reads : Bool) (least : Nat) : Weight :=
  match least with
  | 0 =>
      if reads then ⟨once.bytes + once.link + stateBytes + wayBytes, true⟩
      else ⟨once.bytes + once.link + 3 * stateBytes + 4 * wayBytes, false⟩
  | 1 => ⟨once.bytes + once.link + stateBytes + wayBytes, true⟩
  | more + 1 => ((once.exactly more).append once).append ⟨stateBytes + wayBytes, true⟩

def optional (once : Weight) : Weight :=
  ⟨once.bytes + once.link + 2 * stateBytes + 2 * wayBytes, false⟩

def bounded (once : Weight) (least most : Nat) : Weight :=
  let start := once.exactly least
  if most = least then start
  else
    let each := once.bytes + once.link + stateBytes + 2 * wayBytes
    ⟨start.bytes + start.link + stateBytes + (most - least) * each, false⟩

def times (once : Weight) (reads : Bool) (count : Count) : Weight :=
  match count.most with
  | none => once.unbounded reads count.least
  | some most =>
      if count.least = 0 ∧ most = 1 then once.optional else once.bounded count.least most

/-- What a part takes in a group that is captured, whose ends only a machine that reads forward
keeps. -/
def captured (weight : Weight) (direction : Direction) : Weight :=
  match direction with
  | .forward => ⟨weight.bytes + weight.link + 2 * stateBytes, false⟩
  | .backward => weight

end Weight

def weighing (direction : Direction) : Rule Weight where
  nothing := { bytes := stateBytes }
  literal := fun chars => { bytes := stateBytes * (literalBytes chars).length }
  one := fun set bytes => { bytes := setBytes direction set bytes }
  place := fun _ => { bytes := stateBytes }
  repeated := fun (item, once) count => once.times (item.shortest.any (0 < ·)) count
  captured := fun (_, weight) _ => weight.captured direction
  sequence := fun parts =>
    (direction.arrange parts).foldl (fun whole (_, weight) => whole.append weight) { bytes := 0 }
  either := fun parts =>
    match parts.mapM fun (branch, _) => literalBytes? branch with
    | some literals => { bytes := treeBytes direction literals }
    | none =>
        { bytes := parts.foldl
            (fun total (_, weight) => total + weight.bytes + weight.link + wayBytes)
            (2 * stateBytes) }

/-- Whether what fits a pattern has to start where a machine sets out. Of a sequence the items
count up to the first one that can read something. -/
def isAnchored (direction : Direction) : Pattern → Bool :=
  measure
    { nothing := false
      literal := fun _ => false
      one := fun _ _ => false
      place := (· == direction.outset)
      repeated := fun (_, anchored) count => 0 < count.least && anchored
      captured := fun (_, anchored) _ => anchored
      sequence := fun parts =>
        let arranged := direction.arrange parts
        let still := (arranged.takeWhile fun (item, _) => item.longest = some 0).length
        (arranged.take (still + 1)).any Prod.snd
      either := fun parts => parts.all Prod.snd }

/-- The bytes of the machine for a pattern. Unless the pattern is anchored, the machine may pass
over any bytes first. -/
def machineBytes (direction : Direction) (pattern : Pattern) : Nat :=
  let skipped : Weight := { bytes := 2 * stateBytes + rangeBytes }
  let outset : Weight :=
    if pattern.isAnchored direction then { bytes := stateBytes } else skipped.unbounded true 0
  let whole := (measure (weighing direction) pattern).captured direction
  ((outset.append whole).append { bytes := stateBytes }).bytes

end TexWorkspace.Text.Pattern
