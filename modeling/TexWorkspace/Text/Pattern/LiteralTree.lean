set_option autoImplicit false

/-!
The tree of several texts, in which texts that start alike share their first bytes. The order of the
texts counts: once a text has ended at a node, later texts that go on there are kept in a chunk of
their own, and share nothing with those before.
-/

namespace TexWorkspace.Text

/-- A node of the tree: what is left of each of the texts that lead there, in order. -/
abbrev TextNode := List (List Nat)

namespace TextNode

/-- The chunks of a node. A text that ends closes a chunk, unless a chunk is closed already and
nothing has gone on. -/
def chunks (node : TextNode) : List (List (List Nat)) :=
  let (closed, active, _) := node.foldl
    (fun (closed, active, goesOn) text =>
      match text with
      | [] =>
          if !goesOn && !closed.isEmpty then (closed, active, goesOn)
          else (active.reverse :: closed, [], goesOn)
      | _ => (closed, text :: active, true))
    (([] : List (List (List Nat))), ([] : List (List Nat)), false)
  (active.reverse :: closed).reverse

def children (chunk : List (List Nat)) : List TextNode :=
  let sorted := chunk.mergeSort fun left right => left.headD 0 ≤ right.headD 0
  (sorted.splitBy fun left right => left.head? == right.head?).map (·.map List.tail)

def isLeaf (node : TextNode) : Bool :=
  node.all List.isEmpty

/-- The nodes of some trees at which texts go on, level by level. The length of the texts bounds
their number. -/
def inner : Nat → List TextNode → List TextNode → List TextNode
  | 0, _, found => found
  | fuel + 1, level, found =>
      let growing := level.filter fun node => !node.isLeaf
      if growing.isEmpty then found
      else
        inner fuel (growing.flatMap fun node => node.chunks.flatMap children)
          (growing.foldl (fun found node => node :: found) found)

def innerNodes (texts : List (List Nat)) : List TextNode :=
  inner (texts.foldl (fun length text => max length text.length) 0) [texts] []

end TextNode

end TexWorkspace.Text
