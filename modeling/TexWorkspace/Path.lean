import TexWorkspace.Text.Cut
import TexWorkspace.Text.Quoted

set_option autoImplicit false

/-!
Paths. A path keeps its text as written; what it means is its list of components, in which repeated
and final slashes and inner dots leave no trace. Two paths are the same if their components are.
-/

namespace TexWorkspace

structure Path where
  text : String
  deriving DecidableEq, Repr

namespace Path

inductive Component where
  | root
  | here
  | up
  | name (text : String)
  deriving DecidableEq, Repr

/-- The stretches of a text between its slashes. -/
def segments (text : String) : List String :=
  (Text.cut '/' text.toList).map String.ofList

/-- The component that a stretch between slashes is; empty ones and single dots are none. -/
def Component.ofSegment? (segment : String) : Option Component :=
  if segment = "" ∨ segment = "." then none
  else if segment = ".." then some .up
  else some (.name segment)

def Component.text : Component → String
  | .root => ""
  | .here => "."
  | .up => ".."
  | .name text => text

def isAbsolute (path : Path) : Bool :=
  path.text.toList.head? = some '/'

/-- The components of a path. A dot counts only at the very start. -/
def components (path : Path) : List Component :=
  let parts := segments path.text
  let lead : List Component :=
    if path.isAbsolute then [.root] else if parts.head? = some "." then [.here] else []
  lead ++ parts.filterMap Component.ofSegment?

def ofComponents : List Component → Path
  | [] => ⟨""⟩
  | [.root] => ⟨"/"⟩
  | components => ⟨"/".intercalate (components.map Component.text)⟩

def same (left right : Path) : Bool :=
  left.components = right.components

def startsWith (path start : Path) : Bool :=
  start.components.isPrefixOf path.components

/-- Appends a path to another. An absolute path replaces what it is appended to. -/
def join (left right : Path) : Path :=
  if right.isAbsolute then right
  else if left.text = "" ∨ left.text.toList.getLast? = some '/' then ⟨left.text ++ right.text⟩
  else ⟨left.text ++ "/" ++ right.text⟩

def fileName? (path : Path) : Option String :=
  match path.components.getLast? with
  | some (.name text) => some text
  | _ => none

/-- The components of everything that contains the path, the innermost first. Nothing contains the
root. -/
def parents (path : Path) : List Path :=
  let components := path.components
  let counts := (List.range components.length).reverse
  let kept := if path.isAbsolute then counts.filter (0 < ·) else counts
  kept.map fun count => ofComponents (components.take count)

def quoted (path : Path) : String :=
  Text.quoted path.text

end Path

end TexWorkspace
