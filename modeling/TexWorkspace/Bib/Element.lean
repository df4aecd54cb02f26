import TexWorkspace.Bib.Key

set_option autoImplicit false

/-!
The elements of a file that a visitor can meet, and the walk that meets them in the order of the
text. A visitor may handle each kind of element on its own; one that does not is shown every element
in the same way.
-/

namespace TexWorkspace.Bib

inductive Element where
  | entry (entry : Entry)
  | key (key : Key)
  | field (field : Field)
  | comment (comment : Comment)

def Element.ofNode? (node : Located) : Option Element :=
  (KeyNode.ofNode? node).map (.key ∘ Key.ofNode) <|>
    (Entry.ofNode? node).map .entry <|>
    (Field.ofNode? node).map .field <|>
    (Comment.ofNode? node).map .comment

/-- What to note for each kind of element; nothing, unless said otherwise. -/
structure Handlers (α : Type) where
  onEntry : Entry → List α := fun _ => []
  onKey : Key → List α := fun _ => []
  onField : Field → List α := fun _ => []
  onComment : Comment → List α := fun _ => []

/-- What to note for the elements of a file: by kind, if there are handlers, else all alike. -/
structure Visitor (α : Type) where
  onElement : Element → List α
  handlers? : Option (Handlers α) := none

namespace Element

def accept {α : Type} (visitor : Visitor α) (element : Element) : List α :=
  match visitor.handlers? with
  | none => visitor.onElement element
  | some handlers =>
      match element with
      | .entry found => handlers.onEntry found
      | .key found => handlers.onKey found
      | .field found => handlers.onField found
      | .comment found => handlers.onComment found

end Element

def Located.elements (node : Located) : List Element :=
  node.nodes.filterMap Element.ofNode?

def walk {α : Type} (visitor : Visitor α) (node : Located) : List α :=
  node.elements.flatMap (Element.accept visitor)

end TexWorkspace.Bib
