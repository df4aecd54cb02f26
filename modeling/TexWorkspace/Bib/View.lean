import TexWorkspace.Bib.Parser

set_option autoImplicit false

/-!
What a bibliography file says, read off its tree: entries with their types, keys, fields and values,
and the comments at any depth.
-/

namespace TexWorkspace.Bib

/-- A comment, with its leading `%`. -/
structure Comment where
  node : Located

structure Field where
  node : Located

structure KeyNode where
  node : Located

structure Entry where
  node : Located

structure Document where
  node : Located

/-- Wraps a node that has the right kind. -/
def Located.as? {α : Type} (kind : NodeKind) (wrap : Located → α) (node : Located) : Option α :=
  if node.tree.hasKind kind then some (wrap node) else none

namespace Comment

def ofNode? : Located → Option Comment := Located.as? .comment Comment.mk

def text (comment : Comment) : String :=
  comment.node.tree.text

def span (comment : Comment) : Span :=
  comment.node.span

end Comment

def Located.comments (node : Located) : List Comment :=
  node.nodes.filterMap Comment.ofNode?

/-- Leaves out the opening mark and the closing mark of a text, where they are its first and last
character. -/
def stripMarks (opening closing : Char) (text : List Char) : List Char :=
  let inner := if text.head? = some opening then text.tail else text
  if inner.getLast? = some closing then inner.dropLast else inner

/-- What a part of a value contributes to it: delimited texts lose their marks, words and numbers
stand for themselves, and everything else is left out. -/
def Tree.pieceText : Tree → List Char
  | .token own => if own.isName then own.text.toList else []
  | .node .bracedText below => stripMarks '{' '}' (Tree.node .bracedText below).text.toList
  | .node .quotedText below => stripMarks '"' '"' (Tree.node .quotedText below).text.toList
  | _ => []

namespace Field

def ofNode? : Located → Option Field := Located.as? .field Field.mk

def name? (field : Field) : Option String :=
  (field.node.tree.child? .fieldName).map Tree.text

/-- The field's value: its pieces joined, without their delimiters. -/
def value? (field : Field) : Option String :=
  (field.node.tree.child? .value).map fun value =>
    String.ofList (value.children.flatMap Tree.pieceText)

def span (field : Field) : Span :=
  field.node.span

end Field

namespace KeyNode

def ofNode? : Located → Option KeyNode := Located.as? .key KeyNode.mk

/-- The key's text, without blanks, comments and separator. -/
def identifier (key : KeyNode) : String :=
  String.join <| key.node.tree.children.filterMap fun
    | .token own => if own.isName then some own.text else none
    | _ => none

/-- Where the key stands, with what belongs to it. -/
def span (key : KeyNode) : Span :=
  key.node.span

end KeyNode

namespace Entry

def ofNode? : Located → Option Entry := Located.as? .entry Entry.mk

def type? (entry : Entry) : Option String :=
  (entry.node.tree.child? .entryType).map fun type => Text.lowercase type.text

def key? (entry : Entry) : Option KeyNode :=
  entry.node.children.findSome? KeyNode.ofNode?

def fields (entry : Entry) : List Field :=
  entry.node.children.filterMap Field.ofNode?

/-- The first field with the given name, in whatever case of ASCII letters. -/
def field? (entry : Entry) (name : String) : Option Field :=
  entry.fields.find? fun field => field.name?.any (Text.sameIgnoringAsciiCase name)

def span (entry : Entry) : Span :=
  entry.node.span

end Entry

namespace Document

def ofNode? : Located → Option Document := Located.as? .file Document.mk

def ofText (text : String) : Document :=
  ⟨(parse text).located⟩

def entries (document : Document) : List Entry :=
  document.node.children.filterMap Entry.ofNode?

def keys (document : Document) : List KeyNode :=
  document.entries.filterMap Entry.key?

/-- The comments of the file, at any depth. -/
def comments (document : Document) : List Comment :=
  document.node.comments

end Document

end TexWorkspace.Bib
