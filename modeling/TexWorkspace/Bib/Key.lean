import TexWorkspace.Bib.View

set_option autoImplicit false

/-!
Keys of entries that can be renamed. A key comes from a file or from a stub, which is what is kept
of a key when the file it stands in is not at hand. Where a key comes from never changes, and a new
name covers the one it came with.
-/

namespace TexWorkspace.Bib

/-! ## Stubs -/

/-- The kind of thing that a stub stands for, with the version of its stored layout. -/
structure StubType where
  name : String
  version : UInt32
  deriving DecidableEq, Repr

def StubType.bibKey : StubType :=
  ⟨"BIBTEX_ID", 1⟩

/-- What is stored of a key: its text and where it stood, in bytes. -/
structure KeyStub where
  identifier : String
  start : UInt32
  stop : UInt32
  deriving DecidableEq, Repr

namespace KeyStub

def ofSpan (identifier : String) (span : Span) : KeyStub :=
  ⟨identifier, UInt32.ofNat span.start, UInt32.ofNat span.stop⟩

/-- Where the key stood. A stub that ends before it starts covers the empty stretch at its start. -/
def span (stub : KeyStub) : Span :=
  ⟨stub.start.toNat, max stub.stop.toNat stub.start.toNat⟩

end KeyStub

/-! ## Keys -/

inductive KeyOrigin where
  | file (node : KeyNode)
  | stub (stub : KeyStub) (type : StubType)

/-- A key, possibly renamed. -/
structure Key where
  origin : KeyOrigin
  renamed : Option String := none

namespace Key

def ofNode (node : KeyNode) : Key :=
  { origin := .file node }

def ofStub (stub : KeyStub) (type : StubType := .bibKey) : Key :=
  { origin := .stub stub type }

/-- Whether there is no file behind the key. -/
def isStubBacked (key : Key) : Bool :=
  match key.origin with
  | .file _ => false
  | .stub _ _ => true

def ownIdentifier (key : Key) : String :=
  match key.origin with
  | .file node => node.identifier
  | .stub stub _ => stub.identifier

def identifier (key : Key) : String :=
  key.renamed.getD key.ownIdentifier

def display (key : Key) : String :=
  "Id\x7b" ++ key.identifier ++ "\x7d"

def span (key : Key) : Span :=
  match key.origin with
  | .file node => node.span
  | .stub stub _ => stub.span

/-- The comments that stand inside the key. A stub keeps none. -/
def comments (key : Key) : List Comment :=
  match key.origin with
  | .file node => node.node.comments
  | .stub _ _ => []

def rename (key : Key) (name : String) : Key :=
  { key with renamed := some name }

def renameAll (key : Key) (names : List String) : Key :=
  names.foldl rename key

def stub (key : Key) : KeyStub :=
  KeyStub.ofSpan key.identifier key.span

/-- Whether two keys of one file, or two keys of stubs, have the same origin and the same new name.
A key of a file is known by its place. -/
def same (left right : Key) : Bool :=
  left.renamed == right.renamed &&
    match left.origin, right.origin with
    | .file here, .file there => here.node.start == there.node.start
    | .stub here hereType, .stub there thereType => here == there && hereType == thereType
    | _, _ => false

end Key

end TexWorkspace.Bib
