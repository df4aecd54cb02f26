import TexWorkspace.Bib.Key
import TexWorkspace.Json.Printer
import TexWorkspace.Json.Reader

set_option autoImplicit false

/-!
The index of a file's keys, as it is stored: which keys the file defines and where, without the file
itself.
-/

namespace TexWorkspace.Bib

/-- The stubs of a file's keys, in the order of the text. -/
structure KeyIndex where
  type : StubType
  stubs : List KeyStub
  deriving DecidableEq, Repr

inductive IndexError where
  | malformed (fault : Json.Fault)
  | unknownType (name : String)
  | versionMismatch (expected found : UInt32)

def IndexError.message : IndexError → String
  | .malformed _ => "malformed stub data"
  | .unknownType name => "unknown stub element type `" ++ name ++ "`"
  | .versionMismatch expected found =>
      "stub version mismatch: expected " ++ toString expected.toNat ++ ", found " ++
        toString found.toNat

/-! ## Stored form -/

def KeyStub.toJson (stub : KeyStub) : Json.Value :=
  .object
    [("identifier", .string stub.identifier), ("start", .number stub.start.toNat),
      ("end", .number stub.stop.toNat)]

def StubType.toJson (type : StubType) : Json.Value :=
  .object [("name", .string type.name), ("version", .number type.version.toNat)]

structure KeyStub.Draft where
  identifier : Option String := none
  start : Option UInt32 := none
  stop : Option UInt32 := none

def KeyStub.shape : Json.Shape KeyStub.Draft KeyStub where
  title := "struct IdStub"
  fields :=
    [.of "identifier" (·.identifier) (fun draft value => { draft with identifier := some value })
        Json.string,
      .of "start" (·.start) (fun draft value => { draft with start := some value }) Json.word32,
      .of "end" (·.stop) (fun draft value => { draft with stop := some value }) Json.word32]
  start := {}
  finish := fun draft => do
    return ⟨← Json.require "identifier" draft.identifier, ← Json.require "start" draft.start,
      ← Json.require "end" draft.stop⟩

structure StubType.Draft where
  name : Option String := none
  version : Option UInt32 := none

def StubType.shape : Json.Shape StubType.Draft StubType where
  title := "struct StubElementType"
  fields :=
    [.of "name" (·.name) (fun draft value => { draft with name := some value }) Json.string,
      .of "version" (·.version) (fun draft value => { draft with version := some value })
        Json.word32]
  start := {}
  finish := fun draft => do
    return ⟨← Json.require "name" draft.name, ← Json.require "version" draft.version⟩

namespace KeyIndex

def toJson (index : KeyIndex) : Json.Value :=
  .object
    [("element_type", index.type.toJson), ("stubs", .list (index.stubs.map KeyStub.toJson))]

def print (index : KeyIndex) : String :=
  index.toJson.pretty

structure Draft where
  type : Option StubType := none
  stubs : Option (List KeyStub) := none

def shape : Json.Shape Draft KeyIndex where
  title := "struct FileStubs"
  fields :=
    [.of "element_type" (·.type) (fun draft value => { draft with type := some value })
        StubType.shape.read,
      .of "stubs" (·.stubs) (fun draft value => { draft with stubs := some value })
        (Json.list KeyStub.shape.read)]
  start := {}
  finish := fun draft => do
    return ⟨← Json.require "element_type" draft.type, ← Json.require "stubs" draft.stubs⟩

/-- Reads a stored index. One of another type, or of another version of the layout, is refused. -/
def read (text : String) : Except IndexError KeyIndex :=
  match Json.readAll shape.read text with
  | .error fault => .error (.malformed fault)
  | .ok index =>
      if index.type.name ≠ StubType.bibKey.name then .error (.unknownType index.type.name)
      else if index.type.version ≠ StubType.bibKey.version then
        .error (.versionMismatch StubType.bibKey.version index.type.version)
      else .ok index

/-! ## Content -/

def ofDocument (document : Document) : KeyIndex :=
  ⟨.bibKey, document.keys.map fun node => (Key.ofNode node).stub⟩

def keys (index : KeyIndex) : List Key :=
  index.stubs.map fun stub => Key.ofStub stub index.type

/-- The first key with the given text. -/
def find? (index : KeyIndex) (identifier : String) : Option Key :=
  index.keys.find? fun key => key.identifier = identifier

end KeyIndex

end TexWorkspace.Bib
