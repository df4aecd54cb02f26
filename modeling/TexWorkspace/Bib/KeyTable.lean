import TexWorkspace.Bib.Key

set_option autoImplicit false

/-!
A table of keys gathered from files and stubs. Slots are only ever appended, and renaming one slot
leaves all others as they are.
-/

namespace TexWorkspace.Bib

/-- A key with the number of the file in the table that it was read from. -/
structure KeySlot where
  document : Option Nat
  key : Key

/-- Whether two slots hold the same key: of the same file, if they come from files. -/
def KeySlot.same (left right : KeySlot) : Bool :=
  left.document == right.document && left.key.same right.key

structure KeyTable where
  documents : Nat := 0
  slots : List KeySlot := []

namespace KeyTable

def identifiers (table : KeyTable) : List String :=
  table.slots.map fun slot => slot.key.identifier

def slot? (table : KeyTable) (number : Nat) : Option KeySlot :=
  table.slots[number]?

def addText (table : KeyTable) (text : String) : KeyTable :=
  { documents := table.documents + 1
    slots := table.slots ++ (Document.ofText text).keys.map fun node =>
      ⟨some table.documents, Key.ofNode node⟩ }

/-- Appends a key without a file behind it. -/
def addStub (table : KeyTable) (stub : KeyStub) (type : StubType) : KeyTable :=
  { table with slots := table.slots ++ [⟨none, Key.ofStub stub type⟩] }

def rename (table : KeyTable) (number : Nat) (name : String) : KeyTable :=
  { table with
    slots := table.slots.modify number fun slot => { slot with key := slot.key.rename name } }

def renameAll (table : KeyTable) (number : Nat) (names : List String) : KeyTable :=
  { table with
    slots := table.slots.modify number fun slot => { slot with key := slot.key.renameAll names } }

def copy (table : KeyTable) (number : Nat) : KeyTable :=
  { table with slots := table.slots ++ (table.slot? number).toList }

def restore (table : KeyTable) (number : Nat) : KeyTable :=
  { table with
    slots := table.slots ++ (table.slot? number).toList.map fun slot =>
      ⟨none, Key.ofStub slot.key.stub⟩ }

end KeyTable

end TexWorkspace.Bib
