import TexWorkspace.Bib.KeyIndex
import TexWorkspace.Proofs.Json.Rereading

set_option autoImplicit false

/-!
The stored text of a key index. Main statement: an index of the current kind and version is read
back from its text, one of another kind or version is refused for that reason, and whatever text is
accepted holds an index of the current kind and version.
-/

namespace TexWorkspace.Bib

open Json

/-! ## Stubs and their types -/

theorem KeyStub.shape_takes (stub : KeyStub) (level : Nat) :
    Reader.Takes KeyStub.shape.read stub (stub.toJson.print level) := by
  refine @Shape.read_takes_print _ _ KeyStub.shape _ level
    ⟨some stub.identifier, some stub.start, some stub.stop⟩ _ ?_ rfl
  apply Gathers.known rfl rfl (FieldReader.of_takes (string_takes_print stub.identifier _) _)
  apply Gathers.known rfl rfl (FieldReader.of_takes (word32_takes_print stub.start _) _)
  apply Gathers.known rfl rfl (FieldReader.of_takes (word32_takes_print stub.stop _) _)
  exact .nil _

theorem StubType.shape_takes (type : StubType) (level : Nat) :
    Reader.Takes StubType.shape.read type (type.toJson.print level) := by
  refine @Shape.read_takes_print _ _ StubType.shape _ level ⟨some type.name, some type.version⟩ _
    ?_ rfl
  apply Gathers.known rfl rfl (FieldReader.of_takes (string_takes_print type.name _) _)
  apply Gathers.known rfl rfl (FieldReader.of_takes (word32_takes_print type.version _) _)
  exact .nil _

/-! ## Indices -/

namespace KeyIndex

theorem shape_takes (index : KeyIndex) (level : Nat) :
    Reader.Takes KeyIndex.shape.read index (index.toJson.print level) := by
  refine @Shape.read_takes_print _ _ KeyIndex.shape _ level ⟨some index.type, some index.stubs⟩ _
    ?_ rfl
  have stubs := list_takes_print KeyStub.shape_takes index.stubs (level + 1)
  apply Gathers.known rfl rfl (FieldReader.of_takes (index.type.shape_takes _) _)
  apply Gathers.known rfl rfl (FieldReader.of_takes stubs _)
  exact .nil _

/-- What is said of an index once its text is understood. -/
theorem read_eq {text : String} {index : KeyIndex}
    (understood : readAll shape.read text = .ok index) :
    read text =
      if index.type.name ≠ "BIBTEX_ID" then .error (.unknownType index.type.name)
      else if index.type.version ≠ 1 then .error (.versionMismatch 1 index.type.version)
      else .ok index := by
  rw [read, understood]
  rfl

theorem readAll_print (index : KeyIndex) {blanks : String}
    (blank : ∀ c ∈ blanks.toList, isBlank c = true) :
    readAll shape.read (index.print ++ blanks) = .ok index := by
  have afterBlank : Blanks blanks.toList := fun c member => isBlank_iff.mp (blank c member)
  refine readAll_of_takes (index.shape_takes 0) Blanks.nil afterBlank ?_
  rw [String.toList_append, print, Value.pretty, String.toList_ofList, List.nil_append]

/-- An index of the current kind and version is read back, with or without blanks behind its text.
-/
theorem read_print_append {index : KeyIndex} (current : index.type = .bibKey) {blanks : String}
    (blank : ∀ c ∈ blanks.toList, isBlank c = true) :
    read (index.print ++ blanks) = .ok index := by
  rw [read_eq (readAll_print index blank), current, if_neg (by decide), if_neg (by decide)]

theorem type_of_read {text : String} {index : KeyIndex} (accepted : read text = .ok index) :
    index.type = .bibKey := by
  unfold read at accepted
  split at accepted
  · cases accepted
  · rename_i understood
    split at accepted
    · cases accepted
    · rename_i name
      split at accepted
      · cases accepted
      · rename_i version
        cases accepted
        obtain ⟨⟨ownName, ownVersion⟩, stubs⟩ := index
        simp only [ne_eq, Decidable.not_not] at name version
        rw [name, version]

/-- The stored text of an index gives the index back if its type is that of keys in the current
version. One of another name is refused for its name, whatever its version, and one that differs in
its version only is refused for that. An index that was accepted, from whatever text, has the
current type, and its own stored text gives it back. -/
theorem read_print (index : KeyIndex) :
    (index.type = ⟨"BIBTEX_ID", 1⟩ → read index.print = .ok index) ∧
      (index.type.name ≠ "BIBTEX_ID" →
        read index.print = .error (.unknownType index.type.name)) ∧
      (index.type.name = "BIBTEX_ID" → index.type.version ≠ 1 →
        read index.print = .error (.versionMismatch 1 index.type.version)) ∧
      ∀ text restored, read text = .ok restored →
        restored.type = ⟨"BIBTEX_ID", 1⟩ ∧ read restored.print = .ok restored := by
  have noBlanks : ∀ c ∈ ("" : String).toList, isBlank c = true := by simp
  have understood := readAll_print index noBlanks
  rw [String.append_empty] at understood
  have back : ∀ other : KeyIndex, other.type = .bibKey → read other.print = .ok other := by
    intro other current
    have again := read_print_append current noBlanks
    rwa [String.append_empty] at again
  refine ⟨back index, ?_, ?_, ?_⟩
  · intro unknown
    rw [read_eq understood, if_pos unknown]
  · intro name outdated
    rw [read_eq understood, if_neg (not_not.mpr name), if_pos outdated]
  · intro text restored accepted
    have current := type_of_read accepted
    exact ⟨current, back restored current⟩

/-- An index of a later version, and one written by hand as lists. -/
theorem read_print_of_lists :
    read (print ⟨⟨"BIBTEX_ID", 99⟩, [⟨"\"\n😀", 7, 0⟩]⟩) = .error (.versionMismatch 1 99) ∧
      read "\x7b\"stubs\":[[\"\\u0022\",7,0]],\"element_type\":[\"BIBTEX_ID\",1]\x7d" =
        .ok ⟨⟨"BIBTEX_ID", 1⟩, [⟨"\"", 7, 0⟩]⟩ ∧
      read (print ⟨⟨"BIBTEX_ID", 1⟩, [⟨"\"", 7, 0⟩]⟩) = .ok ⟨⟨"BIBTEX_ID", 1⟩, [⟨"\"", 7, 0⟩]⟩ := by
  have accepted :
      read "\x7b\"stubs\":[[\"\\u0022\",7,0]],\"element_type\":[\"BIBTEX_ID\",1]\x7d" =
        .ok ⟨⟨"BIBTEX_ID", 1⟩, [⟨"\"", 7, 0⟩]⟩ := by
    apply ok_of_toOption
    decide +kernel
  refine ⟨?_, accepted, ?_⟩
  · exact (read_print ⟨⟨"BIBTEX_ID", 99⟩, [⟨"\"\n😀", 7, 0⟩]⟩).2.2.1 rfl (by decide)
  · exact ((read_print ⟨.bibKey, []⟩).2.2.2 _ _ accepted).2

end KeyIndex

end TexWorkspace.Bib
