import TexWorkspace.CommandLine
import TexWorkspace.Proofs.Bib.IndexCodec
import TexWorkspace.Proofs.Bib.KeyForm
import TexWorkspace.Proofs.Bib.Relexing

set_option autoImplicit false

/-!
The stored index of a file in place of the file. Main statement: what is printed for a file is read
back as the index of the file, its stubs stand in the text where they say they do, in order and
inside their entries, and looking up a key finds the stub of the first entry with that key.
-/

namespace TexWorkspace.Bib

/-- The stub of an entry that has a key. -/
def Entry.stub? (entry : Entry) : Option KeyStub :=
  entry.key?.map fun node => (Key.ofNode node).stub

/-- The index says of a text what reading the text would say. -/
structure KeyIndex.Describes (index : KeyIndex) (text : String) : Prop where
  within_text : ∀ stub ∈ index.stubs,
    stub.start.toNat < stub.stop.toNat ∧ stub.stop.toNat ≤ text.utf8ByteSize
  ordered : index.stubs.Pairwise fun earlier later => earlier.stop.toNat ≤ later.start.toNat
  stub_per_entry : index.stubs = (Document.ofText text).entries.filterMap Entry.stub?
  within_entry : ∀ entry ∈ (Document.ofText text).entries, ∀ stub, entry.stub? = some stub →
    entry.span.start < stub.start.toNat ∧ stub.stop.toNat ≤ entry.span.stop
  /-- The text reads at a stub as the grammar has a key. -/
  reads_key : ∀ stub ∈ index.stubs, ∃ slice name,
    Span.slice? ⟨stub.start.toNat, stub.stop.toNat⟩ text = some slice ∧
      Grammar.Key name (lex slice) ∧ name.text = stub.identifier
  found_iff : ∀ identifier, (index.find? identifier).isSome = true ↔
    ∃ record ∈ records text, record.key = identifier
  /-- What is found is the stub of the first entry whose record has the key. -/
  find_first : ∀ identifier, index.find? identifier =
    (((Document.ofText text).entries.find? fun entry =>
      entry.record?.map Record.key = some identifier).bind Entry.stub?).map (Key.ofStub ·)

/-! ## Places -/

namespace Located

theorem pairwise_row (start : Nat) (trees : List Tree) :
    (row start trees).Pairwise fun earlier later => earlier.span.stop ≤ later.span.start := by
  induction trees generalizing start with
  | nil => exact .nil
  | cons tree trees ih =>
      refine .cons ?_ (ih (start + tree.width))
      intro later member
      obtain ⟨left, -, -, placed⟩ := exists_of_mem_row member
      change start + tree.width ≤ later.start
      omega

theorem span_of_mem_children {parent part : Located} (member : part ∈ parent.children) :
    parent.span.start ≤ part.span.start ∧ part.span.stop ≤ parent.span.stop := by
  obtain ⟨before, after, whole, placed⟩ := tokens_of_mem_children member
  have width : parent.tree.width =
      Token.widthAll before + part.tree.width + Token.widthAll after := by
    rw [Tree.width, whole, Token.widthAll_append, Token.widthAll_append, Tree.width]
  constructor
  · change parent.start ≤ part.start
    omega
  · change part.start + part.tree.width ≤ parent.start + parent.tree.width
    omega

theorem Within.span_stop_le {whole part : Located} (within : Within whole part) :
    part.span.stop ≤ whole.span.stop := by
  induction within with
  | self => exact Nat.le_refl _
  | child _ member ih => exact Nat.le_trans (span_of_mem_children member).2 ih

end Located

theorem span_stop_parse (text : String) : (parse text).located.span.stop = text.utf8ByteSize := by
  change 0 + (parse text).width = text.utf8ByteSize
  rw [Nat.zero_add, Tree.width, tokens_parse, widthAll_lex]

section Text

variable {text : String} {entry : Entry} {key : KeyNode} {stub : KeyStub}

/-- A key stands behind the mark of its entry, and it is not empty. -/
theorem key_place (listed : entry ∈ (Document.ofText text).entries)
    (found : entry.key? = some key) :
    entry.span.start < key.span.start ∧ key.span.start < key.span.stop ∧
      key.span.stop ≤ entry.span.stop := by
  obtain ⟨inner, deep, isEntry, sound, member, isKey, within⟩ := exists_of_key? listed found
  obtain ⟨place, -, -⟩ := @Located.mem_entries (parse text).located _ rfl (sound_parse text) entry
    listed
  refine ⟨?_, ?_, (Located.span_of_mem_children member).2⟩
  · rw [isEntry] at sound
    cases sound with
    | node fits _ =>
        cases fits with
        | @entry mark rest isMark _ =>
            have marked : mark ∈ entry.node.tree.tokens := by rw [isEntry]; simp
            have wide := width_pos_of_mem_lex (mem_lex_of_within (.child .self place) marked)
            rw [Located.children, isEntry, Tree.children_token_cons, Located.row] at member
            rcases List.mem_cons.mp member with same | behind
            · rw [same] at isKey
              cases isKey
            · obtain ⟨left, -, -, placed⟩ := Located.exists_of_mem_row behind
              have mark_width : (Tree.token mark).width = mark.width := by simp [Tree.width]
              change entry.node.start < key.node.start
              omega
  · obtain ⟨name, formed, -⟩ := KeyNode.formed listed found
    have wide := width_pos_of_mem_lex (mem_lex_of_within within formed.mem)
    obtain ⟨before, after, split⟩ := List.append_of_mem formed.mem
    have width : key.node.tree.width =
        Token.widthAll before + (name.width + Token.widthAll after) := by
      rw [Tree.width, split, Token.widthAll_append, Token.widthAll_cons]
    change key.node.start < key.node.start + key.node.tree.width
    omega

/-- In a text of less than 2 ^ 32 bytes, a stub keeps the place of its key. -/
theorem stub_place (small : text.utf8ByteSize < 2 ^ 32)
    (listed : entry ∈ (Document.ofText text).entries) (made : entry.stub? = some stub) :
    ∃ key, entry.key? = some key ∧ stub.identifier = key.identifier ∧
      stub.start.toNat = key.span.start ∧ stub.stop.toNat = key.span.stop ∧
      key.span.stop ≤ text.utf8ByteSize := by
  obtain ⟨key, found, rfl⟩ := Option.map_eq_some_iff.mp made
  obtain ⟨-, -, -, -, -, -, within⟩ := exists_of_key? listed found
  have fits : key.span.stop ≤ text.utf8ByteSize := by
    rw [← span_stop_parse text]
    exact within.span_stop_le
  have starts : key.span.start < 2 ^ 32 := by
    have order := (key_place listed found).2.1
    omega
  refine ⟨key, found, rfl, ?_, ?_, fits⟩
  · exact UInt32.toNat_ofNat_of_lt' starts
  · exact UInt32.toNat_ofNat_of_lt' (Nat.lt_of_le_of_lt fits small)

/-! ## The index of a text -/

theorem stubs_ofDocument (document : Document) :
    (KeyIndex.ofDocument document).stubs = document.entries.filterMap Entry.stub? := by
  rw [KeyIndex.ofDocument, Document.keys, List.map_filterMap]
  rfl

theorem mem_stubs {document : Document} :
    stub ∈ (KeyIndex.ofDocument document).stubs ↔
      ∃ entry ∈ document.entries, entry.stub? = some stub := by
  rw [stubs_ofDocument]
  exact List.mem_filterMap

/-- Keys are in order because entries are and each key lies in its entry. -/
theorem stubs_ordered (small : text.utf8ByteSize < 2 ^ 32) :
    (KeyIndex.ofDocument (Document.ofText text)).stubs.Pairwise fun earlier later =>
      earlier.stop.toNat ≤ later.start.toNat := by
  have entries : (Document.ofText text).entries.Pairwise fun earlier later =>
      earlier.span.stop ≤ later.span.start := by
    refine (Located.pairwise_row 0 (parse text).children).filterMap _ ?_
    intro earlier later apart first isFirst second isSecond
    obtain ⟨rfl, -⟩ := Located.of_as?_eq_some isFirst
    obtain ⟨rfl, -⟩ := Located.of_as?_eq_some isSecond
    exact apart
  rw [stubs_ofDocument]
  refine List.Pairwise.filterMap Entry.stub? ?_ (List.Pairwise.and_mem.mp entries)
  rintro earlier later ⟨earlierListed, laterListed, apart⟩ first isFirst second isSecond
  obtain ⟨key, found, -, -, stop, -⟩ := stub_place small earlierListed isFirst
  obtain ⟨next, laterFound, -, start, -, -⟩ := stub_place small laterListed isSecond
  have inside := (key_place earlierListed found).2.2
  have behind := (key_place laterListed laterFound).1
  omega

theorem stub_reads_key (small : text.utf8ByteSize < 2 ^ 32)
    (listed : entry ∈ (Document.ofText text).entries) (made : entry.stub? = some stub) :
    ∃ slice name, Span.slice? ⟨stub.start.toNat, stub.stop.toNat⟩ text = some slice ∧
      Grammar.Key name (lex slice) ∧ name.text = stub.identifier := by
  obtain ⟨key, found, identifier, start, stop, -⟩ := stub_place small listed made
  obtain ⟨-, -, -, -, -, -, within⟩ := exists_of_key? listed found
  obtain ⟨name, formed, named⟩ := KeyNode.formed listed found
  obtain ⟨before, after, whole, -⟩ := within.tokens
  have own : lex key.node.tree.text = key.node.tree.tokens := by
    apply lex_join_of_row
    rw [← tokens_parse]
    exact whole
  refine ⟨key.node.tree.text, name, ?_, ?_, ?_⟩
  · rw [start, stop]
    exact slice?_span_of_within within
  · rwa [own]
  · rw [identifier, named]

theorem Entry.stub?_any (entry : Entry) (identifier : String) :
    entry.stub?.any (fun stub => decide ((Key.ofStub stub).identifier = identifier)) =
      decide (entry.record?.map Record.key = some identifier) := by
  cases found : entry.key? with
  | none => simp [Entry.stub?, Entry.record?, found]
  | some node =>
      simp only [Entry.stub?, Entry.record?, found, Option.map_some, Option.any_some,
        Option.some.injEq]
      rfl

theorem find?_ofDocument (document : Document) (identifier : String) :
    (KeyIndex.ofDocument document).find? identifier =
      ((document.entries.find? fun entry =>
        entry.record?.map Record.key = some identifier).bind Entry.stub?).map (Key.ofStub ·) := by
  have keys : (KeyIndex.ofDocument document).keys =
      (document.entries.filterMap Entry.stub?).map (Key.ofStub ·) := by
    rw [KeyIndex.keys, stubs_ofDocument]
    rfl
  rw [KeyIndex.find?, keys, List.find?_map, List.find?_filterMap]
  simp only [Function.comp_def, Entry.stub?_any]

theorem find?_isSome_iff (document : Document) (identifier : String) :
    ((KeyIndex.ofDocument document).find? identifier).isSome = true ↔
      ∃ record ∈ document.records, record.key = identifier := by
  rw [KeyIndex.find?, List.find?_isSome]
  constructor
  · rintro ⟨key, member, same⟩
    obtain ⟨stub, listed, rfl⟩ := List.mem_map.mp member
    obtain ⟨entry, among, made⟩ := mem_stubs.mp listed
    obtain ⟨node, found, rfl⟩ := Option.map_eq_some_iff.mp made
    have named : node.identifier = identifier := of_decide_eq_true same
    have recorded : entry.record? = some _ := Option.map_eq_some_iff.mpr ⟨node, found, rfl⟩
    exact ⟨_, List.mem_filterMap.mpr ⟨entry, among, recorded⟩, named⟩
  · rintro ⟨record, member, same⟩
    obtain ⟨entry, among, made⟩ := List.mem_filterMap.mp member
    obtain ⟨node, found, rfl⟩ := Option.map_eq_some_iff.mp made
    have listed : (Key.ofNode node).stub ∈ (KeyIndex.ofDocument document).stubs :=
      mem_stubs.mpr ⟨entry, among, Option.map_eq_some_iff.mpr ⟨node, found, rfl⟩⟩
    exact ⟨_, List.mem_map.mpr ⟨_, listed, rfl⟩, decide_eq_true same⟩

theorem describes_ofText (small : text.utf8ByteSize < 2 ^ 32) :
    (KeyIndex.ofDocument (Document.ofText text)).Describes text := by
  constructor
  · intro stub member
    obtain ⟨entry, listed, made⟩ := mem_stubs.mp member
    obtain ⟨key, found, -, start, stop, fits⟩ := stub_place small listed made
    have filled := (key_place listed found).2.1
    omega
  · exact stubs_ordered small
  · exact stubs_ofDocument _
  · intro entry listed stub made
    obtain ⟨key, found, -, start, stop, -⟩ := stub_place small listed made
    obtain ⟨behind, -, inside⟩ := key_place listed found
    omega
  · intro stub member
    obtain ⟨entry, listed, made⟩ := mem_stubs.mp member
    exact stub_reads_key small listed made
  · exact find?_isSome_iff _
  · exact find?_ofDocument _

/-- The index of a text of less than 2 ^ 32 bytes is read back from what is printed for the text,
and it answers for the text: its stubs stand where the text has its keys, and looking up a key finds
the stub of the first entry with that key, if there is one. -/
theorem stored_index_answers (small : text.utf8ByteSize < 2 ^ 32) :
    ∃ index, KeyIndex.read (CommandLine.keyListing text true) = .ok index ∧
      index = KeyIndex.ofDocument (Document.ofText text) ∧ index.Describes text := by
  refine ⟨_, ?_, rfl, describes_ofText small⟩
  apply KeyIndex.read_print_append rfl
  intro c member
  obtain rfl := List.mem_singleton.mp member
  rfl

end Text

/-- Two entries with one key; trivia and letters of two bytes stand before the first. -/
theorem stored_index_answers_twice :
    ∃ index, ("é@A\x7b%c\n \\\"ß ,t=1\x7d@b(\\\"ß)" : String).utf8ByteSize < 2 ^ 32 ∧
      KeyIndex.read (CommandLine.keyListing "é@A\x7b%c\n \\\"ß ,t=1\x7d@b(\\\"ß)" true) = .ok index ∧
      index.stubs = [⟨"\\\"ß", 5, 15⟩, ⟨"\\\"ß", 22, 26⟩] ∧
      index.Describes "é@A\x7b%c\n \\\"ß ,t=1\x7d@b(\\\"ß)" := by
  have small : ("é@A\x7b%c\n \\\"ß ,t=1\x7d@b(\\\"ß)" : String).utf8ByteSize < 2 ^ 32 := by
    decide +kernel
  obtain ⟨index, restored, rfl, describes⟩ := stored_index_answers small
  refine ⟨_, small, restored, ?_, describes⟩
  decide +kernel

end TexWorkspace.Bib
