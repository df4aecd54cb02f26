import TexWorkspace.Bib.KeyIndex
import TexWorkspace.Bib.Record
import TexWorkspace.Proofs.Bib.Resynchronization
import TexWorkspace.Proofs.Bib.Steadiness

set_option autoImplicit false

/-!
Files one after the other. What is read off a tree moves with it: a file further to the right says
the same, only at later places. Main statement: a text without a problem has no influence on what
follows it, so the tree, the diagnostics, the records and the key index of two texts are those of the
first one followed by those of the second one, moved behind the first.
-/

namespace TexWorkspace.Bib

/-! ## Moving to the right -/

def Span.shift (offset : Nat) (span : Span) : Span :=
  ⟨span.start + offset, span.stop + offset⟩

def Diagnostic.shift (offset : Nat) (diagnostic : Diagnostic) : Diagnostic :=
  { diagnostic with span := diagnostic.span.shift offset }

def KeyNode.shift (offset : Nat) (key : KeyNode) : KeyNode :=
  ⟨key.node.shift offset⟩

theorem KeyNode.mk_shift (offset : Nat) (node : Located) :
    KeyNode.mk (node.shift offset) = (KeyNode.mk node).shift offset := rfl

def Field.shift (offset : Nat) (field : Field) : Field :=
  ⟨field.node.shift offset⟩

theorem Field.mk_shift (offset : Nat) (node : Located) :
    Field.mk (node.shift offset) = (Field.mk node).shift offset := rfl

def Entry.shift (offset : Nat) (entry : Entry) : Entry :=
  ⟨entry.node.shift offset⟩

theorem Entry.mk_shift (offset : Nat) (node : Located) :
    Entry.mk (node.shift offset) = (Entry.mk node).shift offset := rfl

def Record.shift (offset : Nat) (record : Record) : Record :=
  { record with span := record.span.shift offset }

/-- The same stub further to the right; places are 32-bit words. -/
def KeyStub.shift (offset : Nat) (stub : KeyStub) : KeyStub :=
  ⟨stub.identifier, UInt32.ofNat (stub.start.toNat + offset),
    UInt32.ofNat (stub.stop.toNat + offset)⟩

section Views

variable (offset : Nat)

theorem Located.children_shift (node : Located) :
    (node.shift offset).children = node.children.map (Located.shift offset) :=
  Located.row_add node.start offset node.tree.children

theorem Located.span_shift (node : Located) :
    (node.shift offset).span = node.span.shift offset := by
  have swap : node.start + offset + node.tree.width = node.start + node.tree.width + offset := by
    omega
  simp [Located.span, Located.shift, Span.shift, swap]

/-- A view of a node moves with the node. -/
theorem Located.as?_shift {α : Type} {kind : NodeKind} {wrap : Located → α} {shift : α → α}
    (moves : ∀ node, wrap (node.shift offset) = shift (wrap node)) (node : Located) :
    (node.shift offset).as? kind wrap = (node.as? kind wrap).map shift := by
  unfold Located.as?
  change (if node.tree.hasKind kind = true then _ else _) = _
  split
  · rw [moves, Option.map_some]
  · rfl

/-- The views of a moved row are the moved views of the row. -/
theorem Located.filterMap_as?_shift {α : Type} {kind : NodeKind} {wrap : Located → α}
    {shift : α → α} (moves : ∀ node, wrap (node.shift offset) = shift (wrap node))
    (nodes : List Located) :
    (nodes.map (Located.shift offset)).filterMap (Located.as? kind wrap) =
      (nodes.filterMap (Located.as? kind wrap)).map shift := by
  rw [List.filterMap_map, List.map_filterMap]
  exact List.filterMap_congr fun node _ => Located.as?_shift offset moves node

theorem Entry.key?_shift (entry : Entry) :
    (entry.shift offset).key? = entry.key?.map (KeyNode.shift offset) := by
  rw [Entry.key?, Entry.shift, Located.children_shift, List.findSome?_map, Entry.key?]
  have moves : KeyNode.ofNode? ∘ Located.shift offset =
      fun node => (KeyNode.ofNode? node).map (KeyNode.shift offset) :=
    funext fun node => Located.as?_shift offset (KeyNode.mk_shift offset) node
  rw [moves]
  induction entry.node.children with
  | nil => rfl
  | cons node nodes ih =>
      cases found : KeyNode.ofNode? node with
      | none => simpa [found] using ih
      | some key => simp [found]

theorem Entry.fields_shift (entry : Entry) :
    (entry.shift offset).fields = entry.fields.map (Field.shift offset) := by
  rw [Entry.fields, Entry.shift, Located.children_shift]
  exact Located.filterMap_as?_shift offset (Field.mk_shift offset) _

theorem Entry.record?_shift (entry : Entry) :
    (entry.shift offset).record? = entry.record?.map (Record.shift offset) := by
  have pairs : (entry.shift offset).fields.filterMap Field.pair? =
      entry.fields.filterMap Field.pair? := by
    rw [Entry.fields_shift, List.filterMap_map]
    rfl
  have span : (entry.shift offset).span = entry.span.shift offset :=
    Located.span_shift offset entry.node
  rw [Entry.record?, Entry.record?, Entry.key?_shift, pairs, span, Option.map_map, Option.map_map]
  rfl

theorem KeyNode.stub_shift (key : KeyNode) :
    (Key.ofNode (key.shift offset)).stub = (Key.ofNode key).stub.shift offset := by
  have word : ∀ place : Nat,
      UInt32.ofNat (place + offset) = UInt32.ofNat ((UInt32.ofNat place).toNat + offset) := by
    intro place
    rw [UInt32.ofNat_add, UInt32.ofNat_add, UInt32.ofNat_toNat]
  have span : (key.shift offset).span = key.span.shift offset := Located.span_shift offset key.node
  change KeyStub.ofSpan key.identifier (key.shift offset).span =
    (KeyStub.ofSpan key.identifier key.span).shift offset
  rw [span]
  exact (KeyStub.mk.injEq ..).mpr ⟨rfl, word key.span.start, word key.span.stop⟩

end Views

/-! ## Diagnostics -/

theorem diagnosticsFrom_add (start offset : Nat) (leaves : List Leaf) :
    diagnosticsFrom (start + offset) leaves =
      (diagnosticsFrom start leaves).map (Diagnostic.shift offset) := by
  induction leaves generalizing start with
  | nil => rfl
  | cons leaf leaves ih =>
      cases leaf with
      | token token =>
          have swap : start + offset + token.width = start + token.width + offset := by omega
          rw [diagnosticsFrom, diagnosticsFrom, swap, ih]
      | fault problem =>
          have swap : start + offset + nextWidth leaves = start + nextWidth leaves + offset := by
            omega
          rw [diagnosticsFrom, diagnosticsFrom, List.map_cons, ih, swap]
          rfl

/-- Leaves without a problem only move the places of the problems behind them. -/
theorem diagnosticsFrom_append {before : List Leaf}
    (faultless : ∀ problem, Leaf.fault problem ∉ before) (start : Nat) (after : List Leaf) :
    diagnosticsFrom start (before ++ after) =
      diagnosticsFrom (start + Token.widthAll (before.filterMap Leaf.token?)) after := by
  induction before generalizing start with
  | nil => rfl
  | cons leaf before ih =>
      cases leaf with
      | fault problem => exact absurd List.mem_cons_self (faultless problem)
      | token token =>
          have others : ∀ problem, Leaf.fault problem ∉ before := fun problem member =>
            faultless problem (List.mem_cons_of_mem _ member)
          rw [List.cons_append, diagnosticsFrom, ih others, Nat.add_assoc]
          rfl

/-! ## Files -/

theorem entries_ofText (text : String) :
    (Document.ofText text).entries =
      (Located.row 0 (fileItems (lex text))).filterMap Entry.ofNode? := by
  rw [Document.entries, Document.ofText, Located.children, Tree.located, children_parse]

theorem widthAll_fileItems (text : String) :
    Token.widthAll (Tree.tokensAll (fileItems (lex text))) = text.utf8ByteSize := by
  have tokens := tokens_parse text
  rw [parse, parseTokens, Tree.tokens_node] at tokens
  rw [tokens, widthAll_lex]

section Append

variable {left right : String}

theorem row_append_of_items
    (items : fileItems (lex (left ++ right)) = fileItems (lex left) ++ fileItems (lex right)) :
    Located.row 0 (fileItems (lex (left ++ right))) =
      Located.row 0 (fileItems (lex left)) ++
        (Located.row 0 (fileItems (lex right))).map (Located.shift left.utf8ByteSize) := by
  rw [items, Located.row_append, widthAll_fileItems, Located.row_add]

theorem entries_append_of_items
    (items : fileItems (lex (left ++ right)) = fileItems (lex left) ++ fileItems (lex right)) :
    (Document.ofText (left ++ right)).entries =
      (Document.ofText left).entries ++
        (Document.ofText right).entries.map (Entry.shift left.utf8ByteSize) := by
  rw [entries_ofText, row_append_of_items items, List.filterMap_append, entries_ofText,
    entries_ofText]
  exact congrArg _ (Located.filterMap_as?_shift _ (Entry.mk_shift _) _)

/-- A text without a problem has no influence on what follows it. Where no token goes over the seam,
the tree of both texts is made of the trees of each, and so are the diagnostics (those of the second
text alone), the records and the key index; what belongs to the second text is only moved behind the
first one. -/
theorem parse_append_of_faultless (lexes : lex (left ++ right) = lex left ++ lex right)
    (faultless : (parse left).diagnostics = []) :
    (parse (left ++ right)).located.children =
        (parse left).located.children ++
          (parse right).located.children.map (Located.shift left.utf8ByteSize) ∧
      (parse (left ++ right)).diagnostics =
        (parse right).diagnostics.map (Diagnostic.shift left.utf8ByteSize) ∧
      records (left ++ right) =
        records left ++ (records right).map (Record.shift left.utf8ByteSize) ∧
      KeyIndex.ofDocument (Document.ofText (left ++ right)) =
        { KeyIndex.ofDocument (Document.ofText left) with
          stubs := (KeyIndex.ofDocument (Document.ofText left)).stubs ++
            (KeyIndex.ofDocument (Document.ofText right)).stubs.map
              (KeyStub.shift left.utf8ByteSize) } := by
  have sound := (diagnostics_eq_nil_iff_faultless left).mp faultless
  have items : fileItems (lex (left ++ right)) = fileItems (lex left) ++ fileItems (lex right) := by
    rw [lexes]
    exact fileItems_append_of_faultless sound (lex right)
  have entries := entries_append_of_items items
  refine ⟨?_, ?_, ?_, ?_⟩
  · simp only [Located.children, Tree.located, children_parse]
    exact row_append_of_items items
  · have leftWidth := widthAll_fileItems left
    rw [Tree.tokensAll] at leftWidth
    simp only [Tree.diagnostics, parse, parseTokens, Tree.fringe_node]
    rw [items, Tree.fringeAll_append, diagnosticsFrom_append sound, leftWidth, diagnosticsFrom_add]
  · rw [records, Document.records, entries, List.filterMap_append, List.filterMap_map, records,
      records, Document.records, Document.records, List.map_filterMap]
    exact congrArg _ (List.filterMap_congr fun entry _ => Entry.record?_shift _ entry)
  · have keys : (Document.ofText (left ++ right)).keys = (Document.ofText left).keys ++
        (Document.ofText right).keys.map (KeyNode.shift left.utf8ByteSize) := by
      rw [Document.keys, entries, List.filterMap_append, List.filterMap_map, Document.keys,
        Document.keys, List.map_filterMap]
      exact congrArg _ (List.filterMap_congr fun entry _ => Entry.key?_shift _ entry)
    rw [KeyIndex.ofDocument, keys, List.map_append, List.map_map, KeyIndex.ofDocument,
      KeyIndex.ofDocument, List.map_map]
    exact congrArg _ (congrArg _ (List.map_congr_left fun key _ => KeyNode.stub_shift _ key))

end Append

/-- A `#` or a `=` behind a closed entry does not reach into it. -/
theorem parse_append_of_faultless_before_hash :
    lex ("@a\x7bk, t = u \x7d" ++ "# 1 = @b(m, v") =
        lex "@a\x7bk, t = u \x7d" ++ lex "# 1 = @b(m, v" ∧
      (parse "@a\x7bk, t = u \x7d").diagnostics = [] ∧
      (parse ("@a\x7bk, t = u \x7d" ++ "# 1 = @b(m, v")).located.children =
        (parse "@a\x7bk, t = u \x7d").located.children ++
          (parse "# 1 = @b(m, v").located.children.map (Located.shift 13) ∧
      (parse ("@a\x7bk, t = u \x7d" ++ "# 1 = @b(m, v")).diagnostics =
        [⟨.missingEquals, ⟨26, 26⟩⟩, ⟨.missingCloser .parens, ⟨26, 26⟩⟩] ∧
      records ("@a\x7bk, t = u \x7d" ++ "# 1 = @b(m, v") =
        [⟨"a", "k", [("t", "u")], ⟨0, 13⟩⟩, ⟨"b", "m", [], ⟨19, 26⟩⟩] ∧
      (KeyIndex.ofDocument (Document.ofText ("@a\x7bk, t = u \x7d" ++ "# 1 = @b(m, v"))).stubs =
        [⟨"k", 3, 5⟩, ⟨"m", 22, 24⟩] := by
  have lexes : lex ("@a\x7bk, t = u \x7d" ++ "# 1 = @b(m, v") =
      lex "@a\x7bk, t = u \x7d" ++ lex "# 1 = @b(m, v" := by decide +kernel
  have faultless : (parse "@a\x7bk, t = u \x7d").diagnostics = [] := by decide +kernel
  obtain ⟨children, diagnostics, sameRecords, index⟩ := parse_append_of_faultless lexes faultless
  refine ⟨lexes, faultless, children, diagnostics.trans ?_, sameRecords.trans ?_, ?_⟩
  · decide +kernel
  · decide +kernel
  · rw [index]
    decide +kernel

end TexWorkspace.Bib
