import TexWorkspace.Bib.Record
import TexWorkspace.Proofs.Bib.Draft.Tree

set_option autoImplicit false

/-!
Reading a written bibliography. Main statement: the records of a written bibliography are those of
its drafts, one for each in their order, and each stands where its draft was written.
-/

namespace TexWorkspace.Bib

namespace Draft

/-! ## What the trees say -/

/-- What a piece contributes to a value. -/
def Piece.content : Piece → String
  | .bare name => name.text
  | .braced inner => inner.text
  | .quoted inner => inner.text

/-- A field as it is to be read: its name in lower case and its pieces joined. -/
def Field.pair (field : Field) : String × String :=
  (Text.lowercase field.name.text, String.join (field.pieces.map Piece.content))

def pairs (draft : Draft) : List (String × String) :=
  draft.fields.map Field.pair

/-- The draft as it is to be read where it starts at `start`. -/
def record (draft : Draft) (start : Nat) : Record where
  type := Text.lowercase draft.type.text
  key := draft.key.text
  fields := FieldMap.ofList draft.pairs
  span := ⟨start, start + draft.source.utf8ByteSize⟩

/-- The drafts one after the other, each with the end of its line behind it. -/
def recordsFrom (start : Nat) : List Draft → List Record
  | [] => []
  | draft :: drafts =>
      draft.record start :: recordsFrom (start + draft.source.utf8ByteSize + 1) drafts

theorem children_tokenTrees (kind : NodeKind) (tokens : List Token) :
    (Tree.node kind (tokenTrees tokens)).children = tokenTrees tokens := by
  induction tokens with
  | nil => rfl
  | cons token tokens ih => exact congrArg (Tree.token token :: ·) ih

theorem text_tokenTrees (kind : NodeKind) (text : String) :
    (Tree.node kind (tokenTrees (lex text))).text = text := by
  simp [Tree.text, tokenTrees, join_lex]

theorem children_piece (kind : NodeKind) (piece : Piece) :
    (Tree.node kind piece.trees).children = piece.trees := by
  cases piece with
  | bare name => exact children_tokenTrees kind _
  | braced inner => rfl
  | quoted inner => rfl

theorem children_valueTrees (kind : NodeKind) {pieces : List Piece} (nonempty : pieces ≠ []) :
    (Tree.node kind (valueTrees pieces)).children = valueTrees pieces := by
  induction pieces with
  | nil => exact absurd rfl nonempty
  | cons piece more ih =>
      cases more with
      | nil => simpa [valueTrees] using children_piece kind piece
      | cons next more =>
          rw [valueTrees_cons_cons, Tree.children_append, children_piece]
          simp [ih]

theorem stripMarks_enclosed (opening closing : Char) (inner : List Char) :
    stripMarks opening closing (opening :: (inner ++ [closing])) = inner := by
  simp [stripMarks]

theorem text_enclosed (kind : NodeKind) (opening closing : Token) (text : String) :
    (Tree.node kind (.token opening :: tokenTrees (lex text ++ [closing]))).text =
      opening.text ++ text ++ closing.text := by
  have tokens : (Tree.node kind (.token opening :: tokenTrees (lex text ++ [closing]))).tokens =
      opening :: (lex text ++ [closing]) := by
    rw [Tree.tokens_node, Tree.tokensAll_cons, tokenTrees, Tree.tokensAll_map_token]
    rfl
  rw [Tree.text, tokens, List.map_cons, List.map_append, String.join_cons, String.join_append,
    join_lex, String.append_assoc]
  simp

theorem pieceText_piece (piece : Piece) :
    piece.trees.flatMap Tree.pieceText = piece.content.toList := by
  cases piece with
  | bare name =>
      obtain ⟨token, single, isName⟩ := name.single
      simp [Piece.trees, Piece.content, single, tokenTrees, Tree.pieceText, isName,
        text_of_lex single]
  | braced inner =>
      rw [Piece.trees, List.flatMap_singleton, Tree.pieceText, text_enclosed]
      simpa [openBrace, closeBrace, Piece.content] using stripMarks_enclosed '{' '}' _
  | quoted inner =>
      rw [Piece.trees, List.flatMap_singleton, Tree.pieceText, text_enclosed]
      simpa [quote, Piece.content] using stripMarks_enclosed '"' '"' _

theorem pieceText_value {pieces : List Piece} (nonempty : pieces ≠ []) :
    (valueTrees pieces).flatMap Tree.pieceText =
      (String.join (pieces.map Piece.content)).toList := by
  induction pieces with
  | nil => exact absurd rfl nonempty
  | cons piece more ih =>
      cases more with
      | nil => simpa [valueTrees] using pieceText_piece piece
      | cons next more =>
          have spaceText : (Tree.token space).pieceText = [] := rfl
          have hashText : (Tree.token hash).pieceText = [] := rfl
          rw [valueTrees_cons_cons, List.flatMap_append, pieceText_piece, List.flatMap_cons,
            List.flatMap_cons, List.flatMap_cons, spaceText, hashText,
            ih (List.cons_ne_nil next more), List.map_cons]
          simp

theorem pair?_field (field : Field) (others : List Field) (start : Nat) :
    (Bib.Field.mk ⟨start, field.tree others⟩).pair? = some field.pair := by
  have name : (Bib.Field.mk ⟨start, field.tree others⟩).name? = some field.name.text := by
    simp [Bib.Field.name?, Field.tree, Tree.child?, Tree.hasKind, text_tokenTrees]
  have value : (Bib.Field.mk ⟨start, field.tree others⟩).value? =
      some (String.join (field.pieces.map Piece.content)) := by
    have found : (field.tree others).child? .value = some (.node .value (valueTrees field.pieces)) := by
      simp [Field.tree, Tree.child?, Tree.hasKind]
    rw [Bib.Field.value?, found, Option.map_some, children_valueTrees _ field.nonempty,
      pieceText_value field.nonempty, String.ofList_toList]
  simp [Bib.Field.pair?, name, value, Field.pair]

theorem children_fieldTrees (kind : NodeKind) (fields : List Field) (more : List Tree) :
    (Tree.node kind (fieldTrees fields ++ more)).children =
      fieldTrees fields ++ (Tree.node kind more).children := by
  induction fields with
  | nil => rfl
  | cons field fields ih =>
      rw [fieldTrees, List.cons_append, List.cons_append, Tree.children_token_cons, Field.tree,
        Tree.children_node_cons, ih]
      rfl

/-- The children of a written entry are what its tree lists. -/
theorem children_tree (draft : Draft) :
    draft.tree.children = .token atSign :: .node .entryType (tokenTrees (lex draft.type.text)) ::
      .token openBrace :: draft.keyTree :: fieldTrees draft.fields ++ [.token closeBrace] := by
  have tail := children_fieldTrees .entry draft.fields [.token closeBrace]
  simp [tree, keyTree, tail]

theorem pairs_row (start : Nat) (fields : List Field) :
    ((Located.row start (fieldTrees fields ++ [.token closeBrace])).filterMap
      Bib.Field.ofNode?).filterMap Bib.Field.pair? = fields.map Field.pair := by
  induction fields generalizing start with
  | nil => rfl
  | cons field fields ih =>
      have isField : ∀ place, Bib.Field.ofNode? ⟨place, field.tree fields⟩ =
          some ⟨⟨place, field.tree fields⟩⟩ := fun _ => rfl
      have noField : ∀ place, Bib.Field.ofNode? ⟨place, .token space⟩ = none := fun _ => rfl
      rw [fieldTrees, List.cons_append, List.cons_append, Located.row, Located.row,
        List.filterMap_cons_none (noField _), List.filterMap_cons_some (isField _),
        List.filterMap_cons_some (pair?_field field fields _), ih, List.map_cons]

theorem identifier_key (draft : Draft) (start : Nat) :
    (KeyNode.mk ⟨start, draft.keyTree⟩).identifier = draft.key.text := by
  obtain ⟨name, single, isName⟩ := draft.key.single
  have children : draft.keyTree.children =
      .token name :: tokenTrees (separatorTokens draft.fields) := by
    rw [keyTree, Tree.children_append, children_tokenTrees, children_tokenTrees, single]
    rfl
  have noName : comma.isName = false := rfl
  rw [KeyNode.identifier, children]
  cases draft.fields with
  | nil => simp [separatorTokens, tokenTrees, isName, text_of_lex single]
  | cons field fields =>
      simp [separatorTokens, tokenTrees, isName, noName, text_of_lex single]

theorem width_tree (draft : Draft) : draft.tree.width = draft.source.utf8ByteSize := by
  -- Both sides are the width of the draft's tokens.
  have lexed : lex draft.source = draft.tokens := by
    have whole := lexChars_source draft []
    simpa [lex, lexChars] using whole
  have tokens : draft.tree.tokens = draft.tokens := by
    have lossless := Rule.entry_lossless (draft.tokens ++ [])
    rw [entry_tokens] at lossless
    simpa using lossless
  rw [Tree.width, tokens, ← lexed, widthAll_lex]

theorem record?_entry (draft : Draft) (start : Nat) :
    (Bib.Entry.mk ⟨start, draft.tree⟩).record? = some (draft.record start) := by
  have type : (Bib.Entry.mk ⟨start, draft.tree⟩).type? =
      some (Text.lowercase draft.type.text) := by
    simp [Bib.Entry.type?, Tree.child?, children_tree, Tree.hasKind, text_tokenTrees]
  obtain ⟨place, key⟩ : ∃ place, (Bib.Entry.mk ⟨start, draft.tree⟩).key? =
      some ⟨⟨place, draft.keyTree⟩⟩ := by
    rw [Bib.Entry.key?, Located.children, children_tree]
    exact ⟨_, rfl⟩
  have fields : (Bib.Entry.mk ⟨start, draft.tree⟩).fields.filterMap Bib.Field.pair? =
      draft.pairs := by
    rw [Bib.Entry.fields, Located.children, children_tree]
    exact pairs_row _ draft.fields
  have span : (Bib.Entry.mk ⟨start, draft.tree⟩).span =
      ⟨start, start + draft.source.utf8ByteSize⟩ := by
    rw [Bib.Entry.span, Located.span, width_tree]
  rw [Bib.Entry.record?, key, type, fields, span, Option.map_some, identifier_key]
  rfl

theorem records_row (start : Nat) (drafts : List Draft) :
    ((Located.row start (drafts.flatMap fun draft => [draft.tree, .token newline])).filterMap
      Bib.Entry.ofNode?).filterMap Bib.Entry.record? = recordsFrom start drafts := by
  induction drafts generalizing start with
  | nil => rfl
  | cons draft drafts ih =>
      have isEntry : ∀ place, Bib.Entry.ofNode? ⟨place, draft.tree⟩ =
          some ⟨⟨place, draft.tree⟩⟩ := fun _ => rfl
      have noEntry : ∀ place, Bib.Entry.ofNode? ⟨place, .token newline⟩ = none := fun _ => rfl
      have width : (Tree.token newline).width = 1 := by decide
      rw [List.flatMap_cons, List.cons_append, List.cons_append, List.nil_append, Located.row,
        Located.row, List.filterMap_cons_some (isEntry _), List.filterMap_cons_none (noEntry _),
        List.filterMap_cons_some (record?_entry draft _), ih, width_tree, width]
      rfl

/-! ## Records -/

/-- A written bibliography has no diagnostics, and reading it gives the records of its drafts, one for
each in their order: the type in lower case, the key, the fields, and the stretch that the entry
covers. Of several fields with one name in lower case, the last one counts. -/
theorem records_write (drafts : List Draft) :
    (parse (write drafts)).diagnostics = [] ∧
      records (write drafts) = recordsFrom 0 drafts ∧
      ∀ draft ∈ drafts, ∀ start name,
        FieldMap.get? name (draft.record start).fields = draft.pairs.reverse.lookup name := by
  refine ⟨diagnostics_write drafts, ?_, ?_⟩
  · have children : (parse (write drafts)).located.children =
        Located.row 0 (drafts.flatMap fun draft => [draft.tree, .token newline]) := by
      rw [Located.children, Tree.located, children_parse, fileItems_write]
    rw [records, Document.ofText, Document.records, Document.entries, children]
    exact records_row 0 drafts
  · intro draft _ start name
    exact FieldMap.get?_ofList name draft.pairs

/-- A field given twice, the second time with pieces of all three kinds. -/
theorem records_write_repeated_field : ∃ draft : Draft,
    write [draft] = "@A\x7bk, t = 1, T = \x7b\x7bx\x7d\x7d # y # \"z\"\x7d\n" ∧
      records (write [draft]) = [⟨"a", "k", [("t", "\x7bx\x7dyz")], ⟨0, 33⟩⟩] := by
  refine ⟨{
    type := ⟨⟨"A", ⟨⟨.word, "A"⟩, by decide +kernel, rfl⟩, by decide⟩, by decide +kernel⟩
    ordinary := by decide +kernel
    key := ⟨"k", ⟨⟨.word, "k"⟩, by decide +kernel, rfl⟩, by decide⟩
    fields := [
      { name := ⟨⟨"t", ⟨⟨.word, "t"⟩, by decide +kernel, rfl⟩, by decide⟩, by decide +kernel⟩
        pieces := [.bare ⟨"1", ⟨⟨.number, "1"⟩, by decide +kernel, rfl⟩, by decide⟩]
        nonempty := by simp },
      { name := ⟨⟨"T", ⟨⟨.word, "T"⟩, by decide +kernel, rfl⟩, by decide⟩, by decide +kernel⟩
        pieces := [.braced ⟨"\x7bx\x7d", by decide +kernel, by decide, by decide +kernel⟩,
          .bare ⟨"y", ⟨⟨.word, "y"⟩, by decide +kernel, rfl⟩, by decide⟩,
          .quoted ⟨"z", by decide +kernel, by decide, by decide +kernel⟩]
        nonempty := by simp }] }, ?_, ?_⟩
  · decide +kernel
  · rw [(records_write _).2.1]
    decide +kernel

end Draft

end TexWorkspace.Bib
