import Mathlib.Data.String.Basic
import TexWorkspace.Bib.Parser

set_option autoImplicit false

/-!
Every part of a tree stands at a stretch of the source, and the source reads there what the part
says. Main statement: the tree of a text is one file node that holds exactly the tokens of the text,
the stretch of each part cuts its own text out of the source, and the parts right below a node fill
its stretch without gap or overlap.
-/

namespace TexWorkspace.Bib

/-! ## The tokens of a text -/

/-- No character is lost between the tokens. -/
theorem flatMap_lexChars (chars : List Char) :
    (lexChars chars).flatMap (fun token => token.text.toList) = chars := by
  fun_induction lexChars chars with
  | case1 => rfl
  | case2 c rest ih =>
      rw [List.flatMap_cons, ih]
      exact tokenAt_append c rest

theorem join_lex (text : String) : String.join ((lex text).map Token.text) = text := by
  apply String.toList_inj.mp
  rw [String.toList_join, List.flatMap_map]
  exact flatMap_lexChars text.toList

theorem text_of_lex {text : String} {token : Token} (single : lex text = [token]) :
    token.text = text := by
  have joined := join_lex text
  simpa [single] using joined

theorem text_ne_of_mem_lex {text : String} {token : Token} (member : token ∈ lex text) :
    token.text ≠ "" := by
  rw [lex] at member
  generalize text.toList = chars at member
  fun_induction lexChars chars with
  | case1 => cases member
  | case2 c rest ih =>
      rcases List.mem_cons.mp member with rfl | member
      · intro empty
        exact tokenAt_ne_nil c rest (by rw [empty]; rfl)
      · exact ih member

theorem width_pos_of_mem_lex {text : String} {token : Token} (member : token ∈ lex text) :
    0 < token.width := by
  refine Nat.pos_of_ne_zero fun none => text_ne_of_mem_lex member ?_
  exact String.utf8ByteSize_eq_zero_iff.mp none

/-- The width of tokens is the length of their texts. -/
theorem Token.widthAll_eq (tokens : List Token) :
    Token.widthAll tokens = (String.join (tokens.map Token.text)).utf8ByteSize := by
  induction tokens with
  | nil => simp
  | cons token rest ih => simp [ih, Token.width]

theorem widthAll_lex (text : String) : Token.widthAll (lex text) = text.utf8ByteSize := by
  rw [Token.widthAll_eq, join_lex]

/-! ## Stretches of a text -/

/-- The stretch of a text from `start` to `stop`, if both lie between characters. -/
def Span.slice? (span : Span) (text : String) : Option String :=
  if span.start ≤ span.stop ∧ (String.Pos.Raw.mk span.start).IsValid text ∧
      (String.Pos.Raw.mk span.stop).IsValid text then
    some (String.Pos.Raw.extract text ⟨span.start⟩ ⟨span.stop⟩)
  else none

/-- Spans one after the other, without gap or overlap, from the start of a span to its end. -/
def Span.Tiled (span : Span) : List Span → Prop
  | [] => span.start = span.stop
  | first :: rest =>
      first.start = span.start ∧ first.start ≤ first.stop ∧ Tiled ⟨first.stop, span.stop⟩ rest

/-- What stands between two parts of a text is the stretch that starts where the first one ends. -/
theorem Span.slice?_append (before piece after : String) :
    Span.slice? ⟨before.utf8ByteSize, before.utf8ByteSize + piece.utf8ByteSize⟩
      (before ++ piece ++ after) = some piece := by
  have startValid : (String.Pos.Raw.mk before.utf8ByteSize).IsValid (before ++ piece ++ after) :=
    String.Pos.Raw.isValid_iff_exists_append.mpr
      ⟨before, piece ++ after, String.append_assoc .., rfl⟩
  have stopValid : (String.Pos.Raw.mk (before.utf8ByteSize + piece.utf8ByteSize)).IsValid
      (before ++ piece ++ after) :=
    String.Pos.Raw.isValid_iff_exists_append.mpr
      ⟨before ++ piece, after, rfl, by simp [String.Pos.Raw.ext_iff]⟩
  have cut := String.extract_of_valid before.toList piece.toList after.toList
  simp only [String.utf8Len_toList, String.ofList_append, String.ofList_toList] at cut
  rw [Span.slice?, if_pos ⟨Nat.le_add_right .., startValid, stopValid⟩, cut]

/-! ## Parts of a tree in their places -/

namespace Located

/-- `Within whole part`: the part is the whole itself or stands somewhere below it. -/
inductive Within (whole : Located) : Located → Prop where
  | self : Within whole whole
  | child {parent part : Located} :
      Within whole parent → part ∈ parent.children → Within whole part

theorem row_append (start : Nat) (left right : List Tree) :
    row start (left ++ right) =
      row start left ++ row (start + Token.widthAll (Tree.tokensAll left)) right := by
  induction left generalizing start with
  | nil => simp [row]
  | cons tree trees ih => simp [row, ih, Tree.width, Nat.add_assoc]

/-- A tree in a row starts where the trees before it end. -/
theorem exists_of_mem_row {start : Nat} {trees : List Tree} {part : Located}
    (member : part ∈ row start trees) :
    ∃ left right, trees = left ++ part.tree :: right ∧
      part.start = start + Token.widthAll (Tree.tokensAll left) := by
  induction trees generalizing start with
  | nil => cases member
  | cons tree trees ih =>
      rw [row, List.mem_cons] at member
      rcases member with rfl | member
      · exact ⟨[], trees, rfl, by simp⟩
      · obtain ⟨left, right, rfl, placed⟩ := ih member
        refine ⟨tree :: left, right, rfl, ?_⟩
        rw [placed, Tree.tokensAll_cons, Token.widthAll_append, Nat.add_assoc, Tree.width]

theorem flatMap_tokens_row (start : Nat) (trees : List Tree) :
    (row start trees).flatMap (fun part => part.tree.tokens) = Tree.tokensAll trees := by
  induction trees generalizing start with
  | nil => rfl
  | cons tree trees ih => simp [row, ih]

theorem tiled_row (start : Nat) (trees : List Tree) :
    Span.Tiled ⟨start, start + Token.widthAll (Tree.tokensAll trees)⟩
      ((row start trees).map span) := by
  induction trees generalizing start with
  | nil => rfl
  | cons tree trees ih =>
      refine ⟨rfl, Nat.le_add_right .., ?_⟩
      have rest := ih (start + tree.width)
      rw [Nat.add_assoc] at rest
      simpa [span, Tree.width] using rest

/-- Faults cover no text, so leaving them out keeps the tokens. -/
theorem tokensAll_children (kind : NodeKind) (below : List Tree) :
    Tree.tokensAll (Tree.node kind below).children = Tree.tokensAll below := by
  induction below with
  | nil => rfl
  | cons tree trees ih => cases tree <;> simp [ih]

theorem tokens_eq_flatMap_children {part : Located} {kind : NodeKind} {below : List Tree}
    (isNode : part.tree = .node kind below) :
    part.tree.tokens = part.children.flatMap (fun child => child.tree.tokens) := by
  rw [children, flatMap_tokens_row, isNode, tokensAll_children, Tree.tokens_node]

theorem tiled_children {part : Located} {kind : NodeKind} {below : List Tree}
    (isNode : part.tree = .node kind below) :
    part.span.Tiled (part.children.map span) := by
  have tiled := tiled_row part.start part.tree.children
  rwa [isNode, tokensAll_children, ← Tree.tokens_node kind, ← isNode] at tiled

/-- A part below a node stands after the tokens of the parts before it. -/
theorem tokens_of_mem_children {parent part : Located} (member : part ∈ parent.children) :
    ∃ before after, parent.tree.tokens = before ++ part.tree.tokens ++ after ∧
      part.start = parent.start + Token.widthAll before := by
  obtain ⟨left, right, found, placed⟩ := exists_of_mem_row member
  refine ⟨Tree.tokensAll left, Tree.tokensAll right, ?_, placed⟩
  cases shape : parent.tree with
  | token own => simp [shape, Tree.children] at found
  | fault problem => simp [shape, Tree.children] at found
  | node kind below =>
      rw [Tree.tokens_node, ← tokensAll_children kind below, ← shape, found]
      simp

theorem Within.tokens {whole part : Located} (within : Within whole part) :
    ∃ before after, whole.tree.tokens = before ++ part.tree.tokens ++ after ∧
      part.start = whole.start + Token.widthAll before := by
  induction within with
  | self => exact ⟨[], [], by simp, by simp⟩
  | child _ member ih =>
      obtain ⟨before, after, outer, outerStart⟩ := ih
      obtain ⟨left, right, inner, innerStart⟩ := tokens_of_mem_children member
      refine ⟨before ++ left, right ++ after, ?_, ?_⟩
      · rw [outer, inner]
        simp
      · rw [innerStart, outerStart, Token.widthAll_append, Nat.add_assoc]

end Located

/-! ## The tree of a text -/

theorem tokens_parse (text : String) : (parse text).tokens = lex text :=
  tokens_parseTokens (lex text)

theorem text_parse (text : String) : (parse text).text = text := by
  rw [Tree.text, tokens_parse, join_lex]

/-- No problem stands between the entries of a file. -/
theorem children_parse (text : String) : (parse text).children = fileItems (lex text) := by
  unfold parse parseTokens
  fun_induction fileItems (lex text) with
  | case1 => rfl
  | case2 token rest isEntry ih =>
      rw [Tree.children_append, ih]
      simp [Rule.entry, Rule.wrap]
  | case3 token rest noEntry ih =>
      rw [Rule.triviaTree]
      split <;> simp [ih]

theorem mem_lex_of_within {text : String} {part : Located}
    (within : Located.Within (parse text).located part) {token : Token}
    (member : token ∈ part.tree.tokens) : token ∈ lex text := by
  obtain ⟨before, after, whole, -⟩ := within.tokens
  rw [← tokens_parse]
  change token ∈ (parse text).located.tree.tokens
  rw [whole]
  simp [member]

/-- Where a part of the tree stands, the source reads what the part says. -/
theorem slice?_span_of_within {text : String} {part : Located}
    (within : Located.Within (parse text).located part) :
    part.span.slice? text = some part.tree.text := by
  obtain ⟨before, after, whole, placed⟩ := within.tokens
  have source : text = String.join (before.map Token.text) ++ part.tree.text ++
      String.join (after.map Token.text) := by
    calc text = String.join ((lex text).map Token.text) := (join_lex text).symm
      _ = String.join ((before ++ part.tree.tokens ++ after).map Token.text) := by
          rw [← whole, Tree.located, tokens_parse]
      _ = _ := by simp [Tree.text, String.append_assoc]
  have start : part.start = (String.join (before.map Token.text)).utf8ByteSize := by
    rw [placed, Token.widthAll_eq]
    simp [Tree.located]
  have width : part.tree.width = part.tree.text.utf8ByteSize := Token.widthAll_eq _
  rw [Located.span, start, width]
  conv_lhs => rw [source]
  exact Span.slice?_append ..

/-- The tree of a text is a file node over exactly the tokens of the text, which together are the
text. Each part of it covers the stretch of the text that it says, and the parts right below a node
hold the tokens of the node and fill its stretch without gap or overlap. -/
theorem parse_lossless (text : String) :
    (∃ below, parse text = .node .file below) ∧
      (parse text).tokens = lex text ∧
      String.join ((parse text).tokens.map Token.text) = text ∧
      ∀ part, Located.Within (parse text).located part →
        part.span.slice? text = some part.tree.text ∧
        ∀ kind below, part.tree = .node kind below →
          part.tree.tokens = part.children.flatMap (fun child => child.tree.tokens) ∧
          part.span.Tiled (part.children.map Located.span) := by
  refine ⟨⟨fileItems (lex text), rfl⟩, tokens_parse text, text_parse text, ?_⟩
  intro part within
  refine ⟨slice?_span_of_within within, ?_⟩
  intro kind below isNode
  exact ⟨Located.tokens_eq_flatMap_children isNode, Located.tiled_children isNode⟩

end TexWorkspace.Bib
