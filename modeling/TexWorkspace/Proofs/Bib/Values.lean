import TexWorkspace.Proofs.Bib.Construction
import TexWorkspace.Proofs.Bib.Discipline
import TexWorkspace.Proofs.Bib.Views

set_option autoImplicit false

/-!
What the value of a field is made of. Main statement: words and numbers stand for themselves, and a
text loses the delimiters that it has. A text that nothing closed has no closing one, and still loses
its last character where that looks like one.
-/

namespace TexWorkspace.Bib

/-! ## What the parts of a value add to it -/

namespace TextForm

def openingMark : TextForm → Char
  | .braced => '{'
  | .quoted => '"'

def closingMark : TextForm → Char
  | .braced => '}'
  | .quoted => '"'

/-- The text without its last character, where this is the mark that closes texts of the form. -/
def dropMark (form : TextForm) (text : String) : String :=
  if text.toList.getLast? = some form.closingMark then String.ofList text.toList.dropLast else text

end TextForm

/-- What a part of a value adds to it, where `keep` says what is left of a text that nothing
closed. -/
inductive Contributes (keep : TextForm → String → String) : Tree → String → Prop where
  | name {own : Token} : own.isName = true → Contributes keep (.token own) own.text
  | separator {own : Token} : own.isName = false → Contributes keep (.token own) ""
  | comment {below : List Tree} : Contributes keep (.node .comment below) ""
  | closed {form : TextForm} {inside : List Token} {below : List Tree} :
      form.Holds inside true below →
      Contributes keep (.node form.kind below) (String.join (inside.map Token.text))
  | unclosed {form : TextForm} {inside : List Token} {below : List Tree} :
      form.Holds inside false below →
      Contributes keep (.node form.kind below) (keep form (String.join (inside.map Token.text)))

/-! ## Marks of texts -/

theorem eq_of_mem_marks {kind : TokenKind} {c d : Char} (first : (kind, c) ∈ marks)
    (second : (kind, d) ∈ marks) : c = d := by
  cases kind <;> simp_all [marks]

theorem Disciplined.text_of_mark {tokens : List Token} (disciplined : Disciplined tokens)
    {token : Token} (member : token ∈ tokens) {c : Char} (isMark : (token.kind, c) ∈ marks) :
    token.text = String.ofList [c] := by
  induction disciplined with
  | nil => cases member
  | unpaired _ =>
      obtain rfl := List.mem_singleton.mp member
      exact absurd isMark (by simp [marks])
  | cons formed _ _ ih =>
      rcases List.mem_cons.mp member with rfl | member
      · cases formed with
        | mark listed => rw [eq_of_mem_marks isMark listed]
        | blank _ _ => exact absurd isMark (by simp [marks])
        | comment _ => exact absurd isMark (by simp [marks])
        | number _ _ => exact absurd isMark (by simp [marks])
        | word _ _ => exact absurd isMark (by simp [marks])
      · exact ih member

theorem stripMarks_cons (opening closing : Char) (chars : List Char) :
    stripMarks opening closing (opening :: chars) =
      if chars.getLast? = some closing then chars.dropLast else chars := by
  simp [stripMarks]

namespace TextForm

variable {form : TextForm} {text : String} {opener closer : Token}

theorem text_of_opening (member : opener ∈ lex text) (opens : opener.kind = form.opening) :
    opener.text = String.ofList [form.openingMark] := by
  refine (lexChars_disciplined text.toList).text_of_mark member ?_
  rw [opens]
  cases form <;> decide

theorem text_of_closing (member : closer ∈ lex text) (closes : closer.kind = form.closing) :
    closer.text = String.ofList [form.closingMark] := by
  refine (lexChars_disciplined text.toList).text_of_mark member ?_
  rw [closes]
  cases form <;> decide

theorem toList_dropMark (form : TextForm) (text : String) :
    (form.dropMark text).toList =
      if text.toList.getLast? = some form.closingMark then text.toList.dropLast
      else text.toList := by
  unfold dropMark
  split
  · exact String.toList_ofList
  · rfl

theorem pieceText_eq (form : TextForm) (below : List Tree) :
    (Tree.node form.kind below).pieceText =
      stripMarks form.openingMark form.closingMark (Tree.node form.kind below).text.toList := by
  cases form <;> rfl

end TextForm

/-! ## Parts of values -/

theorem Contributes.pieceText_eq {text : String} {tree : Tree} {part : String}
    (contributes : Contributes TextForm.dropMark tree part)
    (lexed : ∀ own ∈ tree.tokens, own ∈ lex text) : tree.pieceText = part.toList := by
  cases contributes with
  | name isName => simp [Tree.pieceText, isName]
  | separator noName => simp [Tree.pieceText, noName]
  | comment => rfl
  | @closed form inside _ holds =>
      cases holds with
      | closed opens closes =>
          have opened := TextForm.text_of_opening (lexed _ (by simp)) opens
          have closed := TextForm.text_of_closing (lexed _ (by simp)) closes
          rw [form.pieceText_eq]
          simp [Tree.text, opened, closed, stripMarks_cons]
  | @unclosed form inside _ holds =>
      cases holds with
      | unclosed opens =>
          have opened := TextForm.text_of_opening (lexed _ (by simp)) opens
          rw [form.pieceText_eq]
          simp [Tree.text, opened, stripMarks_cons, TextForm.toList_dropMark]

theorem exists_contributes (keep : TextForm → String → String) {below : List Tree}
    (among : Among Shape.valueLabels below) (built : Built below) {tree : Tree}
    (member : tree ∈ (Tree.node .value below).children) : ∃ part, Contributes keep tree part := by
  obtain ⟨listed, noFault⟩ := List.mem_filter.mp member
  have ofText : ∀ (form : TextForm) deep, tree = .node form.kind deep →
      ∃ part, Contributes keep tree part := by
    rintro form deep rfl
    obtain ⟨inside, closed, holds⟩ := (built.of_mem listed).2 form rfl
    cases closed with
    | true => exact ⟨_, .closed holds⟩
    | false => exact ⟨_, .unclosed holds⟩
  cases tree with
  | fault problem => cases noFault
  | token own =>
      cases isName : own.isName with
      | true => exact ⟨_, .name isName⟩
      | false => exact ⟨_, .separator isName⟩
  | node kind deep =>
      have label : Label.node kind ∈ Shape.valueLabels := among _ listed _ rfl
      simp only [Shape.valueLabels, Shape.looseLabels, List.cons_append, List.nil_append,
        List.mem_cons, reduceCtorEq, Label.node.injEq, List.not_mem_nil, or_false,
        false_or] at label
      rcases label with rfl | rfl | rfl
      · exact ⟨_, .comment⟩
      · exact ofText .braced deep rfl
      · exact ofText .quoted deep rfl

/-- The parts of a value, each with what it adds. -/
theorem exists_parts (keep : TextForm → String → String) {trees : List Tree}
    (each : ∀ tree ∈ trees, ∃ part, Contributes keep tree part) :
    ∃ parts, List.Forall₂ (Contributes keep) trees parts := by
  induction trees with
  | nil => exact ⟨[], .nil⟩
  | cons tree trees ih =>
      obtain ⟨first, others⟩ := List.forall_mem_cons.mp each
      obtain ⟨part, contributes⟩ := first
      obtain ⟨parts, follow⟩ := ih others
      exact ⟨part :: parts, .cons contributes follow⟩

theorem flatMap_pieceText {text : String} {trees : List Tree} {parts : List String}
    (contribute : List.Forall₂ (Contributes TextForm.dropMark) trees parts)
    (lexed : ∀ tree ∈ trees, ∀ own ∈ tree.tokens, own ∈ lex text) :
    trees.flatMap Tree.pieceText = parts.flatMap String.toList := by
  induction contribute with
  | nil => rfl
  | cons first _ ih =>
      obtain ⟨ownLexed, otherLexed⟩ := List.forall_mem_cons.mp lexed
      rw [List.flatMap_cons, List.flatMap_cons, first.pieceText_eq ownLexed, ih otherLexed]

theorem fringeAll_map_token (tokens : List Token) :
    Tree.fringeAll (tokens.map .token) = tokens.map .token := by
  induction tokens with
  | nil => rfl
  | cons token tokens ih => simp [ih]

theorem TextForm.kind_injective {form other : TextForm} (same : form.kind = other.kind) :
    form = other := by
  cases form <;> cases other <;> first | rfl | cases same

/-- What an unclosed text adds to a value can be read off its fringe. -/
theorem Contributes.of_unclosed {keep : TextForm → String → String} {tree : Tree} {part : String}
    (contributes : Contributes keep tree part) {form : TextForm}
    (isText : tree.hasKind form.kind = true)
    {opener : Token} {inside : List Token} {problem : Problem}
    (fringe : tree.fringe = .token opener :: inside.map .token ++ [.fault problem]) :
    part = keep form (String.join (inside.map Token.text)) := by
  cases contributes with
  | name _ => cases isText
  | separator _ => cases isText
  | comment => cases form <;> cases isText
  | closed holds =>
      cases holds with
      | closed _ _ =>
          rw [Tree.fringe_node, Tree.fringeAll_append] at fringe
          obtain ⟨-, last⟩ := List.append_inj' fringe rfl
          simp at last
  | @unclosed other _ _ holds =>
      obtain rfl : other = form := TextForm.kind_injective (of_decide_eq_true isText)
      cases holds with
      | unclosed _ =>
          rw [Tree.fringe_node, Tree.fringeAll_append, Tree.fringeAll_cons, fringeAll_map_token,
            Tree.fringe_token] at fringe
          obtain ⟨front, -⟩ := List.append_inj' fringe rfl
          obtain ⟨-, same⟩ := List.cons.inj front
          rw [List.map_injective_iff.mpr (fun _ _ => Leaf.token.inj) same]

/-! ## Fields in their file -/

namespace Located

theorem Within.trans {whole middle part : Located} (outer : Within whole middle)
    (inner : Within middle part) : Within whole part := by
  induction inner with
  | self => exact outer
  | child _ member ih => exact .child ih member

theorem exists_of_mem_children {node : Located} {tree : Tree} (member : tree ∈ node.tree.children) :
    ∃ place, ⟨place, tree⟩ ∈ node.children := by
  obtain ⟨left, right, split⟩ := List.append_of_mem member
  rw [children, split, row_append]
  exact ⟨_, List.mem_append_right _ List.mem_cons_self⟩

end Located

/-- What is listed as a node of a tree stands within the tree. -/
theorem Tree.Sound.within_of_mem {tree : Tree} (sound : tree.Sound) {start : Nat} {part : Located}
    (member : part ∈ tree.nodesFrom start) : Located.Within ⟨start, tree⟩ part := by
  induction sound generalizing start part with
  | token own => simp [nodesFrom] at member
  | fault problem => simp [nodesFrom] at member
  | @node kind below _ _ ih =>
      have nodes := @Located.nodes_eq ⟨start, .node kind below⟩ kind below rfl
      change part ∈ Located.nodes ⟨start, .node kind below⟩ at member
      rw [nodes] at member
      rcases List.mem_cons.mp member with rfl | member
      · exact .self
      · obtain ⟨child, listed, inside⟩ := List.mem_flatMap.mp member
        have among := Tree.mem_of_mem_children (Located.tree_mem_of_mem_children listed)
        exact (Located.Within.child .self listed).trans (ih child.tree among inside)

theorem sound_of_within {text : String} {part : Located}
    (within : Located.Within (parse text).located part) : part.tree.Sound := by
  induction within with
  | self => exact sound_parse text
  | @child parent part _ member ih =>
      cases tree : parent.tree with
      | token own => simp [Located.children, tree, Tree.children, Located.row] at member
      | fault problem => simp [Located.children, tree, Tree.children, Located.row] at member
      | node kind below => exact (Located.sound_of_mem_children tree ih member).1

theorem built_of_within {text : String} {part : Located}
    (within : Located.Within (parse text).located part) {kind : NodeKind} {below : List Tree}
    (isNode : part.tree = .node kind below) : Built below := by
  induction within generalizing kind below with
  | self =>
      have whole : Built [.node kind below] := isNode ▸ built_parse text
      exact (whole.of_mem List.mem_cons_self).1
  | @child parent part _ member ih =>
      have listed := Located.tree_mem_of_mem_children member
      cases tree : parent.tree with
      | token own => simp [tree, Tree.children] at listed
      | fault problem => simp [tree, Tree.children] at listed
      | node own row =>
          rw [tree] at listed
          have among := Tree.mem_of_mem_children listed
          rw [isNode] at among
          exact ((ih tree).of_mem among).1

/-! ## The main statement -/

/-- The value of a field is what its parts add to it, in their order. -/
theorem value?_eq_join (text : String) (field : Field) (value : Tree)
    (listed : field ∈ (parse text).located.nodes.filterMap Field.ofNode?)
    (valued : field.node.tree.child? .value = some value) :
    ∃ parts, List.Forall₂ (Contributes TextForm.dropMark) value.children parts ∧
      field.value? = some (String.join parts) := by
  obtain ⟨node, member, view⟩ := List.mem_filterMap.mp listed
  obtain ⟨rfl, -⟩ := Located.of_as?_eq_some view
  have within := (sound_parse text).within_of_mem member
  -- The value stands in the tree of the text, so it is formed as all such trees are.
  have isValue := List.find?_some valued
  obtain ⟨place, child⟩ := Located.exists_of_mem_children (List.mem_of_find?_eq_some valued)
  have inner := within.child child
  obtain ⟨below, rfl, fits⟩ : ∃ below, value = .node .value below ∧ Shape.Fits .value below := by
    have sound := sound_of_within inner
    cases sound with
    | token own => cases isValue
    | fault problem => cases isValue
    | @node kind below fits _ =>
        obtain rfl : kind = .value := by simpa [Tree.hasKind] using isValue
        exact ⟨below, rfl, fits⟩
  have lexed : ∀ tree ∈ (Tree.node .value below).children, ∀ own ∈ tree.tokens, own ∈ lex text := by
    intro tree among own held
    obtain ⟨place, listed⟩ := @Located.exists_of_mem_children ⟨place, .node .value below⟩ _ among
    exact mem_lex_of_within (inner.child listed) held
  cases fits with
  | value among =>
      have each : ∀ tree ∈ (Tree.node .value below).children,
          ∃ part, Contributes TextForm.dropMark tree part := by
        intro tree member
        exact exists_contributes _ among (built_of_within inner rfl) member
      obtain ⟨parts, contribute⟩ := exists_parts TextForm.dropMark each
      refine ⟨parts, contribute, ?_⟩
      rw [Field.value?, valued, Option.map_some, flatMap_pieceText contribute lexed,
        ← String.toList_join, String.ofList_toList]

/-- A file that ends in the middle of a text, after a pair of braces in it. -/
def cutText : String := "@misc\x7bk, t = \x7ba \x7bb\x7d"

/-- The tokens of its text, behind the brace that opens it. -/
def cutInside : List Token :=
  [⟨.word, "a"⟩, ⟨.blank, " "⟩, ⟨.openBrace, "\x7b"⟩, ⟨.word, "b"⟩, ⟨.closeBrace, "\x7d"⟩]

theorem fields_cutText :
    ((parse cutText).located.nodes.filterMap Field.ofNode?).map (fun field =>
      ((field.node.tree.child? .value).map fun value =>
        value.children.map fun child => (child.hasKind .bracedText, child.fringe), field.value?)) =
      [(some [(true, .token ⟨.openBrace, "\x7b"⟩ :: cutInside.map .token ++
        [.fault .unclosedBrace])], some "a \x7bb")] := by
  decide +kernel

/-- Its only field has a value with one part, the text that nothing closed. -/
theorem exists_cutField : ∃ field ∈ (parse cutText).located.nodes.filterMap Field.ofNode?,
    ∃ value child, field.node.tree.child? .value = some value ∧ value.children = [child] ∧
      child.hasKind .bracedText = true ∧
      child.fringe = .token ⟨.openBrace, "\x7b"⟩ :: cutInside.map .token ++
        [.fault .unclosedBrace] ∧
      field.value? = some "a \x7bb" := by
  obtain ⟨field, member, same⟩ := List.exists_of_mem_map
    (show _ ∈ List.map _ _ by rw [fields_cutText]; exact List.mem_singleton_self _)
  obtain ⟨valued, read⟩ := Prod.mk.inj same
  obtain ⟨value, found, row⟩ := Option.map_eq_some_iff.mp valued
  obtain ⟨child, rest, children, single, none⟩ := List.map_eq_cons_iff.mp row
  obtain rfl := List.map_eq_nil_iff.mp none
  obtain ⟨isText, fringe⟩ := Prod.mk.inj single
  exact ⟨field, member, value, child, found, children, isText, fringe, read⟩

/-- The value of a field whose text nothing closes, after a pair of braces in the text. -/
theorem value?_cut : ∃ field ∈ (parse cutText).located.nodes.filterMap Field.ofNode?,
    ∃ value, field.node.tree.child? .value = some value ∧
      (∃ parts, List.Forall₂ (Contributes TextForm.dropMark) value.children parts ∧
        field.value? = some (String.join parts)) ∧
      field.value? = some "a \x7bb" := by
  obtain ⟨field, listed, value, -, valued, -, -, -, read⟩ := exists_cutField
  exact ⟨field, listed, value, valued, value?_eq_join cutText field value listed valued, read⟩

/-- A text that nothing closed is not kept whole: the brace that closes the inner pair is lost. -/
theorem unclosed_not_kept :
    ¬ ∀ (text : String) (field : Field) (value : Tree),
      field ∈ (parse text).located.nodes.filterMap Field.ofNode? →
      field.node.tree.child? .value = some value →
      ∃ parts, List.Forall₂ (Contributes fun _ inside => inside) value.children parts ∧
        field.value? = some (String.join parts) := by
  intro kept
  obtain ⟨field, listed, value, child, valued, children, isText, fringe, read⟩ := exists_cutField
  obtain ⟨parts, contribute, whole⟩ := kept cutText field value listed valued
  rw [children] at contribute
  obtain ⟨part, others, first, rest, rfl⟩ := List.forall₂_cons_left_iff.mp contribute
  obtain rfl := List.forall₂_nil_left_iff.mp rest
  have part_eq := @Contributes.of_unclosed _ child part first .braced isText _ _ _ fringe
  rw [part_eq, read] at whole
  exact absurd whole (by decide)

end TexWorkspace.Bib
