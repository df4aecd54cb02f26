import TexWorkspace.Proofs.Bib.Independence
import TexWorkspace.Proofs.Bib.Outside

set_option autoImplicit false

/-!
Trees that differ by one piece of trivia. A row of trees is padded if one trivia token was put into
it, or into an entry, key, field or value of it, but not behind the token that opens a remark. What
a file says does not depend on that: neither its problems, nor its tree without trivia, nor its
records.
-/

namespace TexWorkspace.Bib

namespace Tree

/-! ## Shelters -/

def isFault : Tree → Bool
  | .fault _ => true
  | _ => false

/-- For a text between delimiters and for a comment entry with a body: the trees through the token
that opens it, and those behind that token. -/
def shelter? : Tree → Option (List Tree × List Tree)
  | .node kind below =>
      if kind = .bracedText ∨ kind = .quotedText then some (below.take 1, below.drop 1)
      else if (Tree.node kind below).isRemark then
        match below.dropWhile fun tree => !tree.opens with
        | [] => none
        | opening :: inside => some (below.takeWhile (fun tree => !tree.opens) ++ [opening], inside)
      else none
  | _ => none

end Tree

/-- Whether a place lies behind the token that opens a text or a remark and before the end of the
token that closes it. If none closes it, the last place is inside too. -/
def Located.Shelters (place : Nat) (part : Located) : Prop :=
  match part.tree.shelter? with
  | none => False
  | some (front, inside) =>
      part.start + Token.widthAll (Tree.tokensAll front) ≤ place ∧
        (place < part.span.stop ∨ place = part.span.stop ∧ inside.any Tree.isFault)

instance (place : Nat) (part : Located) : Decidable (part.Shelters place) := by
  unfold Located.Shelters
  cases part.tree.shelter? with
  | none => exact instDecidableFalse
  | some parts => exact instDecidableAnd

namespace Tree

/-! ## Trees without trivia -/

/-- Blanks and comments, as they stand in a tree. -/
def isLoose : Tree → Bool
  | .token own => own.kind = .blank
  | .node kind _ => kind = .comment
  | .fault _ => false

mutual

/-- The tree without blanks and comments, but for those of texts and remarks. -/
def bare : Tree → Tree
  | .token own => .token own
  | .fault problem => .fault problem
  | .node kind below =>
      .node kind <|
        if kind = .bracedText ∨ kind = .quotedText then below
        else bareRow (Tree.node kind below).isRemark below

/-- The same for a row of trees; in a comment entry, nothing changes behind the token that opens the
body. -/
def bareRow (remark : Bool) : List Tree → List Tree
  | [] => []
  | tree :: trees =>
      (if tree.isLoose then [] else [bare tree]) ++
        if remark && tree.opens then trees else bareRow remark trees

end

/-- Trivia is a blank or the node of a comment. -/
theorem triviaTree_cases {token : Token} (isTrivia : token.isTrivia = true) :
    token.kind = .blank ∧ Rule.triviaTree token = .token token ∨
      token.kind = .comment ∧ Rule.triviaTree token = .node .comment [.token token] := by
  cases kind : token.kind <;> simp_all [Token.isTrivia, TokenKind.isTrivia, Rule.triviaTree]

theorem opens_triviaTree {token : Token} (isTrivia : token.isTrivia = true) :
    (Rule.triviaTree token).opens = false := by
  rcases triviaTree_cases isTrivia with ⟨blank, shown⟩ | ⟨-, shown⟩
  · simp [shown, opens, blank]
  · rw [shown]
    rfl

/-! ## Padded rows -/

/-- The nodes between whose parts trivia can stand. -/
def looseKinds : List NodeKind := [.entry, .key, .field, .value]

/-- The second row is the first one with one more piece of trivia. -/
inductive Padded (extra : Token) : Bool → List Tree → List Tree → Prop where
  | here (remark : Bool) (trees : List Tree) :
      Padded extra remark trees (Rule.triviaTree extra :: trees)
  | later {remark : Bool} {tree : Tree} {left right : List Tree} :
      (remark = true → tree.opens = false) → Padded extra remark left right →
      Padded extra remark (tree :: left) (tree :: right)
  | inside {remark : Bool} {kind : NodeKind} {left right : List Tree} (trees : List Tree) :
      kind ∈ looseKinds → Padded extra (Tree.node kind left).isRemark left right →
      Padded extra remark (.node kind left :: trees) (.node kind right :: trees)

namespace Padded

variable {extra : Token} {remark : Bool} {left right : List Tree}

theorem prepend (padded : Padded extra remark left right) {front : List Tree}
    (closed : remark = true → ∀ tree ∈ front, tree.opens = false) :
    Padded extra remark (front ++ left) (front ++ right) := by
  induction front with
  | nil => exact padded
  | cons tree front ih =>
      refine .later (fun isRemark => closed isRemark tree List.mem_cons_self) (ih ?_)
      intro isRemark other member
      exact closed isRemark other (List.mem_cons_of_mem tree member)

theorem append (padded : Padded extra remark left right) (behind : List Tree) :
    Padded extra remark (left ++ behind) (right ++ behind) := by
  induction padded with
  | here remark trees => exact .here remark (trees ++ behind)
  | later closed _ ih => exact .later closed ih
  | inside trees loose padded _ => exact .inside (trees ++ behind) loose padded

/-- What is read off the trees one by one is the same if it is nothing for trivia and the same for
padded nodes. -/
theorem flatMap_eq {α : Type} {read : Tree → List α}
    (trivia : read (Rule.triviaTree extra) = [])
    (nodes : ∀ kind ∈ looseKinds, ∀ inner left right, Padded extra inner left right →
      read (.node kind left) = read (.node kind right))
    (padded : Padded extra remark left right) : left.flatMap read = right.flatMap read := by
  induction padded with
  | here remark trees => rw [List.flatMap_cons, trivia, List.nil_append]
  | later _ _ ih => rw [List.flatMap_cons, List.flatMap_cons, ih]
  | inside trees loose padded _ =>
      rw [List.flatMap_cons, List.flatMap_cons, nodes _ loose _ _ _ padded]

/-- What is read off the nodes of one kind is the same if it is the same for padded nodes. -/
theorem map_filter_hasKind {α : Type} {kind : NodeKind} {read : Tree → α} (noComment : kind ≠ .comment)
    (nodes : kind ∈ looseKinds → ∀ inner left right, Padded extra inner left right →
      read (.node kind left) = read (.node kind right))
    (padded : Padded extra remark left right) :
    (left.filter (hasKind kind)).map read = (right.filter (hasKind kind)).map read := by
  induction padded with
  | here remark trees =>
      have skipped : (Rule.triviaTree extra).hasKind kind = false := by
        unfold Rule.triviaTree
        split <;> simp [hasKind, noComment.symm]
      rw [List.filter_cons, skipped]
      rfl
  | @later _ tree _ _ _ _ ih =>
      rw [List.filter_cons, List.filter_cons]
      split
      · rw [List.map_cons, List.map_cons, ih]
      · exact ih
  | @inside _ own left right trees loose padded _ =>
      rw [List.filter_cons, List.filter_cons]
      by_cases same : own = kind
      · subst same
        simp [hasKind, nodes loose _ _ _ padded]
      · simp [hasKind, same]

theorem child?_eq_head? (own kind : NodeKind) (below : List Tree) :
    (Tree.node own below).child? kind = (below.filter (hasKind kind)).head? := by
  rw [child?, ← List.head?_filter, filter_hasKind_children]

/-- What is read off the first node of a kind is the same if it is the same for padded nodes. -/
theorem map_child?_eq {α : Type} (own : NodeKind) {kind : NodeKind} {read : Tree → α}
    (noComment : kind ≠ .comment)
    (nodes : kind ∈ looseKinds → ∀ inner left right, Padded extra inner left right →
      read (.node kind left) = read (.node kind right))
    (padded : Padded extra remark left right) :
    ((Tree.node own left).child? kind).map read = ((Tree.node own right).child? kind).map read := by
  rw [child?_eq_head?, child?_eq_head?, ← List.head?_map, ← List.head?_map,
    padded.map_filter_hasKind noComment nodes]

/-- Nodes between whose parts nothing can stand are untouched. -/
theorem child?_eq (own : NodeKind) {kind : NodeKind} (tight : kind ∉ .comment :: looseKinds)
    (padded : Padded extra remark left right) :
    (Tree.node own left).child? kind = (Tree.node own right).child? kind := by
  rw [List.mem_cons, not_or] at tight
  obtain ⟨noComment, tight⟩ := tight
  have same := @map_child?_eq _ _ _ _ _ own kind id noComment (fun loose => absurd loose tight)
    padded
  rwa [Option.map_id, id, id] at same

theorem isRemark_eq (padded : Padded extra remark left right) (kind : NodeKind) :
    (Tree.node kind left).isRemark = (Tree.node kind right).isRemark := by
  have same : (Entry.mk (Tree.node kind left).located).type? =
      (Entry.mk (Tree.node kind right).located).type? := by
    rw [Entry.type?, Entry.type?]
    exact congrArg _ (padded.child?_eq kind (by decide))
  simp only [isRemark, IsEntryOf, same]
  rfl

/-! ### Problems -/

theorem problems_eq (padded : Padded extra remark left right) :
    (fringeAll left).filterMap Leaf.problem? = (fringeAll right).filterMap Leaf.problem? := by
  induction padded with
  | here remark trees =>
      have none : (Rule.triviaTree extra).fringe.filterMap Leaf.problem? = [] := by
        unfold Rule.triviaTree
        split <;> simp [Leaf.problem?]
      rw [fringeAll_cons, List.filterMap_append, none, List.nil_append]
  | later _ _ ih => simp only [fringeAll_cons, List.filterMap_append, ih]
  | inside trees _ _ ih => simp only [fringeAll_cons, fringe_node, List.filterMap_append, ih]

/-! ### Trees without trivia -/

theorem bareRow_eq (isTrivia : extra.isTrivia = true) (padded : Padded extra remark left right) :
    bareRow remark left = bareRow remark right := by
  induction padded with
  | here remark trees =>
      have loose : (Rule.triviaTree extra).isLoose = true := by
        rcases triviaTree_cases isTrivia with ⟨blank, shown⟩ | ⟨-, shown⟩
        · simp [shown, isLoose, blank]
        · rw [shown, isLoose, decide_eq_true rfl]
      have closed : (Rule.triviaTree extra).opens = false := opens_triviaTree isTrivia
      rw [bareRow, loose, closed]
      simp
  | @later remark tree left right closed _ ih =>
      have goesOn : (remark && tree.opens) = false := by
        cases remark with
        | false => rfl
        | true => exact closed rfl
      simp only [bareRow, goesOn, Bool.false_eq_true, if_false, ih]
  | @inside remark kind left right trees loose padded ih =>
      have noText : ¬ (kind = .bracedText ∨ kind = .quotedText) := by
        rintro (rfl | rfl) <;> exact absurd loose (by decide)
      have same : bare (.node kind left) = bare (.node kind right) := by
        rw [bare, bare, if_neg noText, if_neg noText, ih, padded.isRemark_eq kind]
      rw [bareRow, bareRow, same]
      rfl

/-! ### Names and values -/

theorem flatMap_children {α : Type} {read : Tree → List α}
    (faults : ∀ problem, read (.fault problem) = []) (kind : NodeKind) (below : List Tree) :
    (Tree.node kind below).children.flatMap read = below.flatMap read := by
  induction below with
  | nil => rfl
  | cons tree trees ih =>
      cases tree with
      | fault problem => rw [children_fault_cons, ih, List.flatMap_cons, faults, List.nil_append]
      | token own => rw [children_token_cons, List.flatMap_cons, List.flatMap_cons, ih]
      | node inner deep => rw [children_node_cons, List.flatMap_cons, List.flatMap_cons, ih]

theorem flatMap_children_eq {α : Type} {read : Tree → List α}
    (faults : ∀ problem, read (.fault problem) = [])
    (trivia : read (Rule.triviaTree extra) = [])
    (nodes : ∀ kind ∈ looseKinds, ∀ below, read (.node kind below) = []) (kind : NodeKind)
    (padded : Padded extra remark left right) :
    (Tree.node kind left).children.flatMap read = (Tree.node kind right).children.flatMap read := by
  rw [flatMap_children faults, flatMap_children faults]
  refine padded.flatMap_eq trivia fun kind loose _ _ _ _ => ?_
  rw [nodes kind loose, nodes kind loose]

theorem identifier_eq (isTrivia : extra.isTrivia = true) (padded : Padded extra remark left right) :
    (KeyNode.mk (Tree.node .key left).located).identifier =
      (KeyNode.mk (Tree.node .key right).located).identifier := by
  rw [KeyNode.identifier, KeyNode.identifier, List.filterMap_eq_flatMap_toList,
    List.filterMap_eq_flatMap_toList]
  refine congrArg _ (padded.flatMap_children_eq (fun _ => rfl) ?_ (fun _ _ _ => rfl) .key)
  rcases triviaTree_cases isTrivia with ⟨blank, shown⟩ | ⟨-, shown⟩
  · simp [shown, Token.isName, blank]
  · rw [shown]
    rfl

theorem pieceTexts_eq (isTrivia : extra.isTrivia = true) (padded : Padded extra remark left right) :
    (Tree.node .value left).children.flatMap pieceText =
      (Tree.node .value right).children.flatMap pieceText := by
  refine padded.flatMap_children_eq (fun _ => rfl) ?_ ?_ .value
  · rcases triviaTree_cases isTrivia with ⟨blank, shown⟩ | ⟨-, shown⟩
    · simp [shown, pieceText, Token.isName, blank]
    · rw [shown]
      rfl
  · intro kind loose below
    cases kind <;> first | rfl | exact absurd loose (by decide)

theorem pair?_eq (isTrivia : extra.isTrivia = true) (padded : Padded extra remark left right) :
    (Field.mk (Tree.node .field left).located).pair? =
      (Field.mk (Tree.node .field right).located).pair? := by
  have name : (Field.mk (Tree.node .field left).located).name? =
      (Field.mk (Tree.node .field right).located).name? := by
    rw [Field.name?, Field.name?]
    exact congrArg _ (padded.child?_eq .field (by decide))
  have value : (Field.mk (Tree.node .field left).located).value? =
      (Field.mk (Tree.node .field right).located).value? := by
    rw [Field.value?, Field.value?]
    refine padded.map_child?_eq .field (by decide) ?_
    intro _ _ _ _ innerPadded
    rw [pieceTexts_eq isTrivia innerPadded]
  rw [Field.pair?, Field.pair?, name, value]

end Padded

end Tree

/-! ## Records -/

/-- What a record says, wherever its entry stands. -/
def Record.content (record : Record) : String × String × FieldMap :=
  (record.type, record.key, record.fields)

namespace Entry

variable {below : List Tree}

theorem map_identifier_key? (below : List Tree) :
    (Entry.mk (Tree.node .entry below).located).key?.map KeyNode.identifier =
      ((below.filter (Tree.hasKind .key)).map
        fun tree => (KeyNode.mk tree.located).identifier).head? := by
  rw [Entry.key?, ← List.head?_filterMap, ← List.head?_map, Located.children, KeyNode.ofNode?,
    Located.map_filterMap_row (fun _ _ => rfl), Tree.located, Tree.filter_hasKind_children]

theorem map_pair?_fields (below : List Tree) :
    (Entry.mk (Tree.node .entry below).located).fields.map Field.pair? =
      (below.filter (Tree.hasKind .field)).map fun tree => (Field.mk tree.located).pair? := by
  rw [Entry.fields, Located.children, Field.ofNode?,
    Located.map_filterMap_row (fun _ _ => rfl), Tree.located, Tree.filter_hasKind_children]

theorem map_content_record? (entry : Entry) :
    entry.record?.map Record.content = (entry.key?.map KeyNode.identifier).map fun key =>
      (entry.type?.getD "", key, FieldMap.ofList ((entry.fields.map Field.pair?).filterMap id)) := by
  rw [Entry.record?, Option.map_map, Option.map_map, List.filterMap_map]
  rfl

end Entry

section Padded

variable {extra : Token} {remark : Bool} {left right : List Tree}

theorem Tree.Padded.content_eq (isTrivia : extra.isTrivia = true)
    (padded : Padded extra remark left right) :
    (Entry.mk (Tree.node .entry left).located).record?.map Record.content =
      (Entry.mk (Tree.node .entry right).located).record?.map Record.content := by
  have type : (Entry.mk (Tree.node .entry left).located).type? =
      (Entry.mk (Tree.node .entry right).located).type? := by
    rw [Entry.type?, Entry.type?]
    exact congrArg _ (padded.child?_eq .entry (by decide))
  have keys : (left.filter (Tree.hasKind .key)).map
        (fun tree => (KeyNode.mk tree.located).identifier) =
      (right.filter (Tree.hasKind .key)).map fun tree => (KeyNode.mk tree.located).identifier :=
    padded.map_filter_hasKind (by decide) fun _ _ _ _ inner => inner.identifier_eq isTrivia
  have fields : (left.filter (Tree.hasKind .field)).map
        (fun tree => (Field.mk tree.located).pair?) =
      (right.filter (Tree.hasKind .field)).map fun tree => (Field.mk tree.located).pair? :=
    padded.map_filter_hasKind (by decide) fun _ _ _ _ inner => inner.pair?_eq isTrivia
  rw [Entry.map_content_record?, Entry.map_content_record?, type, Entry.map_identifier_key?,
    Entry.map_identifier_key?, keys, Entry.map_pair?_fields, Entry.map_pair?_fields, fields]

theorem Tree.Padded.contents_eq (isTrivia : extra.isTrivia = true)
    (padded : Padded extra remark left right) :
    (left.filter (Tree.hasKind .entry)).map
        (fun tree => (Entry.mk tree.located).record?.map Record.content) =
      (right.filter (Tree.hasKind .entry)).map
        fun tree => (Entry.mk tree.located).record?.map Record.content :=
  padded.map_filter_hasKind (by decide) fun _ _ _ _ inner => inner.content_eq isTrivia

end Padded

theorem Entry.content_still (start : Nat) (tree : Tree) :
    (Entry.mk ⟨start, tree⟩).record?.map Record.content =
      (Entry.mk tree.located).record?.map Record.content := by
  have moved : Entry.mk ⟨start, tree⟩ = (Entry.mk tree.located).shift start := by
    simp [Entry.shift, Located.shift, Tree.located]
  rw [moved, Entry.record?_shift, Option.map_map]
  rfl

/-- The records of a file, read off its items. -/
theorem map_content_records (text : String) :
    (records text).map Record.content =
      (((fileItems (lex text)).filter (Tree.hasKind .entry)).map
        fun tree => (Entry.mk tree.located).record?.map Record.content).filterMap id := by
  have entries : (Document.ofText text).entries.map (fun entry =>
        entry.record?.map Record.content) = ((fileItems (lex text)).filter (Tree.hasKind .entry)).map
      fun tree => (Entry.mk tree.located).record?.map Record.content := by
    rw [entries_ofText]
    exact Located.map_filterMap_row Entry.content_still 0 _
  rw [← entries, List.filterMap_map, records, Document.records, List.map_filterMap]
  rfl

end TexWorkspace.Bib
