import TexWorkspace.Proofs.Bib.Shape

set_option autoImplicit false

/-!
What stands outside of texts between delimiters and outside of the bodies of comment entries. There,
and only there, does the token of a comment have a comment node around it.
-/

namespace TexWorkspace.Bib

/-! ## Tokens outside of texts and remarks -/

namespace Tree

instance (type : String) (tree : Tree) : Decidable (tree.IsEntryOf type) :=
  inferInstanceAs (Decidable (_ ∧ _))

/-- Whether the tree is an entry whose body is a remark. -/
def isRemark (tree : Tree) : Bool :=
  tree.IsEntryOf "comment"

/-- Whether the tree is a token that can open the body of an entry. -/
def opens : Tree → Bool
  | .token own => own.kind = .openBrace ∨ own.kind = .openParen
  | _ => false

mutual

/-- The tokens of a tree that starts at `start`, each with its place, without those of texts between
delimiters and of the bodies of comment entries. -/
def outerTokensFrom (start : Nat) : Tree → List (Nat × Token)
  | .token own => [(start, own)]
  | .fault _ => []
  | .node kind below =>
      if kind = .bracedText ∨ kind = .quotedText then []
      else outerTokensFromAll (Tree.node kind below).isRemark start below

/-- The same for a row of trees; in a comment entry, it stops behind the token that opens the
body. -/
def outerTokensFromAll (remark : Bool) (start : Nat) : List Tree → List (Nat × Token)
  | [] => []
  | tree :: trees =>
      outerTokensFrom start tree ++
        if remark && tree.opens then [] else outerTokensFromAll remark (start + tree.width) trees

end

end Tree

/-! ## Comments with their places -/

/-- A comment with its place. -/
def Comment.placed (comment : Comment) : Span × String :=
  (comment.span, comment.text)

/-- The comments among tokens with their places. -/
def placedComments (tokens : List (Nat × Token)) : List (Span × String) :=
  (tokens.filter fun placed => placed.2.kind = .comment).map fun placed =>
    (⟨placed.1, placed.1 + placed.2.width⟩, placed.2.text)

theorem placedComments_append (left right : List (Nat × Token)) :
    placedComments (left ++ right) = placedComments left ++ placedComments right := by
  simp [placedComments]

namespace Tree

/-- The comments of a tree are the comment tokens at its outside. -/
def CommentsOutside (tree : Tree) : Prop :=
  ∀ start, ((tree.nodesFrom start).filterMap Comment.ofNode?).map Comment.placed =
    placedComments (tree.outerTokensFrom start)

def RowOutside (remark : Bool) (trees : List Tree) : Prop :=
  ∀ start, ((nodesFromAll start trees).filterMap Comment.ofNode?).map Comment.placed =
    placedComments (outerTokensFromAll remark start trees)

theorem CommentsOutside.token {own : Token} (noComment : own.kind ≠ .comment) :
    (Tree.token own).CommentsOutside := by
  intro start
  simp [nodesFrom, outerTokensFrom, placedComments, noComment]

theorem RowOutside.nil (remark : Bool) : RowOutside remark [] := by
  intro start
  rfl

theorem RowOutside.cons {remark : Bool} {tree : Tree} {trees : List Tree}
    (first : tree.CommentsOutside) (goesOn : remark = true → tree.opens = false)
    (rest : RowOutside remark trees) : RowOutside remark (tree :: trees) := by
  intro start
  have outer : outerTokensFromAll remark start (tree :: trees) =
      outerTokensFrom start tree ++ outerTokensFromAll remark (start + tree.width) trees := by
    rw [outerTokensFromAll]
    cases remark with
    | false => rfl
    | true => rw [goesOn rfl]; rfl
  rw [nodesFromAll, List.filterMap_append, List.map_append, first, rest, outer,
    placedComments_append]

theorem RowOutside.append {remark : Bool} {front behind : List Tree}
    (outside : ∀ tree ∈ front, tree.CommentsOutside)
    (goesOn : remark = true → ∀ tree ∈ front, tree.opens = false)
    (rest : RowOutside remark behind) : RowOutside remark (front ++ behind) := by
  induction front with
  | nil => exact rest
  | cons tree trees ih =>
      obtain ⟨first, others⟩ := List.forall_mem_cons.mp outside
      refine .cons first (fun isRemark => goesOn isRemark tree List.mem_cons_self) (ih others ?_)
      intro isRemark other member
      exact goesOn isRemark other (List.mem_cons_of_mem tree member)

theorem RowOutside.of_forall {remark : Bool} {trees : List Tree}
    (outside : ∀ tree ∈ trees, tree.CommentsOutside)
    (goesOn : remark = true → ∀ tree ∈ trees, tree.opens = false) : RowOutside remark trees := by
  rw [← List.append_nil trees]
  exact .append outside goesOn (.nil remark)

theorem nodesFromAll_of_tokens {start : Nat} {trees : List Tree}
    (tokens : Among Shape.tokenLabels trees) : nodesFromAll start trees = [] := by
  induction trees generalizing start with
  | nil => rfl
  | cons tree trees ih =>
      obtain ⟨own, others⟩ := Among.cons_iff.mp tokens
      cases tree with
      | token _ => exact ih others
      | fault _ => exact ih others
      | node kind below =>
          have label := own _ rfl
          simp [Shape.tokenLabels] at label

/-- Behind the token that opens a remark there are no comments. -/
theorem RowOutside.opened {opening : Token} {inside : List Tree}
    (opens : (Tree.token opening).opens = true) (tokens : Among Shape.tokenLabels inside) :
    RowOutside true (.token opening :: inside) := by
  intro start
  have noComment : opening.kind ≠ .comment := by
    intro isComment
    simp [Tree.opens, isComment] at opens
  rw [nodesFromAll, nodesFromAll_of_tokens tokens, outerTokensFromAll, opens]
  exact CommentsOutside.token noComment start

theorem exists_token_of_label? {tree : Tree} {kind : TokenKind}
    (isToken : tree.label? = some (.token kind)) : ∃ own, tree = .token own ∧ own.kind = kind := by
  cases tree with
  | token own => exact ⟨own, rfl, by simpa [label?] using isToken⟩
  | fault problem => cases isToken
  | node inner below => cases isToken

/-- What is known of the trees below a node whose comments are to be found. -/
def OutsideUnlessComment (trees : List Tree) : Prop :=
  ∀ tree ∈ trees, tree.label? ≠ some (.token .comment) → tree.CommentsOutside

theorem OutsideUnlessComment.of_among {labels : List Label} {trees : List Tree}
    (outside : OutsideUnlessComment trees) (among : Among labels trees)
    (absent : Label.token .comment ∉ labels) : ∀ tree ∈ trees, tree.CommentsOutside := by
  intro tree member
  exact outside tree member fun isComment => absent (among tree member _ isComment)

theorem opens_of_loose {trees : List Tree} (among : Among Shape.looseLabels trees) :
    ∀ tree ∈ trees, tree.opens = false := by
  intro tree member
  cases tree with
  | token own =>
      have label := among _ member _ rfl
      have blank : own.kind = .blank := by simpa [Shape.looseLabels] using label
      simp [opens, blank]
  | fault problem => rfl
  | node kind below => rfl

/-- The comments of an entry behind its type. -/
theorem rowOutside_of_behind {form : Rule.BodyForm} {remark : Bool} {behind : List Tree}
    (isRemark : remark = true ↔ form = .remark) (shape : Shape.Behind form behind)
    (outside : OutsideUnlessComment behind) : RowOutside remark behind := by
  cases shape with
  | unopened loose =>
      exact .of_forall (outside.of_among loose (by decide)) fun _ => opens_of_loose loose
  | @opened between inside opening loose opens shape =>
      obtain ⟨betweenOutside, insideOutside⟩ := List.forall_mem_append.mp outside
      have front := OutsideUnlessComment.of_among betweenOutside loose (by decide)
      refine .append front (fun _ => opens_of_loose loose) ?_
      have opening_opens : (Tree.token opening).opens = true := by simpa [Tree.opens] using opens
      cases remark with
      | true =>
          obtain rfl := isRemark.mp rfl
          cases shape with
          | remark tokens => exact .opened opening_opens tokens
      | false =>
          have noComment : opening.kind ≠ .comment := by
            rcases opens with kind | kind <;> simp [kind]
          refine .cons (.token noComment) (fun never => nomatch never) ?_
          refine .of_forall ?_ fun never => nomatch never
          intro tree member
          refine insideOutside tree (List.mem_cons_of_mem _ member) ?_
          intro isComment
          obtain ⟨own, rfl, kind⟩ := exists_token_of_label? isComment
          exact nomatch isRemark.mpr (shape.form_of_hidden (.inr kind) member)

/-- The word behind the `@` tells whether an entry is a remark. -/
theorem isRemark_iff_of_typed {front : List Tree} (loose : Among Shape.looseLabels front)
    (mark type : Token) (behind : List Tree) :
    (Tree.node .entry
      (.token mark :: (front ++ .node .entryType [.token type] :: behind))).isRemark = true ↔
      Rule.BodyForm.ofType type.text = .remark := by
  have typed := Shape.type?_of_typed loose mark type behind 0
  rw [isRemark, decide_eq_true_iff, Rule.BodyForm.ofType_eq_remark_iff]
  constructor
  · intro isEntry
    exact Option.some.inj (typed.symm.trans isEntry.2)
  · intro isComment
    rw [isComment] at typed
    exact ⟨rfl, typed⟩

theorem rowOutside_of_marked {mark : Token} {rest : List Tree} (marked : Shape.Marked rest)
    (outside : OutsideUnlessComment rest) :
    RowOutside (Tree.node .entry (.token mark :: rest)).isRemark rest := by
  cases marked with
  | untyped loose =>
      exact .of_forall (outside.of_among loose (by decide)) fun _ => opens_of_loose loose
  | @typed front behind type loose word shape =>
      obtain ⟨frontOutside, others⟩ := List.forall_mem_append.mp outside
      obtain ⟨named, behindOutside⟩ := List.forall_mem_cons.mp others
      have first := OutsideUnlessComment.of_among frontOutside loose (by decide)
      refine .append first (fun _ => opens_of_loose loose) ?_
      refine .cons (named (by simp [label?])) (fun _ => rfl) ?_
      exact rowOutside_of_behind (isRemark_iff_of_typed loose mark type behind) shape behindOutside

/-- The comments of a node are those of the row below it. -/
theorem CommentsOutside.node {kind : NodeKind} {below : List Tree}
    (noText : ¬ (kind = .bracedText ∨ kind = .quotedText)) (noComment : kind ≠ .comment)
    (row : RowOutside (Tree.node kind below).isRemark below) :
    (Tree.node kind below).CommentsOutside := by
  intro start
  have none : Comment.ofNode? ⟨start, .node kind below⟩ = none := by
    simp [Comment.ofNode?, Located.as?, hasKind, noComment]
  rw [nodesFrom, List.filterMap_cons, none, outerTokensFrom, if_neg noText]
  exact row start

theorem CommentsOutside.text {kind : NodeKind} {below : List Tree}
    (isText : kind = .bracedText ∨ kind = .quotedText) (tokens : Among Shape.tokenLabels below) :
    (Tree.node kind below).CommentsOutside := by
  intro start
  rw [nodesFrom, nodesFromAll_of_tokens tokens, outerTokensFrom, if_pos isText]
  rcases isText with rfl | rfl <;> rfl

theorem CommentsOutside.comment {own : Token} (isComment : own.kind = .comment) :
    (Tree.node .comment [.token own]).CommentsOutside := by
  intro start
  simp [nodesFrom, nodesFromAll, outerTokensFrom, outerTokensFromAll, Comment.ofNode?, Located.as?,
    hasKind, placedComments, isComment, Comment.placed, Comment.span, Comment.text, Located.span,
    Tree.width, Tree.text, opens]

/-- Most nodes neither are nor hide a comment token. -/
theorem CommentsOutside.plain {kind : NodeKind} {below : List Tree} (fits : Shape.Fits kind below)
    (isPlain : kind ∉ [.entry, .bracedText, .quotedText, .comment])
    (outside : OutsideUnlessComment below) : (Tree.node kind below).CommentsOutside := by
  simp only [List.mem_cons, List.not_mem_nil, or_false, not_or] at isPlain
  obtain ⟨noEntry, noBraced, noQuoted, noComment⟩ := isPlain
  refine .node (not_or.mpr ⟨noBraced, noQuoted⟩) noComment (.of_forall ?_ ?_)
  · intro tree member
    refine outside tree member fun label => ?_
    obtain ⟨own, rfl, isComment⟩ := exists_token_of_label? label
    rcases fits.kind_of_hidden (.inr isComment) member with same | same | same | ⟨same, -⟩
    · exact noEntry same
    · exact noBraced same
    · exact noQuoted same
    · exact noComment same
  · intro remark
    have isEntry := (of_decide_eq_true remark).1
    exact absurd (by simpa [hasKind] using isEntry) noEntry

/-- In a sound tree, the comments are the comment tokens outside of texts and remarks. -/
theorem Sound.commentsOutside {tree : Tree} (sound : tree.Sound)
    (noComment : tree.label? ≠ some (.token .comment)) : tree.CommentsOutside := by
  induction sound with
  | token own => exact .token fun isComment => noComment (by rw [label?, isComment])
  | fault problem => intro start; rfl
  | @node kind below fits sound ih =>
      by_cases plain : kind ∉ [.entry, .bracedText, .quotedText, .comment]
      · exact .plain fits plain ih
      · cases fits with
        | bracedText tokens => exact .text (.inl rfl) tokens
        | quotedText tokens => exact .text (.inr rfl) tokens
        | comment isComment => exact .comment isComment
        | @entry mark rest isMark marked =>
            obtain ⟨first, others⟩ := List.forall_mem_cons.mp ih
            refine .node (by decide) (by decide) (.cons (first ?_) ?_ ?_)
            · simp [label?, isMark]
            · intro _
              simp [opens, isMark]
            · exact rowOutside_of_marked marked others
        | _ => exact absurd (by decide) plain

end Tree

end TexWorkspace.Bib
