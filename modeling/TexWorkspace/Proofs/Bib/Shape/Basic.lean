import TexWorkspace.Bib.View
import TexWorkspace.Proofs.Bib.Lossless

set_option autoImplicit false

/-!
The shape of a syntax tree: what can stand right below a node of each kind, and in which order. A
tree is sound if every node of it has the shape of its kind.
-/

namespace TexWorkspace.Bib

/-- What a tree is, seen from above; a fault is nothing. -/
def Tree.label? : Tree → Option Label
  | .token own => some (.token own.kind)
  | .fault _ => none
  | .node kind _ => some (.node kind)

/-- Rows of trees of the given labels, with faults anywhere. -/
def Among (labels : List Label) (trees : List Tree) : Prop :=
  ∀ tree ∈ trees, ∀ label, tree.label? = some label → label ∈ labels

namespace Shape

/-! ## Labels -/

def looseLabels : List Label := [.token .blank, .node .comment]

def tokenLabels : List Label :=
  Label.all.filter fun
    | .token _ => true
    | _ => false

/-- Between entries there are trivia and any tokens that start no entry. -/
def fileLabels : List Label :=
  tokenLabels.filter (fun label => label ≠ .token .atSign ∧ label ≠ .token .comment) ++
    [.node .entry, .node .comment]

def keyLabels : List Label := looseLabels ++ [.token .word, .token .number, .token .comma]

def assignmentLabels : List Label := looseLabels ++ [.token .equals, .token .comma, .node .value]

def valueLabels : List Label :=
  looseLabels ++
    [.token .word, .token .number, .token .hash, .node .bracedText, .node .quotedText]

def itemLabels : List Label := looseLabels ++ [.token .comma, .node .field, .node .error]

def closerLabels : List Label := [.token .closeBrace, .token .closeParen]

theorem token_mem_tokenLabels (kind : TokenKind) : Label.token kind ∈ tokenLabels := by
  cases kind <;> decide

/-! ## Shapes -/

/-- The inside of a body with its closer, by the type of the entry. -/
inductive Inside : Rule.BodyForm → List Tree → Prop where
  | remark {inside : List Tree} : Among tokenLabels inside → Inside .remark inside
  | preamble {inside : List Tree} :
      Among (looseLabels ++ .node .value :: closerLabels) inside → Inside .preamble inside
  | definitions {inside : List Tree} :
      Among (itemLabels ++ closerLabels) inside → Inside .definitions inside
  | keyed {front items : List Tree} :
      Among (looseLabels ++ [.token .comma, .node .key]) front →
      (front.filter (Tree.hasKind .key)).length ≤ 1 →
      Among (itemLabels ++ closerLabels) items → Inside .keyed (front ++ items)

/-- What follows the type of an entry. -/
inductive Behind (form : Rule.BodyForm) : List Tree → Prop where
  | unopened {between : List Tree} : Among looseLabels between → Behind form between
  | opened {between inside : List Tree} {opening : Token} :
      Among looseLabels between → opening.kind = .openBrace ∨ opening.kind = .openParen →
      Inside form inside → Behind form (between ++ .token opening :: inside)

/-- What follows the `@` of an entry. -/
inductive Marked : List Tree → Prop where
  | untyped {front : List Tree} : Among looseLabels front → Marked front
  | typed {front behind : List Tree} {type : Token} :
      Among looseLabels front → type.kind = .word → Behind (Rule.BodyForm.ofType type.text) behind →
      Marked (front ++ .node .entryType [.token type] :: behind)

/-- What can stand right below a node. -/
inductive Fits : NodeKind → List Tree → Prop where
  | file {below : List Tree} : Among fileLabels below → Fits .file below
  | entry {mark : Token} {rest : List Tree} :
      mark.kind = .atSign → Marked rest → Fits .entry (.token mark :: rest)
  | entryType {type : Token} : type.kind = .word → Fits .entryType [.token type]
  | key {below : List Tree} {name : Token} :
      Among keyLabels below → (Tree.tokensAll below).filter Token.isName = [name] →
      Fits .key below
  | field {name : Token} {rest : List Tree} :
      name.kind = .word → Among assignmentLabels rest →
      (rest.filter (Tree.hasKind .value)).length ≤ 1 →
      Fits .field (.node .fieldName [.token name] :: rest)
  | fieldName {name : Token} : name.kind = .word → Fits .fieldName [.token name]
  | value {below : List Tree} : Among valueLabels below → Fits .value below
  | bracedText {below : List Tree} : Among tokenLabels below → Fits .bracedText below
  | quotedText {below : List Tree} : Among tokenLabels below → Fits .quotedText below
  | comment {own : Token} : own.kind = .comment → Fits .comment [.token own]
  | error {own : Token} :
      own.isTrivia = false → own.kind ∉ [.atSign, .comma, .word] → Fits .error [.token own]

end Shape

/-- Every node of the tree has the shape of its kind. -/
inductive Tree.Sound : Tree → Prop where
  | token (own : Token) : Sound (.token own)
  | fault (problem : Problem) : Sound (.fault problem)
  | node {kind : NodeKind} {below : List Tree} :
      Shape.Fits kind below → (∀ tree ∈ below, Sound tree) → Sound (.node kind below)

/-! ## Rows of trees -/

namespace Among

variable {labels more : List Label} {tree : Tree} {left right trees : List Tree}

theorem nil (labels : List Label) : Among labels [] := by
  intro tree member
  cases member

theorem cons_iff : Among labels (tree :: trees) ↔
    (∀ label, tree.label? = some label → label ∈ labels) ∧ Among labels trees :=
  List.forall_mem_cons

theorem append_iff : Among labels (left ++ right) ↔ Among labels left ∧ Among labels right :=
  List.forall_mem_append

theorem mono (among : Among labels trees) (wider : labels ⊆ more) : Among more trees := by
  intro tree member label found
  exact wider (among tree member label found)

theorem singleton {label : Label} (found : tree.label? = some label) (member : label ∈ labels) :
    Among labels [tree] := by
  refine cons_iff.mpr ⟨?_, nil labels⟩
  intro other same
  obtain rfl := Option.some.inj (found.symm.trans same)
  exact member

theorem fault_cons {problem : Problem} (among : Among labels trees) :
    Among labels (.fault problem :: trees) := by
  refine cons_iff.mpr ⟨?_, among⟩
  intro label found
  cases found

theorem map_token (tokens : List Token) : Among Shape.tokenLabels (tokens.map .token) := by
  intro tree member label found
  obtain ⟨token, -, rfl⟩ := List.mem_map.mp member
  cases found
  exact Shape.token_mem_tokenLabels token.kind

theorem not_hasKind (among : Among labels trees) (kind : NodeKind)
    (absent : Label.node kind ∉ labels) : trees.filter (Tree.hasKind kind) = [] := by
  rw [List.filter_eq_nil_iff]
  intro tree member isKind
  cases tree with
  | token own => cases isKind
  | fault problem => cases isKind
  | node own below =>
      obtain rfl : own = kind := by simpa [Tree.hasKind] using isKind
      exact absent (among _ member _ rfl)

end Among

/-- A row of sound trees of the given labels. -/
structure Row (labels : List Label) (trees : List Tree) : Prop where
  among : Among labels trees
  sound : ∀ tree ∈ trees, tree.Sound

namespace Row

variable {labels more : List Label} {left right trees : List Tree}

theorem nil (labels : List Label) : Row labels [] :=
  ⟨.nil labels, fun _ member => nomatch member⟩

theorem append (leftRow : Row labels left) (rightRow : Row labels right) :
    Row labels (left ++ right) :=
  ⟨Among.append_iff.mpr ⟨leftRow.among, rightRow.among⟩,
    List.forall_mem_append.mpr ⟨leftRow.sound, rightRow.sound⟩⟩

theorem mono (row : Row labels trees) (wider : labels ⊆ more) : Row more trees :=
  ⟨row.among.mono wider, row.sound⟩

theorem token {own : Token} (member : Label.token own.kind ∈ labels) :
    Row labels [.token own] :=
  ⟨.singleton rfl member, List.forall_mem_singleton.mpr (.token own)⟩

theorem fault (labels : List Label) (problem : Problem) : Row labels [.fault problem] :=
  ⟨.fault_cons (.nil labels), List.forall_mem_singleton.mpr (.fault problem)⟩

theorem node {kind : NodeKind} {below : List Tree} (member : Label.node kind ∈ labels)
    (fits : Shape.Fits kind below) (sound : ∀ tree ∈ below, tree.Sound) :
    Row labels [.node kind below] :=
  ⟨.singleton rfl member, List.forall_mem_singleton.mpr (.node fits sound)⟩

end Row

/-- What does not depend on the place can be read off the trees of a row. -/
theorem Located.map_filterMap_row {α β : Type} {kind : NodeKind} {wrap : Located → α} {read : α → β}
    (still : ∀ start tree, read (wrap ⟨start, tree⟩) = read (wrap tree.located)) (start : Nat)
    (trees : List Tree) :
    ((row start trees).filterMap (as? kind wrap)).map read =
      (trees.filter (Tree.hasKind kind)).map fun tree => read (wrap tree.located) := by
  induction trees generalizing start with
  | nil => rfl
  | cons tree trees ih =>
      rw [row, List.filterMap_cons, List.filter_cons]
      by_cases isKind : tree.hasKind kind = true
      · simp [as?, isKind, ih, still start tree]
      · simp [as?, isKind, ih]

theorem Tree.mem_of_mem_children {kind : NodeKind} {below : List Tree} {tree : Tree}
    (member : tree ∈ (Tree.node kind below).children) : tree ∈ below :=
  (List.mem_filter.mp member).1

theorem Rule.BodyForm.ofType_eq_preamble_iff (type : String) :
    BodyForm.ofType type = .preamble ↔ Text.lowercase type = "preamble" := by
  unfold BodyForm.ofType
  split <;> simp_all

theorem Rule.BodyForm.ofType_eq_definitions_iff (type : String) :
    BodyForm.ofType type = .definitions ↔ Text.lowercase type = "string" := by
  unfold BodyForm.ofType
  split <;> simp_all

/-- The tree is an entry of the given type, in lower case. -/
def Tree.IsEntryOf (type : String) (tree : Tree) : Prop :=
  tree.hasKind .entry = true ∧ (Entry.mk tree.located).type? = some type

/-! ## What stands below what -/

/-- The kinds of nodes that can stand right below a node. -/
def NodeKind.parts : NodeKind → List NodeKind
  | .file => [.entry, .comment]
  | .entry => [.entryType, .key, .field, .value, .error, .comment]
  | .key => [.comment]
  | .field => [.fieldName, .value, .comment]
  | .value => [.bracedText, .quotedText, .comment]
  | _ => []

namespace Shape

variable {kind inner : NodeKind} {below : List Tree} {tree : Tree}

def kindsOf (labels : List Label) : List NodeKind :=
  labels.filterMap fun
    | .node kind => some kind
    | _ => none

theorem parts_of_among {labels : List Label} {kinds : List NodeKind} (among : Among labels below)
    (member : tree ∈ below) (isNode : tree.label? = some (.node inner))
    (within : kindsOf labels ⊆ kinds) : inner ∈ kinds :=
  within (List.mem_filterMap.mpr ⟨.node inner, among tree member _ isNode, rfl⟩)

/-- The kinds of nodes that the body of an entry can hold, trivia aside. -/
def bodyParts : Rule.BodyForm → List NodeKind
  | .remark => []
  | .preamble => [.value]
  | .definitions => [.field, .error]
  | .keyed => [.key, .field, .error]

theorem Inside.parts {form : Rule.BodyForm} (inside : Inside form below) (member : tree ∈ below)
    (isNode : tree.label? = some (.node inner)) : inner ∈ .comment :: bodyParts form := by
  cases inside with
  | remark among => exact parts_of_among among member isNode (by decide)
  | preamble among => exact parts_of_among among member isNode (by decide)
  | definitions among => exact parts_of_among among member isNode (by decide)
  | keyed frontAmong _ itemsAmong =>
      rcases List.mem_append.mp member with member | member
      · exact parts_of_among frontAmong member isNode (by decide)
      · exact parts_of_among itemsAmong member isNode (by decide)

theorem loose_parts (kinds : List NodeKind) (among : Among looseLabels below)
    (member : tree ∈ below) (isNode : tree.label? = some (.node inner)) :
    inner ∈ .comment :: kinds := by
  have comment : inner ∈ [NodeKind.comment] := parts_of_among among member isNode (by decide)
  exact List.mem_cons.mpr (.inl (List.mem_singleton.mp comment))

theorem Behind.parts {form : Rule.BodyForm} (behind : Behind form below) (member : tree ∈ below)
    (isNode : tree.label? = some (.node inner)) : inner ∈ .comment :: bodyParts form := by
  cases behind with
  | unopened among => exact loose_parts _ among member isNode
  | opened among _ inside =>
      rcases List.mem_append.mp member with member | member
      · exact loose_parts _ among member isNode
      · rcases List.mem_cons.mp member with rfl | member
        · cases isNode
        · exact inside.parts member isNode

/-- The type of an entry is the word behind its `@`. -/
theorem type?_of_typed {front : List Tree} (among : Among looseLabels front) (mark type : Token)
    (behind : List Tree) (start : Nat) :
    (Entry.mk ⟨start, .node .entry
      (.token mark :: (front ++ .node .entryType [.token type] :: behind))⟩).type? =
      some (Text.lowercase type.text) := by
  have found : (Tree.node .entry
      (.token mark :: (front ++ .node .entryType [.token type] :: behind))).child? .entryType =
      some (.node .entryType [.token type]) := by
    have none : (Tree.node .entry front).children.find? (Tree.hasKind .entryType) = none := by
      rw [List.find?_eq_none]
      intro tree member isType
      have absent := among.not_hasKind .entryType (by decide)
      exact List.filter_eq_nil_iff.mp absent tree (Tree.mem_of_mem_children member) isType
    rw [Tree.child?, Tree.children_token_cons, Tree.children_append]
    simp [Tree.hasKind, none]
  rw [Entry.type?, found]
  simp [Tree.text]

/-- Beside its type and comments, an entry holds what its type allows. -/
theorem Marked.parts (marked : Marked below) (member : tree ∈ below)
    (isNode : tree.label? = some (.node inner)) (mark : Token) (start : Nat) :
    inner ∈ [.comment, .entryType] ∨
      ∃ type, (Entry.mk ⟨start, .node .entry (.token mark :: below)⟩).type? =
        some (Text.lowercase type) ∧ inner ∈ bodyParts (Rule.BodyForm.ofType type) := by
  cases marked with
  | untyped among => exact .inl (loose_parts _ among member isNode)
  | @typed front behind type among _ shape =>
      rcases List.mem_append.mp member with member | member
      · exact .inl (loose_parts _ among member isNode)
      · rcases List.mem_cons.mp member with rfl | member
        · cases isNode
          exact .inl (by decide)
        · rcases List.mem_cons.mp (shape.parts member isNode) with rfl | inside
          · exact .inl (by decide)
          · exact .inr ⟨type.text, type?_of_typed among mark type behind start, inside⟩

theorem Fits.parts (fits : Fits kind below) (member : tree ∈ below)
    (isNode : tree.label? = some (.node inner)) : inner ∈ kind.parts := by
  cases fits with
  | @entry mark rest _ marked =>
      rcases List.mem_cons.mp member with rfl | member
      · cases isNode
      · rcases marked.parts member isNode mark 0 with outer | ⟨type, -, inside⟩
        · exact (show [.comment, .entryType] ⊆ NodeKind.entry.parts by decide) outer
        · revert inside
          cases Rule.BodyForm.ofType type <;> cases inner <;> decide
  | field _ among _ =>
      rcases List.mem_cons.mp member with rfl | member
      · cases isNode
        decide
      · exact parts_of_among among member isNode (by decide)
  | entryType _ =>
      obtain rfl := List.mem_singleton.mp member
      cases isNode
  | fieldName _ =>
      obtain rfl := List.mem_singleton.mp member
      cases isNode
  | comment _ =>
      obtain rfl := List.mem_singleton.mp member
      cases isNode
  | error _ _ =>
      obtain rfl := List.mem_singleton.mp member
      cases isNode
  | file among | key among _ | value among | bracedText among | quotedText among =>
      exact parts_of_among among member isNode (by decide)

end Shape

/-! ## Nodes of a tree -/

namespace Tree

/-- The node itself and the nodes below it, each before those below it. -/
def nodes (tree : Tree) : List Tree :=
  tree.located.nodes.map Located.tree

theorem nodesFromAll_eq (start : Nat) (trees : List Tree) :
    nodesFromAll start trees = (Located.row start trees).flatMap Located.nodes := by
  induction trees generalizing start with
  | nil => rfl
  | cons tree trees ih => rw [nodesFromAll, Located.row, List.flatMap_cons, ih, Located.nodes]

theorem nodesFromAll_append (start : Nat) (left right : List Tree) :
    nodesFromAll start (left ++ right) =
      nodesFromAll start left ++ nodesFromAll (start + Token.widthAll (tokensAll left)) right := by
  rw [nodesFromAll_eq, nodesFromAll_eq, nodesFromAll_eq, Located.row_append, List.flatMap_append]

theorem mem_nodesFromAll {start : Nat} {trees : List Tree} {part : Located}
    (member : part ∈ nodesFromAll start trees) :
    ∃ tree ∈ trees, ∃ place, part ∈ tree.nodesFrom place := by
  rw [nodesFromAll_eq] at member
  obtain ⟨whole, listed, inside⟩ := List.mem_flatMap.mp member
  obtain ⟨left, right, rfl, -⟩ := Located.exists_of_mem_row listed
  exact ⟨whole.tree, by simp, whole.start, inside⟩

theorem mem_nodesFrom {start : Nat} {kind : NodeKind} {below : List Tree} {part : Located}
    (member : part ∈ (Tree.node kind below).nodesFrom start) :
    part.tree = .node kind below ∨ ∃ tree ∈ below, ∃ place, part ∈ tree.nodesFrom place := by
  rw [nodesFrom, List.mem_cons] at member
  rcases member with rfl | member
  · exact .inl rfl
  · exact .inr (mem_nodesFromAll member)

/-- Every node of a sound tree has the shape of its kind. -/
theorem Sound.of_mem_nodesFrom {tree : Tree} (sound : tree.Sound) {start : Nat} {part : Located}
    (member : part ∈ tree.nodesFrom start) :
    ∃ kind below, part.tree = .node kind below ∧ Shape.Fits kind below ∧
      ∀ child ∈ below, child.Sound := by
  induction sound generalizing start part with
  | token own => simp [nodesFrom] at member
  | fault problem => simp [nodesFrom] at member
  | @node kind below fits sound ih =>
      rcases mem_nodesFrom member with same | ⟨child, listed, place, member⟩
      · exact ⟨kind, below, same, fits, sound⟩
      · exact ih child listed member

/-- A set of kinds that holds the parts of its members holds every node below a member. -/
theorem Sound.kind_of_mem_nodesFrom {kinds : List NodeKind}
    (closed : ∀ kind ∈ kinds, kind.parts ⊆ kinds) {tree : Tree} (sound : tree.Sound)
    (own : ∀ kind, tree.label? = some (.node kind) → kind ∈ kinds) {start : Nat} {part : Located}
    (member : part ∈ tree.nodesFrom start) :
    ∃ kind ∈ kinds, part.tree.label? = some (.node kind) := by
  induction sound generalizing start part with
  | token own => simp [nodesFrom] at member
  | fault problem => simp [nodesFrom] at member
  | @node kind below fits _ ih =>
      have ownKind := own kind rfl
      rcases mem_nodesFrom member with same | ⟨child, listed, place, member⟩
      · exact ⟨kind, ownKind, by rw [same, label?]⟩
      · exact ih child listed (fun inner isNode => closed kind ownKind (fits.parts listed isNode))
          member

end Tree

end TexWorkspace.Bib
