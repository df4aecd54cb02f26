import TexWorkspace.Proofs.Bib.Lossless
import TexWorkspace.Proofs.Bib.Shape.Rules

set_option autoImplicit false

/-!
Main statement: however malformed a text is, its tree has the shape of a bibliography file. What
stands where is said of the nodes of the tree and of what stands right below them.
-/

namespace TexWorkspace.Bib

/-- The shape of a bibliography file. -/
structure Tree.Shaped (file : Tree) : Prop where
  root : file.hasKind .file = true
  /-- Entries stand right below the file, and each begins with an `@`. -/
  entry_parent : ∀ parent ∈ file.nodes, ∀ child ∈ parent.children,
    child.hasKind .entry = true → parent = file
  entry_starts : ∀ entry ∈ file.nodes, entry.hasKind .entry = true →
    ∃ mark rest, entry.children = .token mark :: rest ∧ mark.kind = .atSign
  /-- No `@` is overlooked: it begins an entry, or it is part of a text between delimiters or of the
  body of a comment entry. -/
  atSign_place : ∀ parent ∈ file.nodes, ∀ left own right,
    parent.children = left ++ .token own :: right → own.kind = .atSign →
    parent.hasKind .entry = true ∧ left = [] ∨
      parent.hasKind .bracedText = true ∨ parent.hasKind .quotedText = true ∨
      parent.IsEntryOf "comment" ∧ ∃ opening, .token opening ∈ left ∧
        (opening.kind = .openBrace ∨ opening.kind = .openParen)
  part_parent : ∀ parent ∈ file.nodes, ∀ child ∈ parent.children,
    ∀ kind ∈ [NodeKind.entryType, .key, .field, .error], child.hasKind kind = true →
      parent.hasKind .entry = true
  entry_parts : ∀ entry ∈ file.nodes, entry.hasKind .entry = true →
    (entry.children.filter (hasKind .entryType)).length ≤ 1 ∧
      (entry.children.filter (hasKind .key)).length ≤ 1
  key_first : ∀ entry ∈ file.nodes, entry.hasKind .entry = true →
    ∀ left key right, entry.children = left ++ key :: right → key.hasKind .key = true →
      ∀ other ∈ left, other.hasKind .field = false
  entryType_word : ∀ type ∈ file.nodes, type.hasKind .entryType = true →
    ∃ own, type.children = [.token own] ∧ own.kind = .word
  key_name : ∀ key ∈ file.nodes, key.hasKind .key = true →
    ∃ name, key.tokens.filter Token.isName = [name]
  field_parts : ∀ field ∈ file.nodes, field.hasKind .field = true →
    (∃ first own rest, field.children = first :: rest ∧ first.hasKind .fieldName = true ∧
      first.children = [.token own] ∧ own.kind = .word) ∧
      (field.children.filter (hasKind .value)).length ≤ 1
  value_parent : ∀ parent ∈ file.nodes, ∀ child ∈ parent.children,
    child.hasKind .value = true → parent.hasKind .field = true ∨ parent.IsEntryOf "preamble"
  text_parent : ∀ parent ∈ file.nodes, ∀ child ∈ parent.children,
    child.hasKind .bracedText = true ∨ child.hasKind .quotedText = true →
      parent.hasKind .value = true
  text_tokens : ∀ text ∈ file.nodes,
    text.hasKind .bracedText = true ∨ text.hasKind .quotedText = true →
      ∀ child ∈ text.children, ∃ own, child = .token own
  error_token : ∀ error ∈ file.nodes, error.hasKind .error = true →
    ∃ own, error.children = [.token own] ∧ own.isTrivia = false ∧
      own.kind ∉ [.atSign, .comma, .word]
  comment_token : ∀ comment ∈ file.nodes, comment.hasKind .comment = true →
    ∃ own, comment.children = [.token own] ∧ own.kind = .comment
  /-- Entries of the three special types lack the parts that they have no use for. -/
  special_parts : ∀ entry ∈ file.nodes, ∀ child ∈ entry.children,
    (entry.IsEntryOf "comment" → ∀ kind ∈ [NodeKind.key, .field, .value, .error],
      child.hasKind kind = false) ∧
    (entry.IsEntryOf "preamble" → ∀ kind ∈ [NodeKind.key, .field, .error],
      child.hasKind kind = false) ∧
    (entry.IsEntryOf "string" → ∀ kind ∈ [NodeKind.key, .value], child.hasKind kind = false)

/-! ## Rows and what stands in front -/

section Split

variable {α : Type} {before after left right : List α} {item : α}

/-- What is not in the first part of a row stands behind it. -/
theorem exists_behind (split : before ++ after = left ++ item :: right) (absent : item ∉ before) :
    ∃ middle, left = before ++ middle ∧ after = middle ++ item :: right := by
  rcases List.append_eq_append_iff.mp split with ⟨middle, same, rest⟩ | ⟨middle, same, rest⟩
  · exact ⟨middle, same, rest⟩
  · cases middle with
    | nil => exact ⟨[], by simpa using same.symm, rest.symm⟩
    | cons first others =>
        obtain ⟨rfl, -⟩ := List.cons.inj rest
        exact absurd (by rw [same]; simp) absent

/-- What is not in the second part of a row stands in the first one, and so does all before it. -/
theorem subset_front (split : before ++ after = left ++ item :: right) (absent : item ∉ after) :
    left ⊆ before := by
  rcases List.append_eq_append_iff.mp split with ⟨middle, same, rest⟩ | ⟨middle, same, rest⟩
  · exact absurd (by rw [rest]; simp) absent
  · rw [same]
    exact List.subset_append_left ..

end Split

theorem NodeKind.eq_entry_of_part {kind own : NodeKind}
    (chosen : kind ∈ [NodeKind.entryType, .key, .field, .error]) (part : kind ∈ own.parts) :
    own = .entry := by
  simp only [List.mem_cons, List.not_mem_nil, or_false] at chosen
  revert part
  rcases chosen with rfl | rfl | rfl | rfl <;> cases own <;> decide

theorem Tree.hasKind_iff {kind : NodeKind} {tree : Tree} :
    tree.hasKind kind = true ↔ tree.label? = some (.node kind) := by
  cases tree <;> simp [hasKind, label?]

theorem Among.no_token {labels : List Label} {trees : List Tree} (among : Among labels trees)
    {own : Token} (absent : Label.token own.kind ∉ labels) : Tree.token own ∉ trees :=
  fun member => absent (among _ member _ rfl)

/-- A node above tokens only has tokens only as children. -/
theorem Among.token_of_mem_children {kind : NodeKind} {below : List Tree}
    (among : Among Shape.tokenLabels below) {child : Tree}
    (listed : child ∈ (Tree.node kind below).children) : ∃ own, child = .token own := by
  obtain ⟨member, noFault⟩ := List.mem_filter.mp listed
  cases child with
  | token own => exact ⟨own, rfl⟩
  | fault problem => cases noFault
  | node inner deep =>
      have label : Label.node inner ∈ Shape.tokenLabels := among _ member _ rfl
      simp [Shape.tokenLabels] at label

theorem Among.no_hidden {labels : List Label} {trees : List Tree} (among : Among labels trees)
    {own : Token} (hidden : own.kind = .atSign ∨ own.kind = .comment)
    (absent : Label.token .atSign ∉ labels ∧ Label.token .comment ∉ labels) :
    Tree.token own ∉ trees := by
  rcases hidden with kind | kind
  · exact among.no_token (by rw [kind]; exact absent.1)
  · exact among.no_token (by rw [kind]; exact absent.2)

namespace Shape

variable {form : Rule.BodyForm} {below left right : List Tree} {own : Token}

/-! ## Where an `@` and the token of a comment can stand -/

theorem Inside.form_of_hidden (inside : Inside form below)
    (hidden : own.kind = .atSign ∨ own.kind = .comment) (member : Tree.token own ∈ below) : form = .remark := by
  cases inside with
  | remark _ => rfl
  | preamble among => exact absurd member (among.no_hidden hidden (by decide))
  | definitions among => exact absurd member (among.no_hidden hidden (by decide))
  | keyed frontAmong _ itemsAmong =>
      rcases List.mem_append.mp member with member | member
      · exact absurd member (frontAmong.no_hidden hidden (by decide))
      · exact absurd member (itemsAmong.no_hidden hidden (by decide))

theorem Behind.opener_of_hidden (behind : Behind form below)
    (hidden : own.kind = .atSign ∨ own.kind = .comment)
    (split : below = left ++ .token own :: right) :
    form = .remark ∧ ∃ opening, .token opening ∈ left ∧
      (opening.kind = .openBrace ∨ opening.kind = .openParen) := by
  have loose : ∀ {trees}, Among looseLabels trees → Tree.token own ∉ trees := fun among =>
    among.no_hidden hidden (by decide)
  cases behind with
  | unopened among => exact absurd (by rw [split]; simp) (loose among)
  | @opened between inside opening among opens shape =>
      obtain ⟨middle, rfl, rest⟩ := exists_behind split (loose among)
      cases middle with
      | nil =>
          obtain ⟨same, -⟩ := List.cons.inj rest
          obtain rfl := Tree.token.inj same
          rcases hidden with kind | kind <;> simp [kind] at opens
      | cons first others =>
          obtain ⟨rfl, rfl⟩ := List.cons.inj rest
          exact ⟨shape.form_of_hidden hidden (by simp), opening, by simp, opens⟩

theorem Marked.opener_of_hidden (marked : Marked below)
    (hidden : own.kind = .atSign ∨ own.kind = .comment)
    (split : below = left ++ .token own :: right) (mark : Token) :
    (Tree.node .entry (.token mark :: below)).IsEntryOf "comment" ∧
      ∃ opening, .token opening ∈ left ∧
        (opening.kind = .openBrace ∨ opening.kind = .openParen) := by
  have loose : ∀ {trees}, Among looseLabels trees → Tree.token own ∉ trees := fun among =>
    among.no_hidden hidden (by decide)
  cases marked with
  | untyped among => exact absurd (by rw [split]; simp) (loose among)
  | @typed front behind type among _ shape =>
      rw [List.append_cons] at split
      obtain ⟨middle, rfl, rest⟩ := exists_behind split (by simpa using loose among)
      obtain ⟨remark, opening, member, opens⟩ := shape.opener_of_hidden hidden rest
      have isComment := (Rule.BodyForm.ofType_eq_remark_iff type.text).mp remark
      have typed := type?_of_typed among mark type behind 0
      rw [isComment] at typed
      exact ⟨⟨by simp [Tree.hasKind], typed⟩, opening, by simp [member], opens⟩

theorem Fits.kind_of_hidden {kind : NodeKind} (fits : Fits kind below)
    (hidden : own.kind = .atSign ∨ own.kind = .comment) (member : Tree.token own ∈ below) :
    kind = .entry ∨ kind = .bracedText ∨ kind = .quotedText ∨
      kind = .comment ∧ own.kind = .comment := by
  cases fits with
  | entry _ _ => exact .inl rfl
  | bracedText _ => exact .inr (.inl rfl)
  | quotedText _ => exact .inr (.inr (.inl rfl))
  | comment isComment =>
      obtain rfl := Tree.token.inj (List.mem_singleton.mp member)
      exact .inr (.inr (.inr ⟨rfl, isComment⟩))
  | entryType word | fieldName word =>
      obtain rfl := Tree.token.inj (List.mem_singleton.mp member)
      rcases hidden with kind | kind <;> simp [kind] at word
  | error significant excluded =>
      obtain rfl := Tree.token.inj (List.mem_singleton.mp member)
      rcases hidden with kind | kind
      · simp [kind] at excluded
      · rw [Token.isTrivia, kind] at significant
        cases significant
  | field _ among _ =>
      have behind := List.mem_of_ne_of_mem (by simp) member
      exact absurd behind (among.no_hidden hidden (by decide))
  | key among _ | value among => exact absurd member (among.no_hidden hidden (by decide))
  | file among =>
      exact absurd member (among.no_hidden hidden (by decide))

/-! ## The order of an entry -/

/-- Any key comes before all fields, and there is one at most. -/
def KeyFirst (below : List Tree) : Prop :=
  ∃ early late, below = early ++ late ∧ early.filter (Tree.hasKind .field) = [] ∧
    late.filter (Tree.hasKind .key) = [] ∧ (early.filter (Tree.hasKind .key)).length ≤ 1

theorem KeyFirst.of_among {labels : List Label} (among : Among labels below)
    (noKey : Label.node .key ∉ labels) : KeyFirst below :=
  ⟨[], below, rfl, rfl, among.not_hasKind _ noKey, Nat.zero_le 1⟩

theorem KeyFirst.append {front : List Tree} (first : KeyFirst below)
    (noField : front.filter (Tree.hasKind .field) = [])
    (noKey : front.filter (Tree.hasKind .key) = []) : KeyFirst (front ++ below) := by
  obtain ⟨early, late, rfl, fieldless, keyless, count⟩ := first
  refine ⟨front ++ early, late, (List.append_assoc ..).symm, ?_, keyless, ?_⟩
  · rw [List.filter_append, noField, fieldless, List.append_nil]
  · rwa [List.filter_append, noKey, List.nil_append]

theorem KeyFirst.cons {tree : Tree} (first : KeyFirst below) (noField : tree.hasKind .field = false)
    (noKey : tree.hasKind .key = false) : KeyFirst (tree :: below) :=
  @KeyFirst.append below [tree] first (by simp [noField]) (by simp [noKey])

theorem KeyFirst.key_once (first : KeyFirst below) :
    (below.filter (Tree.hasKind .key)).length ≤ 1 := by
  obtain ⟨early, late, rfl, -, keyless, count⟩ := first
  rwa [List.filter_append, keyless, List.append_nil]

theorem Inside.keyFirst (inside : Inside form below) : KeyFirst below := by
  cases inside with
  | remark among => exact .of_among among (by decide)
  | preamble among => exact .of_among among (by decide)
  | definitions among => exact .of_among among (by decide)
  | @keyed front items frontAmong count itemsAmong =>
      exact ⟨front, items, rfl, frontAmong.not_hasKind _ (by decide),
        itemsAmong.not_hasKind _ (by decide), count⟩

theorem Behind.keyFirst (behind : Behind form below) : KeyFirst below := by
  cases behind with
  | unopened among => exact .of_among among (by decide)
  | @opened between inside opening among _ shape =>
      have opened : KeyFirst (.token opening :: inside) := shape.keyFirst.cons rfl rfl
      exact opened.append (among.not_hasKind _ (by decide)) (among.not_hasKind _ (by decide))

theorem Marked.keyFirst (marked : Marked below) : KeyFirst below := by
  cases marked with
  | untyped among => exact .of_among among (by decide)
  | @typed front behind type among _ shape =>
      have typed : KeyFirst (.node .entryType [.token type] :: behind) :=
        shape.keyFirst.cons rfl rfl
      exact typed.append (among.not_hasKind _ (by decide)) (among.not_hasKind _ (by decide))

theorem Behind.no_entryType (behind : Behind form below) :
    below.filter (Tree.hasKind .entryType) = [] := by
  rw [List.filter_eq_nil_iff]
  intro tree member isType
  have part := behind.parts member (Tree.hasKind_iff.mp isType)
  revert part
  cases form <;> decide

theorem Marked.entryType_once (marked : Marked below) :
    (below.filter (Tree.hasKind .entryType)).length ≤ 1 := by
  cases marked with
  | untyped among => rw [among.not_hasKind _ (by decide)]; exact Nat.zero_le 1
  | @typed front behind type among _ shape =>
      rw [List.filter_append, List.filter_cons, among.not_hasKind _ (by decide),
        shape.no_entryType]
      simp [Tree.hasKind]

end Shape

namespace Tree

theorem filter_hasKind_children (kind own : NodeKind) (below : List Tree) :
    (Tree.node own below).children.filter (hasKind kind) = below.filter (hasKind kind) := by
  induction below with
  | nil => rfl
  | cons tree trees ih => cases tree <;> simp [hasKind, ih, List.filter_cons]

/-- Where a child stands among the children, it stands below the node. -/
theorem exists_split_below {kind : NodeKind} {below left right : List Tree} {child : Tree}
    (split : (Tree.node kind below).children = left ++ child :: right) :
    ∃ front behind, below = front ++ child :: behind ∧ left = (Tree.node kind front).children := by
  obtain ⟨front, rest, rfl, rfl, others⟩ := List.filter_eq_append_iff.mp split
  obtain ⟨skipped, behind, rfl, faults, -, -⟩ := List.filter_eq_cons_iff.mp others
  refine ⟨front ++ skipped, behind, by simp, ?_⟩
  rw [children_append, show (Tree.node kind skipped).children = [] from
    List.filter_eq_nil_iff.mpr faults, List.append_nil]
  rfl

theorem token_mem_children (kind : NodeKind) {below : List Tree} {own : Token}
    (member : Tree.token own ∈ below) : Tree.token own ∈ (Tree.node kind below).children :=
  List.mem_filter.mpr ⟨member, rfl⟩

namespace Sound

variable {tree node : Tree}

theorem of_mem_nodes (sound : tree.Sound) (member : node ∈ tree.nodes) :
    ∃ kind below, node = .node kind below ∧ Shape.Fits kind below := by
  obtain ⟨part, listed, rfl⟩ := List.mem_map.mp member
  obtain ⟨kind, below, same, fits, -⟩ := sound.of_mem_nodesFrom listed
  exact ⟨kind, below, same, fits⟩

theorem fits_of_mem_nodes (sound : tree.Sound) (member : node ∈ tree.nodes) {kind : NodeKind}
    (isKind : node.hasKind kind = true) : ∃ below, node = .node kind below ∧ Shape.Fits kind below := by
  obtain ⟨own, below, rfl, fits⟩ := sound.of_mem_nodes member
  obtain rfl : own = kind := by simpa [hasKind] using isKind
  exact ⟨below, rfl, fits⟩

theorem part_of_mem_nodes (sound : tree.Sound) (member : node ∈ tree.nodes) {child : Tree}
    (listed : child ∈ node.children) {kind : NodeKind} (isKind : child.hasKind kind = true) :
    ∃ own below, node = .node own below ∧ kind ∈ own.parts := by
  obtain ⟨own, below, rfl, fits⟩ := sound.of_mem_nodes member
  exact ⟨own, below, rfl, fits.parts (mem_of_mem_children listed) (hasKind_iff.mp isKind)⟩

theorem bodyPart_of_mem_nodes (sound : tree.Sound) (member : node ∈ tree.nodes)
    (isEntry : node.hasKind .entry = true) {child : Tree} (listed : child ∈ node.children)
    {kind : NodeKind} (isKind : child.hasKind kind = true) :
    kind ∈ [.comment, .entryType] ∨
      ∃ type, node.IsEntryOf (Text.lowercase type) ∧
        kind ∈ Shape.bodyParts (Rule.BodyForm.ofType type) := by
  obtain ⟨below, rfl, fits⟩ := sound.fits_of_mem_nodes member isEntry
  cases fits with
  | @entry mark rest _ marked =>
      rcases List.mem_cons.mp (mem_of_mem_children listed) with rfl | behind
      · cases isKind
      · rcases marked.parts behind (hasKind_iff.mp isKind) mark 0 with outer | ⟨type, typed, part⟩
        · exact .inl outer
        · exact .inr ⟨type, ⟨isEntry, typed⟩, part⟩

/-- An entry of a type with a body of its own lacks the parts that this body has no use for. -/
theorem lacks_of_isEntryOf (sound : tree.Sound) (member : node ∈ tree.nodes) {type : String}
    {form : Rule.BodyForm} (isEntry : node.IsEntryOf type)
    (formed : ∀ other, Rule.BodyForm.ofType other = form ↔ Text.lowercase other = type)
    {child : Tree} (listed : child ∈ node.children) {lacking : List NodeKind}
    (absent : ∀ kind ∈ lacking, kind ∉ [.comment, .entryType] ++ Shape.bodyParts form) :
    ∀ kind ∈ lacking, child.hasKind kind = false := by
  intro kind chosen
  by_contra isKind
  rw [Bool.not_eq_false] at isKind
  refine absent kind chosen (List.mem_append.mpr ?_)
  rcases sound.bodyPart_of_mem_nodes member isEntry.1 listed isKind with outer | ⟨other, typed, part⟩
  · exact .inl outer
  · have same : Text.lowercase other = type := Option.some.inj (typed.2.symm.trans isEntry.2)
    rw [(formed other).mpr same] at part
    exact .inr part

/-- Only the file itself is a file. -/
theorem eq_of_file_node {below : List Tree} (sound : (Tree.node .file below).Sound)
    (member : node ∈ (Tree.node .file below).nodes) (isFile : node.hasKind .file = true) :
    node = .node .file below := by
  obtain ⟨part, listed, rfl⟩ := List.mem_map.mp member
  rcases mem_nodesFrom listed with same | ⟨child, below, place, listed⟩
  · exact same
  · -- All kinds but the file itself; none of them has the file among its parts.
    let others : List NodeKind := [.entry, .entryType, .key, .field, .fieldName, .value,
      .bracedText, .quotedText, .comment, .error]
    have closed : ∀ kind ∈ others, kind.parts ⊆ others := by decide
    cases sound with
    | node fits sound =>
        have own : ∀ kind, child.label? = some (.node kind) → kind ∈ others := by
          intro kind isKind
          exact (show NodeKind.file.parts ⊆ others by decide) (fits.parts below isKind)
        obtain ⟨kind, inner, isKind⟩ := (sound child below).kind_of_mem_nodesFrom closed own listed
        have same := isKind.symm.trans (hasKind_iff.mp isFile)
        obtain rfl : kind = .file := by simpa using same
        exact absurd inner (by decide)

theorem entry_parent {below : List Tree} (sound : (Tree.node .file below).Sound)
    (member : node ∈ (Tree.node .file below).nodes) {child : Tree} (listed : child ∈ node.children)
    (isEntry : child.hasKind .entry = true) : node = .node .file below := by
  obtain ⟨own, inner, rfl, part⟩ := sound.part_of_mem_nodes member listed isEntry
  obtain rfl : own = .file := by revert part; cases own <;> decide
  exact sound.eq_of_file_node member rfl

theorem entry_starts (sound : tree.Sound) (member : node ∈ tree.nodes)
    (isEntry : node.hasKind .entry = true) :
    ∃ mark rest, node.children = .token mark :: rest ∧ mark.kind = .atSign := by
  obtain ⟨below, rfl, fits⟩ := sound.fits_of_mem_nodes member isEntry
  cases fits with
  | entry isMark _ => exact ⟨_, _, children_token_cons .., isMark⟩

/-- An `@` begins an entry, or it is part of a text or of the body of a comment entry. -/
theorem atSign_place (sound : tree.Sound) (member : node ∈ tree.nodes) {left right : List Tree}
    {own : Token} (split : node.children = left ++ .token own :: right)
    (isMark : own.kind = .atSign) :
    node.hasKind .entry = true ∧ left = [] ∨
      node.hasKind .bracedText = true ∨ node.hasKind .quotedText = true ∨
      node.IsEntryOf "comment" ∧ ∃ opening, .token opening ∈ left ∧
        (opening.kind = .openBrace ∨ opening.kind = .openParen) := by
  obtain ⟨kind, below, rfl, fits⟩ := sound.of_mem_nodes member
  obtain ⟨front, behind, whole, rfl⟩ := exists_split_below split
  have listed : Tree.token own ∈ below := by rw [whole]; simp
  rcases fits.kind_of_hidden (.inl isMark) listed with rfl | rfl | rfl | ⟨-, isComment⟩
  · cases fits with
    | @entry mark rest _ marked =>
        cases front with
        | nil => exact .inl ⟨rfl, rfl⟩
        | cons first others =>
            obtain ⟨-, whole⟩ := List.cons.inj whole
            obtain ⟨remark, opening, before, opens⟩ :=
              marked.opener_of_hidden (.inl isMark) whole mark
            have among := token_mem_children .entry (List.mem_cons_of_mem first before)
            exact .inr (.inr (.inr ⟨remark, opening, among, opens⟩))
  · exact .inr (.inl rfl)
  · exact .inr (.inr (.inl rfl))
  · exact absurd (isMark.symm.trans isComment) (by decide)

theorem part_parent (sound : tree.Sound) (member : node ∈ tree.nodes) {child : Tree}
    (listed : child ∈ node.children) {kind : NodeKind}
    (chosen : kind ∈ [NodeKind.entryType, .key, .field, .error])
    (isKind : child.hasKind kind = true) : node.hasKind .entry = true := by
  obtain ⟨own, below, rfl, part⟩ := sound.part_of_mem_nodes member listed isKind
  obtain rfl : own = .entry := NodeKind.eq_entry_of_part chosen part
  rfl

theorem value_parent (sound : tree.Sound) (member : node ∈ tree.nodes) {child : Tree}
    (listed : child ∈ node.children) (isValue : child.hasKind .value = true) :
    node.hasKind .field = true ∨ node.IsEntryOf "preamble" := by
  obtain ⟨own, below, rfl, part⟩ := sound.part_of_mem_nodes member listed isValue
  have parent : own = .field ∨ own = .entry := by revert part; cases own <;> decide
  rcases parent with rfl | rfl
  · exact .inl rfl
  · rcases sound.bodyPart_of_mem_nodes member rfl listed isValue with outer | ⟨type, typed, part⟩
    · exact absurd outer (by decide)
    · have form : Rule.BodyForm.ofType type = .preamble := by
        revert part
        cases Rule.BodyForm.ofType type <;> decide
      rw [(Rule.BodyForm.ofType_eq_preamble_iff type).mp form] at typed
      exact .inr typed

theorem text_parent (sound : tree.Sound) (member : node ∈ tree.nodes) {child : Tree}
    (listed : child ∈ node.children)
    (isText : child.hasKind .bracedText = true ∨ child.hasKind .quotedText = true) :
    node.hasKind .value = true := by
  have parts : ∀ own : NodeKind, .bracedText ∈ own.parts ∨ .quotedText ∈ own.parts →
      own = .value := by
    intro own
    cases own <;> decide
  rcases isText with isText | isText
  · obtain ⟨own, below, rfl, part⟩ := sound.part_of_mem_nodes member listed isText
    simp [hasKind, parts own (.inl part)]
  · obtain ⟨own, below, rfl, part⟩ := sound.part_of_mem_nodes member listed isText
    simp [hasKind, parts own (.inr part)]

/-! ### The parts of one node -/

theorem entry_parts (sound : tree.Sound) (member : node ∈ tree.nodes)
    (isEntry : node.hasKind .entry = true) :
    (node.children.filter (hasKind .entryType)).length ≤ 1 ∧
      (node.children.filter (hasKind .key)).length ≤ 1 := by
  obtain ⟨below, rfl, fits⟩ := sound.fits_of_mem_nodes member isEntry
  cases fits with
  | entry _ marked =>
      rw [filter_hasKind_children, filter_hasKind_children]
      exact ⟨marked.entryType_once, (marked.keyFirst.cons rfl rfl).key_once⟩

theorem key_first (sound : tree.Sound) (member : node ∈ tree.nodes)
    (isEntry : node.hasKind .entry = true) {left right : List Tree} {key : Tree}
    (split : node.children = left ++ key :: right) (isKey : key.hasKind .key = true) :
    ∀ other ∈ left, other.hasKind .field = false := by
  obtain ⟨below, rfl, fits⟩ := sound.fits_of_mem_nodes member isEntry
  obtain ⟨front, behind, below, rfl⟩ := exists_split_below split
  intro other listed
  cases fits with
  | @entry mark rest _ marked =>
      have first : Shape.KeyFirst (.token mark :: rest) := marked.keyFirst.cons rfl rfl
      obtain ⟨early, late, whole, fieldless, keyless, -⟩ := first
      rw [whole] at below
      have absent : key ∉ late := fun late => List.filter_eq_nil_iff.mp keyless key late isKey
      have among := subset_front below absent (mem_of_mem_children listed)
      simpa using List.filter_eq_nil_iff.mp fieldless other among

theorem entryType_word (sound : tree.Sound) (member : node ∈ tree.nodes)
    (isType : node.hasKind .entryType = true) :
    ∃ own, node.children = [.token own] ∧ own.kind = .word := by
  obtain ⟨below, rfl, fits⟩ := sound.fits_of_mem_nodes member isType
  cases fits with
  | entryType word => exact ⟨_, children_token_cons .., word⟩

theorem key_name (sound : tree.Sound) (member : node ∈ tree.nodes)
    (isKey : node.hasKind .key = true) : ∃ name, node.tokens.filter Token.isName = [name] := by
  obtain ⟨below, rfl, fits⟩ := sound.fits_of_mem_nodes member isKey
  cases fits with
  | key _ named => exact ⟨_, by rw [tokens_node, named]⟩

theorem field_parts (sound : tree.Sound) (member : node ∈ tree.nodes)
    (isField : node.hasKind .field = true) :
    (∃ first own rest, node.children = first :: rest ∧ first.hasKind .fieldName = true ∧
      first.children = [.token own] ∧ own.kind = .word) ∧
      (node.children.filter (hasKind .value)).length ≤ 1 := by
  obtain ⟨below, rfl, fits⟩ := sound.fits_of_mem_nodes member isField
  cases fits with
  | field word _ count =>
      refine ⟨⟨_, _, _, children_node_cons .., rfl, rfl, word⟩, ?_⟩
      rw [filter_hasKind_children]
      simpa [hasKind] using count

theorem text_tokens (sound : tree.Sound) (member : node ∈ tree.nodes)
    (isText : node.hasKind .bracedText = true ∨ node.hasKind .quotedText = true) {child : Tree}
    (listed : child ∈ node.children) : ∃ own, child = .token own := by
  rcases isText with isText | isText
  · obtain ⟨below, rfl, fits⟩ := sound.fits_of_mem_nodes member isText
    cases fits with
    | bracedText among => exact among.token_of_mem_children listed
  · obtain ⟨below, rfl, fits⟩ := sound.fits_of_mem_nodes member isText
    cases fits with
    | quotedText among => exact among.token_of_mem_children listed

theorem error_token (sound : tree.Sound) (member : node ∈ tree.nodes)
    (isError : node.hasKind .error = true) :
    ∃ own, node.children = [.token own] ∧ own.isTrivia = false ∧
      own.kind ∉ [.atSign, .comma, .word] := by
  obtain ⟨below, rfl, fits⟩ := sound.fits_of_mem_nodes member isError
  cases fits with
  | error significant excluded => exact ⟨_, children_token_cons .., significant, excluded⟩

theorem comment_token (sound : tree.Sound) (member : node ∈ tree.nodes)
    (isComment : node.hasKind .comment = true) :
    ∃ own, node.children = [.token own] ∧ own.kind = .comment := by
  obtain ⟨below, rfl, fits⟩ := sound.fits_of_mem_nodes member isComment
  cases fits with
  | comment kind => exact ⟨_, children_token_cons .., kind⟩

theorem special_parts (sound : tree.Sound) (member : node ∈ tree.nodes) {child : Tree}
    (listed : child ∈ node.children) :
    (node.IsEntryOf "comment" → ∀ kind ∈ [NodeKind.key, .field, .value, .error],
      child.hasKind kind = false) ∧
    (node.IsEntryOf "preamble" → ∀ kind ∈ [NodeKind.key, .field, .error],
      child.hasKind kind = false) ∧
    (node.IsEntryOf "string" → ∀ kind ∈ [NodeKind.key, .value],
      child.hasKind kind = false) := by
  refine ⟨?_, ?_, ?_⟩
  · intro isEntry
    exact sound.lacks_of_isEntryOf member isEntry Rule.BodyForm.ofType_eq_remark_iff listed
      (by decide)
  · intro isEntry
    exact sound.lacks_of_isEntryOf member isEntry Rule.BodyForm.ofType_eq_preamble_iff listed
      (by decide)
  · intro isEntry
    exact sound.lacks_of_isEntryOf member isEntry Rule.BodyForm.ofType_eq_definitions_iff listed
      (by decide)

end Sound

end Tree

/-- The tree of a text has the shape of a bibliography file. -/
theorem shaped_parse (text : String) : (parse text).Shaped := by
  have sound := sound_parse text
  exact
    { root := rfl
      entry_parent := fun _ member _ listed isEntry => sound.entry_parent member listed isEntry
      entry_starts := fun _ member isEntry => sound.entry_starts member isEntry
      atSign_place := fun _ member _ _ _ split isMark => sound.atSign_place member split isMark
      part_parent := fun _ member _ listed _ chosen isKind =>
        sound.part_parent member listed chosen isKind
      entry_parts := fun _ member isEntry => sound.entry_parts member isEntry
      key_first := fun _ member isEntry _ _ _ split isKey =>
        sound.key_first member isEntry split isKey
      entryType_word := fun _ member isType => sound.entryType_word member isType
      key_name := fun _ member isKey => sound.key_name member isKey
      field_parts := fun _ member isField => sound.field_parts member isField
      value_parent := fun _ member _ listed isValue => sound.value_parent member listed isValue
      text_parent := fun _ member _ listed isText => sound.text_parent member listed isText
      text_tokens := fun _ member isText _ listed => sound.text_tokens member isText listed
      error_token := fun _ member isError => sound.error_token member isError
      comment_token := fun _ member isComment => sound.comment_token member isComment
      special_parts := fun _ member _ listed => sound.special_parts member listed }

end TexWorkspace.Bib
