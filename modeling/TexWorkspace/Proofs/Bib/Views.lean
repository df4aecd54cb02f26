import TexWorkspace.Bib.Element
import TexWorkspace.Bib.KeyIndex
import TexWorkspace.Bib.Record
import TexWorkspace.Proofs.Bib.Outside

set_option autoImplicit false

/-!
The views of one file: its entries with their keys and fields, the records and the key index made of
them, and the walk over all nodes. Some look right below a node only and some at any depth. Main
statement: they agree, because no element stands where one of them sees it and another does not.
-/

namespace TexWorkspace.Bib

/-! ## Elements by kind -/

namespace Element

def entry? : Element → Option Entry
  | .entry found => some found
  | _ => none

def key? : Element → Option Key
  | .key found => some found
  | _ => none

def field? : Element → Option Field
  | .field found => some found
  | _ => none

def comment? : Element → Option Comment
  | .comment found => some found
  | _ => none

end Element

/-- What the handlers note for an element. -/
def Handlers.note {α : Type} (handlers : Handlers α) : Element → List α
  | .entry found => handlers.onEntry found
  | .key found => handlers.onKey found
  | .field found => handlers.onField found
  | .comment found => handlers.onComment found

/-- A visitor without handlers that notes each element it is shown. -/
def Visitor.recorder : Visitor Element where
  onElement element := [element]

/-- The views of a file tell the same story. -/
structure Document.Coherent (document : Document) : Prop where
  record_keys : document.records.map Record.key = document.keys.map KeyNode.identifier
  stub_keys : (KeyIndex.ofDocument document).stubs.map KeyStub.identifier =
    document.keys.map KeyNode.identifier
  walk_keys : ((walk Visitor.recorder document.node).filterMap Element.key?).map Key.identifier =
    document.keys.map KeyNode.identifier
  key_nonempty : ∀ record ∈ document.records, record.key ≠ ""
  record_type : ∀ record ∈ document.records,
    record.type ∉ ["comment", "preamble", "string"]
  walk_entries : (walk Visitor.recorder document.node).filterMap Element.entry? = document.entries
  walk_fields : (walk Visitor.recorder document.node).filterMap Element.field? =
    document.entries.flatMap Entry.fields
  walk_comments :
    (walk Visitor.recorder document.node).filterMap Element.comment? = document.comments
  /-- The comments are the comment tokens outside of texts and of bodies of comment entries. -/
  outer_comments : document.comments.map Comment.placed =
    placedComments (document.node.tree.outerTokensFrom document.node.start)
  /-- Handlers meet the elements that a visitor without handlers is shown, each by its kind. -/
  walk_handlers : ∀ (α : Type) (onElement : Element → List α) (handlers : Handlers α),
    walk ⟨onElement, some handlers⟩ document.node =
      (walk Visitor.recorder document.node).flatMap handlers.note

/-! ## Walks -/

theorem walk_recorder (node : Located) : walk Visitor.recorder node = node.elements :=
  List.flatMap_singleton' node.elements

theorem walk_handled {α : Type} (onElement : Element → List α) (handlers : Handlers α)
    (node : Located) :
    walk ⟨onElement, some handlers⟩ node = node.elements.flatMap handlers.note := by
  rw [walk]
  refine List.flatMap_congr fun element _ => ?_
  cases element <;> rfl

theorem Element.ofNode?_bind (node : Located) :
    (ofNode? node).bind entry? = Entry.ofNode? node ∧
      (ofNode? node).bind key? = (KeyNode.ofNode? node).map Key.ofNode ∧
      (ofNode? node).bind field? = Field.ofNode? node ∧
      (ofNode? node).bind comment? = Comment.ofNode? node := by
  obtain ⟨start, tree⟩ := node
  cases tree with
  | token own => exact ⟨rfl, rfl, rfl, rfl⟩
  | fault problem => exact ⟨rfl, rfl, rfl, rfl⟩
  | node kind below => cases kind <;> exact ⟨rfl, rfl, rfl, rfl⟩

theorem Located.filterMap_elements {α : Type} {select : Element → Option α}
    {view? : Located → Option α} (views : ∀ node, (Element.ofNode? node).bind select = view? node)
    (node : Located) : node.elements.filterMap select = node.nodes.filterMap view? := by
  rw [Located.elements, List.filterMap_filterMap]
  exact List.filterMap_congr fun part _ => views part

/-! ## Nodes at any depth and right below -/

namespace Located

/-- Problems have no nodes, so the nodes below a node are those of its children. -/
theorem nodes_eq {node : Located} {kind : NodeKind} {below : List Tree}
    (isNode : node.tree = .node kind below) : node.nodes = node :: node.children.flatMap nodes := by
  obtain ⟨start, tree⟩ := node
  obtain rfl : tree = .node kind below := isNode
  rw [nodes, Tree.nodesFrom, Tree.nodesFromAll_eq, children]
  congr 1
  induction below generalizing start with
  | nil => rfl
  | cons tree trees ih =>
      cases tree with
      | token own => simpa [row] using ih _
      | node inner deep => simpa [row] using ih _
      | fault problem => simpa [row, nodes, Tree.nodesFrom, Tree.width] using ih start

theorem tree_mem_of_mem_children {node part : Located} (member : part ∈ node.children) :
    part.tree ∈ node.tree.children := by
  obtain ⟨left, right, split, -⟩ := exists_of_mem_row member
  rw [split]
  simp

section Views

variable {α : Type} {kind : NodeKind} {wrap : Located → α} {node : Located}

theorem filterMap_nodes_of_ne {own : NodeKind} {below : List Tree}
    (isNode : node.tree = .node own below) (other : own ≠ kind) :
    node.nodes.filterMap (as? kind wrap) =
      node.children.flatMap fun child => child.nodes.filterMap (as? kind wrap) := by
  have none : node.as? kind wrap = none := by simp [as?, isNode, Tree.hasKind, other]
  rw [nodes_eq isNode, List.filterMap_cons, none, List.filterMap_flatMap]

/-- Where no node of a kind can stand below, there is the node itself at most. -/
theorem filterMap_nodes_of_parts {kinds : List NodeKind}
    (closed : ∀ inner ∈ kinds, inner.parts ⊆ kinds) (absent : kind ∉ kinds)
    (sound : node.tree.Sound)
    (parts : ∀ own, node.tree.label? = some (.node own) → own.parts ⊆ kinds) :
    node.nodes.filterMap (as? kind wrap) = (node.as? kind wrap).toList := by
  obtain ⟨start, tree⟩ := node
  cases sound with
  | token own => simp [nodes, Tree.nodesFrom, as?, Tree.hasKind]
  | fault problem => simp [nodes, Tree.nodesFrom, as?, Tree.hasKind]
  | @node own below fits sound =>
      have none : (Tree.nodesFromAll start below).filterMap (as? kind wrap) = [] := by
        rw [List.filterMap_eq_nil_iff]
        intro part member
        obtain ⟨child, listed, place, member⟩ := Tree.mem_nodesFromAll member
        obtain ⟨inner, among, isInner⟩ := (sound child listed).kind_of_mem_nodesFrom closed
          (fun inner isInner => parts own rfl (fits.parts listed isInner)) member
        refine if_neg fun isKind => ?_
        have same := isInner.symm.trans (Tree.hasKind_iff.mp isKind)
        obtain rfl : inner = kind := by simpa using same
        exact absent among
      rw [nodes, Tree.nodesFrom, List.filterMap_cons, none]
      cases as? kind wrap ⟨start, .node own below⟩ <;> rfl

end Views

end Located

/-! ## Files -/

namespace Located

/-- What can stand below a file node, at any depth, but entries. -/
def inEntry : List NodeKind :=
  [.entryType, .key, .field, .fieldName, .value, .bracedText, .quotedText, .comment, .error]

/-- What can stand below the parts of an entry, at any depth. -/
def inPart : List NodeKind :=
  [.fieldName, .value, .bracedText, .quotedText, .comment]

theorem sound_of_mem_children {node child : Located} {own : NodeKind} {below : List Tree}
    (isNode : node.tree = .node own below) (sound : node.tree.Sound)
    (member : child ∈ node.children) :
    child.tree.Sound ∧ ∀ inner, child.tree.label? = some (.node inner) → inner ∈ own.parts := by
  have listed := tree_mem_of_mem_children member
  rw [isNode] at listed sound
  cases sound with
  | node fits sound =>
      have among := Tree.mem_of_mem_children listed
      exact ⟨sound _ among, fun inner isInner => fits.parts among isInner⟩

section File

variable {file : Located} {below : List Tree}

theorem filterMap_entries (isFile : file.tree = .node .file below) (sound : file.tree.Sound) :
    file.nodes.filterMap Entry.ofNode? = (Document.mk file).entries := by
  have closed : ∀ inner ∈ inEntry, inner.parts ⊆ inEntry := by decide
  have child_entries : ∀ child ∈ file.children,
      child.nodes.filterMap Entry.ofNode? = (Entry.ofNode? child).toList := by
    intro child member
    obtain ⟨childSound, parts⟩ := sound_of_mem_children isFile sound member
    refine filterMap_nodes_of_parts closed (by decide) childSound ?_
    intro own isNode
    have part := parts own isNode
    revert part
    cases own <;> decide
  calc file.nodes.filterMap Entry.ofNode?
      = file.children.flatMap fun child => child.nodes.filterMap Entry.ofNode? :=
        filterMap_nodes_of_ne isFile (by decide)
    _ = file.children.flatMap fun child => (Entry.ofNode? child).toList :=
        List.flatMap_congr child_entries
    _ = (Document.mk file).entries := (List.filterMap_eq_flatMap_toList ..).symm

variable {α : Type} {kind : NodeKind} {wrap : Located → α}

theorem filterMap_parts {entry : Located} (isEntry : entry.tree = .node .entry below)
    (sound : entry.tree.Sound) (isPart : kind = .key ∨ kind = .field) :
    entry.nodes.filterMap (as? kind wrap) = entry.children.filterMap (as? kind wrap) := by
  have closed : ∀ inner ∈ inPart, inner.parts ⊆ inPart := by decide
  have absent : kind ∉ inPart := by rcases isPart with rfl | rfl <;> decide
  have child_parts : ∀ child ∈ entry.children,
      child.nodes.filterMap (as? kind wrap) = (child.as? kind wrap).toList := by
    intro child member
    obtain ⟨childSound, parts⟩ := sound_of_mem_children isEntry sound member
    refine filterMap_nodes_of_parts closed absent childSound ?_
    intro own isNode
    have part := parts own isNode
    revert part
    cases own <;> decide
  calc entry.nodes.filterMap (as? kind wrap)
      = entry.children.flatMap fun child => child.nodes.filterMap (as? kind wrap) :=
        filterMap_nodes_of_ne isEntry (by rcases isPart with rfl | rfl <;> decide)
    _ = entry.children.flatMap fun child => (child.as? kind wrap).toList :=
        List.flatMap_congr child_parts
    _ = entry.children.filterMap (as? kind wrap) := (List.filterMap_eq_flatMap_toList ..).symm

/-- Keys and fields stand right below entries only. -/
theorem filterMap_entryParts (isFile : file.tree = .node .file below) (sound : file.tree.Sound)
    (isPart : kind = .key ∨ kind = .field) :
    file.nodes.filterMap (as? kind wrap) =
      (Document.mk file).entries.flatMap fun entry =>
        entry.node.children.filterMap (as? kind wrap) := by
  have child_parts : ∀ child ∈ file.children, child.nodes.filterMap (as? kind wrap) =
      (Entry.ofNode? child).toList.flatMap fun entry =>
        entry.node.children.filterMap (as? kind wrap) := by
    intro child member
    obtain ⟨childSound, parts⟩ := sound_of_mem_children isFile sound member
    obtain ⟨start, tree⟩ := child
    cases tree with
    | token own => rfl
    | fault problem => rfl
    | node own deep =>
        -- Besides an entry this can be a comment, and below that there are no nodes.
        have part : own ∈ [NodeKind.entry, .comment] := parts own rfl
        rcases List.mem_pair.mp part with rfl | rfl
        · rw [filterMap_parts rfl childSound isPart]
          simp [Entry.ofNode?, as?, Tree.hasKind]
        · have other : NodeKind.comment ≠ kind := by rcases isPart with rfl | rfl <;> decide
          obtain ⟨own, rfl⟩ : ∃ own, deep = [.token own] := by
            cases childSound with
            | node fits _ =>
                cases fits with
                | comment _ => exact ⟨_, rfl⟩
          simp [nodes, Tree.nodesFrom, Tree.nodesFromAll, as?, Tree.hasKind, other, Entry.ofNode?]
  calc file.nodes.filterMap (as? kind wrap)
      = file.children.flatMap fun child => child.nodes.filterMap (as? kind wrap) :=
        filterMap_nodes_of_ne isFile (by rcases isPart with rfl | rfl <;> decide)
    _ = file.children.flatMap fun child => (Entry.ofNode? child).toList.flatMap fun entry =>
          entry.node.children.filterMap (as? kind wrap) := List.flatMap_congr child_parts
    _ = (Document.mk file).entries.flatMap fun entry =>
          entry.node.children.filterMap (as? kind wrap) := by
        rw [Document.entries, List.filterMap_eq_flatMap_toList, List.flatMap_assoc]

theorem of_as?_eq_some {node : Located} {view : α} (found : node.as? kind wrap = some view) :
    view = wrap node ∧ ∃ deep, node.tree = .node kind deep := by
  unfold as? at found
  split at found
  · rename_i isKind
    refine ⟨(Option.some.inj found).symm, ?_⟩
    cases tree : node.tree with
    | token own => simp [tree, Tree.hasKind] at isKind
    | fault problem => simp [tree, Tree.hasKind] at isKind
    | node own deep =>
        obtain rfl : own = kind := by simpa [tree, Tree.hasKind] using isKind
        exact ⟨deep, rfl⟩
  · cases found

theorem mem_entries (isFile : file.tree = .node .file below) (sound : file.tree.Sound)
    {entry : Entry} (member : entry ∈ (Document.mk file).entries) :
    entry.node ∈ file.children ∧ entry.node.tree.Sound ∧
      ∃ deep, entry.node.tree = .node .entry deep := by
  obtain ⟨node, listed, view⟩ := List.mem_filterMap.mp member
  obtain ⟨rfl, isEntry⟩ := of_as?_eq_some view
  exact ⟨listed, (sound_of_mem_children isFile sound listed).1, isEntry⟩

end File

end Located

/-! ## Keys -/

theorem Located.length_filterMap_row {α : Type} (kind : NodeKind) (wrap : Located → α) (start : Nat)
    (trees : List Tree) :
    ((row start trees).filterMap (as? kind wrap)).length =
      (trees.filter (Tree.hasKind kind)).length := by
  have same := @map_filterMap_row _ Unit kind wrap (fun _ => ()) (fun _ _ => rfl) start trees
  simpa using congrArg List.length same

/-- An entry has no key but its first one. -/
theorem Entry.filterMap_key {entry : Entry} {below : List Tree}
    (isEntry : entry.node.tree = .node .entry below) (sound : entry.node.tree.Sound) :
    entry.node.children.filterMap KeyNode.ofNode? = entry.key?.toList := by
  have once : (entry.node.children.filterMap KeyNode.ofNode?).length ≤ 1 := by
    rw [KeyNode.ofNode?, Located.children, Located.length_filterMap_row, isEntry,
      Tree.filter_hasKind_children]
    rw [isEntry] at sound
    cases sound with
    | node fits _ =>
        cases fits with
        | entry _ marked => exact (marked.keyFirst.cons rfl rfl).key_once
  rw [Entry.key?, ← List.head?_filterMap]
  cases keys : entry.node.children.filterMap KeyNode.ofNode? with
  | nil => rfl
  | cons key others =>
      rw [keys] at once
      obtain rfl : others = [] := List.length_eq_zero_iff.mp (by simpa using once)
      rfl

/-- The names right below a key are all names in it, as its only nodes are comments. -/
theorem identifier_of_row {start : Nat} {below : List Tree} (row : Row Shape.keyLabels below) :
    (KeyNode.mk ⟨start, .node .key below⟩).identifier =
      String.join (((Tree.tokensAll below).filter Token.isName).map Token.text) := by
  rw [KeyNode.identifier]
  congr 1
  induction below with
  | nil => rfl
  | cons tree trees ih =>
      obtain ⟨own, among⟩ := Among.cons_iff.mp row.among
      obtain ⟨sound, others⟩ := List.forall_mem_cons.mp row.sound
      have rest := ih ⟨among, others⟩
      cases tree with
      | fault problem => simpa using rest
      | token token => by_cases isName : token.isName = true <;> simp [isName, rest]
      | node kind inner =>
          obtain rfl : kind = .comment := by
            have member := own _ rfl
            simpa [Shape.keyLabels, Shape.looseLabels] using member
          cases sound with
          | node fits _ =>
              cases fits with
              | comment isComment => simpa [Token.isName, isComment] using rest

theorem KeyNode.identifier_eq {key : KeyNode} {below : List Tree}
    (isKey : key.node.tree = .node .key below) (sound : key.node.tree.Sound) :
    ∃ name ∈ key.node.tree.tokens, key.identifier = name.text := by
  rw [isKey] at sound
  cases sound with
  | node fits sound =>
      cases fits with
      | @key _ name among single =>
          have member : name ∈ (Tree.tokensAll below).filter Token.isName := by simp [single]
          refine ⟨name, ?_, ?_⟩
          · rw [isKey, Tree.tokens_node]
            exact (List.mem_filter.mp member).1
          · obtain ⟨⟨start, tree⟩⟩ := key
            obtain rfl : tree = .node .key below := isKey
            rw [identifier_of_row ⟨among, sound⟩, single]
            simp

theorem Located.filterMap_keys {file : Located} {below : List Tree}
    (isFile : file.tree = .node .file below) (sound : file.tree.Sound) :
    file.nodes.filterMap KeyNode.ofNode? = (Document.mk file).keys := by
  rw [KeyNode.ofNode?, filterMap_entryParts isFile sound (.inl rfl), Document.keys,
    List.filterMap_eq_flatMap_toList]
  refine List.flatMap_congr fun entry member => ?_
  obtain ⟨-, entrySound, deep, isEntry⟩ := mem_entries isFile sound member
  exact Entry.filterMap_key isEntry entrySound

section Keys

variable {text : String} {entry : Entry} {key : KeyNode}

theorem exists_of_key? (listed : entry ∈ (Document.ofText text).entries)
    (found : entry.key? = some key) :
    ∃ inner deep, entry.node.tree = .node .entry inner ∧ entry.node.tree.Sound ∧
      key.node ∈ entry.node.children ∧ key.node.tree = .node .key deep ∧
      Located.Within (parse text).located key.node := by
  obtain ⟨place, sound, inner, isEntry⟩ :=
    @Located.mem_entries (parse text).located _ rfl (sound_parse text) entry listed
  obtain ⟨node, member, view⟩ := List.exists_of_findSome?_eq_some found
  obtain ⟨rfl, deep, isKey⟩ := Located.of_as?_eq_some view
  exact ⟨inner, deep, isEntry, sound, member, isKey, .child (.child .self place) member⟩

theorem identifier_ne (listed : entry ∈ (Document.ofText text).entries)
    (found : entry.key? = some key) : key.identifier ≠ "" := by
  obtain ⟨inner, deep, isEntry, sound, member, isKey, within⟩ := exists_of_key? listed found
  have keySound := (Located.sound_of_mem_children isEntry sound member).1
  obtain ⟨name, named, same⟩ := KeyNode.identifier_eq isKey keySound
  obtain ⟨before, after, whole, -⟩ := within.tokens
  have lexed : name ∈ lex text := by
    rw [← tokens_parse]
    change name ∈ (parse text).located.tree.tokens
    rw [whole]
    simp [named]
  rw [same]
  exact text_ne_of_mem_lex lexed

/-- An entry with a key has none of the types that go without. -/
theorem type_of_key? (listed : entry ∈ (Document.ofText text).entries)
    (found : entry.key? = some key) :
    entry.type?.getD "" ∉ ["comment", "preamble", "string"] := by
  obtain ⟨inner, deep, isEntry, sound, member, isKey, -⟩ := exists_of_key? listed found
  have self : entry.node.tree ∈ entry.node.tree.nodes := by
    rw [isEntry]
    exact List.mem_cons_self
  have hasKey : key.node.tree.hasKind .key = true := by
    rw [isKey]
    rfl
  rcases sound.bodyPart_of_mem_nodes self (by rw [isEntry]; rfl)
    (Located.tree_mem_of_mem_children member) hasKey with outer | ⟨type, typed, part⟩
  · exact absurd outer (by decide)
  · have isType : entry.type? = some (Text.lowercase type) := typed.2
    rw [isType, Option.getD_some]
    intro special
    simp only [List.mem_cons, List.not_mem_nil, or_false] at special
    rcases special with isComment | isPreamble | isString
    · rw [(Rule.BodyForm.ofType_eq_remark_iff type).mpr isComment] at part
      cases part
    · rw [(Rule.BodyForm.ofType_eq_preamble_iff type).mpr isPreamble] at part
      exact absurd part (by decide)
    · rw [(Rule.BodyForm.ofType_eq_definitions_iff type).mpr isString] at part
      exact absurd part (by decide)

end Keys

/-! ## The main statement -/

/-- The views of the file with a given text agree. -/
theorem coherent_ofText (text : String) : (Document.ofText text).Coherent := by
  have isFile : (parse text).located.tree = .node .file (fileItems (lex text)) := rfl
  have sound : (parse text).located.tree.Sound := sound_parse text
  have walked := walk_recorder (parse text).located
  have element := Element.ofNode?_bind
  refine
    { record_keys := ?_
      stub_keys := ?_
      walk_keys := ?_
      key_nonempty := ?_
      record_type := ?_
      walk_entries := ?_
      walk_fields := ?_
      walk_comments := ?_
      outer_comments := ?_
      walk_handlers := ?_ }
  · rw [Document.records, Document.keys, List.map_filterMap, List.map_filterMap]
    refine List.filterMap_congr fun entry _ => ?_
    rw [Entry.record?, Option.map_map]
    rfl
  · simp only [KeyIndex.ofDocument, List.map_map]
    rfl
  · rw [Document.ofText, walked, Located.filterMap_elements fun node => (element node).2.1,
      ← List.map_filterMap, Located.filterMap_keys isFile sound, List.map_map]
    rfl
  · intro record member
    obtain ⟨entry, listed, made⟩ := List.mem_filterMap.mp member
    obtain ⟨key, found, rfl⟩ := Option.map_eq_some_iff.mp made
    exact identifier_ne listed found
  · intro record member
    obtain ⟨entry, listed, made⟩ := List.mem_filterMap.mp member
    obtain ⟨key, found, rfl⟩ := Option.map_eq_some_iff.mp made
    exact type_of_key? listed found
  · rw [Document.ofText, walked, Located.filterMap_elements fun node => (element node).1]
    exact Located.filterMap_entries isFile sound
  · rw [Document.ofText, walked, Located.filterMap_elements fun node => (element node).2.2.1]
    exact Located.filterMap_entryParts isFile sound (.inr rfl)
  · rw [Document.ofText, walked, Located.filterMap_elements fun node => (element node).2.2.2]
    rfl
  · exact sound.commentsOutside (by simp [parse, parseTokens, Tree.located, Tree.label?]) 0
  · intro α onElement handlers
    rw [walk_handled, walk_recorder]

end TexWorkspace.Bib
