import TexWorkspace.Bib.KeyTable
import TexWorkspace.Proofs.Bib.StoredIndex

set_option autoImplicit false

/-!
The history of a table of keys. A step gives names to one slot at most and appends others; so after
any steps a slot has the name given to it last, or else the one it was appended with, and nothing
else about it has changed.
-/

namespace TexWorkspace.Bib

/-! ## Keys under new names -/

namespace Key

theorem renameAll_append (key : Key) (front back : List String) :
    key.renameAll (front ++ back) = (key.renameAll front).renameAll back :=
  List.foldl_append

theorem renameAll_origin (key : Key) (names : List String) :
    (key.renameAll names).origin = key.origin := by
  induction names generalizing key with
  | nil => rfl
  | cons name rest ih => exact ih (key.rename name)

theorem renameAll_identifier (key : Key) (names : List String) :
    (key.renameAll names).identifier = names.getLast?.getD key.identifier := by
  rcases List.eq_nil_or_concat names with rfl | ⟨front, last, rfl⟩
  · rfl
  · rw [List.concat_eq_append, renameAll_append, List.getLast?_append]
    rfl

/-- A stub gives a key that has this stub again just if it does not end before it starts. -/
theorem stub_ofStub_iff (stub : KeyStub) (type : StubType) :
    (ofStub stub type).stub = stub ↔ stub.start ≤ stub.stop := by
  obtain ⟨identifier, start, stop⟩ := stub
  have made : (ofStub ⟨identifier, start, stop⟩ type).stub =
      ⟨identifier, start, UInt32.ofNat (max stop.toNat start.toNat)⟩ := by
    simp [Key.stub, ofStub, Key.identifier, ownIdentifier, Key.span, KeyStub.span, KeyStub.ofSpan]
  rw [made, UInt32.le_iff_toNat_le]
  have fits : max stop.toNat start.toNat < 2 ^ 32 := Nat.max_lt.mpr ⟨stop.toNat_lt, start.toNat_lt⟩
  have ends : (UInt32.ofNat (max stop.toNat start.toNat)).toNat = max stop.toNat start.toNat :=
    UInt32.toNat_ofNat_of_lt' fits
  constructor
  · intro same
    have stays : UInt32.ofNat (max stop.toNat start.toNat) = stop := congrArg KeyStub.stop same
    rw [stays] at ends
    exact (Nat.le_max_right _ _).trans ends.symm.le
  · intro ordered
    rw [Nat.max_eq_left ordered, UInt32.ofNat_toNat]

end Key

/-! ## Steps -/

/-- What can be done to a table. Whatever is asked of it leaves it as it is. -/
inductive TableStep where
  | addText (text : String)
  | addStub (stub : KeyStub) (type : StubType)
  | rename (number : Nat) (name : String)
  | renameAll (number : Nat) (names : List String)
  | copy (number : Nat)
  | restore (number : Nat)
  | ask

/-- The names that the step gives to a slot, one after the other. -/
def TableStep.names (number : Nat) : TableStep → List String
  | .rename other name => if other = number then [name] else []
  | .renameAll other names => if other = number then names else []
  | _ => []

/-- The slot, its key under the last of the names. -/
def KeySlot.named (slot : KeySlot) (names : List String) : KeySlot :=
  { slot with key := slot.key.renameAll names }

namespace KeyTable

/-- The table after a step. -/
def apply (table : KeyTable) : TableStep → KeyTable
  | .addText text => table.addText text
  | .addStub stub type => table.addStub stub type
  | .rename number name => table.rename number name
  | .renameAll number names => table.renameAll number names
  | .copy number => table.copy number
  | .restore number => table.restore number
  | .ask => table

/-- The table that some steps make of an empty one. -/
def after (steps : List TableStep) : KeyTable :=
  steps.foldl apply {}

/-- The slots that a step appends. -/
def appended (table : KeyTable) : TableStep → List KeySlot
  | .addText text =>
      (Document.ofText text).keys.map fun node => ⟨some table.documents, Key.ofNode node⟩
  | .addStub stub type => [⟨none, Key.ofStub stub type⟩]
  | .copy number => (table.slot? number).toList
  | .restore number =>
      (table.slot? number).toList.map fun slot => ⟨none, Key.ofStub slot.key.stub⟩
  | _ => []

theorem mapIdx_named_nil (slots : List KeySlot) :
    (slots.mapIdx fun _ slot => slot.named []) = slots := by
  apply List.ext_getElem?
  intro number
  rw [List.getElem?_mapIdx]
  exact Option.map_id'

theorem modify_eq_mapIdx (slots : List KeySlot) (target : Nat) (names : List String) :
    slots.modify target (fun slot => { slot with key := slot.key.renameAll names }) =
      slots.mapIdx fun number slot => slot.named (if target = number then names else []) := by
  apply List.ext_getElem?
  intro number
  rw [List.getElem?_mapIdx, List.getElem?_modify]
  cases slots[number]? with
  | none => rfl
  | some slot => split <;> rfl

/-- A step gives its names to the slots that are there, and then it appends others. -/
theorem slots_apply (table : KeyTable) (step : TableStep) :
    (table.apply step).slots =
      (table.slots.mapIdx fun number slot => slot.named (step.names number)) ++
        table.appended step := by
  have unnamed := (mapIdx_named_nil table.slots).symm
  cases step with
  | rename number name =>
      exact (modify_eq_mapIdx table.slots number [name]).trans (List.append_nil _).symm
  | renameAll number names =>
      exact (modify_eq_mapIdx table.slots number names).trans (List.append_nil _).symm
  | ask => exact unnamed.trans (List.append_nil _).symm
  | addText text => exact congrArg (· ++ table.appended (.addText text)) unnamed
  | addStub stub type => exact congrArg (· ++ table.appended (.addStub stub type)) unnamed
  | copy number => exact congrArg (· ++ table.appended (.copy number)) unnamed
  | restore number => exact congrArg (· ++ table.appended (.restore number)) unnamed

variable {table : KeyTable} {number : Nat} {slot : KeySlot}

theorem slot?_apply (there : table.slot? number = some slot) (step : TableStep) :
    (table.apply step).slot? number = some (slot.named (step.names number)) := by
  unfold slot? at there ⊢
  have named : (table.slots.mapIdx fun number slot => slot.named (step.names number))[number]? =
      some (slot.named (step.names number)) := by
    rw [List.getElem?_mapIdx, there]
    rfl
  obtain ⟨within, -⟩ := List.getElem?_eq_some_iff.mp named
  rw [slots_apply, List.getElem?_append_left within, named]

-- By induction on the steps, for every slot, since each step may give it a name.
theorem slot?_foldl (there : table.slot? number = some slot) (steps : List TableStep) :
    (steps.foldl apply table).slot? number =
      some (slot.named (steps.flatMap (TableStep.names number))) := by
  induction steps generalizing table slot with
  | nil => exact there
  | cons step rest ih =>
      rw [List.foldl_cons, ih (slot?_apply there step), List.flatMap_cons]
      unfold KeySlot.named
      rw [Key.renameAll_append]

theorem after_append (front back : List TableStep) :
    after (front ++ back) = back.foldl apply (after front) :=
  List.foldl_append

end KeyTable

/-! ## Places -/

/-- The key stands, or stood, where a stub can say it does. -/
structure KeySlot.Placed (slot : KeySlot) : Prop where
  ordered : slot.key.span.start ≤ slot.key.span.stop
  small : slot.key.span.stop < 2 ^ 32

theorem Key.span_renameAll (key : Key) (names : List String) :
    (key.renameAll names).span = key.span := by
  unfold Key.span
  rw [renameAll_origin]

theorem Key.comments_renameAll (key : Key) (names : List String) :
    (key.renameAll names).comments = key.comments := by
  unfold Key.comments
  rw [renameAll_origin]

theorem Key.isStubBacked_renameAll (key : Key) (names : List String) :
    (key.renameAll names).isStubBacked = key.isStubBacked := by
  unfold Key.isStubBacked
  rw [renameAll_origin]

theorem KeyStub.placed_ofStub (stub : KeyStub) (type : StubType) (document : Option Nat) :
    KeySlot.Placed ⟨document, Key.ofStub stub type⟩ where
  ordered := Nat.le_max_right _ _
  small := Nat.max_lt.mpr ⟨stub.stop.toNat_lt, stub.start.toNat_lt⟩

theorem placed_ofNode {text : String} {node : KeyNode} (small : text.utf8ByteSize < 2 ^ 32)
    (listed : node ∈ (Document.ofText text).keys) (document : Option Nat) :
    KeySlot.Placed ⟨document, Key.ofNode node⟩ := by
  obtain ⟨entry, among, found⟩ := List.mem_filterMap.mp listed
  obtain ⟨-, -, -, -, -, -, within⟩ := exists_of_key? among found
  have fits : node.span.stop ≤ text.utf8ByteSize := by
    rw [← span_stop_parse text]
    exact within.span_stop_le
  exact ⟨Nat.le_add_right _ _, Nat.lt_of_le_of_lt fits small⟩

/-- The step reads no text that is too long for stubs. -/
def TableStep.Small (step : TableStep) : Prop :=
  ∀ text, step = .addText text → text.utf8ByteSize < 2 ^ 32

namespace KeyTable

theorem placed_appended {table : KeyTable} {step : TableStep} (small : step.Small)
    (placed : ∀ slot ∈ table.slots, slot.Placed) : ∀ slot ∈ table.appended step, slot.Placed := by
  cases step with
  | addText text =>
      intro slot member
      obtain ⟨node, listed, rfl⟩ := List.mem_map.mp member
      exact placed_ofNode (small text rfl) listed _
  | addStub stub type =>
      intro slot member
      obtain rfl := List.mem_singleton.mp member
      exact stub.placed_ofStub type none
  | copy number =>
      intro slot member
      exact placed slot (List.mem_of_getElem? (Option.mem_toList.mp member))
  | restore number =>
      intro slot member
      obtain ⟨source, -, rfl⟩ := List.mem_map.mp member
      exact source.key.stub.placed_ofStub .bibKey none
  | rename => exact nofun
  | renameAll => exact nofun
  | ask => exact nofun

theorem placed_apply {table : KeyTable} {step : TableStep} (small : step.Small)
    (placed : ∀ slot ∈ table.slots, slot.Placed) :
    ∀ slot ∈ (table.apply step).slots, slot.Placed := by
  rw [slots_apply]
  refine List.forall_mem_append.mpr ⟨?_, placed_appended small placed⟩
  intro slot member
  obtain ⟨number, within, rfl⟩ := List.mem_mapIdx.mp member
  have earlier := placed _ (List.getElem_mem within)
  constructor
  · rw [KeySlot.named, Key.span_renameAll]
    exact earlier.ordered
  · rw [KeySlot.named, Key.span_renameAll]
    exact earlier.small

theorem placed_foldl {table : KeyTable} {steps : List TableStep}
    (small : ∀ step ∈ steps, step.Small) (placed : ∀ slot ∈ table.slots, slot.Placed) :
    ∀ slot ∈ (steps.foldl apply table).slots, slot.Placed := by
  induction steps generalizing table with
  | nil => exact placed
  | cons step rest ih =>
      obtain ⟨here, later⟩ := List.forall_mem_cons.mp small
      exact ih later (placed_apply here placed)

end KeyTable

theorem KeySlot.Placed.span_restored {slot : KeySlot} (placed : slot.Placed) (type : StubType) :
    (Key.ofStub slot.key.stub type).span = slot.key.span := by
  have start : (UInt32.ofNat slot.key.span.start).toNat = slot.key.span.start :=
    UInt32.toNat_ofNat_of_lt' (Nat.lt_of_le_of_lt placed.ordered placed.small)
  have stop : (UInt32.ofNat slot.key.span.stop).toNat = slot.key.span.stop :=
    UInt32.toNat_ofNat_of_lt' placed.small
  calc (Key.ofStub slot.key.stub type).span
      = ⟨(UInt32.ofNat slot.key.span.start).toNat,
          max (UInt32.ofNat slot.key.span.stop).toNat
            (UInt32.ofNat slot.key.span.start).toNat⟩ := rfl
    _ = slot.key.span := by rw [start, stop, Nat.max_eq_left placed.ordered]

/-! ## Histories -/

/-- The later slot is the earlier one after names were given to it. -/
structure KeySlot.Becomes (earlier : KeySlot) (names : List String) (later : KeySlot) : Prop where
  identifier : later.key.identifier = names.getLast?.getD earlier.key.identifier
  display : later.key.display = "Id\x7b" ++ names.getLast?.getD earlier.key.identifier ++ "\x7d"
  document : later.document = earlier.document
  origin : later.key.origin = earlier.key.origin
  span : later.key.span = earlier.key.span
  stubBacked : later.key.isStubBacked = earlier.key.isStubBacked
  comments : later.key.comments = earlier.key.comments

theorem KeySlot.becomes_named (slot : KeySlot) (names : List String) :
    slot.Becomes names (slot.named names) where
  identifier := slot.key.renameAll_identifier names
  display := by
    unfold Key.display
    rw [named, Key.renameAll_identifier]
  document := rfl
  origin := slot.key.renameAll_origin names
  span := slot.key.span_renameAll names
  stubBacked := slot.key.isStubBacked_renameAll names
  comments := slot.key.comments_renameAll names

namespace KeyTable

/-- After the steps, one more step appends just these slots. -/
def Appends (steps : List TableStep) (step : TableStep) (added : List KeySlot) : Prop :=
  ∃ earlier, earlier.length = (after steps).slots.length ∧
    (after (steps ++ [step])).slots = earlier ++ added

theorem appends_appended (steps : List TableStep) (step : TableStep) :
    Appends steps step ((after steps).appended step) := by
  have whole := slots_apply (after steps) step
  refine ⟨_, List.length_mapIdx, Eq.trans ?_ whole⟩
  rw [after_append]
  rfl

/-- What holds of the table that some steps make, and of what further steps make of it. -/
structure History (steps : List TableStep) : Prop where
  /-- A slot has the name given to it last, or else the one it had; all else about it stays. -/
  kept : ∀ number slot, (after steps).slot? number = some slot → ∀ more, ∃ later,
    (after (steps ++ more)).slot? number = some later ∧
      slot.Becomes (more.flatMap (TableStep.names number)) later
  /-- A step leaves every slot alone that it gives no name to. -/
  others : ∀ step number slot, (after steps).slot? number = some slot →
    step.names number = [] → (after (steps ++ [step])).slot? number = some slot
  /-- Reading a text appends its keys, under the names they have there. -/
  parsed : ∀ text, ∃ added, Appends steps (.addText text) added ∧
    added.map KeySlot.key = (Document.ofText text).keys.map Key.ofNode
  /-- A stub becomes one slot. -/
  stubbed : ∀ stub type, ∃ slot, Appends steps (.addStub stub type) [slot] ∧
    slot.key = Key.ofStub stub type
  /-- Nothing is appended when names are given. -/
  renamed : ∀ number names, Appends steps (.renameAll number names) [] ∧
    ∀ name, Appends steps (.rename number name) []
  /-- A copy has what the copied slot has at that time. -/
  copied : ∀ number source, (after steps).slot? number = some source → ∃ slot,
    Appends steps (.copy number) [slot] ∧ slot.key.identifier = source.key.identifier ∧
      slot.key.origin = source.key.origin ∧ slot.key.comments = source.key.comments
  /-- A restored slot comes from a stub with the name and the place of its source, without comments.
  Stubs hold places in texts of less than 2 ^ 32 bytes. -/
  restored : ∀ number source, (after steps).slot? number = some source → ∃ slot,
    Appends steps (.restore number) [slot] ∧ slot.key.isStubBacked = true ∧
      slot.key.identifier = source.key.identifier ∧ slot.key.comments = [] ∧
      ((∀ step ∈ steps, step.Small) → slot.key.span = source.key.span)

theorem history_after (steps : List TableStep) : History steps where
  kept number slot there more := by
    refine ⟨_, ?_, slot.becomes_named _⟩
    rw [after_append]
    exact slot?_foldl there more
  others step number slot there unnamed := by
    rw [after_append]
    refine (slot?_apply there step).trans ?_
    rw [unnamed]
    rfl
  parsed text := by
    refine ⟨_, appends_appended steps _, ?_⟩
    rw [appended, List.map_map]
    rfl
  stubbed stub type := ⟨_, appends_appended steps (.addStub stub type), rfl⟩
  renamed number names :=
    ⟨appends_appended steps (.renameAll number names),
      fun name => appends_appended steps (.rename number name)⟩
  copied number source there := by
    have appends := appends_appended steps (.copy number)
    rw [appended, there] at appends
    exact ⟨source, appends, rfl, rfl, rfl⟩
  restored number source there := by
    have appends := appends_appended steps (.restore number)
    rw [appended, there] at appends
    refine ⟨_, appends, rfl, rfl, rfl, fun small => ?_⟩
    have placed : ∀ slot ∈ (after steps).slots, slot.Placed := placed_foldl small nofun
    exact (placed source (List.mem_of_getElem? there)).span_restored .bibKey

end KeyTable

/-- Whatever is done to a table in whatever order, its slots keep what they came with, but for the
names given to them, each to its own; and a stub is given back by its key just if it does not end
before it starts. -/
theorem key_history :
    (∀ steps, KeyTable.History steps) ∧
      ∀ (stub : KeyStub) (type : StubType),
        (Key.ofStub stub type).stub = stub ↔ stub.start ≤ stub.stop :=
  ⟨KeyTable.history_after, Key.stub_ofStub_iff⟩

example :
    (KeyTable.after [.addStub ⟨"a", 3, 5⟩ .bibKey, .rename 0 "b", .copy 0, .renameAll 0 ["c", "d"],
      .restore 1]).identifiers = ["d", "b", "b"] := by
  decide

end TexWorkspace.Bib
