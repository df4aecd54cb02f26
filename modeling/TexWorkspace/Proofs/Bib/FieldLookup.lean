import Mathlib.Data.List.Forall2
import TexWorkspace.Bib.Record

set_option autoImplicit false

/-!
The two ways to look up a field. A record holds the value of the last field of a name, under the
name in lower case, and knows nothing of fields without a value; an entry is asked for the first
field of a name, in any case of ASCII letters, with or without a value. Main statement: every record
relates to its entry in this way, and where the names are ASCII and differ, both lookups give the
same value.
-/

namespace TexWorkspace

/-! ## Letters of ASCII -/

namespace Text

/-- A text of ASCII characters only. -/
def Ascii (text : String) : Prop :=
  ∀ c ∈ text.toList, c.toNat < 128

/-- All capitals of ASCII are in the first run. -/
theorem capitalRuns_beyond_ascii : ∀ run ∈ capitalRuns.tail, 128 ≤ run.first := by
  decide +kernel

theorem find?_capitalRuns_of_ascii {code : Nat} (ascii : code < 128) :
    capitalRuns.find? (·.covers code) =
      if 0x41 ≤ code ∧ code ≤ 0x5a then some ⟨0x41, 0x5a, 1, 32⟩ else none := by
  have beyond : capitalRuns.tail.find? (·.covers code) = none := by
    refine List.find?_eq_none.mpr fun run listed covers => ?_
    have first := capitalRuns_beyond_ascii run listed
    simp only [CapitalRun.covers, Bool.and_eq_true, decide_eq_true_eq] at covers
    omega
  change List.find? _ (⟨0x41, 0x5a, 1, 32⟩ :: capitalRuns.tail) = _
  rw [List.find?_cons, beyond]
  by_cases capital : 0x41 ≤ code ∧ code ≤ 0x5a
  · simp [CapitalRun.covers, capital, Nat.mod_one]
  · have missed : CapitalRun.covers ⟨0x41, 0x5a, 1, 32⟩ code = false := by
      simpa [CapitalRun.covers, Nat.mod_one] using capital
    rw [missed, if_neg capital]

theorem toLower_of_ascii : ∀ code < 128, (Char.ofNat code).toLower =
    if 0x41 ≤ code ∧ code ≤ 0x5a then Char.ofNat (code + 32) else Char.ofNat code := by
  decide

theorem lowerChar_of_ascii {c : Char} (ascii : c.toNat < 128) : lowerChar c = [c.toLower] := by
  have plain : c ≠ 'İ' := by
    rintro rfl
    exact absurd ascii (by decide)
  have lower := toLower_of_ascii c.toNat ascii
  rw [Char.ofNat_toNat] at lower
  rw [lowerChar, if_neg plain, find?_capitalRuns_of_ascii ascii, lower]
  by_cases capital : 0x41 ≤ c.toNat ∧ c.toNat ≤ 0x5a
  · rw [if_pos capital, if_pos capital]
    rfl
  · rw [if_neg capital, if_neg capital]

theorem lowerChars_of_ascii {before chars : List Char} (ascii : ∀ c ∈ chars, c.toNat < 128) :
    lowerChars before chars = chars.map Char.toLower := by
  induction chars generalizing before with
  | nil => rfl
  | cons c after ih =>
      obtain ⟨first, others⟩ := List.forall_mem_cons.mp ascii
      have noSigma : c ≠ 'Σ' := by
        rintro rfl
        exact absurd first (by decide)
      rw [lowerChars, if_neg noSigma, lowerChar_of_ascii first, ih others]
      rfl

/-- For ASCII texts the two notions of case agree. -/
theorem lowercase_eq_iff_of_ascii {left right : String} (leftAscii : Ascii left)
    (rightAscii : Ascii right) :
    lowercase left = lowercase right ↔ sameIgnoringAsciiCase left right := by
  rw [lowercase, lowercase, lowerChars_of_ascii leftAscii, lowerChars_of_ascii rightAscii,
    String.ofList_inj, sameIgnoringAsciiCase, beq_iff_eq]

end Text

namespace Bib

/-! ## The first and the last of a list -/

section

variable {α : Type} {p : α → Prop} {found : α} {items : List α}

/-- The item is the first with the property. -/
inductive First (p : α → Prop) (found : α) : List α → Prop where
  | head {rest : List α} : p found → First p found (found :: rest)
  | tail {other : α} {rest : List α} :
      ¬ p other → First p found rest → First p found (other :: rest)

/-- The item is the last with the property. -/
inductive Last (p : α → Prop) (found : α) : List α → Prop where
  | head {rest : List α} : p found → (∀ later ∈ rest, ¬ p later) → Last p found (found :: rest)
  | tail {other : α} {rest : List α} : Last p found rest → Last p found (other :: rest)

theorem First.mem (first : First p found items) : found ∈ items ∧ p found := by
  induction first with
  | head holds => exact ⟨List.mem_cons_self, holds⟩
  | tail _ _ ih => exact ⟨List.mem_cons_of_mem _ ih.1, ih.2⟩

theorem Last.mem (last : Last p found items) : found ∈ items ∧ p found := by
  induction last with
  | head holds => exact ⟨List.mem_cons_self, holds⟩
  | tail _ ih => exact ⟨List.mem_cons_of_mem _ ih.1, ih.2⟩

theorem exists_last_iff : (∃ found, Last p found items) ↔ ∃ item ∈ items, p item := by
  constructor
  · rintro ⟨found, last⟩
    exact ⟨found, last.mem⟩
  · intro occurs
    induction items with
    | nil =>
        obtain ⟨_, listed, _⟩ := occurs
        cases listed
    | cons head rest ih =>
        by_cases later : ∃ item ∈ rest, p item
        · obtain ⟨found, last⟩ := ih later
          exact ⟨found, .tail last⟩
        · obtain ⟨item, listed, holds⟩ := occurs
          rcases List.mem_cons.mp listed with rfl | listed
          · exact ⟨item, .head holds fun other behind also => later ⟨other, behind, also⟩⟩
          · exact absurd ⟨item, listed, holds⟩ later

/-- If at most one item has the property, it is the first that has it. -/
theorem First.of_mem (unique : items.Pairwise fun left right => p left → ¬ p right)
    (listed : found ∈ items) (holds : p found) : First p found items := by
  induction items with
  | nil => cases listed
  | cons head rest ih =>
      obtain ⟨alone, unique⟩ := List.pairwise_cons.mp unique
      rcases List.mem_cons.mp listed with rfl | listed
      · exact .head holds
      · exact .tail (fun also => alone found listed also holds) (ih unique listed)

/-- If at most one item has the property, it is the last that has it. -/
theorem Last.of_mem (unique : items.Pairwise fun left right => p left → ¬ p right)
    (listed : found ∈ items) (holds : p found) : Last p found items := by
  induction items with
  | nil => cases listed
  | cons head rest ih =>
      obtain ⟨alone, unique⟩ := List.pairwise_cons.mp unique
      rcases List.mem_cons.mp listed with rfl | listed
      · exact .head holds fun later behind => alone later behind holds
      · exact .tail (ih unique listed)

theorem find?_eq_some_iff_first {test : α → Bool} :
    items.find? test = some found ↔ First (fun item => test item = true) found items := by
  constructor
  · intro search
    induction items with
    | nil => cases search
    | cons head rest ih =>
        rw [List.find?_cons] at search
        split at search
        · next holds =>
            obtain rfl := Option.some.inj search
            exact .head holds
        · next fails => exact .tail (Bool.not_eq_true _ ▸ fails) (ih search)
  · intro first
    induction first with
    | head holds => exact List.find?_cons_of_pos holds
    | tail fails _ ih => exact (List.find?_cons_of_neg fails).trans ih

end

/-! ## Fields under a name -/

namespace Field

/-- The field has the name, in whatever case of ASCII letters. -/
def Named (name : String) (field : Field) : Prop :=
  ∃ written, field.name? = some written ∧ Text.sameIgnoringAsciiCase name written

/-- The field has a value, and a name that is `lower` in lower case. -/
def Sets (lower : String) (field : Field) : Prop :=
  field.name?.map Text.lowercase = some lower ∧ field.value?.isSome

theorem pair?_eq_some_iff {field : Field} {lower value : String} :
    field.pair? = some (lower, value) ↔
      field.name?.map Text.lowercase = some lower ∧ field.value? = some value := by
  constructor
  · intro pair
    obtain ⟨name, written, rest⟩ := Option.bind_eq_some_iff.mp pair
    obtain ⟨_, given, same⟩ := Option.bind_eq_some_iff.mp rest
    obtain ⟨rfl, rfl⟩ := Prod.mk.inj (Option.some.inj same)
    exact ⟨Option.map_eq_some_iff.mpr ⟨name, written, rfl⟩, given⟩
  · rintro ⟨named, given⟩
    obtain ⟨name, written, rfl⟩ := Option.map_eq_some_iff.mp named
    rw [pair?, written, given]
    rfl

theorem sets_iff {field : Field} {lower : String} :
    field.Sets lower ↔ ∃ value, field.pair? = some (lower, value) := by
  simp only [pair?_eq_some_iff, exists_and_left, ← Option.isSome_iff_exists, Sets]

end Field

theorem FieldMap.get?_ofList_cons (name other kept : String) (rest : List (String × String)) :
    get? name (ofList ((other, kept) :: rest)) =
      (get? name (ofList rest)).or (if name = other then some kept else none) := by
  rw [get?_ofList, get?_ofList, List.reverse_cons, List.lookup_append]
  congr 1
  exact get?_cons name other kept []

/-! ## Lookups -/

theorem FieldMap.get?_eq_none_iff {fields : FieldMap} {name : String} :
    fields.get? name = none ↔ name ∉ fields.map Prod.fst := by
  rw [get?, List.lookup_eq_none_iff, List.mem_map]
  constructor
  · rintro missing ⟨pair, listed, rfl⟩
    exact bne_iff_ne.mp (missing pair listed) rfl
  · intro missing pair listed
    exact bne_iff_ne.mpr fun same => missing ⟨pair, listed, same.symm⟩

section

variable {entry : Entry} {fields : List Field} {lower value : String}

theorem get?_fields_eq_none_iff :
    (FieldMap.ofList (fields.filterMap Field.pair?)).get? lower = none ↔
      ∀ field ∈ fields, ¬ field.Sets lower := by
  rw [FieldMap.get?_ofList, List.lookup_eq_none_iff]
  constructor
  · intro missing field listed sets
    obtain ⟨value, pair⟩ := Field.sets_iff.mp sets
    have differs := missing (lower, value)
      (List.mem_reverse.mpr (List.mem_filterMap.mpr ⟨field, listed, pair⟩))
    exact bne_iff_ne.mp differs rfl
  · rintro unset ⟨other, value⟩ paired
    obtain ⟨field, listed, pair⟩ := List.mem_filterMap.mp (List.mem_reverse.mp paired)
    refine bne_iff_ne.mpr ?_
    rintro rfl
    exact unset field listed (Field.sets_iff.mpr ⟨value, pair⟩)

theorem Last.get?_fields {field : Field} (last : Last (Field.Sets lower) field fields) :
    (FieldMap.ofList (fields.filterMap Field.pair?)).get? lower = field.value? := by
  induction last with
  | head sets unset =>
      obtain ⟨value, pair⟩ := Field.sets_iff.mp sets
      rw [List.filterMap_cons_some pair, FieldMap.get?_ofList_cons,
        get?_fields_eq_none_iff.mpr unset, Option.none_or, if_pos rfl,
        (Field.pair?_eq_some_iff.mp pair).2]
  | @tail other rest last ih =>
      obtain ⟨value, given⟩ := Option.isSome_iff_exists.mp last.mem.2.2
      cases pair : other.pair? with
      | none => rw [List.filterMap_cons_none pair, ih]
      | some _ =>
          rw [List.filterMap_cons_some pair, FieldMap.get?_ofList_cons, ih, given, Option.some_or]

theorem get?_fields_eq_some_iff :
    (FieldMap.ofList (fields.filterMap Field.pair?)).get? lower = some value ↔
      ∃ field, Last (Field.Sets lower) field fields ∧ field.value? = some value := by
  constructor
  · intro held
    have isSet : ∃ field ∈ fields, field.Sets lower := by
      by_contra unset
      simp only [not_exists, not_and] at unset
      rw [get?_fields_eq_none_iff.mpr unset] at held
      cases held
    obtain ⟨field, last⟩ := exists_last_iff.mpr isSet
    exact ⟨field, last, last.get?_fields.symm.trans held⟩
  · rintro ⟨field, last, given⟩
    exact last.get?_fields.trans given

theorem mem_fields_iff :
    lower ∈ (FieldMap.ofList (fields.filterMap Field.pair?)).map Prod.fst ↔
      ∃ field ∈ fields, field.Sets lower := by
  rw [← not_iff_not, ← FieldMap.get?_eq_none_iff, get?_fields_eq_none_iff]
  simp only [not_exists, not_and]

theorem Entry.field?_eq_some_iff {name : String} {field : Field} :
    entry.field? name = some field ↔ First (Field.Named name) field entry.fields := by
  have test : (fun field : Field => field.name?.any (Text.sameIgnoringAsciiCase name) = true) =
      Field.Named name := by
    funext field
    simp [Field.Named, Option.any_eq_true]
  rw [Entry.field?, find?_eq_some_iff_first, test]

/-- The names of the entry's fields are ASCII texts, no two of them the same but for their case. -/
structure Entry.DistinctNames (entry : Entry) : Prop where
  ascii : ∀ name ∈ entry.fields.filterMap Field.name?, Text.Ascii name
  distinct : (entry.fields.filterMap Field.name?).Pairwise fun left right =>
    Text.sameIgnoringAsciiCase left right = false

theorem Field.sets_iff_named {name : String} {field : Field} (ascii : Text.Ascii name)
    (fieldAscii : ∀ written, field.name? = some written → Text.Ascii written) :
    field.Sets (Text.lowercase name) ↔ field.Named name ∧ field.value?.isSome := by
  refine and_congr_left fun _ => ?_
  rw [Option.map_eq_some_iff]
  refine exists_congr fun written => and_congr_right fun isName => ?_
  rw [eq_comm, Text.lowercase_eq_iff_of_ascii ascii (fieldAscii written isName)]

theorem Entry.DistinctNames.unique (names : entry.DistinctNames) (name : String) :
    entry.fields.Pairwise fun left right => left.Named name → ¬ right.Named name := by
  refine (List.pairwise_filterMap.mp names.distinct).imp ?_
  rintro left right differ ⟨first, isFirst, same⟩ ⟨second, isSecond, also⟩
  have alike : Text.sameIgnoringAsciiCase first second = true := by
    simp only [Text.sameIgnoringAsciiCase, beq_iff_eq] at same also ⊢
    exact same.symm.trans also
  exact Bool.eq_false_iff.mp (differ first isFirst second isSecond) alike

theorem Entry.DistinctNames.agree (names : entry.DistinctNames) {name : String}
    (ascii : Text.Ascii name) :
    (FieldMap.ofList (entry.fields.filterMap Field.pair?)).get? (Text.lowercase name) =
      (entry.field? name).bind Field.value? := by
  have isName : ∀ field ∈ entry.fields,
      (field.Sets (Text.lowercase name) ↔ field.Named name ∧ field.value?.isSome) :=
    fun field listed => Field.sets_iff_named ascii fun written isName =>
      names.ascii written (List.mem_filterMap.mpr ⟨field, listed, isName⟩)
  have unique := names.unique name
  have setOnce : entry.fields.Pairwise fun left right =>
      left.Sets (Text.lowercase name) → ¬ right.Sets (Text.lowercase name) :=
    unique.imp_of_mem fun left right apart first second =>
      apart ((isName _ left).mp first).1 ((isName _ right).mp second).1
  ext value
  rw [get?_fields_eq_some_iff, Option.bind_eq_some_iff]
  refine exists_congr fun field => and_congr_left fun given => ?_
  rw [Entry.field?_eq_some_iff]
  constructor
  · intro last
    obtain ⟨listed, sets⟩ := last.mem
    exact .of_mem unique listed ((isName field listed).mp sets).1
  · intro first
    obtain ⟨listed, named⟩ := first.mem
    exact .of_mem setOnce listed ((isName field listed).mpr ⟨named, Option.isSome_of_mem given⟩)

end

/-- How the fields of a record relate to those of the entry, whatever name is looked up. -/
structure FieldsCorrespond (entry : Entry) (fields : FieldMap) : Prop where
  listed : ∀ lower, lower ∈ fields.map Prod.fst ↔ ∃ field ∈ entry.fields, field.Sets lower
  held : ∀ lower value, fields.get? lower = some value ↔
    ∃ field, Last (Field.Sets lower) field entry.fields ∧ field.value? = some value
  asked : ∀ name field, entry.field? name = some field ↔
    First (Field.Named name) field entry.fields
  agree : ∀ name, entry.DistinctNames → Text.Ascii name →
    fields.get? (Text.lowercase name) = (entry.field? name).bind Field.value?

theorem Entry.fieldsCorrespond {entry : Entry} {record : Record}
    (recorded : entry.record? = some record) : FieldsCorrespond entry record.fields := by
  obtain ⟨key, _, rfl⟩ := Option.map_eq_some_iff.mp recorded
  exact
    { listed := fun _ => mem_fields_iff
      held := fun _ _ => get?_fields_eq_some_iff
      asked := fun _ _ => Entry.field?_eq_some_iff
      agree := fun _ names ascii => names.agree ascii }

/-- The records of a text are those of its entries with a key, in their order, and the fields of
each are looked up as those of its entry. -/
theorem records_fieldsCorrespond (text : String) :
    List.Forall₂ (fun entry record => FieldsCorrespond entry record.fields)
      ((Document.ofText text).entries.filter fun entry => entry.key?.isSome) (records text) := by
  rw [records, Document.records]
  generalize (Document.ofText text).entries = entries
  induction entries with
  | nil => exact .nil
  | cons entry rest ih =>
      cases key : entry.key? with
      | none =>
          have dropped : entry.record? = none := by rw [Entry.record?, key, Option.map_none]
          rw [List.filterMap_cons_none dropped, List.filter_cons_of_neg (by simp [key])]
          exact ih
      | some node =>
          have kept : entry.record? = some _ := Option.map_eq_some_iff.mpr ⟨node, key, rfl⟩
          rw [List.filterMap_cons_some kept, List.filter_cons_of_pos (by simp [key])]
          exact .cons (entry.fieldsCorrespond kept) ih

example : (records "@a\x7bk, t, T = 1, t = 2\x7d").map (·.fields.get? "t") = [some "2"] ∧
    (Document.ofText "@a\x7bk, t, T = 1, t = 2\x7d").entries.map
      (fun entry => (entry.field? "T").map Field.value?) = [some none] := by
  decide +kernel

end Bib

end TexWorkspace
