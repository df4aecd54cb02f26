import TexWorkspace.Bib.View

set_option autoImplicit false

/-!
Bibliography records: the entries of a file as plain data. Only entries with a key become records.
-/

namespace TexWorkspace.Bib

/-- Named values, in the order of the names, each name once. -/
abbrev FieldMap := List (String × String)

namespace FieldMap

def insert (name value : String) : FieldMap → FieldMap
  | [] => [(name, value)]
  | (other, kept) :: rest =>
      if name < other then (name, value) :: (other, kept) :: rest
      else if name = other then (name, value) :: rest
      else (other, kept) :: insert name value rest

def get? (name : String) (fields : FieldMap) : Option String :=
  fields.lookup name

def ofList (pairs : List (String × String)) : FieldMap :=
  pairs.foldl (fun fields (name, value) => fields.insert name value) []

theorem get?_cons (name other kept : String) (rest : FieldMap) :
    get? name ((other, kept) :: rest) = if name = other then some kept else get? name rest := by
  by_cases same : name = other
  · subst same
    simp [get?]
  · have differ : (name == other) = false := by simpa using same
    rw [get?, List.lookup_cons, differ, if_neg same, get?]

theorem get?_insert (name key value : String) (fields : FieldMap) :
    get? name (insert key value fields) = if name = key then some value else get? name fields := by
  induction fields with
  | nil => rw [insert, get?_cons]
  | cons first rest ih =>
      obtain ⟨other, kept⟩ := first
      rw [insert]
      split
      · rw [get?_cons]
      · split
        · rename_i notBefore same
          subst same
          rw [get?_cons, get?_cons]
          split <;> rfl
        · rename_i notBefore differ
          rw [get?_cons, get?_cons, ih]
          by_cases isOther : name = other
          · subst isOther
            rw [if_pos rfl, if_pos rfl, if_neg (Ne.symm differ)]
          · rw [if_neg isOther, if_neg isOther]

theorem ofList_append_singleton (pairs : List (String × String)) (name value : String) :
    ofList (pairs ++ [(name, value)]) = insert name value (ofList pairs) := by
  simp [ofList]

/-- Of several values for a name, the last one counts. -/
theorem get?_ofList (name : String) (pairs : List (String × String)) :
    get? name (ofList pairs) = pairs.reverse.lookup name := by
  generalize listed : pairs.reverse = reversed
  induction reversed generalizing pairs with
  | nil =>
      obtain rfl := List.reverse_eq_nil_iff.mp listed
      rfl
  | cons last before ih =>
      obtain ⟨key, value⟩ := last
      obtain rfl : pairs = before.reverse ++ [(key, value)] := by
        rw [← List.reverse_reverse pairs, listed, List.reverse_cons]
      have split := get?_cons name key value before
      rw [get?] at split
      rw [ofList_append_singleton, get?_insert, split, ih _ (List.reverse_reverse before), get?]

end FieldMap

structure Record where
  type : String
  key : String
  fields : FieldMap
  span : Span
  deriving DecidableEq, Repr

/-- The name in lower case and the value of a field that has both. -/
def Field.pair? (field : Field) : Option (String × String) := do
  let name ← field.name?
  let value ← field.value?
  return (Text.lowercase name, value)

def Entry.record? (entry : Entry) : Option Record :=
  entry.key?.map fun key =>
    { type := entry.type?.getD ""
      key := key.identifier
      fields := FieldMap.ofList (entry.fields.filterMap Field.pair?)
      span := entry.span }

def Document.records (document : Document) : List Record :=
  document.entries.filterMap Entry.record?

def records (text : String) : List Record :=
  (Document.ofText text).records

end TexWorkspace.Bib
