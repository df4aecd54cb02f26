import TexWorkspace.Json.Reader
import TexWorkspace.Proofs.Json.Skipping

set_option autoImplicit false

/-!
Reading values however they are written. A string is read from every way to write it, a list from
the texts of its items, and a record from an object that lists fields of it, in any order, between
members that it does not know.
-/

namespace TexWorkspace.Json

theorem ok_of_toOption {α ε : Type} {result : Except ε α} {value : α}
    (found : result.toOption = some value) : result = .ok value := by
  cases result with
  | error fault => cases found
  | ok other =>
      cases found
      rfl

/-- The reader takes the text and gives the value. -/
structure Reader.Takes {α : Type} (reader : Reader α) (value : α) (written : List Char) : Prop where
  visible : Visible written
  reads : ∀ chars rest, Ends rest → skipBlanks chars = written ++ rest →
    reader chars = .ok (value, rest)

/-! ## Strings -/

theorem isHighUnit_iff {unit : Nat} : isHighUnit unit = true ↔ 0xd800 ≤ unit ∧ unit ≤ 0xdbff := by
  simp [isHighUnit]

theorem isLowUnit_iff {unit : Nat} : isLowUnit unit = true ↔ 0xdc00 ≤ unit ∧ unit ≤ 0xdfff := by
  simp [isLowUnit]

theorem CodeUnit.escape_single {digits : List Char} {unit : Nat} (formed : CodeUnit digits unit)
    (single : unit < 0xd800 ∨ 0xdfff < unit) (rest : List Char) :
    escape ('u' :: (digits ++ rest)) = .ok (Char.ofNat unit, rest) := by
  have noLow : ¬ isLowUnit unit = true := by
    rw [isLowUnit_iff]
    omega
  have noHigh : ¬ isHighUnit unit = true := by
    rw [isHighUnit_iff]
    omega
  simp only [escape, formed.hexUnit_append, if_neg noLow, if_neg noHigh]

theorem CodeUnit.escape_pair {first second : List Char} {high low : Nat}
    (firstFormed : CodeUnit first high) (isHigh : 0xd800 ≤ high ∧ high ≤ 0xdbff)
    (secondFormed : CodeUnit second low) (isLow : 0xdc00 ≤ low ∧ low ≤ 0xdfff)
    (rest : List Char) :
    escape ('u' :: (first ++ '\\' :: 'u' :: (second ++ rest))) =
      .ok (Char.ofNat (0x10000 + (high - 0xd800) * 0x400 + (low - 0xdc00)), rest) := by
  have noLow : ¬ isLowUnit high = true := by
    rw [isLowUnit_iff]
    omega
  simp only [escape, firstFormed.hexUnit_append, if_neg noLow, if_pos (isHighUnit_iff.mpr isHigh),
    lowUnit, secondFormed.hexUnit_append, if_pos (isLowUnit_iff.mpr isLow)]

theorem Spells.stringBody_append {written : List Char} {c : Char} (spells : Spells written c)
    (rest : List Char) :
    stringBody (written ++ rest) =
      (stringBody rest).map fun (body, left) => (c :: body, left) := by
  cases spells with
  | plain unescaped =>
      exact stringBody_plain unescaped.noQuote unescaped.noEscape
        (Nat.not_lt.mpr unescaped.noControl) rest
  | @short mark _ listed =>
      obtain ⟨noUnit, meant⟩ := simpleEscape?_of_mem listed
      have read : escape (mark :: rest) = .ok (c, rest) := by
        rw [escape, meant]
        exact noUnit
      exact stringBody_escape read
  | unit formed single => exact stringBody_escape (formed.escape_single single rest)
  | pair first isHigh second isLow =>
      have read := first.escape_pair isHigh second isLow rest
      simp only [List.cons_append, List.append_assoc]
      exact stringBody_escape read

theorem BodyText.stringBody_append {body chars : List Char} (formed : BodyText body chars)
    (rest : List Char) : stringBody (body ++ '"' :: rest) = .ok (chars, rest) := by
  induction formed with
  | nil => exact stringBody_quote rest
  | cons spells _ ih =>
      rw [List.append_assoc, spells.stringBody_append, ih]
      rfl

theorem string_takes {text : String} {written : List Char} (formed : StringText text written) :
    string.Takes text written := by
  cases formed with
  | @quoted body formed =>
      refine ⟨⟨'"', _, rfl, by decide, by decide⟩, ?_⟩
      intro chars rest _ ahead
      rw [List.cons_append, List.append_assoc] at ahead
      have read : stringBody (body ++ '"' :: rest) = .ok (text.toList, rest) :=
        formed.stringBody_append rest
      simp only [string, ahead, List.cons_append, List.nil_append, read, Except.map,
        String.ofList_toList]

/-! ## Lists -/

section Lists

variable {α : Type} {item : Reader α} {chars behind written rest : List Char}

theorem nextItem_end (isFirst : Bool) (found : skipBlanks chars = ']' :: rest) :
    nextItem isFirst chars = .ok none := by
  rw [nextItem, found]
  rfl

theorem nextItem_first (visible : Visible written) (ahead : skipBlanks chars = written ++ rest) :
    nextItem true chars = .ok (some (written ++ rest)) := by
  obtain ⟨c, more, rfl, -, noEnd⟩ := visible
  rw [nextItem, ahead]
  split
  · rename_i empty
    cases empty
  · rename_i close
    exact absurd (List.cons.inj close).1 noEnd
  · rename_i first others _ split
    obtain ⟨rfl, rfl⟩ := List.cons.inj split
    rw [if_pos rfl]
    rfl

theorem nextItem_next (visible : Visible written) (comma : skipBlanks chars = ',' :: behind)
    (ahead : skipBlanks behind = written ++ rest) :
    nextItem false chars = .ok (some (written ++ rest)) := by
  obtain ⟨c, more, rfl, -, noEnd⟩ := visible
  rw [nextItem, comma]
  split
  · rename_i empty
    cases empty
  · rename_i close
    exact absurd (List.cons.inj close).1 (by decide)
  · rename_i first others _ split
    obtain ⟨rfl, rfl⟩ := List.cons.inj split
    rw [if_neg Bool.false_ne_true, if_pos rfl, ahead]
    split
    · rename_i empty
      cases empty
    · rename_i close
      exact absurd (List.cons.inj close).1 noEnd
    · rfl

theorem items_of_end {isFirst : Bool} (found : skipBlanks chars = ']' :: rest) :
    items item isFirst chars = .ok ([], chars) := by
  rw [items, nextItem_end isFirst found]

/-- An item that is read as its value, with fewer characters left behind it. -/
theorem items_of_item {isFirst : Bool} {start : List Char} {value : α}
    (next : nextItem isFirst chars = .ok (some start)) (read : item start = .ok (value, rest))
    (shorter : rest.length < chars.length) :
    items item isFirst chars =
      (items item false rest).map fun (values, left) => (value :: values, left) := by
  rw [items, next]
  simp only [read, if_pos shorter]

theorem listEnd_close (found : skipBlanks chars = ']' :: rest) : listEnd chars = .ok rest := by
  rw [listEnd, found]
  rfl

theorem list_of_items {values : List α} {left : List Char}
    (found : skipBlanks chars = '[' :: behind)
    (read : items item true behind = .ok (values, left)) (ended : skipBlanks left = ']' :: rest) :
    list item chars = .ok (values, rest) := by
  simp only [list, found, read]
  exact congrArg (Except.map (Prod.mk values)) (listEnd_close ended)

variable {Text : α → List Char → Prop}
  (takes : ∀ value written, Text value written → item.Takes value written)

include takes

/-- The items are read up to the blanks in front of the end. -/
theorem items_more {values : List α} (more : More .list (ItemText Text) values written)
    (rest : List Char) :
    ∃ left, items item false (written ++ rest) = .ok (values, left) ∧
      skipBlanks left = ']' :: rest := by
  induction more with
  | close blanks =>
      have ended := blanks.skip_word (show isBlank ']' = false by decide) rest
      rw [List.append_assoc]
      exact ⟨_, items_of_end ended, ended⟩
  | @next blanks _ later value values isBlank spelled more ih =>
      obtain @⟨before, text, beforeBlank, formed⟩ := spelled
      obtain ⟨left, read, ended⟩ := ih
      have taken := takes value text formed
      have comma := isBlank.skip_word (show Json.isBlank ',' = false by decide)
        (before ++ (text ++ (later ++ rest)))
      have ahead : skipBlanks (before ++ (text ++ (later ++ rest))) = text ++ (later ++ rest) := by
        rw [beforeBlank.skip_append, taken.visible.skipBlanks_append]
      have valueRead := taken.reads _ _ (more.ends rest) (taken.visible.skipBlanks_append _)
      simp only [List.append_assoc, List.cons_append]
      refine ⟨left, ?_, ended⟩
      rw [items_of_item (nextItem_next taken.visible comma ahead) valueRead, read]
      · rfl
      · simp only [List.length_append, List.length_cons]
        omega

/-- A list is read from the texts of its items. -/
theorem list_takes {values : List α} (formed : ListText Text values written) :
    (list item).Takes values written := by
  refine ⟨formed.visible, ?_⟩
  intro chars rest _ found
  cases formed with
  | @empty blanks isBlank =>
      have ended := isBlank.skip_word (show Json.isBlank ']' = false by decide) rest
      rw [List.cons_append, List.append_assoc] at found
      exact list_of_items found (items_of_end ended) ended
  | @filled _ later value values spelled more =>
      obtain @⟨before, text, beforeBlank, formed⟩ := spelled
      obtain ⟨left, read, ended⟩ := items_more takes more rest
      have taken := takes value text formed
      have ahead : skipBlanks (before ++ (text ++ (later ++ rest))) = text ++ (later ++ rest) := by
        rw [beforeBlank.skip_append, taken.visible.skipBlanks_append]
      have valueRead := taken.reads _ _ (more.ends rest) (taken.visible.skipBlanks_append _)
      have all := items_of_item (nextItem_first taken.visible ahead) valueRead
        (taken.visible.length_lt before (later ++ rest))
      simp only [List.cons_append, List.append_assoc] at found
      rw [read] at all
      exact list_of_items found all ended

end Lists

/-! ## Records -/

section Records

variable {σ α : Type}

/-- The field takes the text of a value and turns one draft into the next. -/
structure FieldReader.Takes (field : FieldReader σ) (written : List Char) (draft next : σ) :
    Prop where
  visible : Visible written
  reads : ∀ chars rest, Ends rest → skipBlanks chars = written ++ rest →
    field.read draft chars = .ok (next, rest)

/-- Reading the members in their order turns one draft into another. Those that are fields were not
set before; the others are passed over. -/
inductive Gathers (fields : List (FieldReader σ)) : List (String × List Char) → σ → σ → Prop where
  | nil (draft : σ) : Gathers fields [] draft draft
  | known {field : FieldReader σ} {name : String} {written : List Char}
      {more : List (String × List Char)} {draft next last : σ} :
      (fields.find? fun field => field.name = name) = some field → field.isSet draft = false →
      field.Takes written draft next → Gathers fields more next last →
      Gathers fields ((name, written) :: more) draft last
  | unknown {name : String} {written : List Char} {more : List (String × List Char)}
      {draft last : σ} :
      (fields.find? fun field => field.name = name) = none → Skipped written →
      Gathers fields more draft last → Gathers fields ((name, written) :: more) draft last

theorem FieldReader.of_takes {name : String} {get : σ → Option α} {set : σ → α → σ}
    {reader : Reader α} {value : α} {written : List Char} (takes : reader.Takes value written)
    (draft : σ) :
    (FieldReader.of name get set reader).Takes written draft (set draft value) := by
  refine ⟨takes.visible, ?_⟩
  intro chars rest ends ahead
  simp only [FieldReader.of, takes.reads chars rest ends ahead, Except.map]

variable {fields : List (FieldReader σ)} {chars behind key rest : List Char} {name : String}

/-! ### Keys -/

theorem nextKey_end (isFirst : Bool) (found : skipBlanks chars = '}' :: rest) :
    nextKey isFirst chars = .ok none := by
  rw [nextKey, found]
  rfl

theorem KeyText.exists_body (formed : KeyText name key) (rest : List Char) :
    ∃ body left, skipBlanks (key ++ rest) = '"' :: body ∧
      stringBody body = .ok (name.toList, left) ∧ colon left = .ok rest := by
  cases formed with
  | @key before written after beforeBlank spelled afterBlank =>
      cases spelled with
      | @quoted body formed =>
          refine ⟨body ++ '"' :: (after ++ ':' :: rest), after ++ ':' :: rest, ?_,
            formed.stringBody_append _, ?_⟩
          · simpa using beforeBlank.skip_word (show isBlank '"' = false by decide)
              (body ++ '"' :: (after ++ ':' :: rest))
          · rw [colon, afterBlank.skip_word (by decide)]
            rfl

theorem nextKey_first (formed : KeyText name key)
    (ahead : skipBlanks chars = skipBlanks (key ++ rest)) :
    ∃ left, nextKey true chars = .ok (some (name, left)) ∧ colon left = .ok rest := by
  obtain ⟨body, left, found, read, colon⟩ := formed.exists_body rest
  have taken : nextKey true chars =
      (stringBody body).map fun read => some (String.ofList read.1, read.2) := by
    rw [nextKey, ahead, found]
    rfl
  refine ⟨left, ?_, colon⟩
  rw [taken, read, Except.map, String.ofList_toList]

theorem nextKey_next (formed : KeyText name key) (comma : skipBlanks chars = ',' :: behind)
    (ahead : skipBlanks behind = skipBlanks (key ++ rest)) :
    ∃ left, nextKey false chars = .ok (some (name, left)) ∧ colon left = .ok rest := by
  obtain ⟨body, left, found, read, colon⟩ := formed.exists_body rest
  have taken : nextKey false chars =
      (stringBody body).map fun read => some (String.ofList read.1, read.2) := by
    rw [nextKey, comma]
    split
    · rename_i empty
      cases empty
    · rename_i close
      exact absurd (List.cons.inj close).1 (by decide)
    · rename_i first others _ split
      obtain ⟨rfl, rfl⟩ := List.cons.inj split
      rw [if_neg Bool.false_ne_true, if_pos rfl, ahead, found]
      rfl
  refine ⟨left, ?_, colon⟩
  rw [taken, read, Except.map, String.ofList_toList]

/-! ### Members -/

theorem members_of_end {isFirst : Bool} (draft : σ) (found : skipBlanks chars = '}' :: rest) :
    members fields isFirst draft chars = .ok (draft, chars) := by
  rw [members, nextKey_end isFirst found]

/-- A member that is read, with fewer characters left behind it. -/
theorem members_of_member {isFirst : Bool} {left : List Char} {draft next : σ}
    (key : nextKey isFirst chars = .ok (some (name, left)))
    (read : member fields draft name left = .ok (next, rest))
    (shorter : rest.length < chars.length) :
    members fields isFirst draft chars = members fields false next rest := by
  rw [members, key]
  simp only [read, if_pos shorter]

/-- What the first member of some does, and that the others do the rest. -/
theorem Gathers.exists_next {written : List Char} {more : List (String × List Char)}
    {draft last : σ} (gathers : Gathers fields ((name, written) :: more) draft last) :
    Visible written ∧ ∃ next, Gathers fields more next last ∧
      ∀ left behind rest, Ends rest → colon left = .ok behind →
        skipBlanks behind = written ++ rest → member fields draft name left = .ok (next, rest) := by
  cases gathers with
  | @known field _ _ _ _ next _ known fresh takes gathers =>
      refine ⟨takes.visible, next, gathers, ?_⟩
      intro left behind rest ends colon ahead
      simp only [member, known, fresh, Bool.false_eq_true, if_false, colon]
      exact takes.reads behind rest ends ahead
  | unknown unknown skipped gathers =>
      refine ⟨skipped.visible, draft, gathers, ?_⟩
      intro left behind rest ends colon ahead
      have passed : skipValue behind = .ok rest := by
        rw [skipValue, skipped.passes [] behind rest ends ahead, skip]
      simp only [member, unknown, colon, passed, bind, Except.bind, pure, Except.pure]

/-- The members are read up to the blanks in front of the end. -/
theorem members_more {list : List (String × List Char)} {draft last : σ} {written : List Char}
    (gathers : Gathers fields list draft last)
    (more : More .object MemberText list written) (rest : List Char) :
    ∃ left, members fields false draft (written ++ rest) = .ok (last, left) ∧
      skipBlanks left = '}' :: rest := by
  -- Each member leaves another draft, from which the rest is read.
  induction more generalizing draft with
  | close blanks =>
      have ended := blanks.skip_word (show isBlank '}' = false by decide) rest
      cases gathers with
      | nil =>
          rw [List.append_assoc]
          exact ⟨_, members_of_end _ ended, ended⟩
  | @next blanks _ later value values isBlank spelled more ih =>
      obtain @⟨key, between, formed, betweenBlank⟩ := spelled
      obtain ⟨name, written⟩ := value
      obtain ⟨visible, next, gathers, read⟩ := gathers.exists_next
      obtain ⟨tail, all, ended⟩ := ih gathers
      have comma := isBlank.skip_word (show Json.isBlank ',' = false by decide)
        (key ++ (between ++ (written ++ (later ++ rest))))
      have ahead : skipBlanks (between ++ (written ++ (later ++ rest))) =
          written ++ (later ++ rest) := by
        rw [betweenBlank.skip_append, visible.skipBlanks_append]
      obtain ⟨left, taken, colon⟩ := nextKey_next formed comma rfl
      have one := read left _ _ (more.ends rest) colon ahead
      simp only [List.append_assoc, List.cons_append]
      refine ⟨tail, ?_, ended⟩
      rw [members_of_member taken one, all]
      have shorter := visible.length_lt (blanks ++ ',' :: (key ++ between)) (later ++ rest)
      simpa using shorter

theorem objectEnd_close (found : skipBlanks chars = '}' :: rest) : objectEnd chars = .ok rest := by
  rw [objectEnd, found]
  rfl

theorem Shape.read_of_members {shape : Shape σ α} {last : σ} {value : α} {left : List Char}
    (found : skipBlanks chars = '{' :: behind)
    (read : members shape.fields true shape.start behind = .ok (last, left))
    (ended : skipBlanks left = '}' :: rest) (finished : shape.finish last = .ok value) :
    shape.read chars = .ok (value, rest) := by
  have concluded : shape.conclude last = .ok value := by
    rw [Shape.conclude, finished]
  simp only [Shape.read, found, read, bind, Except.bind, concluded]
  exact congrArg (Except.map (Prod.mk value)) (objectEnd_close ended)

/-- A record is read from an object whose members fill a draft that can be finished. -/
theorem Shape.read_takes {shape : Shape σ α} {list : List (String × List Char)} {last : σ}
    {value : α} {written : List Char} (gathers : Gathers shape.fields list shape.start last)
    (finished : shape.finish last = .ok value) (formed : ObjectText list written) :
    Reader.Takes shape.read value written := by
  refine ⟨formed.visible, ?_⟩
  intro chars rest _ found
  cases formed with
  | @empty blanks isBlank =>
      have ended := isBlank.skip_word (show Json.isBlank '}' = false by decide) rest
      rw [List.cons_append, List.append_assoc] at found
      cases gathers with
      | nil => exact Shape.read_of_members found (members_of_end _ ended) ended finished
  | @filled _ later member list spelled more =>
      obtain @⟨key, between, formed, betweenBlank⟩ := spelled
      obtain ⟨name, written⟩ := member
      obtain ⟨visible, next, gathers, read⟩ := gathers.exists_next
      obtain ⟨tail, all, ended⟩ := members_more gathers more rest
      have ahead : skipBlanks (between ++ (written ++ (later ++ rest))) =
          written ++ (later ++ rest) := by
        rw [betweenBlank.skip_append, visible.skipBlanks_append]
      obtain ⟨left, taken, colon⟩ := nextKey_first formed rfl
      have one := read left _ _ (more.ends rest) colon ahead
      have shorter := visible.length_lt (key ++ between) (later ++ rest)
      simp only [List.cons_append, List.append_assoc] at found shorter
      have first := members_of_member taken one shorter
      rw [all] at first
      exact Shape.read_of_members found first ended finished

end Records

/-- A text that holds a value and blanks around it is read as the value. -/
theorem readAll_of_takes {α : Type} {reader : Reader α} {value : α} {text : String}
    {before written after : List Char} (takes : reader.Takes value written)
    (beforeBlank : Blanks before) (afterBlank : Blanks after)
    (whole : text.toList = before ++ (written ++ after)) : readAll reader text = .ok value := by
  have ends : Ends (after ++ []) := afterBlank.ends_append .nil
  have ahead := (beforeBlank.skip_append _).trans (takes.visible.skipBlanks_append (after ++ []))
  have read := takes.reads _ _ ends ahead
  have nothing : skipBlanks (after ++ []) = [] := afterBlank.skip_append []
  simp only [List.append_nil] at read nothing
  simp only [readAll, whole, read, bind, Except.bind, nothing, List.isEmpty_nil, if_true]
  rfl

end TexWorkspace.Json
