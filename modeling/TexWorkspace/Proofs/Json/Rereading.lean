import TexWorkspace.Json.Printer
import TexWorkspace.Proofs.Json.Recognition

set_option autoImplicit false

/-!
Reading undoes printing: what is printed for a value is one of the ways to write it, so a reader
that takes them all takes the printed one.
-/

namespace TexWorkspace.Json

/-! ## Printed words -/

theorem blanks_newLine (level : Nat) : Blanks (newLine level) := by
  intro c member
  rcases List.mem_cons.mp member with rfl | indent
  · exact .inr (.inl rfl)
  · exact .inl (List.eq_of_mem_replicate indent)

theorem hexDigit_formed {n : Nat} (small : n < 16) : HexDigit (hexDigit n) n := by
  unfold hexDigit
  split
  · rename_i decimal
    exact .decimal decimal
  · rename_i letter
    have formed : HexDigit (Char.ofNat ('a'.toNat + (n - 10))) (10 + (n - 10)) :=
      .lower (by omega)
    rwa [show 10 + (n - 10) = n by omega] at formed

theorem codeUnit_formed {unit : Nat} (small : unit < 0x10000) :
    CodeUnit [hexDigit (unit / 16 / 16 / 16), hexDigit (unit / 16 / 16 % 16),
      hexDigit (unit / 16 % 16), hexDigit (unit % 16)] unit := by
  have first := hexDigit_formed (show unit / 16 / 16 / 16 < 16 by omega)
  have second := hexDigit_formed (show unit / 16 / 16 % 16 < 16 by omega)
  have third := hexDigit_formed (show unit / 16 % 16 < 16 by omega)
  have last := hexDigit_formed (show unit % 16 < 16 by omega)
  have formed := CodeUnit.digits first second third last
  rwa [Nat.div_add_mod', Nat.div_add_mod', Nat.div_add_mod'] at formed

/-- A control character is escaped by its number, which is far from the halves of pairs. -/
theorem control_spelled {c : Char} (control : c.toNat < 0x20) :
    Spells ['\\', 'u', '0', '0', hexDigit (c.toNat / 16), hexDigit (c.toNat % 16)] c := by
  have unit := codeUnit_formed (show c.toNat < 0x10000 by omega)
  have none : c.toNat / 16 / 16 = 0 := by omega
  have few : c.toNat / 16 % 16 = c.toNat / 16 := by omega
  rw [none, few] at unit
  have spelled := Spells.unit unit (.inl (by omega))
  rwa [Char.ofNat_toNat] at spelled

theorem escapeChar_spells (c : Char) : Spells (escapeChar c) c := by
  unfold escapeChar
  -- Seven characters have an escape of one letter; the rest are control characters or stand as is.
  by_cases quote : c = '"'
  · subst quote
    exact .short (by decide)
  by_cases backslash : c = '\\'
  · subst backslash
    exact .short (by decide)
  by_cases newline : c = '\n'
  · subst newline
    exact .short (by decide)
  by_cases carriageReturn : c = '\r'
  · subst carriageReturn
    exact .short (by decide)
  by_cases tab : c = '\t'
  · subst tab
    exact .short (by decide)
  by_cases backspace : c = Char.ofNat 8
  · subst backspace
    exact .short (by decide)
  by_cases formFeed : c = Char.ofNat 12
  · subst formFeed
    exact .short (by decide)
  simp only [if_neg quote, if_neg backslash, if_neg newline, if_neg carriageReturn, if_neg tab,
    if_neg backspace, if_neg formFeed]
  split
  · rename_i control
    exact control_spelled control
  · rename_i visible
    exact .plain ⟨quote, backslash, Nat.not_lt.mp visible⟩

theorem bodyText_print (chars : List Char) : BodyText (chars.flatMap escapeChar) chars := by
  induction chars with
  | nil => exact .nil
  | cons c chars ih => exact .cons (escapeChar_spells c) ih

theorem stringText_print (text : String) : StringText text (printString text) :=
  .quoted (bodyText_print text.toList)

theorem stringText_value (text : String) (level : Nat) :
    StringText text ((Value.string text).print level) := by
  rw [Value.print]
  exact stringText_print text

theorem string_takes_print (text : String) (level : Nat) :
    string.Takes text ((Value.string text).print level) :=
  string_takes (stringText_value text level)

theorem word32_takes_print (n : UInt32) (level : Nat) :
    word32.Takes n ((Value.number n.toNat).print level) := by
  have small : n.toNat < UInt32.size := n.toNat_lt
  have fits : n.toNat ≤ maxNatural := by
    rw [maxNatural]
    exact Nat.le_of_lt (Nat.lt_of_lt_of_le small (by decide))
  rw [Value.print]
  cases digits : Nat.toDigits 10 n.toNat with
  | nil => exact absurd digits Nat.toDigits_ne_nil
  | cons c more =>
      have isDigit : c.isDigit = true := isDigit_toDigits n.toNat c (by rw [digits]; simp)
      have visible : isBlank c = false := by
        rw [Bool.eq_false_iff]
        intro blank
        rcases isBlank_iff.mp blank with rfl | rfl | rfl | rfl <;> cases isDigit
      refine ⟨⟨c, more, rfl, visible, digit_ne isDigit (by decide)⟩, ?_⟩
      intro chars rest ends found
      have number := number_toDigits fits ends
      rw [List.cons_append] at found
      rw [digits, List.cons_append] at number
      unfold word32
      rw [found]
      split
      · rename_i sign
        obtain ⟨rfl, -⟩ := List.cons.inj sign
        cases isDigit
      · rename_i first others _ split
        obtain ⟨rfl, rfl⟩ := List.cons.inj split
        rw [if_pos isDigit, number]
        simp [bind, Except.bind, word32Of, small, pure, Except.pure]
      · rename_i empty
        cases empty

/-! ## Printed lists and objects -/

section Lists

variable {α : Type} {toJson : α → Value} {Text : α → List Char → Prop}

theorem listText_print (spelled : ∀ value level, Text value ((toJson value).print level))
    (values : List α) (level : Nat) :
    ListText Text values ((Value.list (values.map toJson)).print level) := by
  have item : ∀ value,
      ItemText Text value (newLine (level + 1) ++ (toJson value).print (level + 1)) := by
    intro value
    exact .item (blanks_newLine (level + 1)) (spelled value (level + 1))
  have later : ∀ values : List α,
      More .list (ItemText Text) values
        (Value.printItems (level + 1) (values.map toJson) ++ (newLine level ++ [']'])) := by
    intro values
    induction values with
    | nil =>
        rw [List.map_nil, Value.printItems]
        exact .close (blanks_newLine level)
    | cons value values ih =>
        rw [List.map_cons, Value.printItems]
        simpa using More.next Blanks.nil (item value) ih
  cases values with
  | nil =>
      rw [List.map_nil, Value.print]
      exact .empty Blanks.nil
  | cons value values =>
      rw [List.map_cons, Value.print]
      simpa [ListText, Frame.opener] using Framed.filled (item value) (later values)

theorem list_takes_print {item : Reader α}
    (takes : ∀ value level, item.Takes value ((toJson value).print level)) (values : List α)
    (level : Nat) : (list item).Takes values ((Value.list (values.map toJson)).print level) :=
  list_takes (fun _ _ taken => taken) (listText_print takes values level)

end Lists

theorem objectText_print (members : List (String × Value)) (level : Nat) :
    ObjectText (members.map fun member => (member.1, member.2.print (level + 1)))
      ((Value.object members).print level) := by
  have item : ∀ (name : String) (value : Value),
      MemberText (name, value.print (level + 1))
        (newLine (level + 1) ++ (printString name ++ [':']) ++
          ([' '] ++ value.print (level + 1))) := by
    intro name value
    have space : Blanks [' '] := .singleton (by decide)
    exact .member (.key (blanks_newLine (level + 1)) (stringText_print name) Blanks.nil) space
  have later : ∀ members : List (String × Value),
      More .object MemberText (members.map fun member => (member.1, member.2.print (level + 1)))
        (Value.printMembers (level + 1) members ++ (newLine level ++ ['}'])) := by
    intro members
    induction members with
    | nil =>
        rw [List.map_nil, Value.printMembers]
        exact .close (blanks_newLine level)
    | cons member members ih =>
        obtain ⟨name, value⟩ := member
        rw [List.map_cons, Value.printMembers]
        simpa using More.next Blanks.nil (item name value) ih
  cases members with
  | nil =>
      rw [List.map_nil, Value.print]
      exact .empty Blanks.nil
  | cons member members =>
      obtain ⟨name, value⟩ := member
      rw [List.map_cons, Value.print]
      simpa [ObjectText, Frame.opener] using Framed.filled (item name value) (later members)

/-- A record is read from its printed members if they fill a draft that can be finished. -/
theorem Shape.read_takes_print {σ α : Type} {shape : Shape σ α} {members : List (String × Value)}
    {level : Nat} {last : σ} {value : α}
    (gathers : Gathers shape.fields
      (members.map fun member => (member.1, member.2.print (level + 1))) shape.start last)
    (finished : shape.finish last = .ok value) :
    Reader.Takes shape.read value ((Value.object members).print level) :=
  Shape.read_takes gathers finished (objectText_print members level)

end TexWorkspace.Json
