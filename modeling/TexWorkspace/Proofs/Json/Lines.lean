import TexWorkspace.Json.Printer

set_option autoImplicit false

/-!
The lines of JSON text. A value is a block of lines: the parts of a list or of an object stand
between its brackets, set in by two blanks, and all of them but the last end in a comma. A string is
on one line, since its control characters are escaped. Main statement: the text of a value is its
block, with every line ended by a newline.
-/

namespace TexWorkspace.Json

abbrev Line := List Char

/-! ## Strings -/

/-- The characters that are escaped by one letter or mark. -/
def letterEscapes : List (Char × Char) :=
  [('"', '"'), ('\\', '\\'), (Char.ofNat 8, 'b'), ('\t', 't'), ('\n', 'n'), (Char.ofNat 12, 'f'),
    ('\r', 'r')]

/-- A character in a string. Control characters that no letter stands for are given by their code.
-/
def spelled (c : Char) : Line :=
  match letterEscapes.lookup c with
  | some mark => ['\\', mark]
  | none =>
      if c.toNat < 32 then
        ['\\', 'u', '0', '0', if c.toNat < 16 then '0' else '1', Nat.digitChar (c.toNat % 16)]
      else [c]

def inQuotes (text : String) : Line :=
  ['"'] ++ text.toList.flatMap spelled ++ ['"']

theorem escapeChar_eq (c : Char) : escapeChar c = spelled c := by
  have digits : ∀ n < 32, [hexDigit (n / 16), hexDigit (n % 16)] =
      [if n < 16 then '0' else '1', Nat.digitChar (n % 16)] := by decide
  by_cases listed : c ∈ letterEscapes.map Prod.fst
  · simp only [letterEscapes, List.map_cons, List.map_nil, List.mem_cons, List.not_mem_nil,
      or_false] at listed
    rcases listed with rfl | rfl | rfl | rfl | rfl | rfl | rfl <;> rfl
  · have unlisted : letterEscapes.lookup c = none := by
      rw [List.lookup_eq_none_iff]
      rintro ⟨other, mark⟩ member
      exact bne_iff_ne.mpr fun same => listed (List.mem_map.mpr ⟨_, member, same.symm⟩)
    simp only [letterEscapes, List.map_cons, List.map_nil, List.mem_cons, List.not_mem_nil,
      or_false, not_or] at listed
    obtain ⟨quote, backslash, backspace, tab, newline, feed, carriage⟩ := listed
    rw [spelled, unlisted, escapeChar]
    simp only [quote, backslash, backspace, tab, newline, feed, carriage, if_false]
    split
    · rename_i control
      rw [digits c.toNat control]
    · rfl

theorem printString_eq (text : String) : printString text = inQuotes text := by
  have same : escapeChar = spelled := funext escapeChar_eq
  rw [printString, same]
  rfl

/-! ## Blocks -/

def setIn (block : List Line) : List Line :=
  block.map fun line => ' ' :: ' ' :: line

/-- A comma behind the last line. -/
def endComma : List Line → List Line
  | [] => []
  | [last] => [last ++ [',']]
  | line :: next :: more => line :: endComma (next :: more)

/-- A key in front of the first line. -/
def keyed (key : String) : List Line → List Line
  | [] => []
  | first :: more => (inQuotes key ++ ':' :: ' ' :: first) :: more

def separated : List (List Line) → List Line
  | [] => []
  | [last] => last
  | block :: next :: more => endComma block ++ separated (next :: more)

namespace Value

mutual

def lines : Value → List Line
  | .string text => [inQuotes text]
  | .number n => [Nat.toDigits 10 n]
  | .bool true => [['t', 'r', 'u', 'e']]
  | .bool false => [['f', 'a', 'l', 's', 'e']]
  | .list [] => [['[', ']']]
  | .list (first :: more) => ['['] :: setIn (separated (first.lines :: itemBlocks more)) ++ [[']']]
  | .object [] => [['{', '}']]
  | .object ((key, first) :: more) =>
      ['{'] :: setIn (separated (keyed key first.lines :: memberBlocks more)) ++ [['}']]

def itemBlocks : List Value → List (List Line)
  | [] => []
  | item :: more => item.lines :: itemBlocks more

def memberBlocks : List (String × Value) → List (List Line)
  | [] => []
  | (key, value) :: more => keyed key value.lines :: memberBlocks more

end

end Value

/-! ## Blocks at a level -/

/-- A block on new lines, all indented to a level. -/
def laid (level : Nat) (block : List Line) : List Char :=
  block.flatMap (newLine level ++ ·)

theorem newLine_succ (level : Nat) : newLine (level + 1) = newLine level ++ [' ', ' '] := by
  rw [newLine, newLine, Nat.mul_succ, ← List.replicate_append_replicate]
  rfl

theorem laid_append (level : Nat) (block more : List Line) :
    laid level (block ++ more) = laid level block ++ laid level more :=
  List.flatMap_append

theorem laid_setIn (level : Nat) (block : List Line) :
    laid level (setIn block) = laid (level + 1) block := by
  simp [laid, setIn, List.flatMap_map, newLine_succ]

theorem laid_endComma (level : Nat) {block : List Line} (filled : block ≠ []) :
    laid level (endComma block) = laid level block ++ [','] := by
  induction block with
  | nil => exact absurd rfl filled
  | cons line rest ih =>
      cases rest with
      | nil => simp [laid, endComma]
      | cons next more =>
          have later := ih (List.cons_ne_nil next more)
          simp only [laid, endComma, List.flatMap_cons, List.append_assoc] at later ⊢
          rw [later]

/-- A block that is what a text comes to on a new line. -/
structure Lays (level : Nat) (text : List Char) (block : List Line) : Prop where
  filled : block ≠ []
  laid : newLine level ++ text = laid level block

namespace Lays

variable {level : Nat} {text : List Char} {block : List Line}

theorem single (level : Nat) (line : Line) : Lays level line [line] where
  filled := List.cons_ne_nil line []
  laid := by simp [Json.laid]

theorem keyed (lays : Lays level text block) (key : String) :
    Lays level (inQuotes key ++ ':' :: ' ' :: text) (keyed key block) := by
  obtain ⟨filled, same⟩ := lays
  cases block with
  | nil => exact absurd rfl filled
  | cons first more =>
      refine ⟨List.cons_ne_nil _ _, ?_⟩
      rw [Json.laid, List.flatMap_cons, List.append_assoc] at same
      rw [List.append_cancel_left same]
      simp [Json.laid, Json.keyed]

/-- What stands between brackets is one level further in. -/
theorem bracketed (lays : Lays (level + 1) text block) (opener closer : Char) :
    Lays level (opener :: newLine (level + 1) ++ text ++ newLine level ++ [closer])
      ([opener] :: setIn block ++ [[closer]]) where
  filled := List.cons_ne_nil _ _
  laid := by
    have parts : Json.laid level ([opener] :: setIn block ++ [[closer]]) =
        newLine level ++ [opener] ++ Json.laid level (setIn block) ++ newLine level ++ [closer] := by
      simp [Json.laid]
    rw [parts, laid_setIn, ← lays.laid]
    simp

/-- A part in front of others ends in a comma. -/
theorem separated {more : List Char} {next : List Line} {others : List (List Line)}
    (lays : Lays level text block) (later : Lays level more (separated (next :: others))) :
    Lays level (text ++ ',' :: newLine level ++ more) (separated (block :: next :: others)) where
  filled := by simp [Json.separated, later.filled]
  laid := by
    rw [Json.separated, laid_append, laid_endComma level lays.filled, ← lays.laid, ← later.laid]
    simp

end Lays

/-! ## Values -/

namespace Value

mutual

theorem print_lays (level : Nat) (value : Value) : Lays level (value.print level) value.lines :=
  match value with
  | .string text => by
      rw [print, lines, printString_eq]
      exact .single level _
  | .number _ => .single level _
  | .bool true => .single level _
  | .bool false => .single level _
  | .list [] => .single level _
  | .object [] => .single level _
  | .list (first :: more) => by
      have inner := items_lay (level + 1) (first.print_lays (level + 1)) more
      simpa [print, lines] using inner.bracketed '[' ']'
  | .object ((key, first) :: more) => by
      have inner := members_lay (level + 1) ((first.print_lays (level + 1)).keyed key) more
      simpa [print, lines, printString_eq] using inner.bracketed '{' '}'

theorem items_lay (level : Nat) {text : List Char} {block : List Line}
    (lays : Lays level text block) (items : List Value) :
    Lays level (text ++ printItems level items) (separated (block :: itemBlocks items)) :=
  match items with
  | [] => by simpa [printItems, itemBlocks, separated] using lays
  | item :: more => by
      have later := items_lay level (item.print_lays level) more
      simpa [printItems, itemBlocks] using lays.separated later

theorem members_lay (level : Nat) {text : List Char} {block : List Line}
    (lays : Lays level text block) (members : List (String × Value)) :
    Lays level (text ++ printMembers level members) (separated (block :: memberBlocks members)) :=
  match members with
  | [] => by simpa [printMembers, memberBlocks, separated] using lays
  | (key, value) :: more => by
      have later := members_lay level ((value.print_lays level).keyed key) more
      simpa [printMembers, memberBlocks, printString_eq] using lays.separated later

end

/-- The text of a value and a newline are its lines, each ended by a newline. -/
theorem pretty_lines (value : Value) :
    (value.pretty ++ "\n").toList = value.lines.flatMap (· ++ ['\n']) := by
  -- A newline in front of every line is one behind every line, but for the two ends.
  have turned (block : List Line) :
      laid 0 block ++ ['\n'] = '\n' :: block.flatMap (· ++ ['\n']) := by
    induction block with
    | nil => rfl
    | cons line rest ih =>
        rw [laid, List.flatMap_cons, List.append_assoc]
        rw [laid] at ih
        rw [ih]
        simp [newLine]
  have whole : '\n' :: value.print 0 = laid 0 value.lines := (value.print_lays 0).laid
  have both : '\n' :: (value.print 0 ++ ['\n']) = '\n' :: value.lines.flatMap (· ++ ['\n']) := by
    rw [← turned, ← whole]
    rfl
  simpa [pretty] using (List.cons.inj both).2

example : (Value.object [("a", .list [.number 1, .number 2]), ("b", .bool true)]).lines.map
    String.ofList = ["\x7b", "  \"a\": [", "    1,", "    2", "  ],", "  \"b\": true", "\x7d"] := by
  decide +kernel

end Value

end TexWorkspace.Json
