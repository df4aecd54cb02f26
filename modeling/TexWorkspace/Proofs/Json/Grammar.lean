import TexWorkspace.Json.Skip

set_option autoImplicit false

/-!
JSON texts, said as a grammar: the ways to write a string, and what a well-formed value is. Blanks
may stand around every word; the text of a value itself starts and ends with a word.
-/

namespace TexWorkspace.Json

def Blanks (run : List Char) : Prop :=
  ∀ c ∈ run, c = ' ' ∨ c = '\n' ∨ c = '\t' ∨ c = '\r'

/-! ## Strings -/

/-- A digit in base sixteen and its value. -/
inductive HexDigit : Char → Nat → Prop where
  | decimal {n : Nat} : n < 10 → HexDigit (Char.ofNat ('0'.toNat + n)) n
  | lower {n : Nat} : n < 6 → HexDigit (Char.ofNat ('a'.toNat + n)) (10 + n)
  | upper {n : Nat} : n < 6 → HexDigit (Char.ofNat ('A'.toNat + n)) (10 + n)

/-- Four digits in base sixteen and their value. -/
inductive CodeUnit : List Char → Nat → Prop where
  | digits {a b c d : Char} {m n o p : Nat} :
      HexDigit a m → HexDigit b n → HexDigit c o → HexDigit d p →
      CodeUnit [a, b, c, d] (((m * 16 + n) * 16 + o) * 16 + p)

/-- The characters with an escape of one character, which comes first. -/
def shortEscapes : List (Char × Char) :=
  [('"', '"'), ('\\', '\\'), ('/', '/'), ('b', Char.ofNat 8), ('f', Char.ofNat 12), ('n', '\n'),
    ('r', '\r'), ('t', '\t')]

/-- A character that may stand for itself in a string. -/
structure Unescaped (c : Char) : Prop where
  noQuote : c ≠ '"'
  noEscape : c ≠ '\\'
  noControl : 0x20 ≤ c.toNat

/-- The ways to write a character of a string. -/
inductive Spells : List Char → Char → Prop where
  | plain {c : Char} : Unescaped c → Spells [c] c
  | short {mark c : Char} : (mark, c) ∈ shortEscapes → Spells ['\\', mark] c
  | unit {digits : List Char} {unit : Nat} :
      CodeUnit digits unit → unit < 0xd800 ∨ 0xdfff < unit →
      Spells ('\\' :: 'u' :: digits) (Char.ofNat unit)
  | pair {first second : List Char} {high low : Nat} :
      CodeUnit first high → 0xd800 ≤ high ∧ high ≤ 0xdbff →
      CodeUnit second low → 0xdc00 ≤ low ∧ low ≤ 0xdfff →
      Spells ('\\' :: 'u' :: (first ++ '\\' :: 'u' :: second))
        (Char.ofNat (0x10000 + (high - 0xd800) * 0x400 + (low - 0xdc00)))

/-- The ways to write a row of characters between quotes. -/
inductive BodyText : List Char → List Char → Prop where
  | nil : BodyText [] []
  | cons {written rest : List Char} {c : Char} {chars : List Char} :
      Spells written c → BodyText rest chars → BodyText (written ++ rest) (c :: chars)

/-- The ways to write a string. -/
inductive StringText (text : String) : List Char → Prop where
  | quoted {body : List Char} :
      BodyText body text.toList → StringText text ('"' :: (body ++ ['"']))

/-- What may stand between quotes. Code units need not make up characters. -/
inductive RawBody : List Char → Prop where
  | nil : RawBody []
  | plain {c : Char} {rest : List Char} : Unescaped c → RawBody rest → RawBody (c :: rest)
  | short {mark c : Char} {rest : List Char} :
      (mark, c) ∈ shortEscapes → RawBody rest → RawBody ('\\' :: mark :: rest)
  | unit {digits rest : List Char} {unit : Nat} :
      CodeUnit digits unit → RawBody rest → RawBody ('\\' :: 'u' :: (digits ++ rest))

/-! ## Numbers -/

def Digits (run : List Char) : Prop :=
  run ≠ [] ∧ ∀ c ∈ run, c.isDigit = true

inductive WholeText : List Char → Prop where
  | zero : WholeText ['0']
  | positive {c : Char} {more : List Char} :
      c ≠ '0' → (∀ d ∈ c :: more, d.isDigit = true) → WholeText (c :: more)

inductive FractionText : List Char → Prop where
  | none : FractionText []
  | some {digits : List Char} : Digits digits → FractionText ('.' :: digits)

inductive ExponentText : List Char → Prop where
  | none : ExponentText []
  | some {mark : Char} {sign digits : List Char} :
      mark = 'e' ∨ mark = 'E' → sign ∈ [[], ['+'], ['-']] → Digits digits →
      ExponentText (mark :: (sign ++ digits))

inductive NumberText : List Char → Prop where
  | number {sign whole fraction exponent : List Char} :
      sign ∈ [[], ['-']] → WholeText whole → FractionText fraction → ExponentText exponent →
      NumberText (sign ++ (whole ++ (fraction ++ exponent)))

/-! ## Lists and objects -/

def Frame.opener : Frame → Char
  | .list => '['
  | .object => '{'

/-- Items from the second on, each behind a comma, and the end of their frame. -/
inductive More (frame : Frame) {α : Type} (Item : α → List Char → Prop) :
    List α → List Char → Prop where
  | close {blanks : List Char} : Blanks blanks → More frame Item [] (blanks ++ [frame.closer])
  | next {blanks item more : List Char} {value : α} {values : List α} :
      Blanks blanks → Item value item → More frame Item values more →
      More frame Item (value :: values) (blanks ++ ',' :: (item ++ more))

/-- Items between commas in a frame, where `Item` says how an item is written with all in front of
it. -/
inductive Framed (frame : Frame) {α : Type} (Item : α → List Char → Prop) :
    List α → List Char → Prop where
  | empty {blanks : List Char} :
      Blanks blanks → Framed frame Item [] (frame.opener :: (blanks ++ [frame.closer]))
  | filled {item more : List Char} {value : α} {values : List α} :
      Item value item → More frame Item values more →
      Framed frame Item (value :: values) (frame.opener :: (item ++ more))

/-- The key of a member, with the colon. -/
inductive KeyText (name : String) : List Char → Prop where
  | key {before written after : List Char} :
      Blanks before → StringText name written → Blanks after →
      KeyText name (before ++ (written ++ (after ++ [':'])))

/-- An item of a list, where `Text` says how its value is written. -/
inductive ItemText {α : Type} (Text : α → List Char → Prop) (value : α) : List Char → Prop where
  | item {blanks written : List Char} :
      Blanks blanks → Text value written → ItemText Text value (blanks ++ written)

def ListText {α : Type} (Text : α → List Char → Prop) : List α → List Char → Prop :=
  Framed .list (ItemText Text)

/-- A member of an object: its key and the text of its value. -/
inductive MemberText (member : String × List Char) : List Char → Prop where
  | member {key blanks : List Char} :
      KeyText member.1 key → Blanks blanks → MemberText member (key ++ (blanks ++ member.2))

def ObjectText : List (String × List Char) → List Char → Prop :=
  Framed .object MemberText

/-- What stands in front of the text of a value in a frame. -/
inductive RawHead : Frame → List Char → Prop where
  | list {blanks : List Char} : Blanks blanks → RawHead .list blanks
  | object {before body after blanks : List Char} :
      Blanks before → RawBody body → Blanks after → Blanks blanks →
      RawHead .object (before ++ '"' :: (body ++ '"' :: (after ++ ':' :: blanks)))

/-- The text of a value with what stands in front of it in a frame. -/
inductive RawText (frame : Frame) (value : List Char) : List Char → Prop where
  | item {head : List Char} : RawHead frame head → RawText frame value (head ++ value)

/-- The well-formed values. -/
inductive WellFormed : List Char → Prop where
  | literal {word : String} : word ∈ ["null", "true", "false"] → WellFormed word.toList
  | number {written : List Char} : NumberText written → WellFormed written
  | string {body : List Char} : RawBody body → WellFormed ('"' :: (body ++ ['"']))
  | framed {frame : Frame} {values : List (List Char)} {written : List Char} :
      (∀ value ∈ values, WellFormed value) →
      Framed frame (RawText frame) values written → WellFormed written

end TexWorkspace.Json
