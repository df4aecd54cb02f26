import TexWorkspace.Bib.Token
import TexWorkspace.Text.CharSet

set_option autoImplicit false

/-!
Cutting source text into tokens. The first character of a token decides its class: a punctuation
mark stands alone, a comment runs to the end of its line, blanks are taken together, and everything
else is a word, in which a backslash takes the character after it along.
-/

namespace TexWorkspace.Bib

def punctuation? : Char → Option TokenKind
  | '@' => some .atSign
  | '{' => some .openBrace
  | '}' => some .closeBrace
  | '(' => some .openParen
  | ')' => some .closeParen
  | ',' => some .comma
  | '=' => some .equals
  | '#' => some .hash
  | '"' => some .quote
  | _ => none

/-- Whether the character can stand in a word without a backslash before it. -/
def isWordChar (c : Char) : Bool :=
  !Text.isBlank c && c != '%' && (punctuation? c).isNone

def isCommentChar (c : Char) : Bool :=
  c != '\n' && c != '\r'

/-- Splits off the longest word: a backslash and the character after it count as one, whatever that
character is. -/
def spanWord : List Char → List Char × List Char
  | [] => ([], [])
  | '\\' :: c :: rest =>
      let (word, after) := spanWord rest
      ('\\' :: c :: word, after)
  | c :: rest =>
      if isWordChar c then
        let (word, after) := spanWord rest
        (c :: word, after)
      else ([], c :: rest)

/-- A word of digits only is a number. -/
def wordKind (word : List Char) : TokenKind :=
  if word.all Char.isDigit then .number else .word

def tokenAt (c : Char) (rest : List Char) : Token × List Char :=
  match punctuation? c with
  | some kind => (⟨kind, String.ofList [c]⟩, rest)
  | none =>
      if c = '%' then
        (⟨.comment, String.ofList (c :: rest.takeWhile isCommentChar)⟩,
          rest.dropWhile isCommentChar)
      else if Text.isBlank c then
        (⟨.blank, String.ofList (c :: rest.takeWhile Text.isBlank)⟩, rest.dropWhile Text.isBlank)
      else
        let (word, after) := spanWord (c :: rest)
        (⟨wordKind word, String.ofList word⟩, after)

theorem spanWord_of_escape (c : Char) (rest : List Char) :
    spanWord ('\\' :: c :: rest) = ('\\' :: c :: (spanWord rest).1, (spanWord rest).2) := rfl

theorem spanWord_of_wordChar {c : Char} (noEscape : c ≠ '\\') (wordChar : isWordChar c = true)
    (rest : List Char) : spanWord (c :: rest) = (c :: (spanWord rest).1, (spanWord rest).2) := by
  rw [spanWord.eq_def]
  split
  · rename_i empty
    cases empty
  · rename_i escape
    exact absurd (List.cons.inj escape).1 noEscape
  · rename_i split
    obtain ⟨rfl, rfl⟩ := List.cons.inj split
    rw [if_pos wordChar]

theorem ne_escape_of_stop {c : Char} (stops : isWordChar c = false) : c ≠ '\\' := by
  rintro rfl
  have wordChar : isWordChar '\\' = true := by decide
  rw [wordChar] at stops
  cases stops

theorem spanWord_of_stop {c : Char} (stops : isWordChar c = false) (rest : List Char) :
    spanWord (c :: rest) = ([], c :: rest) := by
  rw [spanWord.eq_def]
  split
  · rename_i empty
    cases empty
  · rename_i escape
    exact absurd (List.cons.inj escape).1 (ne_escape_of_stop stops)
  · rename_i split
    obtain ⟨rfl, rfl⟩ := List.cons.inj split
    rw [stops, if_neg Bool.false_ne_true]

theorem spanWord_append (chars : List Char) :
    (spanWord chars).1 ++ (spanWord chars).2 = chars := by
  fun_induction spanWord chars <;> simp_all

theorem spanWord_ne_nil {c : Char} (rest : List Char) (wordChar : isWordChar c = true) :
    (spanWord (c :: rest)).1 ≠ [] := by
  unfold spanWord
  split <;> simp_all

theorem tokenAt_append (c : Char) (rest : List Char) :
    (tokenAt c rest).1.text.toList ++ (tokenAt c rest).2 = c :: rest := by
  unfold tokenAt
  split
  · simp
  · split
    · simp
    · split
      · simp
      · simpa using spanWord_append (c :: rest)

theorem tokenAt_ne_nil (c : Char) (rest : List Char) :
    (tokenAt c rest).1.text.toList ≠ [] := by
  unfold tokenAt
  split
  · simp
  · split
    · simp
    · split
      · simp
      · rename_i noMark noComment noBlank
        have wordChar : isWordChar c = true := by
          simp [isWordChar, noMark, noComment, noBlank]
        simpa using spanWord_ne_nil rest wordChar

theorem tokenAt_length_le (c : Char) (rest : List Char) :
    (tokenAt c rest).2.length ≤ rest.length := by
  have whole := congrArg List.length (tokenAt_append c rest)
  have filled := List.length_pos_iff.mpr (tokenAt_ne_nil c rest)
  simp only [List.length_append, List.length_cons] at whole
  omega

def lexChars : List Char → List Token
  | [] => []
  | c :: rest => (tokenAt c rest).1 :: lexChars (tokenAt c rest).2
termination_by chars => chars.length
decreasing_by exact Nat.lt_succ_of_le (tokenAt_length_le c rest)

def lex (text : String) : List Token :=
  lexChars text.toList

end TexWorkspace.Bib
