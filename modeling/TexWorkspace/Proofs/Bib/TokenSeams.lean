import Mathlib.Data.List.Chain
import TexWorkspace.Bib.Lexer

set_option autoImplicit false

/-!
Where tokens meet. Two names never stand side by side, since the lexer would have taken them as one;
and a text can be cut in two without changing its tokens wherever the second part starts with a
character that the last token of the first part cannot take.
-/

namespace TexWorkspace.Bib

/-! ## Names never touch -/

/-- No two names stand next to each other. -/
def Separated (tokens : List Token) : Prop :=
  tokens.IsChain fun left right => ¬ (left.isName = true ∧ right.isName = true)

theorem Separated.of_append {left right : List Token} (separated : Separated (left ++ right)) :
    Separated right :=
  List.IsChain.right_of_append separated

theorem wordKind_isName (word : List Char) (text : String) :
    (Token.mk (wordKind word) text).isName = true := by
  unfold wordKind Token.isName
  split <;> simp

theorem punctuation?_ne_name {c : Char} {kind : TokenKind} (found : punctuation? c = some kind)
    (text : String) : (Token.mk kind text).isName = false := by
  unfold punctuation? at found
  split at found <;> cases found <;> rfl

theorem mark_filled {c : Char} {kind : TokenKind} (isMark : punctuation? c = some kind) :
    Text.isBlank c = false := by
  unfold punctuation? at isMark
  split at isMark <;> first | decide | cases isMark

theorem mark_significant {c : Char} {kind : TokenKind} (isMark : punctuation? c = some kind) :
    kind.isTrivia = false := by
  unfold punctuation? at isMark
  split at isMark <;> cases isMark <;> rfl

/-- The first character decides whether a token is a name. -/
theorem tokenAt_isName (c : Char) (rest : List Char) :
    (tokenAt c rest).1.isName = isWordChar c := by
  unfold tokenAt
  split
  · rename_i kind found
    rw [punctuation?_ne_name found]
    simp [isWordChar, found]
  · rename_i noMark
    split
    · rename_i percent
      subst percent
      rfl
    · split
      · rename_i blank
        simp [Token.isName, isWordChar, blank]
      · rename_i noComment noBlank
        simp [wordKind_isName, isWordChar, noMark, noComment, noBlank]

/-- A word ends at the end of the text or before a character that cannot stand in it. -/
theorem spanWord_snd_head (chars : List Char) :
    ∀ c ∈ (spanWord chars).2.head?, isWordChar c = false := by
  fun_induction spanWord chars <;> simp_all

theorem tokenAt_name_ends {c : Char} (rest : List Char) (wordChar : isWordChar c = true) :
    ∀ next ∈ (tokenAt c rest).2.head?, isWordChar next = false := by
  have noMark : punctuation? c = none := by
    simpa [isWordChar] using (Bool.and_eq_true_iff.mp wordChar).2
  have noComment : c ≠ '%' := by
    intro percent
    simp [isWordChar, percent] at wordChar
  have noBlank : ¬ Text.isBlank c = true := by
    intro blank
    simp [isWordChar, blank] at wordChar
  simp only [tokenAt, noMark, if_neg noComment, if_neg noBlank]
  exact spanWord_snd_head (c :: rest)

theorem lexChars_separated (chars : List Char) : Separated (lexChars chars) := by
  fun_induction lexChars chars with
  | case1 => exact .nil
  | case2 c rest ih =>
      rw [Separated, List.isChain_cons]
      refine ⟨?_, ih⟩
      intro next first
      rintro ⟨leftName, rightName⟩
      rw [tokenAt_isName] at leftName
      cases after : (tokenAt c rest).2 with
      | nil => simp [after, lexChars] at first
      | cons d more =>
          have ends := tokenAt_name_ends rest leftName d (by simp [after])
          simp only [after, lexChars, List.head?_cons, Option.mem_def, Option.some.injEq] at first
          subst first
          rw [tokenAt_isName, ends] at rightName
          cases rightName

theorem lex_separated (text : String) : Separated (lex text) :=
  lexChars_separated text.toList

/-! ## Cutting a text between tokens -/

section Stop

variable {α : Type} {own : α → Bool} {front : List α} {stop : α}

theorem dropWhile_append_of_stop (stops : front.dropWhile own = [] → own stop = false)
    (rest : List α) : (front ++ stop :: rest).dropWhile own = front.dropWhile own ++ stop :: rest := by
  induction front with
  | nil => simp [stops rfl]
  | cons first front ih =>
      cases taken : own first with
      | false => simp [taken]
      | true =>
          rw [List.dropWhile_cons_of_pos taken] at stops
          simp [taken, ih stops]

theorem takeWhile_append_of_stop (stops : front.dropWhile own = [] → own stop = false)
    (rest : List α) : (front ++ stop :: rest).takeWhile own = front.takeWhile own := by
  induction front with
  | nil => simp [stops rfl]
  | cons first front ih =>
      cases taken : own first with
      | false => simp [taken]
      | true =>
          rw [List.dropWhile_cons_of_pos taken] at stops
          simp [taken, ih stops]

end Stop

/-- Whether a text ends in a backslash that has no character to take along. -/
def endsUnpaired : List Char → Bool
  | [] => false
  | ['\\'] => true
  | '\\' :: _ :: rest => endsUnpaired rest
  | _ :: rest => endsUnpaired rest

theorem endsUnpaired_cons {c : Char} (noEscape : c ≠ '\\') (rest : List Char) :
    endsUnpaired (c :: rest) = endsUnpaired rest := by
  rw [endsUnpaired] <;> simp_all

/-- Behind a character that is no backslash, pairing starts anew. -/
theorem endsUnpaired_append_cons {c : Char} (noEscape : c ≠ '\\') (front rest : List Char) :
    endsUnpaired (front ++ c :: rest) = endsUnpaired (c :: rest) := by
  rw [endsUnpaired_cons noEscape]
  fun_induction endsUnpaired front with
  | case1 => exact endsUnpaired_cons noEscape rest
  | case2 => rfl
  | case3 next front ih => exact ih
  | case4 d front noEnd noPair ih =>
      have plain : d ≠ '\\' := by
        intro escape
        cases front with
        | nil => exact noEnd escape rfl
        | cons head front => exact noPair head front escape rfl
      rw [List.cons_append, endsUnpaired_cons plain]
      exact ih

theorem endsUnpaired_append_of_blank {front : List Char}
    (blank : ∀ c ∈ front, Text.isBlank c = true) (rest : List Char) :
    endsUnpaired (front ++ rest) = endsUnpaired rest := by
  induction front with
  | nil => rfl
  | cons c front ih =>
      obtain ⟨isBlank, blank⟩ := List.forall_mem_cons.mp blank
      have plain : c ≠ '\\' := ne_escape_of_stop (by simp [isWordChar, isBlank])
      rw [List.cons_append, endsUnpaired_cons plain, ih blank]

/-- A word ends before a character that cannot stand in it, unless a backslash takes that one
along. -/
theorem spanWord_append_stop {c : Char} (stops : isWordChar c = false) (rest : List Char)
    {front : List Char} (paired : endsUnpaired front = false) :
    spanWord (front ++ c :: rest) = ((spanWord front).1, (spanWord front).2 ++ c :: rest) := by
  fun_induction spanWord front with
  | case1 => exact spanWord_of_stop stops rest
  | case2 d more word after split ih =>
      rw [List.cons_append, List.cons_append, spanWord_of_escape, ih paired, split]
  | case3 d more noPair wordChar word after split ih =>
      have plain : d ≠ '\\' := by
        rintro rfl
        cases more with
        | nil => cases paired
        | cons head more => exact noPair head more rfl rfl
      rw [endsUnpaired_cons plain] at paired
      rw [List.cons_append, spanWord_of_wordChar plain wordChar, ih paired, split]
  | case4 d more noPair noWord =>
      exact spanWord_of_stop (by simpa using noWord) (more ++ c :: rest)

theorem endsUnpaired_spanWord {chars : List Char} (paired : endsUnpaired chars = false) :
    endsUnpaired (spanWord chars).2 = false := by
  fun_induction spanWord chars with
  | case1 => rfl
  | case2 d more word after split ih =>
      rw [split] at ih
      exact ih paired
  | case3 d more noPair wordChar word after split ih =>
      rw [split] at ih
      cases more with
      | nil =>
          obtain ⟨-, rfl⟩ := Prod.mk.inj split
          rfl
      | cons head more =>
          have plain : d ≠ '\\' := fun escape => noPair head more escape rfl
          rw [endsUnpaired_cons plain] at paired
          exact ih paired
  | case4 d more noPair noWord => exact paired

theorem tokenAt_append_stop {c d : Char} {front : List Char} (stops : isWordChar c = false)
    (paired : endsUnpaired (d :: front) = false)
    (ends : (tokenAt d front).2 = [] → (tokenAt d front).1.kind ≠ .comment ∧
      (Text.isBlank c = true → (tokenAt d front).1.kind ≠ .blank)) (rest : List Char) :
    tokenAt d (front ++ c :: rest) = ((tokenAt d front).1, (tokenAt d front).2 ++ c :: rest) := by
  unfold tokenAt at ends ⊢
  split
  · rfl
  · rename_i noMark
    simp only [noMark] at ends
    split
    · rename_i percent
      simp only [if_pos percent] at ends
      -- A comment that runs to the end would take the stop, so it is excluded there.
      have goesOn : front.dropWhile isCommentChar = [] → isCommentChar c = false := fun ended =>
        absurd rfl (ends ended).1
      rw [takeWhile_append_of_stop goesOn, dropWhile_append_of_stop goesOn]
    · rename_i noComment
      simp only [if_neg noComment] at ends
      split
      · rename_i blank
        simp only [if_pos blank] at ends
        have goesOn : front.dropWhile Text.isBlank = [] → Text.isBlank c = false := by
          intro ended
          by_contra alsoBlank
          exact (ends ended).2 (by simpa using alsoBlank) rfl
        rw [takeWhile_append_of_stop goesOn, dropWhile_append_of_stop goesOn]
      · rw [← List.cons_append, spanWord_append_stop stops rest paired]

theorem endsUnpaired_tokenAt {d : Char} {front : List Char}
    (paired : endsUnpaired (d :: front) = false) : endsUnpaired (tokenAt d front).2 = false := by
  unfold tokenAt
  split
  · rename_i kind found
    have plain : d ≠ '\\' := ne_escape_of_stop (by simp [isWordChar, found])
    rwa [endsUnpaired_cons plain] at paired
  · split
    · -- A comment can hold backslashes, but the line end behind it starts the pairing anew.
      rename_i noMark percent
      have plain : d ≠ '\\' := ne_escape_of_stop (by simp [isWordChar, percent])
      have whole := List.takeWhile_append_dropWhile (p := isCommentChar) (l := front)
      rw [endsUnpaired_cons plain, ← whole] at paired
      cases after : front.dropWhile isCommentChar with
      | nil => rfl
      | cons next more =>
          have lineEnd : isCommentChar next = false := by
            have first := List.head?_dropWhile_not isCommentChar front
            simpa [after] using first
          have noEscape : next ≠ '\\' := by
            rintro rfl
            simp [isCommentChar] at lineEnd
          rwa [after, endsUnpaired_append_cons noEscape] at paired
    · split
      · rename_i noMark noComment blank
        have plain : d ≠ '\\' := ne_escape_of_stop (by simp [isWordChar, blank])
        have whole := List.takeWhile_append_dropWhile (p := Text.isBlank) (l := front)
        rw [endsUnpaired_cons plain, ← whole, endsUnpaired_append_of_blank] at paired
        · exact paired
        · exact List.all_eq_true.mp List.all_takeWhile
      · exact endsUnpaired_spanWord paired

/-- The tokens of a text are those of two parts of it, if the second part starts with a character
that cannot stand in a word and that the last token of the first part cannot take. -/
theorem lexChars_append_stop {c : Char} {front : List Char} (stops : isWordChar c = false)
    (paired : endsUnpaired front = false)
    (ends : ∀ last ∈ (lexChars front).getLast?, last.kind ≠ .comment ∧
      (Text.isBlank c = true → last.kind ≠ .blank)) (rest : List Char) :
    lexChars (front ++ c :: rest) = lexChars front ++ lexChars (c :: rest) := by
  fun_induction lexChars front with
  | case1 => rfl
  | case2 d front ih =>
      have here : (tokenAt d front).2 = [] → (tokenAt d front).1.kind ≠ .comment ∧
          (Text.isBlank c = true → (tokenAt d front).1.kind ≠ .blank) := by
        intro ended
        exact ends _ (by simp [ended, lexChars])
      have there : ∀ last ∈ (lexChars (tokenAt d front).2).getLast?, last.kind ≠ .comment ∧
          (Text.isBlank c = true → last.kind ≠ .blank) := by
        intro last isLast
        exact ends last (by simp [List.getLast?_cons, Option.mem_def.mp isLast])
      rw [List.cons_append, lexChars, tokenAt_append_stop stops paired here,
        ih (endsUnpaired_tokenAt paired) there, List.cons_append]

end TexWorkspace.Bib
