import Mathlib.Data.List.Infix
import TexWorkspace.Proofs.Bib.Lossless
import TexWorkspace.Text.Cut

set_option autoImplicit false

/-!
Tokens in a row, taken out of their text. Where a token ends depends on the one character behind it
at most, and at the end of a text a token ends as well; so a stretch of a text that starts and ends
between tokens is cut into the same tokens when it stands alone.
-/

namespace TexWorkspace.Bib

variable {c : Char} {after chars : List Char}

/-- A run ends where it did if what stands behind it starts alike or is cut off altogether. -/
theorem span_append_front {own : Char → Bool} {rest : List Char}
    (front : after <+: rest.dropWhile own) :
    (rest.takeWhile own ++ after).takeWhile own = rest.takeWhile own ∧
      (rest.takeWhile own ++ after).dropWhile own = after := by
  have all : ∀ d ∈ rest.takeWhile own, own d = true := List.all_eq_true.mp List.all_takeWhile
  refine Text.takeWhile_append_of_ends all ?_
  intro d first
  obtain ⟨left, split⟩ := front
  have stop := List.head?_dropWhile_not own rest
  rw [← split, List.head?_append, Option.mem_def.mp first] at stop
  exact stop

theorem spanWord_append_front (front : after <+: (spanWord chars).2) :
    spanWord ((spanWord chars).1 ++ after) = ((spanWord chars).1, after) := by
  fun_induction spanWord chars with
  | case1 =>
      obtain rfl := List.prefix_nil.mp front
      rfl
  | case2 d rest word left split ih =>
      rw [split] at ih
      rw [List.cons_append, List.cons_append, spanWord_of_escape, ih front]
  | case3 d rest noPair wordChar word left split ih =>
      rw [split] at ih
      by_cases escape : d = '\\'
      · -- A backslash that takes nothing along is the last character of the text.
        cases rest with
        | nil =>
            obtain ⟨rfl, rfl⟩ := Prod.mk.inj split
            obtain rfl := List.prefix_nil.mp front
            subst escape
            rfl
        | cons head rest => exact absurd rfl (noPair head rest escape)
      · rw [List.cons_append, spanWord_of_wordChar escape wordChar, ih front]
  | case4 d rest noPair noWord =>
      cases after with
      | nil => rfl
      | cons head after =>
          obtain ⟨left, same⟩ := front
          obtain ⟨rfl, -⟩ := List.cons.inj same
          exact spanWord_of_stop (by simpa using noWord) after

/-- A token that starts a text also starts every part of it that goes on to the end of the token. -/
theorem tokenAt_append_front {rest own : List Char}
    (text : (tokenAt c rest).1.text.toList = c :: own) (front : after <+: (tokenAt c rest).2) :
    tokenAt c (own ++ after) = ((tokenAt c rest).1, after) := by
  unfold tokenAt at text front ⊢
  split
  · rename_i kind found
    simp only [found] at text ⊢
    obtain rfl : [] = own := by simpa using text
    rfl
  · rename_i noMark
    simp only [noMark] at text front ⊢
    split
    · rename_i percent
      simp only [if_pos percent] at text front ⊢
      obtain rfl : rest.takeWhile isCommentChar = own := by simpa using text
      obtain ⟨run, left⟩ := span_append_front front
      rw [run, left]
    · rename_i noComment
      simp only [if_neg noComment] at text front ⊢
      split
      · rename_i blank
        simp only [if_pos blank] at text front ⊢
        obtain rfl : rest.takeWhile Text.isBlank = own := by simpa using text
        obtain ⟨run, left⟩ := span_append_front front
        rw [run, left]
      · rename_i noBlank
        simp only [if_neg noBlank] at text front ⊢
        have word : (spanWord (c :: rest)).1 = c :: own := by simpa using text
        rw [← List.cons_append, ← word, spanWord_append_front front]

/-- What is left of a text behind some of its tokens has the other tokens. -/
theorem exists_of_lexChars_append {before behind : List Token}
    (whole : lexChars chars = before ++ behind) : ∃ rest, lexChars rest = behind := by
  induction before generalizing chars with
  | nil => exact ⟨chars, whole⟩
  | cons token before ih =>
      cases chars with
      | nil =>
          rw [lexChars] at whole
          cases whole
      | cons c rest =>
          rw [lexChars, List.cons_append] at whole
          exact ih (List.cons.inj whole).2

theorem lexChars_front {run behind : List Token} (whole : lexChars chars = run ++ behind) :
    lexChars (run.flatMap fun token => token.text.toList) = run := by
  induction run generalizing chars with
  | nil => rw [List.flatMap_nil, lexChars]
  | cons token run ih =>
      cases chars with
      | nil =>
          rw [lexChars] at whole
          cases whole
      | cons c rest =>
          rw [lexChars, List.cons_append] at whole
          obtain ⟨rfl, others⟩ := List.cons.inj whole
          have front : (run.flatMap fun token => token.text.toList) <+: (tokenAt c rest).2 := by
            rw [← flatMap_lexChars (tokenAt c rest).2, others, List.flatMap_append]
            exact List.prefix_append ..
          have starts := tokenAt_append c rest
          cases text : (tokenAt c rest).1.text.toList with
          | nil => exact absurd text (tokenAt_ne_nil c rest)
          | cons first own =>
              rw [text, List.cons_append] at starts
              obtain ⟨rfl, -⟩ := List.cons.inj starts
              rw [List.flatMap_cons, text, List.cons_append, lexChars,
                tokenAt_append_front text front, ih others]

/-- Tokens that stand in a row somewhere in a text are the tokens of what they say together. -/
theorem lex_join_of_row {text : String} {before run behind : List Token}
    (whole : lex text = before ++ run ++ behind) :
    lex (String.join (run.map Token.text)) = run := by
  rw [lex, List.append_assoc] at whole
  obtain ⟨rest, own⟩ := exists_of_lexChars_append whole
  rw [lex, String.toList_join, List.flatMap_map]
  exact lexChars_front own

end TexWorkspace.Bib
