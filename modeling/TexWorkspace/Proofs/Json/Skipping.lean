import TexWorkspace.Proofs.Json.Grammar
import TexWorkspace.Proofs.Json.Words

set_option autoImplicit false

/-!
Passing over values. Main statement: a well-formed value is passed over, however deep it is, and
what stands behind it is left.
-/

namespace TexWorkspace.Json

/-- The text starts with a word that does not end a list. -/
def Visible (written : List Char) : Prop :=
  ∃ c more, written = c :: more ∧ isBlank c = false ∧ c ≠ ']'

/-- The text is passed over as a value. -/
structure Skipped (written : List Char) : Prop where
  visible : Visible written
  passes : ∀ frames chars rest, Ends rest → skipBlanks chars = written ++ rest →
    skip .value frames chars = skip .nextItem frames rest

/-! ## Blanks and what can stand behind a value -/

theorem Blanks.nil : Blanks [] := by
  intro c member
  cases member

theorem Blanks.singleton {c : Char} (blank : isBlank c = true) : Blanks [c] := by
  intro d member
  obtain rfl := List.mem_singleton.mp member
  exact isBlank_iff.mp blank

theorem Blanks.isBlank {run : List Char} (blanks : Blanks run) : ∀ c ∈ run, isBlank c = true :=
  fun c member => isBlank_iff.mpr (blanks c member)

theorem Blanks.skip_append {run : List Char} (blanks : Blanks run) (rest : List Char) :
    skipBlanks (run ++ rest) = skipBlanks rest :=
  skipBlanks_append blanks.isBlank rest

theorem Blanks.skip_word {run : List Char} (blanks : Blanks run) {c : Char}
    (visible : Json.isBlank c = false) (rest : List Char) :
    skipBlanks (run ++ c :: rest) = c :: rest := by
  rw [blanks.skip_append, skipBlanks_cons visible]

theorem Visible.skipBlanks_append {written : List Char} (visible : Visible written)
    (rest : List Char) : skipBlanks (written ++ rest) = written ++ rest := by
  obtain ⟨c, more, rfl, noBlank, -⟩ := visible
  exact skipBlanks_cons noBlank (more ++ rest)

theorem Visible.length_lt {written : List Char} (visible : Visible written)
    (before rest : List Char) : rest.length < (before ++ (written ++ rest)).length := by
  obtain ⟨c, more, rfl, -, -⟩ := visible
  simp only [List.length_append, List.length_cons]
  omega

theorem Blanks.ends_append {run rest : List Char} (blanks : Blanks run) (ends : Ends rest) :
    Ends (run ++ rest) := by
  cases run with
  | nil => exact ends
  | cons c run =>
      intro d first
      obtain rfl := Option.some.inj first
      exact .inl (blanks.isBlank c List.mem_cons_self)

theorem ends_cons {c : Char} (ends : c = ',' ∨ c = ']' ∨ c = '}') (rest : List Char) :
    Ends (c :: rest) := by
  intro d first
  obtain rfl := Option.some.inj first
  exact .inr ends

theorem Frame.closer_ends (frame : Frame) :
    frame.closer = ',' ∨ frame.closer = ']' ∨ frame.closer = '}' := by
  cases frame <;> decide

theorem Frame.closer_visible (frame : Frame) : isBlank frame.closer = false := by
  cases frame <;> decide

theorem Frame.opener_visible (frame : Frame) :
    isBlank frame.opener = false ∧ frame.opener ≠ ']' := by
  cases frame <;> decide

theorem More.ends {frame : Frame} {α : Type} {Item : α → List Char → Prop} {values : List α}
    {written : List Char} (more : More frame Item values written) (rest : List Char) :
    Ends (written ++ rest) := by
  cases more with
  | close blanks =>
      rw [List.append_assoc]
      exact blanks.ends_append (ends_cons frame.closer_ends _)
  | next blanks _ _ =>
      rw [List.append_assoc]
      exact blanks.ends_append (ends_cons (.inl rfl) _)

theorem Framed.visible {frame : Frame} {α : Type} {Item : α → List Char → Prop} {values : List α}
    {written : List Char} (framed : Framed frame Item values written) : Visible written := by
  obtain ⟨visible, noEnd⟩ := frame.opener_visible
  cases framed with
  | empty _ => exact ⟨frame.opener, _, rfl, visible, noEnd⟩
  | filled _ _ => exact ⟨frame.opener, _, rfl, visible, noEnd⟩

/-! ## Steps -/

section Steps

variable {frame : Frame} {frames : List Frame} {chars rest after : List Char} {c : Char}

theorem skip_frame (ahead : skipBlanks chars = frame.opener :: rest) :
    skip .value frames chars = skip (.firstItem frame) frames rest := by
  conv_lhs => rw [skip]
  split
  · rename_i empty
    cases ahead.symm.trans empty
  · rename_i d others found
    obtain ⟨rfl, rfl⟩ := List.cons.inj (ahead.symm.trans found)
    cases frame with
    | list => exact if_pos rfl
    | object => exact (if_neg (by decide)).trans (if_pos rfl)

theorem skip_scalar (ahead : skipBlanks chars = c :: rest) (noList : c ≠ '[') (noObject : c ≠ '{')
    (read : skipScalar c rest = .ok after) :
    skip .value frames chars = skip .nextItem frames after := by
  conv_lhs => rw [skip]
  split
  · rename_i empty
    cases ahead.symm.trans empty
  · rename_i d others found
    obtain ⟨rfl, rfl⟩ := List.cons.inj (ahead.symm.trans found)
    rw [if_neg noList, if_neg noObject]
    split
    · rename_i failed
      cases read.symm.trans failed
    · rename_i left same
      cases read.symm.trans same
      rfl

theorem skip_firstItem_close (ahead : skipBlanks chars = frame.closer :: rest) :
    skip (.firstItem frame) frames chars = skip .nextItem frames rest := by
  conv_lhs => rw [skip]
  split
  · rename_i empty
    cases ahead.symm.trans empty
  · rename_i d others found
    obtain ⟨rfl, rfl⟩ := List.cons.inj (ahead.symm.trans found)
    rw [if_pos rfl]

theorem skip_firstItem (ahead : skipBlanks chars = c :: rest) (noEnd : c ≠ frame.closer)
    (read : skipItemStart frame (c :: rest) = .ok after) :
    skip (.firstItem frame) frames chars = skip .value (frame :: frames) after := by
  conv_lhs => rw [skip]
  split
  · rename_i empty
    cases ahead.symm.trans empty
  · rename_i d others found
    obtain ⟨rfl, rfl⟩ := List.cons.inj (ahead.symm.trans found)
    rw [if_neg noEnd]
    split
    · rename_i failed
      cases read.symm.trans failed
    · rename_i left same
      cases read.symm.trans same
      rfl

theorem skip_nextItem_close (ahead : skipBlanks chars = frame.closer :: rest) :
    skip .nextItem (frame :: frames) chars = skip .nextItem frames rest := by
  conv_lhs => rw [skip]
  split
  · rename_i empty
    cases ahead.symm.trans empty
  · rename_i d others found
    obtain ⟨rfl, rfl⟩ := List.cons.inj (ahead.symm.trans found)
    rw [if_neg (by cases frame <;> decide), if_pos rfl]

theorem skip_nextItem_comma (ahead : skipBlanks chars = ',' :: rest)
    (read : skipItemStart frame rest = .ok after) :
    skip .nextItem (frame :: frames) chars = skip .value (frame :: frames) after := by
  conv_lhs => rw [skip]
  split
  · rename_i empty
    cases ahead.symm.trans empty
  · rename_i d others found
    obtain ⟨rfl, rfl⟩ := List.cons.inj (ahead.symm.trans found)
    rw [if_pos rfl]
    split
    · rename_i failed
      cases read.symm.trans failed
    · rename_i left same
      cases read.symm.trans same
      rfl

end Steps

/-! ## Words -/

theorem hexValue?_of_hexDigit {c : Char} {n : Nat} (digit : HexDigit c n) :
    hexValue? c = some n := by
  have decimal : ∀ n < 10, hexValue? (Char.ofNat ('0'.toNat + n)) = some n := by decide
  have lower : ∀ n < 6, hexValue? (Char.ofNat ('a'.toNat + n)) = some (10 + n) := by decide
  have upper : ∀ n < 6, hexValue? (Char.ofNat ('A'.toNat + n)) = some (10 + n) := by decide
  cases digit with
  | decimal small => exact decimal _ small
  | lower small => exact lower _ small
  | upper small => exact upper _ small

theorem CodeUnit.hexUnit_append {digits : List Char} {unit : Nat} (formed : CodeUnit digits unit)
    (rest : List Char) : hexUnit (digits ++ rest) = .ok (unit, rest) := by
  cases formed with
  | digits first second third fourth =>
      simp only [List.cons_append, List.nil_append, hexUnit, hexValue?_of_hexDigit first,
        hexValue?_of_hexDigit second, hexValue?_of_hexDigit third, hexValue?_of_hexDigit fourth]

theorem simpleEscape?_of_mem {mark c : Char} (listed : (mark, c) ∈ shortEscapes) :
    mark ≠ 'u' ∧ simpleEscape? mark = some c := by
  simp only [shortEscapes, List.mem_cons, Prod.mk.injEq, List.not_mem_nil, or_false] at listed
  rcases listed with ⟨rfl, rfl⟩ | ⟨rfl, rfl⟩ | ⟨rfl, rfl⟩ | ⟨rfl, rfl⟩ | ⟨rfl, rfl⟩ | ⟨rfl, rfl⟩ |
    ⟨rfl, rfl⟩ | ⟨rfl, rfl⟩ <;> decide

theorem skipString_escape {chars after : List Char} (read : skipEscape chars = .ok after) :
    skipString ('\\' :: chars) = skipString after := by
  rw [skipString, if_neg (by decide), if_pos rfl]
  split
  · rename_i failed
    cases read.symm.trans failed
  · rename_i left same
    cases read.symm.trans same
    rfl

theorem RawBody.skipString_append {body : List Char} (raw : RawBody body) (rest : List Char) :
    skipString (body ++ '"' :: rest) = .ok rest := by
  induction raw with
  | nil => rw [List.nil_append, skipString, if_pos rfl]
  | plain unescaped _ ih =>
      rw [List.cons_append, skipString, if_neg unescaped.noQuote, if_neg unescaped.noEscape,
        if_neg (Nat.not_lt.mpr unescaped.noControl), ih]
  | @short mark c tail listed _ ih =>
      obtain ⟨noUnit, meant⟩ := simpleEscape?_of_mem listed
      have read : skipEscape (mark :: (tail ++ '"' :: rest)) = .ok (tail ++ '"' :: rest) := by
        rw [skipEscape, meant]
        · rfl
        · exact noUnit
      exact (skipString_escape read).trans ih
  | @unit digits tail unit formed _ ih =>
      have read : skipEscape ('u' :: (digits ++ (tail ++ '"' :: rest))) =
          .ok (tail ++ '"' :: rest) := by
        rw [skipEscape, formed.hexUnit_append]
        rfl
      rw [List.cons_append, List.cons_append, List.append_assoc]
      exact (skipString_escape read).trans ih

/-! ## Numbers -/

theorem digit_ne {c d : Char} (isDigit : c.isDigit = true) (other : d.isDigit = false) : c ≠ d := by
  rintro rfl
  cases isDigit.symm.trans other

theorem Digits.exists_head {run : List Char} (digits : Digits run) :
    ∃ c more, run = c :: more ∧ c.isDigit = true := by
  obtain ⟨c, more, rfl⟩ := List.exists_cons_of_ne_nil digits.1
  exact ⟨c, more, rfl, digits.2 c List.mem_cons_self⟩

theorem dropSign_append {sign digits : List Char} (isSign : sign ∈ [[], ['+'], ['-']])
    (formed : Digits digits) (rest : List Char) :
    dropSign (sign ++ (digits ++ rest)) = digits ++ rest := by
  obtain ⟨c, more, rfl, isDigit⟩ := formed.exists_head
  simp only [List.mem_cons, List.not_mem_nil, or_false] at isSign
  rcases isSign with rfl | rfl | rfl
  · have noPlus := digit_ne isDigit (show '+'.isDigit = false by decide)
    have noMinus := digit_ne isDigit (show '-'.isDigit = false by decide)
    simp [dropSign, noPlus, noMinus]
  · rfl
  · rfl

theorem skipExponent_append {sign digits rest : List Char} (isSign : sign ∈ [[], ['+'], ['-']])
    (formed : Digits digits) (ends : Ends rest) :
    skipExponent (sign ++ (digits ++ rest)) = .ok rest := by
  have stops : ∀ c ∈ rest.head?, c.isDigit = false := fun c first => (ends.head_ne c first).1
  have left := (Text.takeWhile_append_of_ends formed.2 stops).2
  obtain ⟨c, more, same, isDigit⟩ := formed.exists_head
  have head : ((digits ++ rest).head?.map Char.isDigit).getD false = true := by
    simp [same, isDigit]
  rw [skipExponent, dropSign_append isSign formed, if_pos head, left]

section Numbers

variable {written fraction rest : List Char}

theorem ExponentText.skipRealEnd_append (exponent : ExponentText written) (ends : Ends rest) :
    skipRealEnd (written ++ rest) = .ok rest := by
  cases exponent with
  | none =>
      rw [List.nil_append]
      unfold skipRealEnd
      split
      · exact absurd rfl (ends.head_ne 'e' rfl).2.2.1
      · exact absurd rfl (ends.head_ne 'E' rfl).2.2.2
      · rfl
  | some isMark isSign formed =>
      rw [List.cons_append, List.append_assoc]
      rcases isMark with rfl | rfl
      · exact skipExponent_append isSign formed ends
      · exact skipExponent_append isSign formed ends

theorem ExponentText.head_ne (exponent : ExponentText written) (ends : Ends rest) :
    ∀ c ∈ (written ++ rest).head?, c.isDigit = false ∧ c ≠ '.' := by
  intro c first
  cases exponent with
  | none =>
      obtain ⟨noDigit, noPoint, -⟩ := ends.head_ne c first
      exact ⟨noDigit, noPoint⟩
  | some isMark _ _ =>
      obtain rfl := Option.some.inj first
      rcases isMark with rfl | rfl <;> decide

theorem FractionText.head_ne (fractional : FractionText fraction)
    (exponent : ExponentText written) (ends : Ends rest) :
    ∀ c ∈ (fraction ++ (written ++ rest)).head?, c.isDigit = false := by
  intro c first
  cases fractional with
  | none => exact (exponent.head_ne ends c first).1
  | some _ =>
      obtain rfl := Option.some.inj first
      decide

/-- The digits in front are passed over first; what follows them is no digit. -/
theorem skipNumber_append {whole : List Char} (isWhole : WholeText whole)
    (fractional : FractionText fraction) (exponent : ExponentText written) (ends : Ends rest) :
    skipNumber (whole ++ (fraction ++ (written ++ rest))) = .ok rest := by
  have digits : ∀ c ∈ whole, c.isDigit = true := by
    cases isWhole with
    | zero => simp
    | positive _ all => exact all
  obtain ⟨taken, left⟩ := Text.takeWhile_append_of_ends digits (fractional.head_ne exponent ends)
  unfold skipNumber
  rw [taken, left]
  obtain ⟨c, more, rfl, single⟩ : ∃ c more, whole = c :: more ∧
      (c = '0' && !more.isEmpty) = false := by
    cases isWhole with
    | zero => exact ⟨'0', [], rfl, rfl⟩
    | positive noZero _ => exact ⟨_, _, rfl, by simp [noZero]⟩
  simp only [single, Bool.false_eq_true, if_false]
  cases fractional with
  | none =>
      rw [List.nil_append]
      split
      · rename_i point
        exact absurd rfl (exponent.head_ne ends '.' (by rw [point]; rfl)).2
      · exact exponent.skipRealEnd_append ends
  | @some digits formed =>
      have stops : ∀ c ∈ (written ++ rest).head?, c.isDigit = false :=
        fun c first => (exponent.head_ne ends c first).1
      have behind := (Text.takeWhile_append_of_ends formed.2 stops).2
      obtain ⟨d, others, same, isDigit⟩ := formed.exists_head
      have head : ((digits ++ (written ++ rest)).head?.map Char.isDigit).getD false = true := by
        simp [same, isDigit]
      rw [List.cons_append]
      simp only [head, if_true, behind]
      exact exponent.skipRealEnd_append ends

/-- A number starts with a digit or with its sign. -/
theorem NumberText.skipScalar_append (number : NumberText written) :
    ∃ c more, written = c :: more ∧ (c = '-' ∨ c.isDigit = true) ∧
      ∀ rest, Ends rest → skipScalar c (more ++ rest) = .ok rest := by
  cases number with
  | @number sign whole fraction exponent isSign isWhole fractional scaled =>
      simp only [List.mem_cons, List.not_mem_nil, or_false] at isSign
      rcases isSign with rfl | rfl
      · obtain ⟨c, more, rfl, isDigit⟩ : ∃ c more, whole = c :: more ∧ c.isDigit = true := by
          cases isWhole with
          | zero => exact ⟨'0', [], rfl, by decide⟩
          | positive _ all => exact ⟨_, _, rfl, all _ List.mem_cons_self⟩
        refine ⟨c, more ++ (fraction ++ exponent), rfl, .inr isDigit, ?_⟩
        intro rest ends
        have other : skipScalar c (more ++ (fraction ++ exponent) ++ rest) =
            skipNumber (c :: (more ++ (fraction ++ exponent) ++ rest)) := by
          unfold skipScalar
          split
          any_goals cases isDigit
          exact if_pos isDigit
        rw [other]
        simpa using skipNumber_append isWhole fractional scaled ends
      · refine ⟨'-', whole ++ (fraction ++ exponent), rfl, .inl rfl, ?_⟩
        intro rest ends
        have minus : skipScalar '-' (whole ++ (fraction ++ exponent) ++ rest) =
            skipNumber (whole ++ (fraction ++ exponent) ++ rest) := rfl
        rw [minus]
        simpa using skipNumber_append isWhole fractional scaled ends

end Numbers

/-! ## Values -/

theorem skipped_of_scalar {c : Char} {more : List Char} (visible : isBlank c = false)
    (noEnd : c ≠ ']') (noFrame : c ≠ '[' ∧ c ≠ '{')
    (read : ∀ rest, Ends rest → skipScalar c (more ++ rest) = .ok rest) :
    Skipped (c :: more) where
  visible := ⟨c, more, rfl, visible, noEnd⟩
  passes _ _ rest ends ahead := skip_scalar ahead noFrame.1 noFrame.2 (read rest ends)

theorem skipped_literal {word : String} (isLiteral : word ∈ ["null", "true", "false"]) :
    Skipped word.toList := by
  simp only [List.mem_cons, List.not_mem_nil, or_false] at isLiteral
  rcases isLiteral with rfl | rfl | rfl
  all_goals exact skipped_of_scalar (by decide) (by decide) (by decide) fun _ _ => rfl

theorem skipped_number {written : List Char} (number : NumberText written) : Skipped written := by
  obtain ⟨c, more, rfl, starts, read⟩ := number.skipScalar_append
  have ne : ∀ d : Char, d ≠ '-' → d.isDigit = false → c ≠ d := by
    intro d noSign noDigit
    rcases starts with rfl | isDigit
    · exact noSign.symm
    · exact digit_ne isDigit noDigit
  have visible : isBlank c = false := by
    rw [Bool.eq_false_iff]
    intro blank
    rcases isBlank_iff.mp blank with same | same | same | same
    all_goals exact ne _ (by decide) (by decide) same
  have noFrame := And.intro (ne '[' (by decide) (by decide)) (ne '{' (by decide) (by decide))
  exact skipped_of_scalar visible (ne ']' (by decide) (by decide)) noFrame read

theorem skipped_string {body : List Char} (raw : RawBody body) :
    Skipped ('"' :: (body ++ ['"'])) := by
  refine skipped_of_scalar (by decide) (by decide) (by decide) ?_
  intro rest _
  rw [List.append_assoc]
  exact raw.skipString_append rest

section Frames

variable {frame : Frame} {head value : List Char}

/-- Behind what stands in front of it, the value is up. -/
theorem RawHead.skipItemStart_append (raw : RawHead frame head) {chars rest : List Char}
    (ahead : skipBlanks chars = skipBlanks (head ++ rest)) :
    ∃ after, skipItemStart frame chars = .ok after ∧ skipBlanks after = skipBlanks rest := by
  cases raw with
  | list blanks => exact ⟨chars, rfl, ahead.trans (blanks.skip_append rest)⟩
  | @object before body after blanks beforeBlanks raw afterBlanks blanksBlanks =>
      refine ⟨blanks ++ rest, ?_, blanksBlanks.skip_append rest⟩
      have key : skipBlanks chars = '"' :: (body ++ '"' :: (after ++ ':' :: (blanks ++ rest))) := by
        rw [ahead]
        simpa using beforeBlanks.skip_word (show isBlank '"' = false by decide)
          (body ++ '"' :: (after ++ ':' :: (blanks ++ rest)))
      have colon : colon (after ++ ':' :: (blanks ++ rest)) = .ok (blanks ++ rest) := by
        rw [Json.colon, afterBlanks.skip_word (by decide)]
        rfl
      rw [skipItemStart, skipKey, key]
      exact (congrArg (·.bind Json.colon) (raw.skipString_append _)).trans colon

theorem RawHead.exists_first (raw : RawHead frame head) (visible : Visible value)
    (rest : List Char) :
    ∃ c ahead, skipBlanks (head ++ (value ++ rest)) = c :: ahead ∧ isBlank c = false ∧
      c ≠ frame.closer := by
  cases raw with
  | list blanks =>
      obtain ⟨c, more, rfl, noBlank, noEnd⟩ := visible
      exact ⟨c, more ++ rest, blanks.skip_word noBlank _, noBlank, noEnd⟩
  | @object before body after _ blanks _ _ _ =>
      have noEnd : '"' ≠ Frame.object.closer := by decide
      rw [List.append_assoc]
      exact ⟨'"', _, blanks.skip_word (by decide) _, by decide, noEnd⟩

theorem skip_more {values : List (List Char)} {written rest : List Char}
    (skipped : ∀ value ∈ values, Skipped value)
    (more : More frame (RawText frame) values written) (frames : List Frame) :
    skip .nextItem (frame :: frames) (written ++ rest) = skip .nextItem frames rest := by
  -- The values are passed over inside the frame, so each is asked for with all open frames.
  induction more with
  | close blanks =>
      rw [List.append_assoc]
      exact skip_nextItem_close (blanks.skip_word frame.closer_visible rest)
  | @next blanks item later value values isBlank spelled more ih =>
      obtain ⟨first, others⟩ := List.forall_mem_cons.mp skipped
      obtain @⟨head, raw⟩ := spelled
      have comma : skipBlanks (blanks ++ ',' :: (head ++ value ++ later) ++ rest) =
          ',' :: (head ++ (value ++ (later ++ rest))) := by
        simpa using isBlank.skip_word (show Json.isBlank ',' = false by decide)
          (head ++ (value ++ (later ++ rest)))
      have same : skipBlanks (head ++ (value ++ (later ++ rest))) =
          skipBlanks (head ++ (value ++ (later ++ rest))) := rfl
      obtain ⟨after, start, ahead⟩ := raw.skipItemStart_append same
      rw [first.visible.skipBlanks_append] at ahead
      rw [skip_nextItem_comma comma start, first.passes _ _ _ (more.ends rest) ahead, ih others]

theorem skipped_framed {values : List (List Char)} {written : List Char}
    (skipped : ∀ value ∈ values, Skipped value)
    (framed : Framed frame (RawText frame) values written) : Skipped written := by
  refine ⟨framed.visible, ?_⟩
  intro frames chars rest ends ahead
  cases framed with
  | empty blanks =>
      rw [List.cons_append, List.append_assoc] at ahead
      rw [skip_frame ahead]
      exact skip_firstItem_close (blanks.skip_word frame.closer_visible rest)
  | @filled item later value values spelled more =>
      obtain ⟨first, others⟩ := List.forall_mem_cons.mp skipped
      obtain @⟨head, raw⟩ := spelled
      obtain ⟨c, behind, word, visible, noEnd⟩ := raw.exists_first first.visible (later ++ rest)
      have same : skipBlanks (c :: behind) = skipBlanks (head ++ (value ++ (later ++ rest))) := by
        rw [word, skipBlanks_cons visible]
      obtain ⟨after, start, valueAhead⟩ := raw.skipItemStart_append same
      rw [first.visible.skipBlanks_append] at valueAhead
      simp only [List.cons_append, List.append_assoc] at ahead
      rw [skip_frame ahead, skip_firstItem word noEnd start,
        first.passes _ _ _ (more.ends rest) valueAhead, skip_more others more]

end Frames

/-- A well-formed value is passed over, and what stands behind it is left. -/
theorem WellFormed.skipped {written : List Char} (formed : WellFormed written) :
    Skipped written := by
  induction formed with
  | literal isLiteral => exact skipped_literal isLiteral
  | number number => exact skipped_number number
  | string raw => exact skipped_string raw
  | framed _ framed ih => exact skipped_framed ih framed

end TexWorkspace.Json
