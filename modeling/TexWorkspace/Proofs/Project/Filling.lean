import TexWorkspace.Project.Template

set_option autoImplicit false

/-!
Filling in a template. The template alone says what is filled in: in one pass over it, from left to
right, every mark gives way to its value, and the values are not searched. Replacing one mark after
the other comes to the same, unless a value brings about a mark that is replaced later. Main
statement: where none is brought about the template is filled in as it should be, and for no other
name and text is it for every date and user.
-/

namespace TexWorkspace.Project

/-! ## Marks -/

/-- A mark of a template. -/
inductive Mark where
  | projectName
  | date
  | user
  deriving DecidableEq, Repr

namespace Mark

/-- A mark as it is written. -/
def text : Mark → List Char
  | .projectName => projectNameMark.toList
  | .date => dateMark.toList
  | .user => userMark.toList

/-- The mark that a text begins with, if it begins with one. -/
def atFront? (text : List Char) : Option Mark :=
  [projectName, date, user].find? fun mark => mark.text.isPrefixOf text

theorem text_eq (mark : Mark) : ∃ body, mark.text = '$' :: body ∧ '$' ∉ body := by
  cases mark with
  | projectName => exact ⟨_, rfl, by decide⟩
  | date => exact ⟨_, rfl, by decide⟩
  | user => exact ⟨_, rfl, by decide⟩

theorem text_ne_nil (mark : Mark) : mark.text ≠ [] := by
  obtain ⟨body, written, -⟩ := mark.text_eq
  rw [written]
  exact List.cons_ne_nil _ _

theorem eq_of_prefix {mark other : Mark} {text : List Char} (first : mark.text <+: text)
    (second : other.text <+: text) : mark = other := by
  have apart : ∀ left right : Mark, left.text <+: right.text → left = right := by
    intro left right
    cases left <;> cases right <;> decide
  rcases List.prefix_or_prefix_of_prefix first second with shorter | shorter
  · exact apart mark other shorter
  · exact (apart other mark shorter).symm

end Mark

/-! ## One pass -/

/-- A text with every mark replaced by its value, in one pass from left to right. A mark with itself
for its value stays. -/
def fillIn (value : Mark → List Char) (text : List Char) : List Char :=
  match text with
  | [] => []
  | c :: rest =>
      match Mark.atFront? (c :: rest) with
      | some mark => value mark ++ fillIn value (rest.drop (mark.text.length - 1))
      | none => c :: fillIn value rest
termination_by text.length
decreasing_by
  · simp only [List.length_drop, List.length_cons]
    omega
  · simp

/-- Every text is read in this way: mark by mark, and character by character where there is none. -/
inductive Template : List Char → Prop where
  | nil : Template []
  | mark {rest : List Char} (mark : Mark) : Template rest → Template (mark.text ++ rest)
  | other {c : Char} {rest : List Char} :
      (∀ mark : Mark, ¬ mark.text <+: c :: rest) → Template rest → Template (c :: rest)

theorem Mark.atFront?_append (mark : Mark) (rest : List Char) :
    Mark.atFront? (mark.text ++ rest) = some mark := by
  cases found : Mark.atFront? (mark.text ++ rest) with
  | none =>
      have unmarked := List.find?_eq_none.mp found mark (by cases mark <;> decide)
      exact absurd (List.isPrefixOf_iff_prefix.mpr (List.prefix_append _ _)) unmarked
  | some other =>
      have first : other.text <+: mark.text ++ rest := by
        simpa using List.find?_some found
      rw [Mark.eq_of_prefix first (List.prefix_append _ _)]

theorem Mark.atFront?_eq_none {text : List Char} (unmarked : ∀ mark : Mark, ¬ mark.text <+: text) :
    Mark.atFront? text = none := by
  refine List.find?_eq_none.mpr fun mark _ => ?_
  rw [List.isPrefixOf_iff_prefix]
  exact unmarked mark

theorem Mark.drop_text_append {c : Char} {text rest : List Char} (mark : Mark)
    (split : c :: text = mark.text ++ rest) : text.drop (mark.text.length - 1) = rest := by
  obtain ⟨body, written, -⟩ := mark.text_eq
  rw [written, List.cons_append, List.cons.injEq] at split
  rw [split.2, written, List.length_cons, Nat.add_sub_cancel, List.drop_left]

theorem template (text : List Char) : Template text := by
  match text with
  | [] => exact .nil
  | c :: rest =>
      by_cases marked : ∃ mark : Mark, mark.text <+: c :: rest
      · obtain ⟨mark, behind, split⟩ := marked
        have shorter : behind.length < (c :: rest).length := by
          rw [← split, List.length_append]
          have := List.length_pos_iff.mpr mark.text_ne_nil
          omega
        rw [← split]
        exact .mark mark (template behind)
      · exact .other (fun mark stands => marked ⟨mark, stands⟩) (template rest)
termination_by text.length
decreasing_by
  · exact shorter
  · exact Nat.lt_succ_self _

theorem fillIn_mark (value : Mark → List Char) (mark : Mark) (rest : List Char) :
    fillIn value (mark.text ++ rest) = value mark ++ fillIn value rest := by
  obtain ⟨c, text, split⟩ := List.exists_cons_of_ne_nil
    (List.append_ne_nil_of_left_ne_nil mark.text_ne_nil rest)
  have found := mark.atFront?_append rest
  rw [split] at found ⊢
  rw [fillIn, found]
  dsimp only
  rw [mark.drop_text_append split.symm]

theorem fillIn_other (value : Mark → List Char) {c : Char} {rest : List Char}
    (unmarked : ∀ mark : Mark, ¬ mark.text <+: c :: rest) :
    fillIn value (c :: rest) = c :: fillIn value rest := by
  rw [fillIn, Mark.atFront?_eq_none unmarked]

theorem replaceAll_mark (mark : Mark) (value rest : List Char) :
    replaceAll mark.text value (mark.text ++ rest) = value ++ replaceAll mark.text value rest := by
  obtain ⟨c, text, split⟩ := List.exists_cons_of_ne_nil
    (List.append_ne_nil_of_left_ne_nil mark.text_ne_nil rest)
  have stands : mark.text.isPrefixOf (c :: text) = true := by
    rw [← split]
    exact List.isPrefixOf_iff_prefix.mpr (List.prefix_append _ _)
  rw [split, replaceAll, if_pos stands, mark.drop_text_append split.symm]

theorem replaceAll_other (mark : Mark) (value : List Char) {c : Char} {rest : List Char}
    (unmarked : ¬ mark.text <+: c :: rest) :
    replaceAll mark.text value (c :: rest) = c :: replaceAll mark.text value rest := by
  rw [replaceAll, if_neg (mt List.isPrefixOf_iff_prefix.mp unmarked)]

/-- With every mark left as it is, nothing changes. -/
theorem fillIn_text (text : List Char) : fillIn Mark.text text = text := by
  induction template text with
  | nil => rw [fillIn]
  | mark mark _ ih => rw [fillIn_mark, ih]
  | other unmarked _ ih => rw [fillIn_other _ unmarked, ih]

/-! ## Occurrences -/

/-- How often a mark stands in a text. -/
def occurrences (mark : Mark) : List Char → Nat
  | [] => 0
  | c :: rest => (if mark.text.isPrefixOf (c :: rest) then 1 else 0) + occurrences mark rest

theorem occurrences_other {mark : Mark} {c : Char} {rest : List Char}
    (unmarked : ¬ mark.text <+: c :: rest) :
    occurrences mark (c :: rest) = occurrences mark rest := by
  rw [occurrences, if_neg (mt List.isPrefixOf_iff_prefix.mp unmarked), Nat.zero_add]

theorem occurrences_le_append (mark : Mark) (front rest : List Char) :
    occurrences mark rest ≤ occurrences mark (front ++ rest) := by
  induction front with
  | nil => exact Nat.le_refl _
  | cons c front ih => exact Nat.le_trans ih (Nat.le_add_left _ _)

/-- Text without a dollar sign holds the beginning of no mark. -/
theorem occurrences_append (mark : Mark) {front : List Char} (rest : List Char)
    (plain : '$' ∉ front) : occurrences mark (front ++ rest) = occurrences mark rest := by
  induction front with
  | nil => rfl
  | cons c front ih =>
      rw [List.mem_cons, not_or] at plain
      obtain ⟨body, written, -⟩ := mark.text_eq
      rw [List.cons_append, occurrences_other, ih plain.2]
      rw [written, List.cons_prefix_cons]
      exact fun stands => plain.1 stands.1

theorem occurrences_mark (mark : Mark) (rest : List Char) :
    occurrences mark (mark.text ++ rest) = 1 + occurrences mark rest := by
  obtain ⟨body, written, plain⟩ := mark.text_eq
  have stands : mark.text.isPrefixOf ('$' :: (body ++ rest)) = true := by
    rw [List.isPrefixOf_iff_prefix, written]
    exact List.prefix_append ('$' :: body) rest
  rw [written, List.cons_append, occurrences, if_pos stands, occurrences_append mark rest plain]

theorem occurrences_mark_of_ne {mark other : Mark} (differ : other ≠ mark) (rest : List Char) :
    occurrences mark (other.text ++ rest) = occurrences mark rest := by
  obtain ⟨body, written, plain⟩ := other.text_eq
  have unmarked : ¬ mark.text <+: '$' :: (body ++ rest) := by
    intro stands
    refine differ (Mark.eq_of_prefix ?_ stands)
    rw [written]
    exact List.prefix_append ('$' :: body) rest
  rw [written, List.cons_append, occurrences_other unmarked, occurrences_append mark rest plain]

/-- A mark that is not filled in is still there when the others are. -/
theorem occurrences_le_fillIn {value : Mark → List Char} {mark : Mark}
    (own : value mark = mark.text) (text : List Char) :
    occurrences mark text ≤ occurrences mark (fillIn value text) := by
  induction template text with
  | nil => exact Nat.zero_le _
  | @mark rest other _ ih =>
      rw [fillIn_mark]
      by_cases same : other = mark
      · subst same
        rw [own, occurrences_mark, occurrences_mark]
        omega
      · rw [occurrences_mark_of_ne same]
        exact Nat.le_trans ih (occurrences_le_append mark _ _)
  | @other c rest unmarked _ ih =>
      rw [fillIn_other _ unmarked, occurrences_other (unmarked mark)]
      exact Nat.le_trans ih (occurrences_le_append mark [c] _)

/-! ## Values -/

/-- What stands for a mark. -/
def Variables.value (values : Variables) : Mark → List Char
  | .projectName => values.projectName.toList
  | .date => values.date.toList
  | .user => values.user.toList

/-- The values of some marks. The others stand for themselves. -/
def Variables.only (values : Variables) (marks : List Mark) (mark : Mark) : List Char :=
  if mark ∈ marks then values.value mark else mark.text

/-- A template with every mark filled in, in one pass. -/
def Variables.fill (values : Variables) (text : String) : String :=
  String.ofList (fillIn values.value text.toList)

/-- The name brings about no mark of the date, and the name and the date bring about no mark of the
user: neither spells one, nor does one come of them and the text around them. -/
structure Undisturbed (values : Variables) (text : String) : Prop where
  date : occurrences .date (fillIn (values.only [.projectName]) text.toList) =
    occurrences .date text.toList
  user : occurrences .user (fillIn (values.only [.date, .projectName]) text.toList) =
    occurrences .user text.toList

section

variable {values : Variables} {marks : List Mark} {mark other : Mark}

theorem only_of_notMem (fresh : mark ∉ marks) : values.only marks mark = mark.text :=
  if_neg fresh

theorem only_cons_self : values.only (mark :: marks) mark = values.value mark :=
  if_pos List.mem_cons_self

theorem only_cons_of_ne (differ : other ≠ mark) :
    values.only (mark :: marks) other = values.only marks other := by
  simp only [Variables.only, List.mem_cons, differ, false_or]

theorem only_nil : values.only [] = Mark.text :=
  funext fun _ => only_of_notMem List.not_mem_nil

/-- A value that spells its own mark is none. -/
theorem only_cons_of_own (own : values.value mark = mark.text) :
    values.only (mark :: marks) = values.only marks := by
  funext other
  by_cases same : other = mark
  · subst same
    rw [only_cons_self, Variables.only, own, ite_self]
  · exact only_cons_of_ne same

theorem only_congr {left right : Variables}
    (agree : ∀ mark ∈ marks, left.value mark = right.value mark) :
    left.only marks = right.only marks := by
  funext mark
  by_cases listed : mark ∈ marks
  · rw [Variables.only, Variables.only, agree mark listed]
  · rw [only_of_notMem listed, only_of_notMem listed]

theorem only_all : values.only [.user, .date, .projectName] = values.value := by
  funext mark
  cases mark <;> rfl

/-! ## One mark after the other -/

/-- A stretch in which the mark does not begin is copied. -/
theorem replaceAll_append (value front : List Char) {rest : List Char}
    (kept : occurrences mark (front ++ rest) = occurrences mark rest) :
    replaceAll mark.text value (front ++ rest) = front ++ replaceAll mark.text value rest := by
  induction front with
  | nil => rfl
  | cons c front ih =>
      have least := occurrences_le_append mark front rest
      by_cases stands : mark.text <+: c :: (front ++ rest)
      · rw [List.cons_append, occurrences, if_pos (List.isPrefixOf_iff_prefix.mpr stands)] at kept
        omega
      · rw [List.cons_append, occurrences_other stands] at kept
        rw [List.cons_append, replaceAll_other mark value stands, ih kept, List.cons_append]

/-- Where the values of some marks bring about no other, replacing this one afterwards is the same
as filling it in with them. -/
theorem replaceAll_fillIn (fresh : mark ∉ marks) {text : List Char}
    (kept : occurrences mark (fillIn (values.only marks) text) = occurrences mark text) :
    replaceAll mark.text (values.value mark) (fillIn (values.only marks) text) =
      fillIn (values.only (mark :: marks)) text := by
  have own : values.only marks mark = mark.text := only_of_notMem fresh
  induction template text with
  | nil => rw [fillIn, fillIn, replaceAll]
  | @mark rest other _ ih =>
      have least := occurrences_le_fillIn own rest
      rw [fillIn_mark] at kept ⊢
      rw [fillIn_mark]
      by_cases isMark : other = mark
      · subst isMark
        rw [own, occurrences_mark, occurrences_mark] at kept
        rw [own, replaceAll_mark, ih (by omega), only_cons_self]
      · rw [occurrences_mark_of_ne isMark] at kept
        -- What stands behind keeps at least its own marks, so the value has none to add.
        have all := occurrences_le_append mark (values.only marks other)
          (fillIn (values.only marks) rest)
        have still :
            occurrences mark (fillIn (values.only marks) rest) = occurrences mark rest := by
          omega
        rw [replaceAll_append _ _ (kept.trans still.symm), ih still, only_cons_of_ne isMark]
  | @other c rest unmarked _ ih =>
      have least := occurrences_le_fillIn own rest
      rw [fillIn_other _ unmarked, ← List.singleton_append] at kept ⊢
      rw [List.singleton_append, occurrences_other (unmarked mark)] at kept
      have all := occurrences_le_append mark [c] (fillIn (values.only marks) rest)
      have still : occurrences mark (fillIn (values.only marks) rest) = occurrences mark rest := by
        rw [List.singleton_append] at all
        omega
      rw [replaceAll_append _ [c] (kept.trans still.symm), ih still, fillIn_other _ unmarked,
        List.singleton_append]

/-- One replacement is one pass. -/
theorem replaceAll_eq (values : Variables) (mark : Mark) (text : List Char) :
    replaceAll mark.text (values.value mark) text = fillIn (values.only [mark]) text := by
  have alone := @replaceAll_fillIn values [] mark List.not_mem_nil text
    (by rw [only_nil, fillIn_text])
  rwa [only_nil, fillIn_text] at alone

/-- A mark replaced by itself stays. -/
theorem replaceAll_of_own (own : values.value mark = mark.text) (text : List Char) :
    replaceAll mark.text (values.value mark) text = text := by
  rw [replaceAll_eq, only_cons_of_own own, only_nil, fillIn_text]

theorem length_fillIn (fresh : mark ∉ marks) (text : List Char) :
    (fillIn (values.only (mark :: marks)) text).length +
        occurrences mark text * mark.text.length =
      (fillIn (values.only marks) text).length +
        occurrences mark text * (values.value mark).length := by
  induction template text with
  | nil => rw [fillIn, fillIn, occurrences, Nat.zero_mul, Nat.zero_mul]
  | @mark rest other _ ih =>
      rw [fillIn_mark, fillIn_mark, List.length_append, List.length_append]
      by_cases isMark : other = mark
      · subst isMark
        rw [occurrences_mark, only_cons_self, only_of_notMem fresh, Nat.add_mul, Nat.add_mul]
        omega
      · rw [occurrences_mark_of_ne isMark, only_cons_of_ne isMark]
        omega
  | @other c rest unmarked _ ih =>
      rw [fillIn_other _ unmarked, fillIn_other _ unmarked, occurrences_other (unmarked mark),
        List.length_cons, List.length_cons]
      omega

/-- A mark that was brought about would be cut out as well, and too little would be left. -/
theorem occurrences_of_replaceAll (fresh : mark ∉ marks) (cut : values.value mark = [])
    {text : List Char}
    (agree : replaceAll mark.text (values.value mark) (fillIn (values.only marks) text) =
      fillIn (values.only (mark :: marks)) text) :
    occurrences mark (fillIn (values.only marks) text) = occurrences mark text := by
  have found := @length_fillIn values [] mark List.not_mem_nil (fillIn (values.only marks) text)
  have asked := @length_fillIn values marks mark fresh text
  rw [← replaceAll_eq, agree, only_nil, fillIn_text, cut, List.length_nil, Nat.mul_zero] at found
  rw [cut, List.length_nil, Nat.mul_zero] at asked
  have positive := List.length_pos_iff.mpr mark.text_ne_nil
  exact Nat.eq_of_mul_eq_mul_right positive (by omega)

end

/-! ## Whole templates -/

section

variable {values : Variables} {text : String}

theorem toList_render (values : Variables) (text : String) :
    (values.render text).toList =
      replaceAll Mark.user.text (values.value .user)
        (replaceAll Mark.date.text (values.value .date)
          (fillIn (values.only [.projectName]) text.toList)) := by
  rw [← replaceAll_eq]
  exact String.toList_ofList

theorem toList_fill (values : Variables) (text : String) :
    (values.fill text).toList =
      fillIn (values.only [.user, .date, .projectName]) text.toList := by
  rw [only_all]
  exact String.toList_ofList

theorem render_of_undisturbed (undisturbed : Undisturbed values text) :
    values.render text = values.fill text := by
  refine String.toList_injective ?_
  rw [toList_render, toList_fill, replaceAll_fillIn (by decide) undisturbed.date,
    replaceAll_fillIn (by decide) undisturbed.user]

theorem date_undisturbed (agree : values.render text = values.fill text)
    (cut : values.value .date = []) (own : values.value .user = Mark.user.text) :
    occurrences .date (fillIn (values.only [.projectName]) text.toList) =
      occurrences .date text.toList := by
  refine occurrences_of_replaceAll (by decide) cut ?_
  have lists := congrArg String.toList agree
  rwa [toList_render, toList_fill, replaceAll_of_own own, only_cons_of_own own] at lists

theorem user_undisturbed (agree : values.render text = values.fill text)
    (cut : values.value .user = [])
    (kept : occurrences .date (fillIn (values.only [.projectName]) text.toList) =
      occurrences .date text.toList) :
    occurrences .user (fillIn (values.only [.date, .projectName]) text.toList) =
      occurrences .user text.toList := by
  refine occurrences_of_replaceAll (by decide) cut ?_
  have lists := congrArg String.toList agree
  rwa [toList_render, toList_fill, replaceAll_fillIn (by decide) kept] at lists

end

/-- Where a template is filled in as it should be for every date and user, none of them brings about
a mark. The user's own mark in place of a user shows what became of the date, and the empty text in
place of a value shows how often its mark was there. -/
theorem undisturbed_of_render {name text : String}
    (agree : ∀ date user, (Variables.mk name date user).render text =
      (Variables.mk name date user).fill text) (date user : String) :
    Undisturbed ⟨name, date, user⟩ text := by
  have dateKept : ∀ date user, occurrences .date
      (fillIn ((Variables.mk name date user).only [.projectName]) text.toList) =
        occurrences .date text.toList := by
    intro date user
    have sameName : (Variables.mk name date user).only [.projectName] =
        (Variables.mk name "" userMark).only [.projectName] :=
      only_congr (by simp [Variables.value])
    rw [sameName]
    exact date_undisturbed (agree "" userMark) rfl rfl
  have sameDate : (Variables.mk name date user).only [.date, .projectName] =
      (Variables.mk name date "").only [.date, .projectName] :=
    only_congr (by simp [Variables.value])
  refine ⟨dateKept date user, ?_⟩
  rw [sameDate]
  exact user_undisturbed (agree date "") rfl (dateKept date "")

/-! ## Plain values -/

/-- A value that brings about no mark in any text: it holds the beginning of none, and its first
character stands in none. -/
structure Plain (value : List Char) : Prop where
  start : ∃ c rest, value = c :: rest ∧ ∀ mark : Mark, c ∉ mark.text
  unmarked : '$' ∉ value

section

variable {value : Mark → List Char} {mark : Mark}

theorem prefix_of_fillIn (plain : ∀ other, value other = other.text ∨ Plain (value other))
    {part text : List Char} (inside : part ⊆ mark.text) (stands : part <+: fillIn value text) :
    part <+: text := by
  induction template text generalizing part with
  | nil =>
      rw [fillIn] at stands
      exact stands
  | @mark rest other _ ih =>
      rw [fillIn_mark] at stands
      rcases plain other with own | ⟨⟨c, more, written, foreign⟩, -⟩
      · rw [own] at stands
        rcases List.prefix_or_prefix_of_prefix stands (List.prefix_append _ _) with shorter | longer
        · exact shorter.trans (List.prefix_append _ _)
        · obtain ⟨behind, rfl⟩ := longer
          rw [List.prefix_append_right_inj] at stands ⊢
          exact ih (List.append_subset.mp inside).2 stands
      · cases part with
        | nil => exact List.nil_prefix
        | cons a part =>
            rw [written, List.cons_append, List.cons_prefix_cons] at stands
            exact absurd (stands.1 ▸ inside List.mem_cons_self) (foreign mark)
  | @other c rest unmarked _ ih =>
      rw [fillIn_other _ unmarked] at stands
      cases part with
      | nil => exact List.nil_prefix
      | cons a part =>
          rw [List.cons_prefix_cons] at stands ⊢
          exact ⟨stands.1, ih (List.cons_subset.mp inside).2 stands.2⟩

theorem occurrences_fillIn (plain : ∀ other, value other = other.text ∨ Plain (value other))
    (own : value mark = mark.text) (text : List Char) :
    occurrences mark (fillIn value text) = occurrences mark text := by
  induction template text with
  | nil => rw [fillIn]
  | @mark rest other _ ih =>
      rw [fillIn_mark]
      by_cases same : other = mark
      · subst same
        rw [own, occurrences_mark, occurrences_mark, ih]
      · rw [occurrences_mark_of_ne same]
        rcases plain other with itself | ⟨-, unmarked⟩
        · rw [itself, occurrences_mark_of_ne same, ih]
        · rw [occurrences_append mark _ unmarked, ih]
  | @other c rest unmarked _ ih =>
      have still : ¬ mark.text <+: c :: fillIn value rest := by
        rw [← fillIn_other value unmarked]
        exact fun stands => unmarked mark (prefix_of_fillIn plain (List.Subset.refl _) stands)
      rw [fillIn_other _ unmarked, occurrences_other still, ih, occurrences_other (unmarked mark)]

end

/-- With a plain name and a plain date every template is filled in as it should be. -/
theorem undisturbed_of_plain {name date : String} (plainName : Plain name.toList)
    (plainDate : Plain date.toList) (user text : String) : Undisturbed ⟨name, date, user⟩ text := by
  constructor
  · refine occurrences_fillIn (fun other => ?_) (only_of_notMem (by decide)) _
    cases other with
    | projectName => exact .inr plainName
    | date => exact .inl rfl
    | user => exact .inl rfl
  · refine occurrences_fillIn (fun other => ?_) (only_of_notMem (by decide)) _
    cases other with
    | projectName => exact .inr plainName
    | date => exact .inr plainDate
    | user => exact .inl rfl

/-! ## Main statement -/

/-- A template is filled in as it should be where its name and its date bring about no mark. This
cannot be weakened: where it is filled in so for every date and user, they bring about none. -/
theorem render_eq_fill (name text : String) :
    (∀ date user, Undisturbed ⟨name, date, user⟩ text →
      (Variables.mk name date user).render text = (Variables.mk name date user).fill text) ∧
    ((∀ date user, (Variables.mk name date user).render text =
        (Variables.mk name date user).fill text) →
      ∀ date user, Undisturbed ⟨name, date, user⟩ text) :=
  ⟨fun _ _ => render_of_undisturbed, undisturbed_of_render⟩

/-- All three marks, and one that is none of them. -/
theorem render_eq_fill_unknown :
    Undisturbed ⟨"thesis", "2026-10-16", "ada"⟩
      "$\x7bPROJECT_NAME\x7d by $\x7bUSER\x7d on $\x7bDATE\x7d, $\x7bUNKNOWN\x7d" ∧
    (Variables.mk "thesis" "2026-10-16" "ada").render
      "$\x7bPROJECT_NAME\x7d by $\x7bUSER\x7d on $\x7bDATE\x7d, $\x7bUNKNOWN\x7d" =
        (Variables.mk "thesis" "2026-10-16" "ada").fill
          "$\x7bPROJECT_NAME\x7d by $\x7bUSER\x7d on $\x7bDATE\x7d, $\x7bUNKNOWN\x7d" ∧
    (Variables.mk "thesis" "2026-10-16" "ada").fill
      "$\x7bPROJECT_NAME\x7d by $\x7bUSER\x7d on $\x7bDATE\x7d, $\x7bUNKNOWN\x7d" =
        "thesis by ada on 2026-10-16, $\x7bUNKNOWN\x7d" := by
  have plainName : Plain "thesis".toList :=
    ⟨⟨'t', _, rfl, fun mark => by cases mark <;> decide⟩, by decide⟩
  have plainDate : Plain "2026-10-16".toList :=
    ⟨⟨'2', _, rfl, fun mark => by cases mark <;> decide⟩, by decide⟩
  have undisturbed := undisturbed_of_plain plainName plainDate "ada"
    "$\x7bPROJECT_NAME\x7d by $\x7bUSER\x7d on $\x7bDATE\x7d, $\x7bUNKNOWN\x7d"
  exact ⟨undisturbed, (render_eq_fill _ _).1 _ _ undisturbed, by decide +kernel⟩

/-- A name that spells the user's mark does not come out as it is. -/
theorem name_refilled : ¬ ∀ (values : Variables) (text : String),
    values.render text = values.fill text := by
  intro filled
  have agree := filled ⟨userMark, "2026-10-16", "ada"⟩ projectNameMark
  exact absurd agree (by decide +kernel)

end TexWorkspace.Project
