import TexWorkspace.Bib.View
import TexWorkspace.Proofs.Bib.Grammar
import TexWorkspace.Proofs.Bib.Resynchronization.Basic

set_option autoImplicit false

/-!
Every rule of the grammar resumes before an `@`: it treats that as the end of the text. Only the body
of a comment entry goes on beyond it.
-/

namespace TexWorkspace.Bib

/-! ## Comment entries without an end -/

/-- The closer of a body is missing among the trees. -/
def LacksCloser (trees : List Tree) : Prop :=
  ∃ delimiter, Tree.fault (.missingCloser delimiter) ∈ trees

theorem LacksCloser.append_left {left right : List Tree} (lacks : LacksCloser right) :
    LacksCloser (left ++ right) := by
  obtain ⟨delimiter, member⟩ := lacks
  exact ⟨delimiter, List.mem_append_right left member⟩

/-- A comment entry whose closer is missing. Its body takes every token to the end of the text. -/
def Tree.IsUnclosedRemark (tree : Tree) : Prop :=
  ∃ below, tree = .node .entry below ∧ (Entry.mk tree.located).type? = some "comment" ∧
    LacksCloser below

/-! ## Values -/

namespace Rule

section Values

variable {mark : Token} {others tokens : List Token}

theorem trivia_extends (isMark : mark.kind = .atSign) :
    Extends (mark :: others) trivia tokens := by
  rw [Extends, trivia, takeWhile_append_of_stop (fun _ => mark_isTrivia isMark),
    dropWhile_trivia_mark isMark]
  rfl

theorem piece?_append_of_settled {first : Step} (found : piece? tokens = some first)
    (settled : first.Settled) (more : List Token) :
    piece? (tokens ++ more) = some ⟨first.trees, first.rest ++ more⟩ := by
  cases tokens with
  | nil => cases found
  | cons token rest =>
      cases kind : token.kind <;>
        simp only [piece?, kind, Option.some.injEq, reduceCtorEq] at found
      case openBrace =>
        subst found
        have closed : (scanBraced 0 rest).closed = true := by
          by_contra unclosed
          rw [Bool.not_eq_true] at unclosed
          exact settled (scanBraced_of_unclosed unclosed)
            (openAtEnd_textTree (.inl rfl) unclosed)
        simp [piece?, kind, scanBraced_of_closed _ closed, Scan.before, textTree]
      case quote =>
        subst found
        have closed : (scanQuoted 0 rest).closed = true ∨ (scanQuoted 0 rest).rest ≠ [] := by
          by_contra unclosed
          rw [not_or, Bool.not_eq_true, not_not] at unclosed
          exact settled unclosed.2 (openAtEnd_textTree (.inr rfl) unclosed.1)
        simp [piece?, kind, scanQuoted_of_closed _ closed, Scan.before, textTree]
      case number =>
        subst found
        simp [piece?, kind]
      case word =>
        subst found
        simp [piece?, kind]

/-- An `@` is no piece of a value, and neither is the end of the text. -/
theorem piece?_append_of_none (isMark : mark.kind = .atSign)
    (missing : piece? tokens = none) : piece? (tokens ++ mark :: others) = none := by
  cases tokens with
  | nil => simp [piece?, isMark]
  | cons token rest =>
      cases kind : token.kind <;> simp_all [piece?]

theorem pieces_extends_of_last (isMark : mark.kind = .atSign) {first : Step}
    (found : piece? tokens = some first) (settled : first.Settled)
    (last : peekPast first.rest ≠ some .hash) : Extends (mark :: others) pieces tokens := by
  have foundMore := piece?_append_of_settled found settled (mark :: others)
  have lastMore : peekPast (first.rest ++ mark :: others) ≠ some .hash := fun hash =>
    last ((peekPast_append_mark isMark (by simp)).mp hash)
  rw [Extends, pieces_of_last found last, pieces_of_last foundMore lastMore]

theorem pieces_resumes (isMark : mark.kind = .atSign) :
    Resumes (mark :: others) pieces tokens := by
  induction tokens using pieces.induct with
  | case1 tokens missing =>
      intro _
      rw [Extends, pieces_of_none missing, pieces_of_none (piece?_append_of_none isMark missing)]
  | case2 tokens first found ended =>
      have last : peekPast first.rest ≠ some .hash := by simp [peekPast, peek, ended]
      intro settled
      rw [pieces_of_last found last] at settled
      exact pieces_extends_of_last isMark found settled last
  | case3 tokens first found joint after joined isHash ih =>
      intro settled
      rw [pieces_of_joint found joined isHash] at settled
      -- A joint follows the first piece, so that one does not end the tokens.
      have firstSettled : first.Settled := by
        intro ended
        simp [ended] at joined
      have moreSettled : (pieces (trivia after).rest).Settled := by
        intro ended isOpen
        refine settled ended ?_
        rw [Tree.fringeAll_append]
        exact isOpen.append_left
      have foundMore := piece?_append_of_settled found firstSettled (mark :: others)
      have joinedMore : (first.rest ++ mark :: others).dropWhile Token.isTrivia =
          joint :: (after ++ mark :: others) := by
        rw [dropWhile_trivia_mark isMark, joined, List.cons_append]
      rw [Extends, pieces_of_joint found joined isHash, pieces_of_joint foundMore joinedMore isHash,
        trivia_extends isMark, trivia_extends isMark, ih moreSettled]
  | case4 tokens first found joint after joined notHash =>
      have last : peekPast first.rest ≠ some .hash := by
        simpa [peekPast, peek, joined] using notHash
      intro settled
      rw [pieces_of_last found last] at settled
      exact pieces_extends_of_last isMark found settled last

theorem value_resumes (isMark : mark.kind = .atSign) : Resumes (mark :: others) value tokens :=
  wrap_resumes _ (pieces_resumes isMark)

end Values

/-! ## Fields and keys -/

section Fields

variable {mark : Token} {others tokens : List Token}

theorem take_extends (filled : tokens ≠ []) (more : List Token) : Extends more take tokens := by
  cases tokens with
  | nil => exact absurd rfl filled
  | cons token rest => rfl

theorem filled_of_peek {kind : TokenKind} (ahead : peek tokens = some kind) : tokens ≠ [] := by
  rintro rfl
  cases ahead

/-- A token found behind trivia is taken together with it. -/
theorem trivia_take_extends (isMark : mark.kind = .atSign) {kind : TokenKind}
    (ahead : peekPast tokens = some kind) :
    Extends (mark :: others) (trivia.andThen take) tokens :=
  andThen_extends (trivia_extends isMark) (take_extends (filled_of_peek ahead) _)

theorem separator_resumes (isMark : mark.kind = .atSign) :
    Resumes (mark :: others) separator tokens :=
  ite_resumes (peekPast_append_mark isMark (by simp))
    (fun comma _ => trivia_take_extends isMark comma) fun _ => done_resumes

theorem assignment_resumes (isMark : mark.kind = .atSign) :
    Resumes (mark :: others) assignment tokens := by
  refine ite_resumes (peek_append_mark isMark (by simp)) ?_ fun _ => report_resumes _
  intro sign
  refine andThen_resumes (andThen_lossless trivia_lossless value_lossless)
    (fun _ => take_extends (filled_of_peek sign) _) ?_
  exact andThen_resumes value_lossless (fun _ => trivia_extends isMark) (value_resumes isMark)

theorem field_resumes (isMark : mark.kind = .atSign) (filled : tokens ≠ []) :
    Resumes (mark :: others) field tokens := by
  have named := take_extends filled (mark :: others)
  refine wrap_resumes _ (andThen_resumes ?_ (wrap_resumes _ fun _ => named) ?_)
  · exact andThen_lossless trivia_lossless
      (andThen_lossless assignment_lossless separator_lossless)
  · refine andThen_resumes (andThen_lossless assignment_lossless separator_lossless)
      (fun _ => trivia_extends isMark) ?_
    exact andThen_resumes separator_lossless (assignment_resumes isMark)
      (separator_resumes isMark)

theorem fieldItem_resumes (isMark : mark.kind = .atSign) (token : Token) (filled : tokens ≠ []) :
    Resumes (mark :: others) (fieldItem token) tokens := by
  unfold fieldItem
  split
  · exact field_resumes isMark filled
  · split
    · exact fun _ => take_extends filled _
    · exact andThen_resumes (wrap_lossless _ take_lossless) (report_resumes _)
        (wrap_resumes _ fun _ => take_extends filled _)

/-- Fields that go on with an item are the trivia before it, the item and more fields. -/
theorem fields_eq_andThen {delimiter : Delimiter} {token : Token} {after : List Token}
    (ahead : tokens.dropWhile Token.isTrivia = token :: after)
    (goOn : ¬ (token.kind = delimiter.closer ∨ token.kind = .atSign)) :
    fields delimiter tokens =
      (trivia.andThen ((fieldItem token).andThen (fields delimiter))) tokens := by
  rw [fields_of_item ahead goOn]
  simp [andThen, trivia, ahead]

theorem fields_extends_of_stop (isMark : mark.kind = .atSign) {delimiter : Delimiter}
    (stop : ∀ kind, peekPast tokens = some kind → kind = delimiter.closer ∨ kind = .atSign) :
    Extends (mark :: others) (fields delimiter) tokens := by
  refine extends_of_eq (fields_of_stop stop) (fields_of_stop ?_) (trivia_extends isMark)
  intro kind ahead
  by_cases atMark : kind = .atSign
  · exact .inr atMark
  · exact stop kind ((peekPast_append_mark isMark atMark).mp ahead)

theorem fields_resumes (isMark : mark.kind = .atSign) (delimiter : Delimiter) :
    Resumes (mark :: others) (fields delimiter) tokens := by
  induction tokens using fields.induct delimiter with
  | case1 tokens ended =>
      exact fun _ => fields_extends_of_stop isMark (by simp [peekPast, peek, ended])
  | case2 tokens token after ahead stop =>
      exact fun _ => fields_extends_of_stop isMark (by simpa [peekPast, peek, ahead] using stop)
  | case3 tokens token after ahead goOn item ih =>
      have aheadMore : (tokens ++ mark :: others).dropWhile Token.isTrivia =
          token :: (after ++ mark :: others) := by
        rw [dropWhile_trivia_mark isMark, ahead, List.cons_append]
      have skipped : (trivia tokens).rest = token :: after := ahead
      refine resumes_of_eq (fields_eq_andThen ahead goOn) (fields_eq_andThen aheadMore goOn) ?_
      refine andThen_resumes (andThen_lossless (fieldItem_lossless token)
        (fields_lossless delimiter)) (fun _ => trivia_extends isMark) ?_
      rw [skipped]
      exact andThen_resumes (fields_lossless delimiter)
        (fieldItem_resumes isMark token (List.cons_ne_nil token after)) ih

theorem startsWithKey_append_mark (isMark : mark.kind = .atSign) :
    startsWithKey (tokens ++ mark :: others) = startsWithKey tokens := by
  unfold startsWithKey
  rw [dropWhile_trivia_mark isMark]
  cases ahead : tokens.dropWhile Token.isTrivia with
  | nil => simp [Token.isName, isMark]
  | cons token rest =>
      have same : peekPast (rest ++ mark :: others) = some .equals ↔
          peekPast rest = some .equals := peekPast_append_mark isMark (by simp)
      rw [Bool.eq_iff_iff]
      simp [same]

theorem names_extends (isMark : mark.kind = .atSign) :
    Extends (mark :: others) names tokens := by
  have noName : mark.isName = false := by simp [Token.isName, isMark]
  rw [Extends, names, takeWhile_append_of_stop (fun _ => noName),
    dropWhile_append_of_stop (fun _ => noName)]
  rfl

theorem keySeparator_resumes (isMark : mark.kind = .atSign) (delimiter : Delimiter) :
    Resumes (mark :: others) (keySeparator delimiter) tokens := by
  refine ite_resumes (peekPast_append_mark isMark (by simp))
    (fun comma _ => trivia_take_extends isMark comma) fun _ => ?_
  exact ite_resumes (peekPast_append_mark isMark (closer_ne_atSign delimiter))
    (fun _ => done_resumes) fun _ => report_resumes _

theorem strayComma_resumes (isMark : mark.kind = .atSign) :
    Resumes (mark :: others) strayComma tokens :=
  ite_resumes (peek_append_mark isMark (by simp))
    (fun comma _ => take_extends (filled_of_peek comma) _) fun _ => done_resumes

theorem key_resumes (isMark : mark.kind = .atSign) (delimiter : Delimiter) :
    Resumes (mark :: others) (key delimiter) tokens := by
  refine ite_resumes (by rw [startsWithKey_append_mark isMark]) ?_ ?_
  · intro _
    refine wrap_resumes _ (andThen_resumes ?_ (fun _ => trivia_extends isMark) ?_)
    · exact andThen_lossless names_lossless (keySeparator_lossless delimiter)
    · exact andThen_resumes (keySeparator_lossless delimiter) (fun _ => names_extends isMark)
        (keySeparator_resumes isMark delimiter)
  · intro _
    refine andThen_resumes ?_ (fun _ => trivia_extends isMark) ?_
    · exact andThen_lossless (report_lossless _) strayComma_lossless
    · exact andThen_resumes strayComma_lossless (report_resumes _) (strayComma_resumes isMark)

end Fields

/-! ## Entries -/

section Entries

variable {mark : Token} {others tokens : List Token}

theorem body_resumes (isMark : mark.kind = .atSign) {form : BodyForm} (noRemark : form ≠ .remark)
    (delimiter : Delimiter) : Resumes (mark :: others) (body form delimiter) tokens := by
  cases form with
  | remark => exact absurd rfl noRemark
  | preamble =>
      refine andThen_resumes (andThen_lossless value_lossless trivia_lossless)
        (fun _ => trivia_extends isMark) ?_
      exact andThen_resumes trivia_lossless (value_resumes isMark) fun _ => trivia_extends isMark
  | definitions => exact fields_resumes isMark delimiter
  | keyed =>
      exact andThen_resumes (fields_lossless delimiter) (key_resumes isMark delimiter)
        (fields_resumes isMark delimiter)

theorem close_resumes (isMark : mark.kind = .atSign) (delimiter : Delimiter) :
    Resumes (mark :: others) (close delimiter) tokens :=
  ite_resumes (peek_append_mark isMark (closer_ne_atSign delimiter))
    (fun closes _ => take_extends (filled_of_peek closes) _) fun _ => report_resumes _

theorem rawBody_extends {delimiter : Delimiter}
    (closed : (scanRaw delimiter.closer 0 tokens).closed = true) (more : List Token) :
    Extends more (rawBody delimiter) tokens := by
  rw [Extends, rawBody, scanRaw_of_closed more closed]
  rfl

/-- The body of a comment entry runs to the end of the text if its closer is missing. -/
theorem lacksCloser_of_unclosed {delimiter : Delimiter}
    (unclosed : (scanRaw delimiter.closer 0 tokens).closed = false) :
    LacksCloser (((rawBody delimiter).andThen (close delimiter)) tokens).trees ∧
      (((rawBody delimiter).andThen (close delimiter)) tokens).rest = [] := by
  have ended := Grammar.scanRaw_of_unclosed unclosed
  refine ⟨⟨delimiter, ?_⟩, ?_⟩ <;> simp [andThen, rawBody, ended, close, peek, report]

theorem enclosed_resumes (isMark : mark.kind = .atSign) {form : BodyForm} {delimiter : Delimiter}
    (filled : tokens ≠ [])
    (finished : form = .remark → (enclosed form delimiter tokens).rest = [] →
      ¬ LacksCloser (enclosed form delimiter tokens).trees) :
    Resumes (mark :: others) (enclosed form delimiter) tokens := by
  refine andThen_resumes
    (andThen_lossless (body_lossless form delimiter) (close_lossless delimiter))
    (fun _ => take_extends filled _) ?_
  by_cases remark : form = .remark
  · -- The body of a comment entry does not stop at an `@`, so it has to be closed before.
    subst remark
    have closed : (scanRaw delimiter.closer 0 (take tokens).rest).closed = true := by
      by_contra unclosed
      obtain ⟨lacks, ended⟩ := lacksCloser_of_unclosed (Bool.not_eq_true _ ▸ unclosed)
      exact finished rfl ended lacks.append_left
    exact andThen_resumes (close_lossless delimiter) (fun _ => rawBody_extends closed _)
      (close_resumes isMark delimiter)
  · exact andThen_resumes (close_lossless delimiter) (body_resumes isMark remark delimiter)
      (close_resumes isMark delimiter)

theorem delimited_resumes (isMark : mark.kind = .atSign) {form : BodyForm}
    (finished : form = .remark → (delimited form tokens).rest = [] →
      ¬ LacksCloser (delimited form tokens).trees) :
    Resumes (mark :: others) (delimited form) tokens := by
  cases tokens with
  | nil =>
      have here : delimited form [] = report .missingOpener [] := rfl
      refine resumes_of_eq here ?_ (report_resumes _)
      simp [delimited, peek, isMark]
  | cons opening tokens =>
      have filled := List.cons_ne_nil opening tokens
      cases kind : opening.kind
      case openBrace =>
        have chosen : ∀ more, delimited form (opening :: more) =
            enclosed form .braces (opening :: more) := by simp [delimited, peek, kind]
        rw [chosen] at finished
        exact resumes_of_eq (chosen _) (chosen _) (enclosed_resumes isMark filled finished)
      case openParen =>
        have chosen : ∀ more, delimited form (opening :: more) =
            enclosed form .parens (opening :: more) := by simp [delimited, peek, kind]
        rw [chosen] at finished
        exact resumes_of_eq (chosen _) (chosen _) (enclosed_resumes isMark filled finished)
      all_goals
        have chosen : ∀ more, delimited form (opening :: more) =
            report .missingOpener (opening :: more) := by simp [delimited, peek, kind]
        exact resumes_of_eq (chosen _) (chosen _) (report_resumes _)

theorem child?_trivia (kind : NodeKind) (noComment : kind ≠ .comment) (own : NodeKind)
    (run : List Token) (more : List Tree) :
    (Tree.node own (run.map triviaTree ++ more)).child? kind = (Tree.node own more).child? kind := by
  induction run with
  | nil => rfl
  | cons token run ih =>
      rw [← ih, List.map_cons, List.cons_append, triviaTree]
      split <;> simp [Tree.child?, Tree.hasKind, noComment.symm]

/-- The type of an entry is the word that follows its `@`. -/
theorem type?_entry (mark type : Token) (run : List Token) (more : List Tree) :
    (Entry.mk (Tree.located (.node .entry (.token mark ::
      (run.map triviaTree ++ .node .entryType [.token type] :: more))))).type? =
      some (Text.lowercase type.text) := by
  have found : (Tree.node .entry (.token mark ::
      (run.map triviaTree ++ .node .entryType [.token type] :: more))).child? .entryType =
      some (.node .entryType [.token type]) := by
    have behind := child?_trivia .entryType (by simp) .entry run
      (.node .entryType [.token type] :: more)
    simpa [Tree.child?, Tree.hasKind] using behind
  rw [Entry.type?, Tree.located, found]
  simp [Tree.text]

theorem typed_resumes (isMark : mark.kind = .atSign)
    (finished : ∀ type more, (typed tokens).trees = .node .entryType [.token type] :: more →
      Text.lowercase type.text = "comment" → (typed tokens).rest = [] →
      ¬ LacksCloser (typed tokens).trees) :
    Resumes (mark :: others) typed tokens := by
  cases tokens with
  | nil =>
      have here : typed [] = report .missingType [] := rfl
      refine resumes_of_eq here ?_ (report_resumes _)
      simp [typed, isMark]
  | cons type tokens =>
      by_cases word : type.kind = .word
      · have chosen : ∀ more, typed (type :: more) = ((take.wrap .entryType).andThen
            (trivia.andThen (delimited (BodyForm.ofType type.text)))) (type :: more) :=
          fun _ => if_pos word
        refine resumes_of_eq (chosen _) (chosen _) ?_
        refine andThen_resumes (andThen_lossless trivia_lossless (delimited_lossless _))
          (wrap_resumes _ (take_resumes type)) ?_
        refine andThen_resumes (delimited_lossless _) (fun _ => trivia_extends isMark) ?_
        refine delimited_resumes isMark ?_
        intro remark ended lacks
        have named := (BodyForm.ofType_eq_remark_iff type.text).mp remark
        rw [chosen] at finished
        exact finished type _ rfl named ended lacks.append_left.append_left
      · have chosen : ∀ more, typed (type :: more) = report .missingType (type :: more) :=
          fun _ => if_neg word
        exact resumes_of_eq (chosen _) (chosen _) (report_resumes _)

/-- An entry ends at the next `@` as at the end of the text, unless it is a comment entry whose
closer is missing. -/
theorem entry_resumes (isMark : mark.kind = .atSign) (filled : tokens ≠ [])
    (finished : (entry tokens).rest = [] → ∀ tree ∈ (entry tokens).trees,
      ¬ tree.IsUnclosedRemark) :
    Resumes (mark :: others) entry tokens := by
  cases tokens with
  | nil => exact absurd rfl filled
  | cons own tokens =>
      refine wrap_resumes _ (andThen_resumes (andThen_lossless trivia_lossless typed_lossless)
        (take_resumes own) ?_)
      refine andThen_resumes typed_lossless (fun _ => trivia_extends isMark)
        (typed_resumes isMark ?_)
      intro type more (shape : (typed (trivia tokens).rest).trees = _) named ended lacks
      refine finished ended _ (List.mem_singleton.mpr rfl) ⟨_, rfl, ?_, ?_⟩
      · change (Entry.mk (Tree.located (.node .entry (.token own ::
          ((trivia tokens).trees ++ (typed (trivia tokens).rest).trees))))).type? = _
        rw [shape, ← named]
        exact type?_entry own type _ more
      · exact lacks.append_left.append_left

end Entries

end Rule

end TexWorkspace.Bib
