import TexWorkspace.Proofs.Bib.Acceptance
import TexWorkspace.Proofs.Bib.Resynchronization.Rules

set_option autoImplicit false

/-!
How far rules look ahead. No rule looks past the first significant token that it leaves, so a rule
that leaves one does the same with any tokens behind it. A body that is closed leaves its closer;
hence an entry without a problem never sees what follows it.
-/

namespace TexWorkspace.Bib

/-- Some token is more than trivia. -/
def Anchored (tokens : List Token) : Prop :=
  ∃ token ∈ tokens, token.isTrivia = false

theorem anchored_cons {token : Token} (significant : token.isTrivia = false) (rest : List Token) :
    Anchored (token :: rest) :=
  ⟨token, List.mem_cons_self, significant⟩

namespace Anchored

variable {tokens : List Token}

theorem append (anchored : Anchored tokens) (taken : List Token) : Anchored (taken ++ tokens) := by
  obtain ⟨token, member, significant⟩ := anchored
  exact ⟨token, List.mem_append_right taken member, significant⟩

theorem ne_nil (anchored : Anchored tokens) : tokens ≠ [] := by
  rintro rfl
  obtain ⟨token, member, -⟩ := anchored
  cases member

/-- Such tokens are some trivia, a significant token and others. -/
theorem split (anchored : Anchored tokens) :
    ∃ run token rest, Grammar.Trivia run ∧ token.isTrivia = false ∧ tokens = run ++ token :: rest := by
  induction tokens with
  | nil => exact absurd rfl anchored.ne_nil
  | cons token rest ih =>
      cases trivia : token.isTrivia with
      | false => exact ⟨[], token, rest, .nil, trivia, rfl⟩
      | true =>
          obtain ⟨other, member, significant⟩ := anchored
          rcases List.mem_cons.mp member with rfl | member
          · cases trivia.symm.trans significant
          · obtain ⟨run, stop, after, runTrivia, stops, rfl⟩ := ih ⟨other, member, significant⟩
            exact ⟨token :: run, stop, after, Grammar.trivia_cons.mpr ⟨trivia, runTrivia⟩, stops,
              rfl⟩

theorem dropWhile_append (anchored : Anchored tokens) (more : List Token) :
    (tokens ++ more).dropWhile Token.isTrivia = tokens.dropWhile Token.isTrivia ++ more := by
  obtain ⟨run, token, rest, runTrivia, significant, rfl⟩ := anchored.split
  rw [List.append_assoc, List.cons_append, Rule.dropWhile_trivia_cons runTrivia _ significant,
    Rule.dropWhile_trivia_cons runTrivia _ significant, List.cons_append]

theorem takeWhile_append (anchored : Anchored tokens) (more : List Token) :
    (tokens ++ more).takeWhile Token.isTrivia = tokens.takeWhile Token.isTrivia := by
  obtain ⟨run, token, rest, -, significant, rfl⟩ := anchored.split
  rw [List.append_assoc, List.cons_append, takeWhile_append_of_stop (fun _ => significant),
    takeWhile_append_of_stop (fun _ => significant)]

theorem exists_dropWhile (anchored : Anchored tokens) :
    ∃ token rest, tokens.dropWhile Token.isTrivia = token :: rest := by
  obtain ⟨run, token, rest, runTrivia, significant, rfl⟩ := anchored.split
  exact ⟨token, rest, Rule.dropWhile_trivia_cons runTrivia rest significant⟩

theorem peek_append (anchored : Anchored tokens) (more : List Token) :
    peek (tokens ++ more) = peek tokens := by
  cases tokens with
  | nil => exact absurd rfl anchored.ne_nil
  | cons token rest => rfl

theorem peekPast_append (anchored : Anchored tokens) (more : List Token) :
    peekPast (tokens ++ more) = peekPast tokens := by
  obtain ⟨run, token, rest, runTrivia, significant, rfl⟩ := anchored.split
  rw [List.append_assoc, Rule.peekPast_trivia_append runTrivia,
    Rule.peekPast_trivia_append runTrivia]
  simp [peekPast, peek, significant]

end Anchored

namespace Rule

/-- A rule that leaves a significant token does the same with more tokens behind those at hand. -/
def Steady (rule : Rule) : Prop :=
  ∀ tokens more, Anchored (rule tokens).rest → Extends more rule tokens

theorem Lossless.anchored {rule : Rule} (lossless : Lossless rule) {tokens : List Token}
    (anchored : Anchored (rule tokens).rest) : Anchored tokens := by
  rw [← lossless tokens]
  exact anchored.append _

/-! ## Combinators -/

theorem andThen_steady {first second : Rule} (lossless : Lossless second)
    (firstSteady : Steady first) (secondSteady : Steady second) :
    Steady (first.andThen second) := by
  intro tokens more anchored
  have middle : Anchored (first tokens).rest := lossless.anchored anchored
  exact andThen_extends (firstSteady tokens more middle) (secondSteady _ more anchored)

theorem wrap_extends {body : Rule} {tokens more : List Token} (kind : NodeKind)
    (same : Extends more body tokens) : Extends more (body.wrap kind) tokens := by
  rw [Extends, wrap, same]
  rfl

theorem wrap_steady {body : Rule} (kind : NodeKind) (steady : Steady body) :
    Steady (body.wrap kind) := by
  intro tokens more anchored
  exact wrap_extends kind (steady tokens more anchored)

theorem ite_lossless {test : List Token → Prop} [DecidablePred test] {yes no : Rule}
    (yesLossless : Lossless yes) (noLossless : Lossless no) :
    Lossless fun tokens => if test tokens then yes tokens else no tokens := by
  intro tokens
  by_cases holds : test tokens
  · simp only [if_pos holds]
    exact yesLossless tokens
  · simp only [if_neg holds]
    exact noLossless tokens

theorem ite_steady {test : List Token → Prop} [DecidablePred test] {yes no : Rule}
    (yesLossless : Lossless yes) (noLossless : Lossless no)
    (same : ∀ tokens more, Anchored tokens → (test (tokens ++ more) ↔ test tokens))
    (yesSteady : Steady yes) (noSteady : Steady no) :
    Steady fun tokens => if test tokens then yes tokens else no tokens := by
  intro tokens more anchored
  by_cases holds : test tokens
  · simp only [if_pos holds] at anchored
    have there := (same tokens more (yesLossless.anchored anchored)).mpr holds
    exact extends_of_eq (if_pos holds) (if_pos there) (yesSteady tokens more anchored)
  · simp only [if_neg holds] at anchored
    have there := mt (same tokens more (noLossless.anchored anchored)).mp holds
    exact extends_of_eq (if_neg holds) (if_neg there) (noSteady tokens more anchored)

theorem done_steady : Steady done := fun _ _ _ => rfl

theorem report_steady (problem : Problem) : Steady (report problem) := fun _ _ _ => rfl

theorem take_steady : Steady take := by
  intro tokens more anchored
  exact take_extends (take_lossless.anchored anchored).ne_nil more

theorem trivia_steady : Steady trivia := by
  intro tokens more anchored
  have here := trivia_lossless.anchored anchored
  rw [Extends, trivia, here.takeWhile_append, here.dropWhile_append]
  rfl

theorem peekPast_append_of_some {tokens : List Token} {kind : TokenKind}
    (ahead : peekPast tokens = some kind) (more : List Token) :
    peekPast (tokens ++ more) = some kind := by
  obtain ⟨token, rest, dropped, rfl⟩ := exists_of_peekPast ahead
  simp [peekPast, peek, List.dropWhile_append, dropped]

theorem ahead_same (kind : TokenKind) (tokens more : List Token) (anchored : Anchored tokens) :
    peekPast (tokens ++ more) = some kind ↔ peekPast tokens = some kind := by
  rw [anchored.peekPast_append]

theorem next_same (kind : TokenKind) (tokens more : List Token) (anchored : Anchored tokens) :
    peek (tokens ++ more) = some kind ↔ peek tokens = some kind := by
  rw [anchored.peek_append]

/-! ## Values and fields -/

theorem pieces_steady : Steady pieces := by
  intro tokens more
  induction tokens using pieces.induct with
  | case1 tokens missing =>
      intro anchored
      rw [pieces_of_none missing] at anchored
      have missingMore : piece? (tokens ++ more) = none := by
        cases tokens with
        | nil => exact absurd rfl anchored.ne_nil
        | cons token rest => cases kind : token.kind <;> simp_all [piece?]
      rw [Extends, pieces_of_none missing, pieces_of_none missingMore]
  | case2 tokens first found ended =>
      intro anchored
      rw [pieces_of_last found (by simp [peekPast, peek, ended])] at anchored
      obtain ⟨run, token, rest, runTrivia, significant, split⟩ := anchored.split
      rw [split, dropWhile_trivia_cons runTrivia _ significant] at ended
      cases ended
  | case3 tokens first found joint after joined isHash ih =>
      intro anchored
      rw [pieces_of_joint found joined isHash] at anchored
      have afterAnchored : Anchored after :=
        trivia_lossless.anchored (pieces_lossless.anchored anchored)
      have restAnchored : Anchored first.rest := by
        have front := trivia_lossless first.rest
        rw [show (trivia first.rest).rest = joint :: after from joined] at front
        rw [← front]
        exact (anchored_cons (significant_of_kind isHash rfl) after).append _
      have foundMore := piece?_append_of_settled found
        (fun ended => absurd ended restAnchored.ne_nil) more
      have joinedMore : (first.rest ++ more).dropWhile Token.isTrivia = joint :: (after ++ more) := by
        rw [restAnchored.dropWhile_append, joined, List.cons_append]
      have between := trivia_steady after more (pieces_lossless.anchored anchored)
      have front := trivia_steady first.rest more (by
        rw [show (trivia first.rest).rest = joint :: after from joined]
        exact anchored_cons (significant_of_kind isHash rfl) after)
      rw [Extends, pieces_of_joint found joined isHash, pieces_of_joint foundMore joinedMore isHash,
        front, between, ih anchored]
  | case4 tokens first found joint after joined notHash =>
      intro anchored
      have last : peekPast first.rest ≠ some .hash := by
        simpa [peekPast, peek, joined] using notHash
      rw [pieces_of_last found last] at anchored
      have foundMore := piece?_append_of_settled found
        (fun ended => absurd ended anchored.ne_nil) more
      have lastMore : peekPast (first.rest ++ more) ≠ some .hash := by
        rw [anchored.peekPast_append]
        exact last
      rw [Extends, pieces_of_last found last, pieces_of_last foundMore lastMore]

theorem value_steady : Steady value := wrap_steady _ pieces_steady

theorem separator_steady : Steady separator :=
  ite_steady (andThen_lossless trivia_lossless take_lossless) done_lossless (ahead_same .comma)
    (andThen_steady take_lossless trivia_steady take_steady) done_steady

theorem assignment_steady : Steady assignment := by
  have rest := andThen_steady value_lossless trivia_steady value_steady
  exact ite_steady
    (andThen_lossless take_lossless (andThen_lossless trivia_lossless value_lossless))
    (report_lossless _) (next_same .equals)
    (andThen_steady (andThen_lossless trivia_lossless value_lossless) take_steady rest)
    (report_steady _)

theorem field_steady : Steady field := by
  have separated := andThen_steady separator_lossless assignment_steady separator_steady
  have assigned := andThen_steady (andThen_lossless assignment_lossless separator_lossless)
    trivia_steady separated
  exact wrap_steady _ (andThen_steady
    (andThen_lossless trivia_lossless (andThen_lossless assignment_lossless separator_lossless))
    (wrap_steady _ take_steady) assigned)

theorem fieldItem_steady (token : Token) : Steady (fieldItem token) := by
  unfold fieldItem
  split
  · exact field_steady
  · split
    · exact take_steady
    · exact andThen_steady (wrap_lossless _ take_lossless) (report_steady _)
        (wrap_steady _ take_steady)

theorem fields_steady (delimiter : Delimiter) : Steady (fields delimiter) := by
  intro tokens more
  induction tokens using fields.induct delimiter with
  | case1 tokens ended =>
      intro anchored
      have here := (fields_lossless delimiter).anchored anchored
      obtain ⟨run, token, rest, runTrivia, significant, rfl⟩ := here.split
      rw [dropWhile_trivia_cons runTrivia _ significant] at ended
      cases ended
  | case2 tokens token after ahead stop =>
      intro anchored
      have here := (fields_lossless delimiter).anchored anchored
      have stops : ∀ kind, peekPast tokens = some kind →
          kind = delimiter.closer ∨ kind = .atSign := by simpa [peekPast, peek, ahead] using stop
      have stopsMore := stops
      rw [← here.peekPast_append more] at stopsMore
      rw [fields_of_stop stops] at anchored
      exact extends_of_eq (fields_of_stop stops) (fields_of_stop stopsMore)
        (trivia_steady tokens more anchored)
  | case3 tokens token after ahead goOn item ih =>
      intro anchored
      have here := (fields_lossless delimiter).anchored anchored
      have aheadMore : (tokens ++ more).dropWhile Token.isTrivia = token :: (after ++ more) := by
        rw [here.dropWhile_append, ahead, List.cons_append]
      have skipped : (trivia tokens).rest = token :: after := ahead
      rw [fields_of_item ahead goOn] at anchored
      have itemAnchored : Anchored (fieldItem token (token :: after)).rest :=
        (fields_lossless delimiter).anchored anchored
      have front : Extends more trivia tokens := by
        refine trivia_steady tokens more ?_
        rw [skipped]
        exact (fieldItem_lossless token).anchored itemAnchored
      refine extends_of_eq (fields_eq_andThen ahead goOn) (fields_eq_andThen aheadMore goOn) ?_
      refine andThen_extends front ?_
      rw [skipped]
      exact andThen_extends (fieldItem_steady token _ more itemAnchored) (ih anchored)

/-! ## Keys and bodies -/

theorem names_steady : Steady names := by
  intro tokens more anchored
  have left : tokens.dropWhile Token.isName ≠ [] := anchored.ne_nil
  have noWhole : ¬ (tokens.takeWhile Token.isName).length = tokens.length := by
    intro whole
    have parts := congrArg List.length
      (List.takeWhile_append_dropWhile (p := Token.isName) (l := tokens))
    rw [List.length_append, whole] at parts
    exact left (List.eq_nil_of_length_eq_zero (by omega))
  rw [Extends, names, List.takeWhile_append, if_neg noWhole, List.dropWhile_append,
    if_neg (by simpa using left)]
  rfl

theorem keySeparator_steady (delimiter : Delimiter) : Steady (keySeparator delimiter) := by
  have taken := andThen_steady take_lossless trivia_steady take_steady
  have ended : Steady fun tokens => if peekPast tokens = some delimiter.closer then done tokens
      else report .missingKeySeparator tokens :=
    ite_steady done_lossless (report_lossless _) (ahead_same _) done_steady (report_steady _)
  refine ite_steady (andThen_lossless trivia_lossless take_lossless) ?_ (ahead_same .comma) taken
    ended
  exact ite_lossless done_lossless (report_lossless _)

theorem strayComma_steady : Steady strayComma :=
  ite_steady take_lossless done_lossless (next_same .comma) take_steady done_steady

/-- A key is found by looking past the first name. That look does not leave what the key leaves. -/
theorem startsWithKey_append {delimiter : Delimiter} {tokens : List Token}
    (anchored : Anchored (key delimiter tokens).rest) (more : List Token) :
    startsWithKey (tokens ++ more) = startsWithKey tokens := by
  have here := (key_lossless delimiter).anchored anchored
  obtain ⟨token, rest, dropped⟩ := here.exists_dropWhile
  have droppedMore : (tokens ++ more).dropWhile Token.isTrivia = token :: (rest ++ more) := by
    rw [here.dropWhile_append, dropped, List.cons_append]
  rw [startsWithKey_of_dropWhile dropped, startsWithKey_of_dropWhile droppedMore]
  cases isName : token.isName with
  | false => rfl
  | true =>
      by_cases sign : peekPast rest = some .equals
      · rw [sign, peekPast_append_of_some sign]
      · have starts : startsWithKey tokens = true := by
          simp [startsWithKey_of_dropWhile dropped, isName, sign]
        have behind : Anchored rest := by
          simp only [key, starts, if_true, wrap, andThen, trivia, dropped] at anchored
          have named := (keySeparator_lossless delimiter).anchored anchored
          rw [names, List.dropWhile_cons_of_pos isName] at named
          exact names_lossless.anchored named
        rw [behind.peekPast_append]

theorem key_steady (delimiter : Delimiter) : Steady (key delimiter) := by
  intro tokens more anchored
  have same := startsWithKey_append anchored more
  have separated := andThen_steady (keySeparator_lossless delimiter) names_steady
    (keySeparator_steady delimiter)
  have found := wrap_steady .key (andThen_steady
    (andThen_lossless names_lossless (keySeparator_lossless delimiter)) trivia_steady separated)
  have missing := andThen_steady (andThen_lossless (report_lossless .missingKey) strayComma_lossless)
    trivia_steady (andThen_steady strayComma_lossless (report_steady _) strayComma_steady)
  by_cases starts : startsWithKey tokens = true
  · rw [key, if_pos starts] at anchored
    exact extends_of_eq (if_pos starts) (if_pos (same.trans starts)) (found tokens more anchored)
  · rw [key, if_neg starts] at anchored
    exact extends_of_eq (if_neg starts) (if_neg (same ▸ starts)) (missing tokens more anchored)

theorem rawBody_steady (delimiter : Delimiter) : Steady (rawBody delimiter) := by
  intro tokens more anchored
  refine rawBody_extends ?_ more
  by_contra unclosed
  have ended := Grammar.scanRaw_of_unclosed (Bool.not_eq_true _ ▸ unclosed)
  exact anchored.ne_nil ended

theorem body_steady (form : BodyForm) (delimiter : Delimiter) : Steady (body form delimiter) := by
  cases form with
  | remark => exact rawBody_steady delimiter
  | preamble =>
      exact andThen_steady (andThen_lossless value_lossless trivia_lossless) trivia_steady
        (andThen_steady trivia_lossless value_steady trivia_steady)
  | definitions => exact fields_steady delimiter
  | keyed =>
      exact andThen_steady (fields_lossless delimiter) (key_steady delimiter)
        (fields_steady delimiter)

/-! ## Entries without a problem -/

section Closed

variable {tokens rest : List Token}

/-- A body that is closed leaves its closer, so it does not see what follows that. -/
theorem enclosed_extends {form : BodyForm} {delimiter : Delimiter}
    (reads : (enclosed form delimiter).Reads tokens rest) (filled : tokens ≠ [])
    (more : List Token) : Extends more (enclosed form delimiter) tokens := by
  obtain ⟨inner, opened, reads⟩ := reads_andThen.mp reads
  obtain ⟨middle, bodyReads, closeReads⟩ := reads_andThen.mp reads
  obtain ⟨closing, closes, split⟩ := close_sound closeReads
  obtain rfl : (take tokens).rest = inner := opened.2
  have bodyEnds : (body form delimiter (take tokens).rest).rest = closing :: rest :=
    bodyReads.2.trans split
  refine andThen_extends (take_extends filled more) (andThen_extends ?_ ?_)
  · refine body_steady form delimiter _ more ?_
    rw [bodyEnds]
    exact anchored_cons (closer_significant closes) rest
  · rw [bodyEnds]
    have ahead : ∀ others, peek (closing :: others) = some delimiter.closer := by
      simp [peek, closes]
    exact extends_of_eq (if_pos (ahead rest)) (if_pos (ahead _)) (take_extends (by simp) more)

theorem delimited_extends {form : BodyForm} (reads : (delimited form).Reads tokens rest)
    (more : List Token) : Anchored tokens ∧ Extends more (delimited form) tokens := by
  cases tokens with
  | nil => exact absurd reads not_reads_report
  | cons opening tokens =>
      rcases delimited_cons form opening with ⟨delimiter, opens, chosen⟩ | misplaced
      · have significant : opening.isTrivia = false := by
          cases delimiter <;> exact significant_of_kind opens rfl
        have inner := (reads_of_eq (chosen tokens)).mp reads
        exact ⟨anchored_cons significant tokens, extends_of_eq (chosen _) (chosen _)
          (enclosed_extends inner (List.cons_ne_nil opening tokens) more)⟩
      · exact absurd ((reads_of_eq (misplaced tokens)).mp reads) not_reads_report

theorem typed_extends (reads : typed.Reads tokens rest) (more : List Token) :
    Anchored tokens ∧ Extends more typed tokens := by
  cases tokens with
  | nil => exact absurd reads not_reads_report
  | cons type tokens =>
      by_cases word : type.kind = .word
      · have inner := (reads_of_eq (typed_of_word word tokens)).mp reads
        obtain ⟨_, named, inner⟩ := reads_andThen.mp inner
        obtain rfl := reads_take.mp (reads_wrap.mp named)
        obtain ⟨_, skipped, inner⟩ := reads_andThen.mp inner
        obtain rfl : (trivia tokens).rest = _ := skipped.2
        obtain ⟨anchored, same⟩ := delimited_extends inner more
        have typeTaken := take_extends (List.cons_ne_nil type tokens) more
        refine ⟨anchored_cons (significant_of_kind word rfl) tokens, ?_⟩
        exact extends_of_eq (typed_of_word word _) (typed_of_word word _)
          (andThen_extends (wrap_extends .entryType typeTaken)
            (andThen_extends (trivia_steady tokens more anchored) same))
      · exact absurd ((reads_of_eq (typed_of_not_word word tokens)).mp reads) not_reads_report

theorem entry_extends {mark : Token} (faultless : Faultless (entry (mark :: tokens)).trees)
    (more : List Token) : Extends more entry (mark :: tokens) := by
  have inner := reads_wrap.mp (⟨faultless, rfl⟩ : entry.Reads (mark :: tokens) _)
  obtain ⟨_, marked, inner⟩ := reads_andThen.mp inner
  obtain rfl := reads_take.mp marked
  obtain ⟨_, skipped, inner⟩ := reads_andThen.mp inner
  obtain rfl : (trivia tokens).rest = _ := skipped.2
  obtain ⟨anchored, same⟩ := typed_extends inner more
  exact wrap_extends .entry (andThen_extends (take_extends (List.cons_ne_nil mark tokens) more)
    (andThen_extends (trivia_steady tokens more anchored) same))

end Closed

end Rule

/-- The items of a file without a problem do not depend on what follows them. -/
theorem fileItems_append_of_faultless {tokens : List Token}
    (faultless : Faultless (fileItems tokens)) (more : List Token) :
    fileItems (tokens ++ more) = fileItems tokens ++ fileItems more := by
  fun_induction fileItems tokens with
  | case1 => rfl
  | case2 token rest isEntry ih =>
      obtain ⟨entryFaultless, restFaultless⟩ := faultless_append.mp faultless
      have extended := Rule.entry_extends entryFaultless more
      rw [Rule.Extends, List.cons_append] at extended
      rw [List.cons_append, fileItems, if_pos isEntry, extended, ih restFaultless,
        List.append_assoc]
  | case3 token rest noEntry ih =>
      rw [List.cons_append, fileItems, if_neg noEntry, ih (faultless_cons.mp faultless).2,
        List.cons_append]

end TexWorkspace.Bib
