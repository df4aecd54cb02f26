import TexWorkspace.Proofs.Bib.Faultless

set_option autoImplicit false

/-!
Values and fields are read without a problem exactly where the grammar has them. What can follow a
value matters: a `#` would continue it.
-/

namespace TexWorkspace.Bib

namespace Rule

/-! ## Pieces and values -/

theorem piece?_sound {tokens : List Token} {step : Step} (found : piece? tokens = some step)
    (faultless : Faultless step.trees) :
    ∃ taken, Grammar.Piece taken ∧ tokens = taken ++ step.rest := by
  cases tokens with
  | nil => cases found
  | cons token rest =>
      cases kind : token.kind <;> simp only [piece?, kind, Option.some.injEq, reduceCtorEq] at found
      case openBrace =>
        subst found
        obtain ⟨run, closer, balanced, closes, split⟩ :=
          Grammar.exists_run_of_scanBraced (faultless_textTree.mp faultless)
        refine ⟨token :: run ++ [closer], .braced kind balanced closes, ?_⟩
        exact (congrArg (token :: ·) split).trans (by simp)
      case quote =>
        subst found
        obtain ⟨run, closer, enclosed, closes, split⟩ :=
          Grammar.exists_run_of_scanQuoted (faultless_textTree.mp faultless)
        refine ⟨token :: run ++ [closer], .quoted kind enclosed closes, ?_⟩
        exact (congrArg (token :: ·) split).trans (by simp)
      case number =>
        subst found
        exact ⟨[token], .name (by simp [Token.isName, kind]), rfl⟩
      case word =>
        subst found
        exact ⟨[token], .name (by simp [Token.isName, kind]), rfl⟩

theorem piece?_complete {taken : List Token} (piece : Grammar.Piece taken) (rest : List Token) :
    ∃ step, piece? (taken ++ rest) = some step ∧ Faultless step.trees ∧ step.rest = rest := by
  cases piece with
  | @name token isName =>
      refine ⟨⟨[.token token], rest⟩, ?_, by simp, rfl⟩
      rcases of_decide_eq_true isName with kind | kind <;> simp [piece?, kind]
  | @braced opener closer run opens balanced closes =>
      have scan := balanced.scanBraced_eq closes rest
      refine ⟨⟨[textTree .bracedText .unclosedBrace opener ⟨run ++ [closer], true, rest⟩], rest⟩,
        ?_, faultless_textTree.mpr rfl, rfl⟩
      simp [piece?, opens, scan]
  | @quoted opener closer run opens enclosed closes =>
      have scan := enclosed.scanQuoted_eq closes rest
      refine ⟨⟨[textTree .quotedText .unclosedQuote opener ⟨run ++ [closer], true, rest⟩], rest⟩,
        ?_, faultless_textTree.mpr rfl, rfl⟩
      simp [piece?, opens, scan]

/-- A piece starts with a token that is not trivia. -/
theorem piece_significant {taken : List Token} (piece : Grammar.Piece taken) :
    ∃ token rest, taken = token :: rest ∧ token.isTrivia = false := by
  cases piece with
  | @name token isName =>
      refine ⟨token, [], rfl, ?_⟩
      rcases of_decide_eq_true isName with kind | kind <;> exact significant_of_kind kind rfl
  | @braced opener closer run opens =>
      exact ⟨opener, run ++ [closer], rfl, significant_of_kind opens rfl⟩
  | @quoted opener closer run opens =>
      exact ⟨opener, run ++ [closer], rfl, significant_of_kind opens rfl⟩

theorem value_significant {taken : List Token} (value : Grammar.Value taken) :
    ∃ token rest, taken = token :: rest ∧ token.isTrivia = false := by
  cases value with
  | piece piece => exact piece_significant piece
  | join piece =>
      obtain ⟨token, rest, rfl, significant⟩ := piece_significant piece
      exact ⟨token, _, rfl, significant⟩

theorem pieces_sound {tokens rest : List Token} (reads : Reads pieces tokens rest) :
    ∃ taken, Grammar.Value taken ∧ tokens = taken ++ rest := by
  obtain ⟨faultless, rfl⟩ := reads
  fun_induction pieces tokens with
  | case1 tokens missing => exact absurd faultless not_faultless_fault_cons
  | case2 tokens first found ended =>
      obtain ⟨taken, piece, split⟩ := piece?_sound found faultless
      exact ⟨taken, .piece piece, split⟩
  | case3 tokens first found joint after joined isHash more ih =>
      simp only [faultless_append, faultless_token_cons] at faultless
      obtain ⟨⟨⟨firstFaultless, -⟩, -⟩, moreFaultless⟩ := faultless
      obtain ⟨piece, isPiece, split⟩ := piece?_sound found firstFaultless
      obtain ⟨value, isValue, moreSplit⟩ := ih moreFaultless
      obtain ⟨before, beforeTrivia, beforeSplit⟩ := exists_trivia first.rest
      obtain ⟨between, betweenTrivia, betweenSplit⟩ := exists_trivia after
      refine ⟨piece ++ before ++ joint :: between ++ value,
        .join isPiece beforeTrivia isHash betweenTrivia isValue, ?_⟩
      rw [joined] at beforeSplit
      change after.dropWhile Token.isTrivia = value ++ more.rest at moreSplit
      rw [split, beforeSplit, betweenSplit, moreSplit]
      simp
  | case4 tokens first found joint after joined notHash =>
      obtain ⟨taken, piece, split⟩ := piece?_sound found faultless
      exact ⟨taken, .piece piece, split⟩

theorem pieces_complete {taken : List Token} (value : Grammar.Value taken) {rest : List Token}
    (last : peekPast rest ≠ some .hash) : Reads pieces (taken ++ rest) rest := by
  induction value with
  | piece piece =>
      obtain ⟨step, found, faultless, ends⟩ := piece?_complete piece rest
      rw [Reads, pieces_of_last found (ends ▸ last)]
      exact ⟨faultless, ends⟩
  | @join piece before after more joint isPiece beforeTrivia isHash afterTrivia isValue ih =>
      obtain ⟨step, found, faultless, ends⟩ :=
        piece?_complete isPiece (before ++ joint :: after ++ more ++ rest)
      obtain ⟨token, others, moreSplit, significant⟩ := value_significant isValue
      have joined : step.rest.dropWhile Token.isTrivia = joint :: (after ++ (more ++ rest)) := by
        rw [ends]
        simpa using dropWhile_trivia_cons beforeTrivia (after ++ (more ++ rest))
          (significant_of_kind isHash rfl)
      have skipped : (trivia (after ++ (more ++ rest))).rest = more ++ rest := by
        rw [moreSplit]
        exact dropWhile_trivia_cons afterTrivia _ significant
      have regroup : piece ++ before ++ joint :: after ++ more ++ rest =
          piece ++ (before ++ joint :: after ++ more ++ rest) := by simp
      obtain ⟨moreFaultless, moreEnds⟩ := ih
      rw [Reads, regroup, pieces_of_joint found joined isHash, skipped]
      refine ⟨?_, moreEnds⟩
      simp [faultless, moreFaultless, trivia]

theorem value_sound {tokens rest : List Token} (reads : value.Reads tokens rest) :
    ∃ taken, Grammar.Value taken ∧ tokens = taken ++ rest :=
  pieces_sound (reads_wrap.mp reads)

theorem value_complete {taken : List Token} (isValue : Grammar.Value taken) {rest : List Token}
    (last : peekPast rest ≠ some .hash) : value.Reads (taken ++ rest) rest :=
  reads_wrap.mpr (pieces_complete isValue last)

/-! ## Fields -/

theorem assignment_sound {tokens rest : List Token} (reads : assignment.Reads tokens rest) :
    ∃ equals before taken, equals.kind = .equals ∧ Grammar.Trivia before ∧ Grammar.Value taken ∧
      tokens = equals :: before ++ taken ++ rest := by
  rcases reads_ite.mp reads with ⟨sign, reads⟩ | ⟨-, reported⟩
  · obtain ⟨equals, tokens, rfl, isSign⟩ := exists_of_peek sign
    obtain ⟨_, first, reads⟩ := reads_andThen.mp reads
    obtain rfl := reads_take.mp first
    obtain ⟨_, skipped, reads⟩ := reads_andThen.mp reads
    obtain rfl := reads_trivia.mp skipped
    obtain ⟨taken, isValue, split⟩ := value_sound reads
    obtain ⟨before, beforeTrivia, beforeSplit⟩ := exists_trivia tokens
    refine ⟨equals, before, taken, isSign, beforeTrivia, isValue, ?_⟩
    rw [split] at beforeSplit
    simp [beforeSplit]
  · exact absurd reported not_reads_report

theorem assignment_complete {equals : Token} {before taken rest : List Token}
    (sign : equals.kind = .equals) (beforeTrivia : Grammar.Trivia before)
    (isValue : Grammar.Value taken) (last : peekPast rest ≠ some .hash) :
    assignment.Reads (equals :: before ++ taken ++ rest) rest := by
  obtain ⟨token, others, split, significant⟩ := value_significant isValue
  have skipped : (before ++ taken ++ rest).dropWhile Token.isTrivia = taken ++ rest := by
    rw [List.append_assoc, split]
    exact dropWhile_trivia_cons beforeTrivia _ significant
  have ahead : peek (equals :: before ++ taken ++ rest) = some .equals := by simp [peek, sign]
  exact reads_ite.mpr (.inl ⟨ahead, reads_andThen.mpr ⟨_, reads_take.mpr rfl,
    reads_andThen.mpr ⟨_, reads_trivia.mpr skipped, value_complete isValue last⟩⟩⟩)

/-- What is found ahead is taken with the trivia before it. -/
theorem trivia_take_sound {kind : TokenKind} {tokens rest : List Token}
    (ahead : peekPast tokens = some kind) (reads : (trivia.andThen take).Reads tokens rest) :
    ∃ run token, Grammar.Trivia run ∧ token.kind = kind ∧ tokens = run ++ token :: rest := by
  obtain ⟨token, after, dropped, isKind⟩ := exists_of_peekPast ahead
  obtain ⟨run, runTrivia, split⟩ := exists_trivia tokens
  obtain ⟨_, skipped, taken⟩ := reads_andThen.mp reads
  obtain rfl := reads_trivia.mp skipped
  rw [dropped] at taken split
  obtain rfl := reads_take.mp taken
  exact ⟨run, token, runTrivia, isKind, split⟩

/-- A separator is never a problem; what it takes can stand among the fields. -/
theorem separator_sound {tokens rest : List Token} (reads : separator.Reads tokens rest) :
    ∃ taken, Grammar.Fields taken ∧ tokens = taken ++ rest := by
  rcases reads_ite.mp reads with ⟨comma, reads⟩ | ⟨-, idle⟩
  · obtain ⟨run, token, runTrivia, kind, split⟩ := trivia_take_sound comma reads
    refine ⟨run ++ [token], .of_trivia runTrivia (.skip (.inr kind) .nil), ?_⟩
    rw [split]
    simp
  · exact ⟨[], .nil, reads_done.mp idle⟩

theorem field_sound {name : Token} {tokens rest : List Token} (word : name.kind = .word)
    (reads : field.Reads (name :: tokens) rest) :
    ∃ taken, Grammar.Fields taken ∧ name :: tokens = taken ++ rest := by
  obtain ⟨_, named, reads⟩ := reads_andThen.mp (reads_wrap.mp reads)
  obtain rfl := reads_take.mp (reads_wrap.mp named)
  obtain ⟨_, skipped, reads⟩ := reads_andThen.mp reads
  obtain rfl := reads_trivia.mp skipped
  obtain ⟨_, assigned, separated⟩ := reads_andThen.mp reads
  obtain ⟨equals, after, taken, sign, afterTrivia, isValue, split⟩ := assignment_sound assigned
  obtain ⟨last, isLast, lastSplit⟩ := separator_sound separated
  obtain ⟨before, beforeTrivia, beforeSplit⟩ := exists_trivia tokens
  refine ⟨_, .field word beforeTrivia sign afterTrivia isValue isLast, ?_⟩
  rw [split, lastSplit] at beforeSplit
  simp [beforeSplit]

theorem fieldItem_sound {token : Token} {tokens rest : List Token}
    (reads : (fieldItem token).Reads (token :: tokens) rest) :
    ∃ taken, Grammar.Fields taken ∧ token :: tokens = taken ++ rest := by
  unfold fieldItem at reads
  split at reads
  · rename_i word
    exact field_sound word reads
  · split at reads
    · rename_i comma
      obtain rfl := reads_take.mp reads
      exact ⟨[token], .skip (.inr comma) .nil, rfl⟩
    · -- A token out of place is a problem.
      obtain ⟨_, reported, -⟩ := reads_andThen.mp reads
      exact absurd reported not_reads_report

/-- Where the fields of an entry end, only the trivia before the end is read. -/
theorem fields_reads_of_stop {delimiter : Delimiter} {tokens rest : List Token}
    (stop : ∀ kind, peekPast tokens = some kind → kind = delimiter.closer ∨ kind = .atSign) :
    Reads (fields delimiter) tokens rest ↔ tokens.dropWhile Token.isTrivia = rest := by
  rw [Reads, fields_of_stop stop]
  exact reads_trivia

theorem fields_reads_of_item {delimiter : Delimiter} {tokens after rest : List Token}
    {token : Token} (ahead : tokens.dropWhile Token.isTrivia = token :: after)
    (goOn : ¬ (token.kind = delimiter.closer ∨ token.kind = .atSign)) :
    Reads (fields delimiter) tokens rest ↔
      ∃ middle, (fieldItem token).Reads (token :: after) middle ∧
        Reads (fields delimiter) middle rest := by
  rw [Reads, fields_of_item ahead goOn]
  constructor
  · rintro ⟨faultless, ends⟩
    simp only [faultless_append] at faultless
    exact ⟨_, ⟨faultless.1.2, rfl⟩, faultless.2, ends⟩
  · rintro ⟨_, ⟨item, rfl⟩, more, ends⟩
    refine ⟨?_, ends⟩
    simp [trivia, item, more]

theorem fields_sound {delimiter : Delimiter} {tokens rest : List Token}
    (reads : Reads (fields delimiter) tokens rest) :
    ∃ taken, Grammar.Fields taken ∧ tokens = taken ++ rest := by
  obtain ⟨faultless, rfl⟩ := reads
  fun_induction fields delimiter tokens with
  | case1 tokens ended =>
      obtain ⟨run, runTrivia, split⟩ := exists_trivia tokens
      exact ⟨run, runTrivia.fields, split⟩
  | case2 tokens token after ahead stop =>
      obtain ⟨run, runTrivia, split⟩ := exists_trivia tokens
      exact ⟨run, runTrivia.fields, split⟩
  | case3 tokens token after ahead goOn item more ih =>
      simp only [faultless_append] at faultless
      obtain ⟨⟨-, itemFaultless⟩, moreFaultless⟩ := faultless
      obtain ⟨others, isOthers, (moreSplit : item.rest = others ++ more.rest)⟩ :=
        ih moreFaultless
      obtain ⟨run, runTrivia, split⟩ := exists_trivia tokens
      obtain ⟨taken, isFields, (itemSplit : token :: after = taken ++ item.rest)⟩ :=
        fieldItem_sound ⟨itemFaultless, rfl⟩
      rw [ahead] at split
      refine ⟨run ++ (taken ++ others), .of_trivia runTrivia (isFields.append isOthers), ?_⟩
      rw [split, itemSplit, moreSplit]
      simp

/-- Trivia in front makes no difference to the fields that are read. -/
theorem fields_reads_skip {delimiter : Delimiter} {run tokens rest : List Token}
    (runTrivia : Grammar.Trivia run) :
    Reads (fields delimiter) (run ++ tokens) rest ↔ Reads (fields delimiter) tokens rest := by
  have same := runTrivia.dropWhile_append tokens
  have sameKind := peekPast_trivia_append runTrivia tokens
  by_cases stop : ∀ kind, peekPast tokens = some kind → kind = delimiter.closer ∨ kind = .atSign
  · rw [fields_reads_of_stop stop, fields_reads_of_stop (sameKind ▸ stop), same]
  · simp only [Classical.not_forall] at stop
    obtain ⟨kind, ahead, goOn⟩ := stop
    obtain ⟨token, after, dropped, rfl⟩ := exists_of_peekPast ahead
    rw [fields_reads_of_item dropped goOn, fields_reads_of_item (same.trans dropped) goOn]

/-- A separator reads as fields read. -/
theorem fields_reads_separator {delimiter : Delimiter} {tokens rest : List Token} :
    Reads (fields delimiter) (separator tokens).rest rest ↔
      Reads (fields delimiter) tokens rest := by
  by_cases comma : peekPast tokens = some .comma
  · obtain ⟨token, after, dropped, kind⟩ := exists_of_peekPast comma
    have goOn : ¬ (token.kind = delimiter.closer ∨ token.kind = .atSign) := by
      cases delimiter <;> simp [kind, Delimiter.closer]
    have ends : (separator tokens).rest = after := by
      simp [separator, comma, andThen, trivia, dropped, take]
    have isTake : fieldItem token = take := by simp [fieldItem, kind]
    rw [fields_reads_of_item dropped goOn, ends, isTake]
    simp only [reads_take, exists_eq_left']
  · simp [separator, comma, done]

theorem fields_peekPast_ne_hash {delimiter : Delimiter} {taken : List Token}
    (isFields : Grammar.Fields taken) {closing : Token} (closes : closing.kind = delimiter.closer)
    (rest : List Token) : peekPast (taken ++ closing :: rest) ≠ some .hash := by
  induction isFields with
  | nil =>
      rw [List.nil_append, peekPast_cons rest (closer_significant closes), closes]
      cases delimiter <;> simp [Delimiter.closer]
  | @skip token others skipped _ ih =>
      rcases skipped with isTrivia | comma
      · have onlyTrivia : Grammar.Trivia [token] :=
          Grammar.trivia_cons.mpr ⟨isTrivia, .nil⟩
        rw [List.cons_append, ← List.singleton_append, peekPast_trivia_append onlyTrivia]
        exact ih
      · rw [List.cons_append, peekPast_cons _ (significant_of_kind comma rfl),
          comma]
        simp
  | @field name equals before after value others word =>
      rw [List.append_assoc, List.append_assoc, List.append_assoc, List.cons_append,
        peekPast_cons _ (significant_of_kind word rfl), word]
      simp

theorem fields_complete {delimiter : Delimiter} {taken : List Token}
    (isFields : Grammar.Fields taken) {closing : Token} (closes : closing.kind = delimiter.closer)
    (rest : List Token) :
    Reads (fields delimiter) (taken ++ closing :: rest) (closing :: rest) := by
  have closing_ := closer_significant closes
  induction isFields with
  | nil =>
      have ahead : peekPast (closing :: rest) = some delimiter.closer := by
        rw [peekPast_cons rest closing_, closes]
      refine (fields_reads_of_stop ?_).mpr (List.dropWhile_cons_of_neg (by simp [closing_]))
      intro kind found
      exact .inl (Option.some.inj (found.symm.trans ahead))
  | @skip token others skipped _ ih =>
      rcases skipped with isTrivia | comma
      · have onlyTrivia : Grammar.Trivia [token] :=
          Grammar.trivia_cons.mpr ⟨isTrivia, .nil⟩
        exact (fields_reads_skip onlyTrivia).mpr ih
      · have goOn : ¬ (token.kind = delimiter.closer ∨ token.kind = .atSign) := by
          cases delimiter <;> simp [comma, Delimiter.closer]
        have ahead := dropWhile_trivia_cons .nil (others ++ closing :: rest)
          (significant_of_kind comma rfl)
        have isTake : fieldItem token = take := by simp [fieldItem, comma]
        exact (fields_reads_of_item ahead goOn).mpr
          ⟨_, isTake ▸ reads_take.mpr rfl, ih⟩
  | @field name equals before after value others word beforeTrivia sign afterTrivia isValue
      isOthers ih =>
      have goOn : ¬ (name.kind = delimiter.closer ∨ name.kind = .atSign) := by
        cases delimiter <;> simp [word, Delimiter.closer]
      have notEquals : equals.isTrivia = false := significant_of_kind sign rfl
      have regroup : name :: before ++ equals :: after ++ value ++ others ++ closing :: rest =
          name :: (before ++ equals :: (after ++ value ++ (others ++ closing :: rest))) := by simp
      have ahead := dropWhile_trivia_cons .nil
        (before ++ equals :: (after ++ value ++ (others ++ closing :: rest)))
        (significant_of_kind word rfl)
      have isField : fieldItem name = field := by simp [fieldItem, word]
      have assigned := assignment_complete sign afterTrivia isValue
        (fields_peekPast_ne_hash isOthers closes rest)
      -- A separator that the field takes is missing from the fields behind it, which read the same.
      have separates : separator.Reads (others ++ closing :: rest)
          (separator (others ++ closing :: rest)).rest := by
        refine ⟨?_, rfl⟩
        unfold separator
        split <;> simp [andThen, trivia, take, done]
        cases (others ++ closing :: rest).dropWhile Token.isTrivia <;> simp
      rw [regroup]
      refine (fields_reads_of_item ahead goOn).mpr ⟨_, ?_, fields_reads_separator.mpr ih⟩
      rw [isField]
      exact reads_wrap.mpr (reads_andThen.mpr ⟨_, reads_wrap.mpr (reads_take.mpr rfl),
        reads_andThen.mpr ⟨_, reads_trivia.mpr (dropWhile_trivia_cons beforeTrivia _ notEquals),
          reads_andThen.mpr ⟨_, assigned, separates⟩⟩⟩)

end Rule

end TexWorkspace.Bib
