import TexWorkspace.Proofs.Bib.Acceptance.Fields
import TexWorkspace.Proofs.Bib.TokenSeams

set_option autoImplicit false

/-!
The parser accepts exactly the grammar. Every rule reads what the grammar says without a problem, and
nothing else. Main statement: a text has no diagnostics if and only if its tokens form a file of the
grammar.
-/

namespace TexWorkspace.Bib

namespace Rule

/-! ## Keys -/

theorem keySeparator_sound {delimiter : Delimiter} {tokens rest : List Token}
    (reads : (keySeparator delimiter).Reads tokens rest) :
    (∃ after comma, Grammar.Trivia after ∧ comma.kind = .comma ∧
      tokens = after ++ comma :: rest) ∨
    (tokens = rest ∧ peekPast rest = some delimiter.closer) := by
  rcases reads_ite.mp reads with ⟨comma, taken⟩ | ⟨-, reads⟩
  · exact .inl (trivia_take_sound comma taken)
  · rcases reads_ite.mp reads with ⟨closes, idle⟩ | ⟨-, reported⟩
    · obtain rfl := reads_done.mp idle
      exact .inr ⟨rfl, closes⟩
    · exact absurd reported not_reads_report

/-- The words of a key are one name, since names never stand side by side. -/
theorem names_sound {name : Token} {tokens rest : List Token}
    (separated : Separated (name :: tokens)) (isName : name.isName = true)
    (reads : names.Reads (name :: tokens) rest) : tokens = rest := by
  obtain ⟨-, (ends : (name :: tokens).dropWhile Token.isName = rest)⟩ := reads
  rw [List.dropWhile_cons_of_pos isName] at ends
  cases tokens with
  | nil => exact ends
  | cons next others =>
      have apart := (List.isChain_cons_cons.mp separated).1
      have noName : ¬ next.isName = true := fun nextName => apart ⟨isName, nextName⟩
      rw [← ends, List.dropWhile_cons_of_neg noName]

theorem names_of_separated {name : Token} {tokens : List Token}
    (separated : Separated (name :: tokens)) (isName : name.isName = true) :
    names (name :: tokens) = ⟨[.token name], tokens⟩ := by
  have only : tokens.takeWhile Token.isName = [] ∧ tokens.dropWhile Token.isName = tokens := by
    cases tokens with
    | nil => exact ⟨rfl, rfl⟩
    | cons next others =>
        have apart := (List.isChain_cons_cons.mp separated).1
        have noName : ¬ next.isName = true := fun nextName => apart ⟨isName, nextName⟩
        exact ⟨List.takeWhile_cons_of_neg noName, List.dropWhile_cons_of_neg noName⟩
  rw [names, List.takeWhile_cons_of_pos isName, List.dropWhile_cons_of_pos isName, only.1, only.2]
  rfl

theorem exists_of_startsWithKey {tokens : List Token} (starts : startsWithKey tokens = true) :
    ∃ before name rest, Grammar.Trivia before ∧ name.isName = true ∧
      tokens.dropWhile Token.isTrivia = name :: rest ∧ tokens = before ++ name :: rest := by
  obtain ⟨before, beforeTrivia, split⟩ := exists_trivia tokens
  cases dropped : tokens.dropWhile Token.isTrivia with
  | nil => simp [startsWithKey, dropped] at starts
  | cons name rest =>
      simp only [startsWithKey, dropped, Bool.and_eq_true] at starts
      rw [dropped] at split
      exact ⟨before, name, rest, beforeTrivia, starts.1, rfl, split⟩

theorem key_sound {delimiter : Delimiter} {tokens rest : List Token} (separated : Separated tokens)
    (reads : (key delimiter).Reads tokens rest) :
    ∃ before name, Grammar.Trivia before ∧ name.isName = true ∧
      ((∃ after comma, Grammar.Trivia after ∧ comma.kind = .comma ∧
        tokens = before ++ name :: after ++ comma :: rest) ∨
      (tokens = before ++ name :: rest ∧ peekPast rest = some delimiter.closer)) := by
  rcases reads_ite.mp reads with ⟨starts, reads⟩ | ⟨-, reads⟩
  · obtain ⟨before, name, more, beforeTrivia, isName, dropped, split⟩ :=
      exists_of_startsWithKey starts
    obtain ⟨_, skipped, reads⟩ := reads_andThen.mp (reads_wrap.mp reads)
    obtain rfl := reads_trivia.mp skipped
    obtain ⟨_, named, reads⟩ := reads_andThen.mp reads
    rw [dropped] at named
    rw [split] at separated
    -- The rule takes all names in a row, but the lexer leaves no two of them side by side.
    obtain rfl := names_sound separated.of_append isName named
    refine ⟨before, name, beforeTrivia, isName, ?_⟩
    rcases keySeparator_sound reads with ⟨after, comma, afterTrivia, kind, rfl⟩ | ⟨rfl, closes⟩
    · exact .inl ⟨after, comma, afterTrivia, kind, by rw [split]; simp⟩
    · exact .inr ⟨split, closes⟩
  · obtain ⟨_, -, reads⟩ := reads_andThen.mp reads
    obtain ⟨_, reported, -⟩ := reads_andThen.mp reads
    exact absurd reported not_reads_report

/-- A key is read up to the first token after it that is neither trivia nor a name. -/
theorem key_complete {delimiter : Delimiter} {before after more rest : List Token}
    {name next : Token} (beforeTrivia : Grammar.Trivia before) (isName : name.isName = true)
    (afterTrivia : Grammar.Trivia after) (noName : next.isName = false)
    (significant : next.isTrivia = false) (noSign : next.kind ≠ .equals)
    (separates : (keySeparator delimiter).Reads (after ++ next :: more) rest) :
    (key delimiter).Reads (before ++ name :: (after ++ next :: more)) rest := by
  have dropped := dropWhile_trivia_cons beforeTrivia (after ++ next :: more)
    (name_significant isName)
  have ahead : peekPast (after ++ next :: more) = some next.kind := by
    rw [peekPast_trivia_append afterTrivia, peekPast_cons more significant]
  have starts : startsWithKey (before ++ name :: (after ++ next :: more)) = true := by
    simp [startsWithKey, dropped, isName, ahead, noSign]
  have alone : (after ++ next :: more).dropWhile Token.isName = after ++ next :: more := by
    cases after with
    | nil => exact List.dropWhile_cons_of_neg (by simp [noName])
    | cons token others =>
        have isTrivia := (Grammar.trivia_cons.mp afterTrivia).1
        refine List.dropWhile_cons_of_neg ?_
        intro tokenName
        simp [name_significant tokenName] at isTrivia
  have named : names.Reads (name :: (after ++ next :: more)) (after ++ next :: more) := by
    refine ⟨by simp [names], ?_⟩
    rw [names, List.dropWhile_cons_of_pos isName, alone]
  exact reads_ite.mpr (.inl ⟨starts, reads_wrap.mpr (reads_andThen.mpr
    ⟨_, reads_trivia.mpr dropped, reads_andThen.mpr ⟨_, named, separates⟩⟩)⟩)

/-! ## Bodies -/

theorem rawBody_sound {delimiter : Delimiter} {closing : Token} {tokens rest : List Token}
    (reads : (rawBody delimiter).Reads tokens (closing :: rest)) :
    ∃ taken, Grammar.Run [delimiter.closer] taken ∧ tokens = taken ++ closing :: rest := by
  obtain ⟨-, ends⟩ := reads
  change (scanRaw delimiter.closer 0 tokens).rest = closing :: rest at ends
  have closed : (scanRaw delimiter.closer 0 tokens).closed = true := by
    by_contra unclosed
    rw [Grammar.scanRaw_of_unclosed (by simpa using unclosed)] at ends
    cases ends
  obtain ⟨run, isRun, split⟩ := Grammar.exists_run_of_scanRaw closed
  rw [ends] at split
  exact ⟨run, isRun, split⟩

theorem rawBody_complete {delimiter : Delimiter} {closing : Token} {taken : List Token}
    (isRun : Grammar.Run [delimiter.closer] taken) (closes : closing.kind = delimiter.closer)
    (rest : List Token) : (rawBody delimiter).Reads (taken ++ closing :: rest) (closing :: rest) := by
  rw [← closes] at isRun
  have scan := isRun.scanRaw_eq rest
  rw [closes] at scan
  simp [Reads, rawBody, scan]

theorem preamble_sound {closing : Token} {tokens rest : List Token}
    (reads : (trivia.andThen (value.andThen trivia)).Reads tokens (closing :: rest)) :
    ∃ before taken after, Grammar.Trivia before ∧ Grammar.Value taken ∧ Grammar.Trivia after ∧
      tokens = before ++ taken ++ after ++ closing :: rest := by
  obtain ⟨_, skipped, reads⟩ := reads_andThen.mp reads
  obtain rfl := reads_trivia.mp skipped
  obtain ⟨middle, valued, trailing⟩ := reads_andThen.mp reads
  obtain ⟨taken, isValue, valueSplit⟩ := value_sound valued
  obtain ⟨before, beforeTrivia, split⟩ := exists_trivia tokens
  obtain ⟨after, afterTrivia, afterSplit⟩ := exists_trivia middle
  rw [reads_trivia.mp trailing] at afterSplit
  refine ⟨before, taken, after, beforeTrivia, isValue, afterTrivia, ?_⟩
  rw [split, valueSplit, afterSplit]
  simp

theorem preamble_complete {delimiter : Delimiter} {closing : Token}
    {before taken after : List Token} (beforeTrivia : Grammar.Trivia before)
    (isValue : Grammar.Value taken) (afterTrivia : Grammar.Trivia after)
    (closes : closing.kind = delimiter.closer) (rest : List Token) :
    (trivia.andThen (value.andThen trivia)).Reads
      (before ++ taken ++ after ++ closing :: rest) (closing :: rest) := by
  obtain ⟨token, others, split, significant⟩ := value_significant isValue
  have skipped : (before ++ taken ++ after ++ closing :: rest).dropWhile Token.isTrivia =
      taken ++ (after ++ closing :: rest) := by
    rw [List.append_assoc, List.append_assoc, split]
    exact dropWhile_trivia_cons beforeTrivia _ significant
  have last := fields_peekPast_ne_hash
    afterTrivia.fields closes rest
  have trailing := dropWhile_trivia_cons afterTrivia rest (closer_significant closes)
  exact reads_andThen.mpr ⟨_, reads_trivia.mpr skipped,
    reads_andThen.mpr ⟨_, value_complete isValue last, reads_trivia.mpr trailing⟩⟩

theorem keyed_sound {delimiter : Delimiter} {closing : Token} {tokens rest : List Token}
    {type : String} (plain : type ∉ ["comment", "preamble", "string"])
    (separated : Separated tokens)
    (reads : ((key delimiter).andThen (fields delimiter)).Reads tokens (closing :: rest)) :
    ∃ taken, Grammar.Body delimiter type taken ∧ tokens = taken ++ closing :: rest := by
  obtain ⟨middle, keyRead, fieldsRead⟩ := reads_andThen.mp reads
  obtain ⟨before, name, beforeTrivia, isName, keyed⟩ := key_sound separated keyRead
  rcases keyed with ⟨after, comma, afterTrivia, kind, split⟩ | ⟨split, ahead⟩
  · obtain ⟨taken, isFields, fieldsSplit⟩ := fields_sound fieldsRead
    refine ⟨_, .keyed plain beforeTrivia isName afterTrivia kind isFields, ?_⟩
    rw [split, fieldsSplit]
    simp
  · -- The entry closes after its key, so only trivia stands between them.
    have stops := (fields_reads_of_stop (by
      intro other found
      exact .inl (Option.some.inj (found.symm.trans ahead)))).mp fieldsRead
    obtain ⟨after, afterTrivia, afterSplit⟩ := exists_trivia middle
    rw [stops] at afterSplit
    refine ⟨_, .key plain beforeTrivia isName afterTrivia, ?_⟩
    rw [split, afterSplit]
    simp

theorem body_sound {type : String} {delimiter : Delimiter} {closing : Token}
    {tokens rest : List Token} (separated : Separated tokens)
    (reads : (body (BodyForm.ofType type) delimiter).Reads tokens (closing :: rest)) :
    ∃ taken, Grammar.Body delimiter (Text.lowercase type) taken ∧
      tokens = taken ++ closing :: rest := by
  unfold BodyForm.ofType at reads
  split at reads
  · rename_i comment
    obtain ⟨taken, isRun, split⟩ := rawBody_sound reads
    exact ⟨taken, comment ▸ .comment isRun, split⟩
  · rename_i preamble
    obtain ⟨before, taken, after, beforeTrivia, isValue, afterTrivia, split⟩ :=
      preamble_sound reads
    exact ⟨_, preamble ▸ .preamble beforeTrivia isValue afterTrivia, split⟩
  · rename_i string
    obtain ⟨taken, isFields, split⟩ := fields_sound reads
    exact ⟨taken, string ▸ .string isFields, split⟩
  · rename_i noComment noPreamble noString
    refine keyed_sound ?_ separated reads
    simp only [List.mem_cons, List.not_mem_nil, or_false, not_or]
    exact ⟨noComment, noPreamble, noString⟩

theorem key_alone_complete {delimiter : Delimiter} {closing : Token} {before after : List Token}
    {name : Token} (beforeTrivia : Grammar.Trivia before) (isName : name.isName = true)
    (afterTrivia : Grammar.Trivia after) (closes : closing.kind = delimiter.closer)
    (rest : List Token) :
    ((key delimiter).andThen (fields delimiter)).Reads
      (before ++ name :: (after ++ closing :: rest)) (closing :: rest) := by
  have ahead : peekPast (after ++ closing :: rest) = some delimiter.closer := by
    rw [peekPast_trivia_append afterTrivia, peekPast_cons rest (closer_significant closes), closes]
  have noComma : peekPast (after ++ closing :: rest) ≠ some .comma := by
    rw [ahead]
    cases delimiter <;> simp [Delimiter.closer]
  have separates : (keySeparator delimiter).Reads (after ++ closing :: rest)
      (after ++ closing :: rest) :=
    reads_ite.mpr (.inr ⟨noComma, reads_ite.mpr (.inl ⟨ahead, reads_done.mpr rfl⟩)⟩)
  have noName : closing.isName = false := by
    cases delimiter <;> simp [Token.isName, closes, Delimiter.closer]
  have noSign : closing.kind ≠ .equals := by
    cases delimiter <;> simp [closes, Delimiter.closer]
  have onlyTrivia := fields_complete afterTrivia.fields
    closes rest
  exact reads_andThen.mpr ⟨_, key_complete beforeTrivia isName afterTrivia noName
    (closer_significant closes) noSign separates, onlyTrivia⟩

theorem keyed_complete {delimiter : Delimiter} {closing : Token}
    {before after taken : List Token} {name comma : Token} (beforeTrivia : Grammar.Trivia before)
    (isName : name.isName = true) (afterTrivia : Grammar.Trivia after)
    (isComma : comma.kind = .comma) (isFields : Grammar.Fields taken)
    (closes : closing.kind = delimiter.closer) (rest : List Token) :
    ((key delimiter).andThen (fields delimiter)).Reads
      (before ++ name :: (after ++ comma :: (taken ++ closing :: rest))) (closing :: rest) := by
  have significant := significant_of_kind isComma rfl
  have dropped := dropWhile_trivia_cons afterTrivia (taken ++ closing :: rest) significant
  have ahead : peekPast (after ++ comma :: (taken ++ closing :: rest)) = some .comma := by
    rw [peekPast, dropped, peek, List.head?_cons, Option.map_some, isComma]
  have separates : (keySeparator delimiter).Reads (after ++ comma :: (taken ++ closing :: rest))
      (taken ++ closing :: rest) :=
    reads_ite.mpr (.inl ⟨ahead,
      reads_andThen.mpr ⟨_, reads_trivia.mpr dropped, reads_take.mpr rfl⟩⟩)
  exact reads_andThen.mpr ⟨_, key_complete beforeTrivia isName afterTrivia
    (by simp [Token.isName, isComma]) significant (by simp [isComma]) separates,
    fields_complete isFields closes rest⟩

theorem body_complete {type lowered : String} (named : Text.lowercase type = lowered)
    {delimiter : Delimiter} {closing : Token} {taken : List Token}
    (isBody : Grammar.Body delimiter lowered taken) (closes : closing.kind = delimiter.closer)
    (rest : List Token) :
    (body (BodyForm.ofType type) delimiter).Reads (taken ++ closing :: rest)
      (closing :: rest) := by
  cases isBody with
  | comment isRun =>
      simp only [BodyForm.ofType, named]
      exact rawBody_complete isRun closes rest
  | preamble beforeTrivia isValue afterTrivia =>
      simp only [BodyForm.ofType, named]
      exact preamble_complete beforeTrivia isValue afterTrivia closes rest
  | string isFields =>
      simp only [BodyForm.ofType, named]
      exact fields_complete isFields closes rest
  | @key _ before after name plain beforeTrivia isName afterTrivia =>
      rw [BodyForm.ofType_eq_keyed (named ▸ plain), List.append_assoc, List.cons_append]
      exact key_alone_complete beforeTrivia isName afterTrivia closes rest
  | @keyed _ before after fields name comma plain beforeTrivia isName afterTrivia isComma isFields =>
      have regroup : before ++ name :: after ++ comma :: fields ++ closing :: rest =
          before ++ name :: (after ++ comma :: (fields ++ closing :: rest)) := by simp
      rw [BodyForm.ofType_eq_keyed (named ▸ plain), regroup]
      exact keyed_complete beforeTrivia isName afterTrivia isComma isFields closes rest

/-! ## Entries and files -/

theorem close_sound {delimiter : Delimiter} {tokens rest : List Token}
    (reads : (close delimiter).Reads tokens rest) :
    ∃ closing, closing.kind = delimiter.closer ∧ tokens = closing :: rest := by
  rcases reads_ite.mp reads with ⟨closes, taken⟩ | ⟨-, reported⟩
  · obtain ⟨closing, tokens, rfl, isCloser⟩ := exists_of_peek closes
    obtain rfl := reads_take.mp taken
    exact ⟨closing, isCloser, rfl⟩
  · exact absurd reported not_reads_report

theorem close_complete {delimiter : Delimiter} {closing : Token}
    (closes : closing.kind = delimiter.closer) (rest : List Token) :
    (close delimiter).Reads (closing :: rest) rest := by
  have ahead : peek (closing :: rest) = some delimiter.closer := by simp [peek, closes]
  exact reads_ite.mpr (.inl ⟨ahead, reads_take.mpr rfl⟩)

theorem enclosed_sound {type : String} {delimiter : Delimiter} {opening : Token}
    {tokens rest : List Token} (separated : Separated tokens)
    (reads : (enclosed (BodyForm.ofType type) delimiter).Reads (opening :: tokens) rest) :
    ∃ taken closing, Grammar.Body delimiter (Text.lowercase type) taken ∧
      closing.kind = delimiter.closer ∧ tokens = taken ++ closing :: rest := by
  obtain ⟨_, opened, reads⟩ := reads_andThen.mp reads
  obtain rfl := reads_take.mp opened
  obtain ⟨_, bodyRead, closed⟩ := reads_andThen.mp reads
  obtain ⟨closing, closes, rfl⟩ := close_sound closed
  obtain ⟨taken, isBody, split⟩ := body_sound separated bodyRead
  exact ⟨taken, closing, isBody, closes, split⟩

theorem delimited_sound {type : String} {tokens rest : List Token} (separated : Separated tokens)
    (reads : (delimited (BodyForm.ofType type)).Reads tokens rest) :
    ∃ delimiter opening taken closing, opening.kind = Grammar.opener delimiter ∧
      Grammar.Body delimiter (Text.lowercase type) taken ∧ closing.kind = delimiter.closer ∧
      tokens = opening :: taken ++ closing :: rest := by
  cases tokens with
  | nil => exact absurd reads not_reads_report
  | cons opening tokens =>
      have inner : Separated tokens := @Separated.of_append [opening] tokens separated
      by_cases brace : opening.kind = .openBrace
      · have chosen : delimited (BodyForm.ofType type) (opening :: tokens) =
            enclosed (BodyForm.ofType type) .braces (opening :: tokens) := by
          simp [delimited, peek, brace]
        obtain ⟨taken, closing, isBody, closes, split⟩ :=
          enclosed_sound inner ((reads_of_eq chosen).mp reads)
        exact ⟨.braces, opening, taken, closing, brace, isBody, closes, by rw [split]; rfl⟩
      · by_cases paren : opening.kind = .openParen
        · have chosen : delimited (BodyForm.ofType type) (opening :: tokens) =
              enclosed (BodyForm.ofType type) .parens (opening :: tokens) := by
            simp [delimited, peek, paren]
          obtain ⟨taken, closing, isBody, closes, split⟩ :=
            enclosed_sound inner ((reads_of_eq chosen).mp reads)
          exact ⟨.parens, opening, taken, closing, paren, isBody, closes, by rw [split]; rfl⟩
        · have chosen : delimited (BodyForm.ofType type) (opening :: tokens) =
              report .missingOpener (opening :: tokens) := by
            simp only [delimited, peek, List.head?_cons, Option.map_some]
            split <;> simp_all
          exact absurd ((reads_of_eq chosen).mp reads) not_reads_report

theorem delimited_complete {type : String} {delimiter : Delimiter} {opening closing : Token}
    {taken : List Token} (opens : opening.kind = Grammar.opener delimiter)
    (isBody : Grammar.Body delimiter (Text.lowercase type) taken)
    (closes : closing.kind = delimiter.closer) (rest : List Token) :
    (delimited (BodyForm.ofType type)).Reads (opening :: taken ++ closing :: rest) rest := by
  have chosen : delimited (BodyForm.ofType type) (opening :: taken ++ closing :: rest) =
      enclosed (BodyForm.ofType type) delimiter (opening :: taken ++ closing :: rest) := by
    cases delimiter <;> simp [delimited, peek, opens, Grammar.opener]
  exact (reads_of_eq chosen).mpr (reads_andThen.mpr ⟨_, reads_take.mpr rfl,
    reads_andThen.mpr ⟨_, body_complete rfl isBody closes rest, close_complete closes rest⟩⟩)

theorem typed_sound {tokens rest : List Token} (separated : Separated tokens)
    (reads : typed.Reads tokens rest) :
    ∃ type between delimiter opening taken closing, type.kind = .word ∧ Grammar.Trivia between ∧
      opening.kind = Grammar.opener delimiter ∧
      Grammar.Body delimiter (Text.lowercase type.text) taken ∧
      closing.kind = delimiter.closer ∧
      tokens = type :: between ++ opening :: taken ++ closing :: rest := by
  cases tokens with
  | nil => exact absurd reads not_reads_report
  | cons type tokens =>
      by_cases word : type.kind = .word
      · have chosen : typed (type :: tokens) = ((take.wrap .entryType).andThen
            (trivia.andThen (delimited (BodyForm.ofType type.text)))) (type :: tokens) :=
          if_pos word
        obtain ⟨_, first, reads⟩ := reads_andThen.mp ((reads_of_eq chosen).mp reads)
        obtain rfl := reads_take.mp (reads_wrap.mp first)
        obtain ⟨_, skipped, reads⟩ := reads_andThen.mp reads
        obtain rfl := reads_trivia.mp skipped
        obtain ⟨between, betweenTrivia, betweenSplit⟩ := exists_trivia tokens
        have inner : Separated (tokens.dropWhile Token.isTrivia) := by
          rw [betweenSplit] at separated
          exact @Separated.of_append (type :: between) _ separated
        obtain ⟨delimiter, opening, taken, closing, opens, isBody, closes, split⟩ :=
          delimited_sound inner reads
        refine ⟨type, between, delimiter, opening, taken, closing, word, betweenTrivia, opens,
          isBody, closes, ?_⟩
        rw [split] at betweenSplit
        simp [betweenSplit]
      · have chosen : typed (type :: tokens) = report .missingType (type :: tokens) :=
          if_neg word
        exact absurd ((reads_of_eq chosen).mp reads) not_reads_report

theorem entry_sound {mark : Token} {tokens rest : List Token} (isMark : mark.kind = .atSign)
    (separated : Separated (mark :: tokens)) (reads : entry.Reads (mark :: tokens) rest) :
    ∃ taken, Grammar.Entry taken ∧ mark :: tokens = taken ++ rest := by
  obtain ⟨_, first, reads⟩ := reads_andThen.mp (reads_wrap.mp reads)
  obtain rfl := reads_take.mp first
  obtain ⟨_, skipped, reads⟩ := reads_andThen.mp reads
  obtain rfl := reads_trivia.mp skipped
  obtain ⟨before, beforeTrivia, beforeSplit⟩ := exists_trivia tokens
  have inner : Separated (tokens.dropWhile Token.isTrivia) := by
    rw [beforeSplit] at separated
    exact @Separated.of_append (mark :: before) _ separated
  obtain ⟨type, between, delimiter, opening, taken, closing, word, betweenTrivia, opens, isBody,
    closes, split⟩ := typed_sound inner reads
  refine ⟨_, .entry isMark beforeTrivia word betweenTrivia opens isBody closes, ?_⟩
  rw [split] at beforeSplit
  simp [beforeSplit]

theorem entry_complete {taken : List Token} (isEntry : Grammar.Entry taken) (rest : List Token) :
    entry.Reads (taken ++ rest) rest := by
  cases isEntry with
  | @entry mark type opening closing before between inner delimiter isMark beforeTrivia word
      betweenTrivia opens isBody closes =>
      have regroup : mark :: before ++ type :: between ++ opening :: inner ++ [closing] ++ rest =
          mark :: (before ++ type :: (between ++ opening :: (inner ++ closing :: rest))) := by
        simp
      have openSignificant : opening.isTrivia = false := by
        cases delimiter <;> exact significant_of_kind opens rfl
      have chosen : typed (type :: (between ++ opening :: (inner ++ closing :: rest))) =
          ((take.wrap .entryType).andThen
            (trivia.andThen (delimited (BodyForm.ofType type.text))))
            (type :: (between ++ opening :: (inner ++ closing :: rest))) := if_pos word
      have typeRead : typed.Reads (type :: (between ++ opening :: (inner ++ closing :: rest)))
          rest :=
        (reads_of_eq chosen).mpr (reads_andThen.mpr ⟨_, reads_wrap.mpr (reads_take.mpr rfl),
          reads_andThen.mpr
            ⟨_, reads_trivia.mpr (dropWhile_trivia_cons betweenTrivia _ openSignificant),
              delimited_complete opens isBody closes rest⟩⟩)
      rw [regroup]
      exact reads_wrap.mpr (reads_andThen.mpr ⟨_, reads_take.mpr rfl, reads_andThen.mpr
        ⟨_, reads_trivia.mpr (dropWhile_trivia_cons beforeTrivia _
          (significant_of_kind word rfl)), typeRead⟩⟩)

end Rule

theorem file_of_faultless {tokens : List Token} (separated : Separated tokens)
    (faultless : Faultless (fileItems tokens)) : Grammar.File tokens := by
  fun_induction fileItems tokens with
  | case1 => exact .nil
  | case2 token rest isMark ih =>
      obtain ⟨entryFaultless, restFaultless⟩ := faultless_append.mp faultless
      obtain ⟨taken, isEntry, split⟩ := Rule.entry_sound isMark separated ⟨entryFaultless, rfl⟩
      rw [split] at separated ⊢
      exact .entry isEntry (ih separated.of_append restFaultless)
  | case3 token rest noMark ih =>
      have restSeparated : Separated rest := @Separated.of_append [token] rest separated
      exact .other noMark (ih restSeparated (faultless_cons.mp faultless).2)

theorem faultless_of_file {tokens : List Token} (isFile : Grammar.File tokens) :
    Faultless (fileItems tokens) := by
  induction isFile with
  | nil =>
      rw [fileItems]
      exact faultless_nil
  | @other token rest noMark _ ih =>
      rw [fileItems, if_neg noMark]
      exact faultless_cons.mpr ⟨faultless_map_triviaTree [token], ih⟩
  | @entry taken rest isEntry _ ih =>
      obtain ⟨entryFaultless, ends⟩ := Rule.entry_complete isEntry rest
      obtain ⟨mark, others, rfl, isMark⟩ := isEntry.starts
      rw [List.cons_append] at entryFaultless ends ⊢
      rw [fileItems, if_pos isMark, ends]
      exact faultless_append.mpr ⟨entryFaultless, ih⟩

/-- A text has no diagnostics exactly if its tokens form a file of the grammar. -/
theorem diagnostics_eq_nil_iff_file (text : String) :
    (parse text).diagnostics = [] ↔ Grammar.File (lex text) := by
  rw [diagnostics_eq_nil_iff_faultless]
  exact ⟨file_of_faultless (lex_separated text), faultless_of_file⟩

end TexWorkspace.Bib
