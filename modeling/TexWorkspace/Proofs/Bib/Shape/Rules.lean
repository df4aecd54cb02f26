import TexWorkspace.Proofs.Bib.Acceptance
import TexWorkspace.Proofs.Bib.Shape.Basic

set_option autoImplicit false

/-!
Every rule of the grammar builds sound trees, whatever the tokens are. Only the key of an entry needs
to know that they come from a text: it takes all names in a row, and in a text there is only one.
-/

namespace TexWorkspace.Bib

namespace Rule

theorem Lossless.separated {rule : Rule} (lossless : Lossless rule) {tokens : List Token}
    (separated : Separated tokens) : Separated (rule tokens).rest := by
  rw [← lossless tokens] at separated
  exact separated.of_append

open Shape

/-! ## Trivia and single tokens -/

theorem row_map_triviaTree {run : List Token} (runTrivia : Grammar.Trivia run) :
    Row looseLabels (run.map triviaTree) := by
  induction run with
  | nil => exact .nil _
  | cons token run ih =>
      obtain ⟨isTrivia, runTrivia⟩ := Grammar.trivia_cons.mp runTrivia
      have first : Row looseLabels [triviaTree token] := by
        rw [triviaTree]
        split
        · rename_i comment
          exact .node (by decide) (.comment comment)
            (List.forall_mem_singleton.mpr (.token token))
        · rename_i noComment
          have blank : token.kind = .blank := by
            cases kind : token.kind <;> simp_all [Token.isTrivia, TokenKind.isTrivia]
          exact .token (by rw [blank]; decide)
      exact first.append (ih runTrivia)

theorem trivia_row (tokens : List Token) : Row looseLabels (trivia tokens).trees :=
  row_map_triviaTree (Grammar.trivia_takeWhile tokens)

theorem take_row {labels : List Label} {tokens : List Token} {kind : TokenKind}
    (ahead : peek tokens = some kind) (member : Label.token kind ∈ labels) :
    Row labels (take tokens).trees := by
  obtain ⟨token, rest, rfl, rfl⟩ := exists_of_peek ahead
  exact .token member

/-- A token found behind trivia, with the trivia. -/
theorem trivia_take_row {tokens : List Token} {kind : TokenKind}
    (ahead : peekPast tokens = some kind) :
    Row (looseLabels ++ [.token kind]) ((trivia.andThen take) tokens).trees := by
  have taken : Row (looseLabels ++ [.token kind]) (take (trivia tokens).rest).trees :=
    take_row ahead (by simp)
  exact ((trivia_row tokens).mono (List.subset_append_left ..)).append taken

/-! ## Values -/

theorem tokens_row (tokens : List Token) : Row tokenLabels (tokens.map .token) := by
  refine ⟨.map_token tokens, ?_⟩
  intro tree member
  obtain ⟨token, -, rfl⟩ := List.mem_map.mp member
  exact .token token

theorem textTree_below (unclosed : Problem) (opener : Token) (scan : Scan) :
    Row tokenLabels (.token opener :: scan.inside.map .token ++
      if scan.closed then [] else [.fault unclosed]) := by
  have taken := tokens_row (opener :: scan.inside)
  refine taken.append ?_
  split
  · exact .nil _
  · exact .fault _ unclosed

theorem piece?_row {tokens : List Token} {step : Step} (found : piece? tokens = some step) :
    Row valueLabels step.trees := by
  cases tokens with
  | nil => cases found
  | cons token rest =>
      cases kind : token.kind <;>
        simp only [piece?, kind, Option.some.injEq, reduceCtorEq] at found
      case openBrace =>
        subst found
        have below := textTree_below .unclosedBrace token (scanBraced 0 rest)
        exact .node (by decide) (.bracedText below.among) below.sound
      case quote =>
        subst found
        have below := textTree_below .unclosedQuote token (scanQuoted 0 rest)
        exact .node (by decide) (.quotedText below.among) below.sound
      case number =>
        subst found
        exact .token (by rw [kind]; decide)
      case word =>
        subst found
        exact .token (by rw [kind]; decide)

theorem pieces_row (tokens : List Token) : Row valueLabels (pieces tokens).trees := by
  induction tokens using pieces.induct with
  | case1 tokens missing =>
      rw [pieces_of_none missing]
      exact .fault _ _
  | case2 tokens first found ended =>
      rw [pieces_of_last found (by simp [peekPast, peek, ended])]
      exact piece?_row found
  | case3 tokens first found joint after joined isHash ih =>
      have loose : ∀ tokens, Row valueLabels (trivia tokens).trees := fun tokens =>
        (trivia_row tokens).mono (by decide)
      have hash : Row valueLabels [.token joint] := .token (by rw [isHash]; decide)
      rw [pieces_of_joint found joined isHash]
      exact (((piece?_row found).append (loose _)).append (hash.append (loose _))).append ih
  | case4 tokens first found joint after joined notHash =>
      rw [pieces_of_last found (by simpa [peekPast, peek, joined] using notHash)]
      exact piece?_row found

theorem value_row (tokens : List Token) : Row [.node .value] (value tokens).trees :=
  .node (by decide) (.value (pieces_row tokens).among) (pieces_row tokens).sound

/-! ## Fields -/

theorem separator_row (tokens : List Token) :
    Row (looseLabels ++ [.token .comma]) (separator tokens).trees := by
  unfold separator
  split
  · rename_i comma
    exact trivia_take_row comma
  · exact .nil _

/-- What follows the name of a field holds one value at most. -/
theorem assignment_row (tokens : List Token) :
    Row assignmentLabels (assignment tokens).trees ∧
      ((assignment tokens).trees.filter (Tree.hasKind .value)).length ≤ 1 := by
  unfold assignment
  split
  · rename_i sign
    obtain ⟨equals, rest, rfl, isSign⟩ := exists_of_peek sign
    have signRow : Row assignmentLabels [.token equals] := .token (by rw [isSign]; decide)
    have between : Row assignmentLabels (trivia rest).trees := (trivia_row rest).mono (by decide)
    have valued := (value_row (trivia rest).rest).mono
      (show [Label.node .value] ⊆ assignmentLabels by decide)
    have noValue := (trivia_row rest).among.not_hasKind .value (by decide)
    refine ⟨signRow.append (between.append valued), ?_⟩
    simp [andThen, take, noValue, value, wrap, Tree.hasKind]
  · exact ⟨.fault _ _, by simp [report, Tree.hasKind]⟩

theorem field_row {name : Token} (word : name.kind = .word) (rest : List Token) :
    Row [.node .field] (field (name :: rest)).trees := by
  have between := (trivia_row rest).mono (show looseLabels ⊆ assignmentLabels by decide)
  obtain ⟨assigned, count⟩ := assignment_row (trivia rest).rest
  have separated := separator_row (assignment (trivia rest).rest).rest
  have wider := separated.mono
    (show looseLabels ++ [.token .comma] ⊆ assignmentLabels by decide)
  have behind := between.append (assigned.append wider)
  have named : (Tree.node .fieldName [.token name]).Sound :=
    .node (.fieldName word) (List.forall_mem_singleton.mpr (.token name))
  have values : (((trivia rest).trees ++ ((assignment (trivia rest).rest).trees ++
      (separator (assignment (trivia rest).rest).rest).trees)).filter
        (Tree.hasKind .value)).length ≤ 1 := by
    rw [List.filter_append, List.filter_append, (trivia_row rest).among.not_hasKind _ (by decide),
      separated.among.not_hasKind _ (by decide), List.nil_append, List.append_nil]
    exact count
  exact .node (by decide) (.field word behind.among values)
    (List.forall_mem_cons.mpr ⟨named, behind.sound⟩)

theorem fieldItem_row {token : Token} (significant : token.isTrivia = false)
    (noMark : token.kind ≠ .atSign) (rest : List Token) :
    Row itemLabels (fieldItem token (token :: rest)).trees := by
  unfold fieldItem
  split
  · rename_i word
    exact (field_row word rest).mono (by decide)
  · rename_i noWord
    split
    · rename_i comma
      exact .token (by rw [comma]; decide)
    · rename_i noComma
      have fits : Fits .error [.token token] := .error significant (by simp_all)
      have wrapped : Row itemLabels [.node .error [.token token]] :=
        .node (by decide) fits (List.forall_mem_singleton.mpr (.token token))
      have reported : Row itemLabels [.fault .unexpectedToken] := .fault _ _
      exact reported.append wrapped

theorem significant_of_dropWhile {tokens rest : List Token} {token : Token}
    (dropped : tokens.dropWhile Token.isTrivia = token :: rest) : token.isTrivia = false := by
  have head := List.head?_dropWhile_not Token.isTrivia tokens
  rw [dropped] at head
  exact head

theorem fields_row (delimiter : Delimiter) (tokens : List Token) :
    Row itemLabels (fields delimiter tokens).trees := by
  have loose : ∀ tokens, Row itemLabels (trivia tokens).trees := fun tokens =>
    (trivia_row tokens).mono (by decide)
  induction tokens using fields.induct delimiter with
  | case1 tokens ended =>
      rw [fields_of_stop (by simp [peekPast, peek, ended])]
      exact loose tokens
  | case2 tokens token after ahead stop =>
      rw [fields_of_stop (by simpa [peekPast, peek, ahead] using stop)]
      exact loose tokens
  | case3 tokens token after ahead goOn item ih =>
      rw [fields_of_item ahead goOn]
      have here := fieldItem_row (significant_of_dropWhile ahead) (not_or.mp goOn).2 after
      exact ((loose tokens).append here).append ih

/-! ## Keys -/

/-- Trivia and commas hold no name. -/
theorem filter_isName_of_row {trees : List Tree} (row : Row (looseLabels ++ [.token .comma]) trees) :
    (Tree.tokensAll trees).filter Token.isName = [] := by
  induction trees with
  | nil => rfl
  | cons tree trees ih =>
      obtain ⟨own, among⟩ := Among.cons_iff.mp row.among
      obtain ⟨sound, others⟩ := List.forall_mem_cons.mp row.sound
      have rest := ih ⟨among, others⟩
      cases tree with
      | fault problem => simpa using rest
      | token token =>
          have noName : token.isName = false := by
            have member := own _ rfl
            cases kind : token.kind <;> simp_all [looseLabels, Token.isName]
          simpa [noName] using rest
      | node kind below =>
          obtain rfl : kind = .comment := by
            have member := own _ rfl
            simpa [looseLabels] using member
          cases sound with
          | node fits _ =>
              cases fits with
              | comment isComment => simpa [Token.isName, isComment] using rest

theorem keySeparator_row (delimiter : Delimiter) (tokens : List Token) :
    Row (looseLabels ++ [.token .comma]) (keySeparator delimiter tokens).trees := by
  unfold keySeparator
  split
  · rename_i comma
    exact trivia_take_row comma
  · split
    · exact .nil _
    · exact .fault _ _

theorem strayComma_row (tokens : List Token) :
    Row [.token .comma] (strayComma tokens).trees := by
  unfold strayComma
  split
  · rename_i comma
    exact take_row comma (by decide)
  · exact .nil _

/-- A key is one name with its separator, or it is missing. -/
theorem key_row (delimiter : Delimiter) {tokens : List Token} (separated : Separated tokens) :
    Row (looseLabels ++ [.token .comma, .node .key]) (key delimiter tokens).trees ∧
      ((key delimiter tokens).trees.filter (Tree.hasKind .key)).length ≤ 1 := by
  unfold key
  split
  · rename_i starts
    obtain ⟨before, name, rest, -, isName, dropped, -⟩ := exists_of_startsWithKey starts
    have apart := trivia_lossless.separated separated
    rw [show (trivia tokens).rest = name :: rest from dropped] at apart
    have loose := trivia_row tokens
    have single : Row keyLabels [.token name] := by
      refine .token ?_
      rcases of_decide_eq_true isName with kind | kind <;> rw [kind] <;> decide
    have behind := keySeparator_row delimiter rest
    have below : (trivia.andThen (names.andThen (keySeparator delimiter)) tokens).trees =
        (trivia tokens).trees ++ ([.token name] ++ (keySeparator delimiter rest).trees) := by
      simp only [andThen]
      rw [show (trivia tokens).rest = name :: rest from dropped, names_of_separated apart isName]
    have row : Row keyLabels
        (trivia.andThen (names.andThen (keySeparator delimiter)) tokens).trees := by
      rw [below]
      exact (loose.mono (by decide)).append (single.append (behind.mono (by decide)))
    have name_only : (Tree.tokensAll
        (trivia.andThen (names.andThen (keySeparator delimiter)) tokens).trees).filter
          Token.isName = [name] := by
      rw [below, Tree.tokensAll_append, Tree.tokensAll_append, List.filter_append,
        List.filter_append, filter_isName_of_row (loose.mono (List.subset_append_left ..)),
        filter_isName_of_row behind]
      simp [isName]
    exact ⟨.node (by decide) (.key row.among name_only) row.sound, by simp [wrap, Tree.hasKind]⟩
  · have loose := trivia_row tokens
    have comma := strayComma_row (trivia tokens).rest
    refine ⟨(loose.mono (by decide)).append ((Row.fault _ _).append (comma.mono (by decide))), ?_⟩
    have noKey := loose.among.not_hasKind .key (by decide)
    have noKeyBehind := comma.among.not_hasKind .key (by decide)
    simp [andThen, report, noKey, noKeyBehind, Tree.hasKind]

/-! ## Entries -/

theorem close_row (delimiter : Delimiter) (tokens : List Token) :
    Row closerLabels (close delimiter tokens).trees := by
  unfold close
  split
  · rename_i closes
    exact take_row closes (by cases delimiter <;> decide)
  · exact .fault _ _

/-- A row of trees with the order of an inside, all of them sound. -/
theorem inside_body (form : BodyForm) (delimiter : Delimiter) {tokens : List Token}
    (separated : Separated tokens) :
    Inside form (((body form delimiter).andThen (close delimiter)) tokens).trees ∧
      ∀ tree ∈ (((body form delimiter).andThen (close delimiter)) tokens).trees, tree.Sound := by
  have closed := close_row delimiter (body form delimiter tokens).rest
  cases form with
  | remark =>
      have raw := tokens_row (scanRaw delimiter.closer 0 tokens).inside
      have row := raw.append (closed.mono (by decide))
      exact ⟨.remark row.among, row.sound⟩
  | preamble =>
      have before := trivia_row tokens
      have valued := value_row (trivia tokens).rest
      have after := trivia_row (value (trivia tokens).rest).rest
      have row : Row (looseLabels ++ .node .value :: closerLabels) _ :=
        ((before.mono (by decide)).append
          ((valued.mono (by decide)).append (after.mono (by decide)))).append
          (closed.mono (by decide))
      exact ⟨.preamble row.among, row.sound⟩
  | definitions =>
      have items := fields_row delimiter tokens
      have row : Row (itemLabels ++ closerLabels) _ :=
        (items.mono (by decide)).append (closed.mono (by decide))
      exact ⟨.definitions row.among, row.sound⟩
  | keyed =>
      obtain ⟨keyed, count⟩ := key_row delimiter separated
      have items := fields_row delimiter (key delimiter tokens).rest
      have row : Row (itemLabels ++ closerLabels) _ :=
        (items.mono (by decide)).append (closed.mono (by decide))
      have inside : Inside .keyed _ := .keyed keyed.among count row.among
      have sound := List.forall_mem_append.mpr ⟨keyed.sound, row.sound⟩
      rw [← List.append_assoc] at inside sound
      exact ⟨inside, sound⟩

theorem behind_delimited (form : BodyForm) {between : List Tree} (loose : Row looseLabels between)
    {tokens : List Token} (separated : Separated tokens) :
    Behind form (between ++ (delimited form tokens).trees) ∧
      ∀ tree ∈ between ++ (delimited form tokens).trees, tree.Sound := by
  have reported : Row looseLabels (between ++ [.fault .missingOpener]) :=
    loose.append (.fault _ _)
  cases tokens with
  | nil => exact ⟨.unopened reported.among, reported.sound⟩
  | cons opening rest =>
      rcases delimited_cons form opening with ⟨delimiter, opens, chosen⟩ | misplaced
      · have behind : Separated rest := @Separated.of_append [opening] rest separated
        obtain ⟨inside, sound⟩ := inside_body form delimiter behind
        have openerKind : opening.kind = .openBrace ∨ opening.kind = .openParen := by
          cases delimiter
          · exact .inl opens
          · exact .inr opens
        rw [chosen]
        refine ⟨.opened loose.among openerKind inside, ?_⟩
        exact List.forall_mem_append.mpr
          ⟨loose.sound, List.forall_mem_cons.mpr ⟨.token opening, sound⟩⟩
      · rw [misplaced]
        exact ⟨.unopened reported.among, reported.sound⟩

theorem marked_typed {front : List Tree} (loose : Row looseLabels front) {tokens : List Token}
    (separated : Separated tokens) :
    Marked (front ++ (typed tokens).trees) ∧
      ∀ tree ∈ front ++ (typed tokens).trees, tree.Sound := by
  have reported : Row looseLabels (front ++ [.fault .missingType]) := loose.append (.fault _ _)
  cases tokens with
  | nil => exact ⟨.untyped reported.among, reported.sound⟩
  | cons type rest =>
      by_cases word : type.kind = .word
      · have behind : Separated rest := @Separated.of_append [type] rest separated
        obtain ⟨shape, sound⟩ := behind_delimited (BodyForm.ofType type.text) (trivia_row rest)
          (trivia_lossless.separated behind)
        have named : (Tree.node .entryType [.token type]).Sound :=
          .node (.entryType word) (List.forall_mem_singleton.mpr (.token type))
        rw [typed_of_word word]
        refine ⟨.typed loose.among word shape, ?_⟩
        exact List.forall_mem_append.mpr
          ⟨loose.sound, List.forall_mem_cons.mpr ⟨named, sound⟩⟩
      · rw [typed_of_not_word word]
        exact ⟨.untyped reported.among, reported.sound⟩

theorem entry_row {mark : Token} (isMark : mark.kind = .atSign) {tokens : List Token}
    (separated : Separated (mark :: tokens)) :
    Row [.node .entry] (entry (mark :: tokens)).trees := by
  have behind : Separated tokens := @Separated.of_append [mark] tokens separated
  obtain ⟨shape, sound⟩ := marked_typed (trivia_row tokens) (trivia_lossless.separated behind)
  exact .node (by decide) (.entry isMark shape) (List.forall_mem_cons.mpr ⟨.token mark, sound⟩)

end Rule

theorem fileItems_row {tokens : List Token} (separated : Separated tokens) :
    Row Shape.fileLabels (fileItems tokens) := by
  fun_induction fileItems tokens with
  | case1 => exact .nil _
  | case2 token rest isMark ih =>
      have entry := Rule.entry_row isMark separated
      exact (entry.mono (by decide)).append (ih (Rule.entry_lossless.separated separated))
  | case3 token rest noMark ih =>
      have behind : Separated rest := @Separated.of_append [token] rest separated
      have first : Row Shape.fileLabels [Rule.triviaTree token] := by
        rw [Rule.triviaTree]
        split
        · rename_i comment
          exact .node (by decide) (.comment comment) (List.forall_mem_singleton.mpr (.token token))
        · rename_i noComment
          refine .token ?_
          revert noMark noComment
          cases token.kind <;> decide
      exact first.append (ih behind)

/-- The tree of a text is sound. -/
theorem sound_parse (text : String) : (parse text).Sound := by
  have row := fileItems_row (lex_separated text)
  exact .node (.file row.among) row.sound

end TexWorkspace.Bib
