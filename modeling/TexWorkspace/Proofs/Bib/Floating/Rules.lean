import TexWorkspace.Proofs.Bib.Floating.Steps

set_option autoImplicit false

/-!
Trivia in the rules for entries. It floats in keys, in fields and values, and between them. The only
exceptions are texts and remarks, which keep all that stands in them; a place that they do not
shelter lies behind their closer, and they are read without a look at it.
-/

namespace TexWorkspace.Bib

namespace Rule

/-! ## Texts between delimiters -/

section Text

variable {before after : List Token} {start : Nat}

/-- A text that does not shelter a place ends before it. -/
theorem exists_kept_of_text {kind : NodeKind} (isText : kind = .bracedText ∨ kind = .quotedText)
    {problem : Problem} {opener : Token} {scan : Scan}
    (whole : scan.inside ++ scan.rest = before ++ after)
    (filled : ∀ token ∈ before ++ after, 0 < token.width)
    (free : ¬ Located.Shelters (start + Token.widthAll (opener :: before))
      ⟨start, textTree kind problem opener scan⟩) :
    ∃ kept, before = scan.inside ++ kept ∧ scan.rest = kept ++ after ∧
      (kept = [] → scan.closed = true) := by
  have text : (textTree kind problem opener scan).shelter? = some ([.token opener],
      scan.inside.map .token ++ if scan.closed then [] else [.fault problem]) := by
    rw [textTree, Tree.shelter?, if_pos isText]
    rfl
  have width : (textTree kind problem opener scan).width =
      opener.width + Token.widthAll scan.inside := by
    rw [Tree.width, tokens_textTree, Token.widthAll_cons]
  simp only [Located.Shelters, text, Located.span, width] at free
  have ends : Token.widthAll scan.inside ≤ Token.widthAll before := by
    -- Otherwise the place is behind the opener and before the end of the text.
    by_contra inside
    refine free ⟨?_, .inl ?_⟩
    · simp
    · rw [Token.widthAll_cons]
      omega
  obtain ⟨kept, split, left⟩ := exists_kept whole filled ends
  refine ⟨kept, split, left, ?_⟩
  -- A text that ends right at the place shelters it only if nothing closes the text.
  rintro rfl
  by_contra unclosed
  rw [List.append_nil] at split
  refine free ⟨?_, .inr ⟨?_, ?_⟩⟩
  · simp
  · rw [Token.widthAll_cons, split]
  · simp [unclosed, Tree.isFault]

end Text

section Scan

variable {inside kept after : List Token} {closed : Bool}

/-- A text in braces that ends before a place does not see what comes behind it. -/
theorem scanBraced_float
    (scanned : scanBraced 0 (inside ++ (kept ++ after)) = ⟨inside, closed, kept ++ after⟩)
    (closes : kept = [] → closed = true) (more : List Token) :
    scanBraced 0 (inside ++ (kept ++ more)) = ⟨inside, closed, kept ++ more⟩ := by
  cases closed with
  | false =>
      have ended := scanBraced_of_unclosed (congrArg Scan.closed scanned)
      rw [scanned] at ended
      exact nomatch closes (List.append_eq_nil_iff.mp ended).1
  | true =>
      obtain ⟨run, closer, balanced, isCloser, split⟩ :=
        Grammar.exists_run_of_scanBraced (congrArg Scan.closed scanned)
      rw [scanned, List.append_cons] at split
      obtain rfl := List.append_cancel_right split
      rw [← List.append_cons, balanced.scanBraced_eq isCloser]

theorem scanQuoted_float
    (scanned : scanQuoted 0 (inside ++ (kept ++ after)) = ⟨inside, closed, kept ++ after⟩)
    (closes : kept = [] → closed = true) (more : List Token) :
    scanQuoted 0 (inside ++ (kept ++ more)) = ⟨inside, closed, kept ++ more⟩ := by
  cases closed with
  | false =>
      cases kept with
      | nil => exact nomatch closes rfl
      | cons stop kept =>
          -- The token that breaks the text off stands in front of the place as well.
          rcases Grammar.exists_run_of_scanQuoted_unclosed (congrArg Scan.closed scanned) with
            ended | ⟨run, breaker, rest, enclosed, breaks, split⟩
          · rw [scanned] at ended
            cases ended
          · rw [split, enclosed.scanQuoted_broken breaks] at scanned
            obtain ⟨rfl, -, same⟩ := (Scan.mk.injEq ..).mp scanned
            obtain ⟨rfl, -⟩ := List.cons.inj same
            exact enclosed.scanQuoted_broken breaks (kept ++ more)
  | true =>
      obtain ⟨run, closer, enclosed, isCloser, split⟩ :=
        Grammar.exists_run_of_scanQuoted (congrArg Scan.closed scanned)
      rw [scanned, List.append_cons] at split
      obtain rfl := List.append_cancel_right split
      rw [← List.append_cons, enclosed.scanQuoted_eq isCloser]

end Scan

theorem floatsAt_of_text {extra opener : Token} {remark : Bool} {rule : Rule} {kind : NodeKind}
    {scan : Nat → List Token → Scan} {start : Nat} {before after : List Token} (problem : Problem)
    (isText : kind = .bracedText ∨ kind = .quotedText)
    (lossless : ∀ tokens, (scan 0 tokens).inside ++ (scan 0 tokens).rest = tokens)
    (floats : ∀ {inside kept after : List Token} {closed : Bool},
      scan 0 (inside ++ (kept ++ after)) = ⟨inside, closed, kept ++ after⟩ →
      (kept = [] → closed = true) → ∀ more,
      scan 0 (inside ++ (kept ++ more)) = ⟨inside, closed, kept ++ more⟩)
    (builds : ∀ more, rule (opener :: before ++ more) =
      ⟨[textTree kind problem opener (scan 0 (before ++ more))], (scan 0 (before ++ more)).rest⟩)
    (clear : Clear rule start (opener :: before) after) :
    FloatsAt extra remark rule (opener :: before) after := by
  have free := clear.free
  rw [builds] at free
  have filled : ∀ token ∈ before ++ after, 0 < token.width := fun token member =>
    clear.filled token (List.mem_cons_of_mem opener member)
  obtain ⟨kept, split, left, closes⟩ := exists_kept_of_text isText (lossless (before ++ after))
    filled (free _ List.mem_cons_self)
  have scanned : scan 0 ((scan 0 (before ++ after)).inside ++ (kept ++ after)) =
      ⟨(scan 0 (before ++ after)).inside, (scan 0 (before ++ after)).closed, kept ++ after⟩ := by
    rw [← left, lossless]
  refine @floatsAt_of_left _ _ _ _ _
    [textTree kind problem opener (scan 0 (before ++ after))] kept fun more => ?_
  have there : scan 0 (before ++ more) =
      ⟨(scan 0 (before ++ after)).inside, (scan 0 (before ++ after)).closed, kept ++ more⟩ := by
    rw [← floats scanned closes more, ← List.append_assoc, ← split]
  rw [builds, there]
  rfl

/-! ## Values and fields -/

/-- The first piece of a value, or the problem that there is none. -/
def piece : Rule := fun tokens =>
  (piece? tokens).getD ⟨[.fault .missingValue], tokens⟩

theorem piece_lossless : Lossless piece := by
  intro tokens
  cases found : piece? tokens with
  | none => simp [piece, found]
  | some step => simpa [piece, found] using piece?_append found

/-- A value is its first piece and, behind a `#`, the value that follows. -/
theorem pieces_eq (tokens : List Token) :
    pieces tokens =
      if (piece? tokens).isSome ∧ peekPast (piece tokens).rest = some .hash then
        (piece.andThen (trivia.andThen (take.andThen (trivia.andThen pieces)))) tokens
      else piece tokens := by
  cases found : piece? tokens with
  | none => simp [pieces_of_none found, piece, found]
  | some first =>
      by_cases joined : peekPast first.rest = some .hash
      · obtain ⟨joint, after, dropped, isHash⟩ := exists_of_peekPast joined
        rw [if_pos (by simp [piece, found, joined]), pieces_of_joint found dropped isHash]
        simp [andThen, take, trivia, piece, found, dropped]
      · rw [if_neg (by simp [piece, found, joined]), pieces_of_last found joined]
        simp [piece, found]

variable {extra : Token}

theorem piece_floats : Floats extra Ahead piece := by
  intro start before after ahead clear
  cases before with
  | nil => exact absurd rfl ahead
  | cons opener before =>
      cases kind : opener.kind
      case openBrace =>
          refine floatsAt_of_text .unclosedBrace (.inl rfl) (scanBraced_append 0) scanBraced_float
            ?_ clear
          intro more
          simp [piece, piece?, kind]
      case quote =>
          refine floatsAt_of_text .unclosedQuote (.inr rfl) (scanQuoted_append 0) scanQuoted_float
            ?_ clear
          intro more
          simp [piece, piece?, kind]
      case word =>
          refine @floatsAt_of_left _ _ _ _ _ [.token opener] before fun more => ?_
          simp [piece, piece?, kind]
      case number =>
          refine @floatsAt_of_left _ _ _ _ _ [.token opener] before fun more => ?_
          simp [piece, piece?, kind]
      all_goals
        refine @floatsAt_of_left _ _ _ _ _ [.fault .missingValue] (opener :: before) fun more => ?_
        simp [piece, piece?, kind]

theorem piece?_isSome_float {before : List Token} (ahead : Ahead before) (after : List Token) :
    (piece? (before ++ extra :: after)).isSome = (piece? (before ++ after)).isSome := by
  cases before with
  | nil => exact absurd rfl ahead
  | cons token before => cases kind : token.kind <;> simp [piece?, kind]

theorem pieces_floats (isTrivia : extra.isTrivia = true) : Floats extra Ahead pieces := by
  intro start before after ahead clear
  induction size : before.length using Nat.strong_induction_on generalizing start before with
  | _ size ih =>
    subst size
    have found := @piece?_isSome_float extra before ahead after
    by_cases joined : (piece? (before ++ after)).isSome ∧
        peekPast (piece (before ++ after)).rest = some .hash
    · have here := (pieces_eq (before ++ after)).trans (if_pos joined)
      have clear := clear.of_eq here
      have floated : FloatsAt extra false piece before after :=
        piece_floats start before after ahead clear.first
      have there := (pieces_eq (before ++ extra :: after)).trans
        (if_pos ⟨found.trans joined.1, (floated.peekPast_rest isTrivia).trans joined.2⟩)
      refine floatsAt_of_eq here there (andThen_floatsAt floated (fun never => nomatch never) ?_)
      -- Each rule in turn is given what the one before it left in front of the place.
      intro behind left _
      have clear := clear.second piece_lossless left
      refine andThen_floatsAt (trivia_floatsAt isTrivia false behind after)
        (fun never => nomatch never) ?_
      intro joint jointLeft jointPadded
      have jointAhead := trivia_skips.ahead isTrivia jointPadded
      have clear := clear.second trivia_lossless jointLeft
      refine andThen_floatsAt (take_floats _ joint after jointAhead clear.first)
        (fun never => nomatch never) ?_
      intro between betweenLeft _
      have clear := clear.second take_lossless betweenLeft
      refine andThen_floatsAt (trivia_floatsAt isTrivia false between after)
        (fun never => nomatch never) ?_
      intro more moreLeft morePadded
      have shorter : more.length < before.length := by
        have behind_le := kept_length_le piece_lossless left
        have joint_le := kept_length_le trivia_lossless jointLeft
        have between_lt := kept_length_lt jointAhead betweenLeft
        have more_le := kept_length_le trivia_lossless moreLeft
        omega
      exact ih more.length shorter _ more (trivia_skips.ahead isTrivia morePadded)
        (clear.second trivia_lossless moreLeft) rfl
    · have here := (pieces_eq (before ++ after)).trans (if_neg joined)
      have floated : FloatsAt extra false piece before after :=
        piece_floats start before after ahead (clear.of_eq here)
      refine floatsAt_of_eq here ((pieces_eq (before ++ extra :: after)).trans (if_neg ?_)) floated
      rwa [found, floated.peekPast_rest isTrivia]

theorem value_floats (isTrivia : extra.isTrivia = true) : Floats extra Ahead value :=
  wrap_floats (by decide) (by decide) (pieces_floats isTrivia)

theorem separator_floats (isTrivia : extra.isTrivia = true) : Floats extra Anywhere separator :=
  ite_floats (fun before after _ => ahead_float isTrivia .comma before after)
    (skip_floats isTrivia take_floats) done_floats

theorem assignment_floats (isTrivia : extra.isTrivia = true) : Floats extra Ahead assignment :=
  ite_floats (fun _ after ahead => next_float .equals after ahead)
    (andThen_floats_anywhere take_lossless take_floats
      (skip_floats isTrivia (value_floats isTrivia)))
    (report_floats _)

theorem field_floats (isTrivia : extra.isTrivia = true) : Floats extra Ahead field := by
  have separated := andThen_floats_anywhere assignment_lossless (assignment_floats isTrivia)
    (separator_floats isTrivia)
  exact wrap_floats (by decide) (by decide) (andThen_floats_anywhere (wrap_lossless _ take_lossless)
    (wrap_take_floats _) (skip_floats isTrivia separated))

theorem fieldItem_floats (isTrivia : extra.isTrivia = true) (token : Token) :
    Floats extra Ahead (fieldItem token) := by
  unfold fieldItem
  split
  · exact field_floats isTrivia
  · split
    · exact take_floats
    · exact report_andThen_floats _ (wrap_take_floats _)

theorem fields_floats (isTrivia : extra.isTrivia = true) (delimiter : Delimiter) :
    Floats extra Anywhere (fields delimiter) := by
  intro start before after _ clear
  induction size : before.length using Nat.strong_induction_on generalizing start before with
  | _ size ih =>
    subst size
    by_cases stop : ∀ kind, peekPast (before ++ after) = some kind →
        kind = delimiter.closer ∨ kind = .atSign
    · have stopPadded := stop
      rw [← peekPast_float isTrivia] at stopPadded
      exact floatsAt_of_eq (fields_of_stop stop) (fields_of_stop stopPadded)
        (trivia_floatsAt isTrivia false before after)
    · push Not at stop
      obtain ⟨kind, ahead, goOn⟩ := stop
      obtain ⟨token, rest, dropped, rfl⟩ := exists_of_peekPast ahead
      have goOn : ¬ (token.kind = delimiter.closer ∨ token.kind = .atSign) := not_or.mpr goOn
      obtain ⟨others, droppedPadded⟩ := exists_dropWhile_float isTrivia dropped
      have here := fields_eq_andThen dropped goOn
      have clear := clear.of_eq here
      refine floatsAt_of_eq here (fields_eq_andThen droppedPadded goOn)
        (andThen_floatsAt (trivia_floatsAt isTrivia false before after)
          (fun never => nomatch never) ?_)
      intro item itemLeft itemPadded
      have itemAhead := trivia_skips.ahead isTrivia itemPadded
      have clear := clear.second trivia_lossless itemLeft
      refine andThen_floatsAt (fieldItem_floats isTrivia token _ item after itemAhead clear.first)
        (fun never => nomatch never) ?_
      intro more moreLeft _
      have shorter : more.length < before.length := by
        have item_le := kept_length_le trivia_lossless itemLeft
        have item_eq : item ++ after = token :: rest := itemLeft.symm.trans dropped
        have less := fieldItem_length_lt token rest
        rw [← item_eq, moreLeft, List.length_append, List.length_append] at less
        omega
      exact ih more.length shorter _ more trivial (clear.second (fieldItem_lossless token) moreLeft)
        rfl

/-! ## Keys -/

theorem startsWithKey_float (isTrivia : extra.isTrivia = true) (before after : List Token) :
    startsWithKey (before ++ extra :: after) = startsWithKey (before ++ after) := by
  rcases anchored_or_trivia before with anchored | run
  · obtain ⟨token, rest, dropped⟩ := anchored.exists_dropWhile
    have split : ∀ more, (before ++ more).dropWhile Token.isTrivia = token :: (rest ++ more) :=
      fun more => by rw [anchored.dropWhile_append, dropped, List.cons_append]
    rw [startsWithKey_of_dropWhile (split _), startsWithKey_of_dropWhile (split _),
      peekPast_float isTrivia]
  · rw [startsWithKey, startsWithKey, run.dropWhile_append, run.dropWhile_append,
      List.dropWhile_cons_of_pos isTrivia]

/-- Trivia between two tokens does not bring names together. -/
theorem separated_insert (isTrivia : extra.isTrivia = true) {before after : List Token}
    (separated : Separated (before ++ after)) : Separated (before ++ extra :: after) := by
  have noName : extra.isName = false := by
    cases isName : extra.isName with
    | false => rfl
    | true => cases isTrivia.symm.trans (name_significant isName)
  obtain ⟨left, right, -⟩ := List.isChain_append.mp separated
  refine List.isChain_append.mpr ⟨left, List.isChain_cons.mpr ⟨?_, right⟩, ?_⟩
  · rintro next - ⟨isName, -⟩
    cases noName.symm.trans isName
  · rintro last - next first ⟨-, isName⟩
    obtain rfl : extra = next := by simpa using first
    cases noName.symm.trans isName

theorem names_floats (isTrivia : extra.isTrivia = true) : Floats extra Ahead names := by
  intro start before after ahead clear
  cases before with
  | nil => exact absurd rfl ahead
  | cons token before =>
      by_cases isName : token.isName = true
      · have here : names (token :: (before ++ after)) = ⟨[.token token], before ++ after⟩ :=
          names_of_separated clear.separated isName
        have there : names (token :: (before ++ extra :: after)) =
            ⟨[.token token], before ++ extra :: after⟩ :=
          names_of_separated (separated_insert isTrivia clear.separated) isName
        rw [FloatsAt, List.cons_append, List.cons_append, here, there]
        exact .inr ⟨rfl, before, rfl, rfl⟩
      · refine @floatsAt_of_left _ _ _ _ _ [] (token :: before) fun more => ?_
        simp [names, isName]

theorem keySeparator_floats (isTrivia : extra.isTrivia = true) (delimiter : Delimiter) :
    Floats extra Anywhere (keySeparator delimiter) := by
  have ended : Floats extra Anywhere fun tokens =>
      if peekPast tokens = some delimiter.closer then done tokens
      else report .missingKeySeparator tokens :=
    ite_floats (fun before after _ => ahead_float isTrivia _ before after) done_floats
      (report_floats _)
  exact ite_floats (fun before after _ => ahead_float isTrivia .comma before after)
    (skip_floats isTrivia take_floats) ended

theorem strayComma_floats : Floats extra Ahead strayComma :=
  ite_floats (fun _ after ahead => next_float .comma after ahead) take_floats done_floats

theorem key_floats (isTrivia : extra.isTrivia = true) (delimiter : Delimiter) :
    Floats extra Anywhere (key delimiter) := by
  have found : Floats extra Anywhere
      (wrap .key (trivia.andThen (names.andThen (keySeparator delimiter)))) :=
    wrap_floats (by decide) (by decide) (skip_floats isTrivia
      (andThen_floats_anywhere names_lossless (names_floats isTrivia)
        (keySeparator_floats isTrivia delimiter)))
  have missing : Floats extra Anywhere
      (trivia.andThen ((report .missingKey).andThen strayComma)) :=
    skip_floats isTrivia (report_andThen_floats _ strayComma_floats)
  refine ite_floats (fun before after _ => ?_) found missing
  rw [startsWithKey_float isTrivia]

/-! ## Bodies -/

theorem fields_skips (delimiter : Delimiter) : Skips (fields delimiter) := by
  intro tokens
  induction tokens using fields.induct delimiter with
  | case1 tokens ended =>
      rw [fields_of_stop (by simp [peekPast, peek, ended])]
      exact trivia_skips tokens
  | case2 tokens token after ahead stop =>
      rw [fields_of_stop (by simpa [peekPast, peek, ahead] using stop)]
      exact trivia_skips tokens
  | case3 tokens token after ahead goOn item ih =>
      rw [fields_of_item ahead goOn]
      exact ih

/-- A body with structure takes the trivia before its closer. -/
theorem body_skips {form : BodyForm} (structured : form ≠ .remark) (delimiter : Delimiter) :
    Skips (body form delimiter) := by
  cases form with
  | remark => exact absurd rfl structured
  | preamble => exact andThen_skips (andThen_skips trivia_skips)
  | definitions => exact fields_skips delimiter
  | keyed => exact andThen_skips (fields_skips delimiter)

theorem body_floats (isTrivia : extra.isTrivia = true) {form : BodyForm}
    (structured : form ≠ .remark) (delimiter : Delimiter) :
    Floats extra Anywhere (body form delimiter) := by
  cases form with
  | remark => exact absurd rfl structured
  | preamble =>
      exact skip_floats isTrivia (andThen_floats_anywhere value_lossless (value_floats isTrivia)
        (trivia_floats isTrivia _))
  | definitions => exact fields_floats isTrivia delimiter
  | keyed =>
      exact andThen_floats_anywhere (key_lossless delimiter) (key_floats isTrivia delimiter)
        (fields_floats isTrivia delimiter)

theorem close_floats (delimiter : Delimiter) : Floats extra Ahead (close delimiter) :=
  ite_floats (fun _ after ahead => next_float _ after ahead) take_floats (report_floats _)

theorem enclosed_floats (isTrivia : extra.isTrivia = true) {form : BodyForm}
    (structured : form ≠ .remark) (delimiter : Delimiter) :
    Floats extra Ahead (enclosed form delimiter) :=
  andThen_floats_anywhere take_lossless take_floats
    ((body_skips structured delimiter).andThen_floats isTrivia (body_lossless form delimiter)
      (body_floats isTrivia structured delimiter) (close_floats delimiter))

/-! ## Remarks -/

section Remark

variable {remark : Bool} {delimiter : Delimiter} {opening : Token} {before after : List Token}

/-- The inside of a shelter ends in front of a place, with its closer. -/
def EndsBefore (inside : List Tree) (before : List Token) : Prop :=
  ¬ (Token.widthAll before < Token.widthAll (Tree.tokensAll inside) ∨
    Token.widthAll before = Token.widthAll (Tree.tokensAll inside) ∧ inside.any Tree.isFault)

theorem remark_of_run {closing : Token} {run : List Token} (isRun : Grammar.Run [closing.kind] run)
    (closes : closing.kind = delimiter.closer) (rest : List Token) :
    ((body .remark delimiter).andThen (close delimiter)) (run ++ closing :: rest) =
      ⟨run.map .token ++ [.token closing], rest⟩ := by
  have scanned := isRun.scanRaw_eq rest
  rw [closes] at scanned
  simp [andThen, take, body, rawBody, scanned, close, peek, closes]

theorem remark_of_shielded {tokens : List Token}
    (shielded : Grammar.Shielded [delimiter.closer] 0 tokens) :
    ((body .remark delimiter).andThen (close delimiter)) tokens =
      ⟨tokens.map .token ++ [.fault (.missingCloser delimiter)], []⟩ := by
  have scanned := (Grammar.scanRaw_passesOver delimiter.closer).append shielded []
  rw [List.append_nil] at scanned
  simp [andThen, body, rawBody, scanned, scanRaw, close, peek, report]

/-- A remark that ends in front of a place does not see what comes behind it. -/
theorem remark_floatsAt (filled : ∀ token ∈ before ++ after, 0 < token.width)
    (ends : EndsBefore (((body .remark delimiter).andThen (close delimiter)) (before ++ after)).trees
      before) :
    FloatsAt extra remark (enclosed .remark delimiter) (opening :: before) after := by
  rcases Grammar.shielded_or_stop [delimiter.closer] 0 (before ++ after) with
    shielded | ⟨run, closing, rest, split, shielded, outside, stops⟩
  · -- Nothing closes the remark, so it reaches to the end of the tokens and over the place.
    rw [remark_of_shielded shielded] at ends
    refine absurd ?_ ends
    rcases Nat.eq_zero_or_pos (Token.widthAll after) with nothing | more
    · exact .inr ⟨by simp [nothing], by simp [Tree.isFault]⟩
    · exact .inl (by simpa using more)
  · have closes := List.mem_singleton.mp stops
    have isRun : Grammar.Run [closing.kind] run := by
      rw [closes]
      exact ⟨shielded, outside⟩
    rw [split, remark_of_run isRun closes] at ends
    have whole : run ++ [closing] ++ rest = before ++ after := by
      rw [split]
      simp
    have width : Token.widthAll (run ++ [closing]) ≤ Token.widthAll before := by
      by_contra inside
      exact ends (.inl (by simpa using inside))
    obtain ⟨kept, rfl, -⟩ := exists_kept whole filled width
    refine @floatsAt_of_left _ _ _ _ _
      (.token opening :: (run.map .token ++ [.token closing])) kept fun more => ?_
    have closed := remark_of_run isRun closes (kept ++ more)
    have same : opening :: (run ++ [closing] ++ kept) ++ more =
        opening :: (run ++ closing :: (kept ++ more)) := by simp
    rw [same, enclosed, andThen]
    simp only [take, closed]
    rfl

end Remark

/-! ## Entries -/

theorem shelter?_of_remark {front inside : List Tree} {opening : Token}
    (isRemark : (Tree.node .entry (front ++ .token opening :: inside)).isRemark = true)
    (closed : ∀ tree ∈ front, tree.opens = false) (opens : (Tree.token opening).opens = true) :
    (Tree.node .entry (front ++ .token opening :: inside)).shelter? =
      some (front ++ [.token opening], inside) := by
  have passes : ∀ tree ∈ front, (!tree.opens) = true := fun tree member => by
    rw [closed tree member]
    rfl
  rw [Tree.shelter?, if_neg (by decide), if_pos isRemark, List.dropWhile_append_of_pos passes,
    List.takeWhile_append_of_pos passes, List.dropWhile_cons_of_neg (by simp [opens]),
    List.takeWhile_cons_of_neg (by simp [opens]), List.append_nil]

/-- A remark that does not shelter a place behind its opening ends in front of it. -/
theorem endsBefore_of_free {front inside : List Tree} {opening : Token} {start : Nat}
    {before : List Token}
    (isRemark : (Tree.node .entry (front ++ .token opening :: inside)).isRemark = true)
    (closed : ∀ tree ∈ front, tree.opens = false) (opens : (Tree.token opening).opens = true)
    (free : ¬ Located.Shelters
      (start + Token.widthAll (Tree.tokensAll front ++ opening :: before))
      ⟨start, .node .entry (front ++ .token opening :: inside)⟩) :
    EndsBefore inside before := by
  have width : (Tree.node .entry (front ++ .token opening :: inside)).width =
      Token.widthAll (Tree.tokensAll front) +
        (opening.width + Token.widthAll (Tree.tokensAll inside)) := by
    simp [Tree.width]
  simp only [Located.Shelters, shelter?_of_remark isRemark closed opens, Located.span, width] at free
  intro ends
  refine free ⟨?_, ?_⟩
  · simp
  · simp only [Token.widthAll_append, Token.widthAll_cons]
    rcases ends with less | ⟨same, fault⟩
    · exact .inl (by omega)
    · exact .inr ⟨by omega, fault⟩

section Entry

variable {remark : Bool} {before after : List Token} {start : Nat}

theorem delimited_floatsAt (isTrivia : extra.isTrivia = true) {form : BodyForm} {opening : Token}
    (clear : Clear (delimited form) start (opening :: before) after)
    (structured : form ≠ .remark → remark = false)
    (ends : form = .remark → ∀ delimiter, opening.kind = Grammar.opener delimiter →
      EndsBefore (((body .remark delimiter).andThen (close delimiter)) (before ++ after)).trees
        before) :
    FloatsAt extra remark (delimited form) (opening :: before) after := by
  rcases delimited_cons form opening with ⟨delimiter, opens, chosen⟩ | misplaced
  · refine floatsAt_of_eq (chosen _) (chosen _) ?_
    have clear := clear.of_eq (chosen (before ++ after))
    by_cases isRemark : form = .remark
    · subst isRemark
      exact remark_floatsAt (fun token member => clear.filled token (List.mem_cons_of_mem _ member))
        (ends rfl delimiter opens)
    · rw [structured isRemark]
      exact enclosed_floats isTrivia isRemark delimiter start (opening :: before) after
        (List.cons_ne_nil _ _) clear
  · refine floatsAt_of_eq (misplaced _) (misplaced _) ?_
    exact @floatsAt_of_left _ _ _ _ _ [.fault .missingOpener] (opening :: before) fun _ => rfl

theorem opens_of_trivia (tokens : List Token) :
    ∀ tree ∈ (trivia tokens).trees, tree.opens = false :=
  Tree.opens_of_loose (trivia_row tokens).among

theorem typed_floatsAt (isTrivia : extra.isTrivia = true) {type : Token} (word : type.kind = .word)
    (clear : Clear typed start (type :: before) after)
    (structured : BodyForm.ofType type.text ≠ .remark → remark = false)
    (ends : BodyForm.ofType type.text = .remark → ∀ opening kept,
      (trivia (before ++ after)).rest = opening :: kept ++ after →
      ∀ delimiter, opening.kind = Grammar.opener delimiter →
      EndsBefore (((body .remark delimiter).andThen (close delimiter)) (kept ++ after)).trees kept) :
    FloatsAt extra remark typed (type :: before) after := by
  refine floatsAt_of_eq (typed_of_word word _) (typed_of_word word _) ?_
  have clear := clear.of_eq (typed_of_word word (before ++ after))
  refine andThen_floatsAt
    (@floatsAt_of_left _ _ _ _ _ [.node .entryType [.token type]] before fun _ => rfl) ?_ ?_
  · rintro - tree (_ | ⟨_, ⟨⟩⟩)
    rfl
  intro kept left _
  obtain rfl : before = kept := List.append_cancel_right left
  have clear := clear.second (wrap_lossless _ take_lossless) left
  refine andThen_floatsAt (trivia_floatsAt isTrivia _ before after)
    (fun _ => opens_of_trivia _) ?_
  intro behind behindLeft behindPadded
  have clear := clear.second trivia_lossless behindLeft
  cases behind with
  | nil => exact absurd rfl (trivia_skips.ahead isTrivia behindPadded)
  | cons opening behind =>
      exact delimited_floatsAt isTrivia clear structured fun isRemark =>
        ends isRemark opening behind behindLeft

section Typed

variable {mark type : Token} {behind : List Token}

theorem trees_of_word (mark : Token) {tokens : List Token} (word : type.kind = .word)
    (typeLeft : (trivia tokens).rest = type :: behind) :
    ((take.andThen (trivia.andThen typed)) (mark :: tokens)).trees =
      .token mark :: ((trivia tokens).trees ++ .node .entryType [.token type] ::
        ((trivia behind).trees ++
          (delimited (BodyForm.ofType type.text) (trivia behind).rest).trees)) := by
  simp [andThen, take, wrap, typeLeft, typed_of_word word]

theorem delimited_of_opener {form : BodyForm} {delimiter : Delimiter} {opening : Token}
    (opens : opening.kind = Grammar.opener delimiter) (rest : List Token) :
    delimited form (opening :: rest) = enclosed form delimiter (opening :: rest) := by
  cases delimiter <;> simp [delimited, peek, opens, Grammar.opener]

theorem endsBefore_of_clear (isMark : mark.kind = .atSign)
    (clear : Clear entry start (mark :: before) after) (word : type.kind = .word)
    (typeLeft : (trivia (before ++ after)).rest = type :: (behind ++ after))
    (form : BodyForm.ofType type.text = .remark) {opening : Token} {more : List Token}
    (openLeft : (trivia (behind ++ after)).rest = opening :: more ++ after)
    {delimiter : Delimiter} (opens : opening.kind = Grammar.opener delimiter) :
    EndsBefore (((body .remark delimiter).andThen (close delimiter)) (more ++ after)).trees more := by
  have free := clear.free _ List.mem_cons_self
  -- The trees of the entry in front of the opener of its body.
  let front : List Tree := .token mark :: ((trivia (before ++ after)).trees ++
    .node .entryType [.token type] :: (trivia (behind ++ after)).trees)
  have split : ((take.andThen (trivia.andThen typed)) (mark :: before ++ after)).trees =
      front ++ .token opening ::
        (((body .remark delimiter).andThen (close delimiter)) (more ++ after)).trees := by
    rw [List.cons_append, trees_of_word mark word typeLeft, form, openLeft, List.cons_append,
      delimited_of_opener opens]
    simp [front, enclosed, andThen, take]
  have place : mark :: before = Tree.tokensAll front ++ opening :: more := by
    have outer := @Lossless.taken_append _ _ _ trivia_lossless (type :: behind) typeLeft
    have inner := trivia_lossless.taken_append openLeft
    simp only [front, Tree.tokensAll_cons, Tree.tokensAll_append, Tree.tokens_token,
      Tree.tokens_node, Tree.tokensAll_nil, List.cons_append, List.nil_append, List.append_assoc,
      List.append_nil]
    rw [inner, outer]
  have closed : ∀ tree ∈ front, tree.opens = false := by
    have markCloses : (Tree.token mark).opens = false := by simp [Tree.opens, isMark]
    refine List.forall_mem_cons.mpr ⟨markCloses, List.forall_mem_append.mpr ⟨?_, ?_⟩⟩
    · exact opens_of_trivia _
    · exact List.forall_mem_cons.mpr ⟨rfl, opens_of_trivia _⟩
  have openerOpens : (Tree.token opening).opens = true := by
    cases delimiter <;> simp [Tree.opens, opens, Grammar.opener]
  rw [split, place] at free
  refine endsBefore_of_free ?_ closed openerOpens free
  rw [← split, List.cons_append, trees_of_word mark word typeLeft]
  exact (Tree.isRemark_iff_of_typed (trivia_row _).among mark type _).mpr form

end Typed

/-- Trivia floats anywhere in an entry, but not into a text or a remark. -/
theorem entry_floatsAt (isTrivia : extra.isTrivia = true) {mark : Token}
    (isMark : mark.kind = .atSign) (clear : Clear entry start (mark :: before) after) :
    FloatsAt extra remark entry (mark :: before) after := by
  -- Whether a remark shelters the place is seen from the whole entry only, so that fact is kept.
  have whole := clear
  have clear := clear.body
  refine wrap_floatsAt (by decide) (andThen_floatsAt (floatsAt_of_left fun _ => rfl) ?_ ?_)
  · rintro - tree (_ | ⟨_, ⟨⟩⟩)
    simp [Tree.opens, isMark]
  intro kept left _
  obtain rfl : before = kept := List.append_cancel_right left
  have clear := clear.second take_lossless left
  refine andThen_floatsAt (trivia_floatsAt isTrivia _ before after)
    (fun _ => opens_of_trivia _) ?_
  intro typeKept typeLeft typePadded
  have clear := clear.second trivia_lossless typeLeft
  cases typeKept with
  | nil => exact absurd rfl (trivia_skips.ahead isTrivia typePadded)
  | cons type behind =>
      by_cases word : type.kind = .word
      · refine typed_floatsAt isTrivia word clear ?_ ?_
        · intro structured
          rw [List.cons_append, trees_of_word mark word typeLeft]
          exact Bool.eq_false_iff.mpr
            (mt (Tree.isRemark_iff_of_typed (trivia_row _).among mark type _).mp structured)
        · intro form opening more openLeft delimiter opens
          exact endsBefore_of_clear isMark whole word typeLeft form openLeft opens
      · refine floatsAt_of_eq (typed_of_not_word word _) (typed_of_not_word word _) ?_
        exact @floatsAt_of_left _ _ _ _ _ [.fault .missingType] (type :: behind) fun _ => rfl

end Entry

end Rule

end TexWorkspace.Bib
