import Mathlib.Data.Nat.PSub
import TexWorkspace.Proofs.Bib.Independence
import TexWorkspace.Proofs.Bib.Placement
import TexWorkspace.Proofs.Bib.Values

set_option autoImplicit false

/-!
How far texts between delimiters and bodies without structure go: which tokens they take, which they
leave, and what is reported about them. Main statement: a text in braces is the shortest run that
closes what it opens, a text in quotes and a body without structure go up to the first token outside
braces that can end them, and no count of open braces is ever taken below zero on the way.
-/

namespace TexWorkspace.Bib

open Grammar

/-! ## Extents -/

/-- What a rule makes of the tokens it is given: those it takes, those it leaves, and the wordings
of the problems it reports, each with the stretch of text that it is about. -/
structure Extent where
  taken : List Token
  left : List Token
  reports : List (String × Span)

/-- The extent of a step that starts at `start`. -/
def Step.extent (start : Nat) (step : Step) : Extent where
  taken := Tree.tokensAll step.trees
  left := step.rest
  reports := (diagnosticsFrom start (Tree.fringeAll step.trees ++ step.rest.map .token)).map
    fun diagnostic => (diagnostic.problem.message, diagnostic.span)

/-- The place of the first of the tokens that are left behind a run, or the empty stretch at the end
if none are. -/
def spanBehind (start : Nat) (taken left : List Token) : Span :=
  ⟨start + Token.widthAll taken,
    start + Token.widthAll taken + (left.head?.map Token.width).getD 0⟩

def openCount (run : List Token) : Nat :=
  run.countP fun token => token.kind = .openBrace

def closeCount (run : List Token) : Nat :=
  run.countP fun token => token.kind = .closeBrace

/-- A run of at least one token that closes as many braces as it opens. -/
structure Balanced (run : List Token) : Prop where
  filled : run ≠ []
  even : openCount run = closeCount run

/-- The token is the first one of the given kinds that stands outside braces. -/
structure FirstOutside (kinds : List TokenKind) (tokens run : List Token) (stop : Token)
    (left : List Token) : Prop where
  split : tokens = run ++ stop :: left
  kind : stop.kind ∈ kinds
  before : Run kinds run

/-- The extent of a text in braces, from its opening brace on: the shortest balanced run. -/
inductive BracedExtent (start : Nat) (tokens : List Token) : Extent → Prop where
  | closed {taken left : List Token} :
      tokens = taken ++ left → Balanced taken →
      (∀ run, run <+: taken → Balanced run → run = taken) →
      BracedExtent start tokens ⟨taken, left, []⟩
  | unclosed :
      (∀ run, run <+: tokens → ¬ Balanced run) →
      BracedExtent start tokens ⟨tokens, [], [("Unclosed '\x7b'", spanBehind start tokens [])]⟩

/-- The extent of a text in quotes, from its opening quote on. -/
inductive QuotedExtent (start : Nat) (opener : Token) (tokens : List Token) : Extent → Prop where
  | closed {run left : List Token} {closer : Token} :
      FirstOutside [.quote, .closeBrace] tokens run closer left → closer.kind = .quote →
      QuotedExtent start opener tokens ⟨opener :: run ++ [closer], left, []⟩
  | broken {run left : List Token} {brace : Token} :
      FirstOutside [.quote, .closeBrace] tokens run brace left → brace.kind = .closeBrace →
      QuotedExtent start opener tokens
        ⟨opener :: run, brace :: left,
          [("Unclosed '\"'", spanBehind start (opener :: run) (brace :: left))]⟩
  | unclosed :
      Shielded [.quote, .closeBrace] 0 tokens →
      QuotedExtent start opener tokens
        ⟨opener :: tokens, [], [("Unclosed '\"'", spanBehind start (opener :: tokens) [])]⟩

/-- The extent of a body without structure. -/
inductive RawExtent (closer : TokenKind) (tokens : List Token) : Extent → Prop where
  | closed {run left : List Token} {stop : Token} :
      FirstOutside [closer] tokens run stop left → RawExtent closer tokens ⟨run, stop :: left, []⟩
  | unclosed : Shielded [closer] 0 tokens → RawExtent closer tokens ⟨tokens, [], []⟩

/-! ## Reports -/

theorem filterMap_map_token (tokens : List Token) :
    (tokens.map Leaf.token).filterMap Leaf.token? = tokens := by
  rw [List.filterMap_map]
  exact List.filterMap_some

theorem diagnosticsFrom_tokens (start : Nat) (tokens : List Token) (after : List Leaf) :
    diagnosticsFrom start (tokens.map .token ++ after) =
      diagnosticsFrom (start + Token.widthAll tokens) after := by
  have faultless : ∀ problem, Leaf.fault problem ∉ tokens.map Leaf.token := by simp
  rw [diagnosticsFrom_append faultless, filterMap_map_token]

theorem diagnosticsFrom_only_tokens (start : Nat) (tokens : List Token) :
    diagnosticsFrom start (tokens.map .token) = [] := by
  simpa [diagnosticsFrom] using diagnosticsFrom_tokens start tokens []

theorem extent_of_tokens (start : Nat) (taken left : List Token) :
    Step.extent start ⟨taken.map .token, left⟩ = ⟨taken, left, []⟩ := by
  have silent := diagnosticsFrom_only_tokens start (taken ++ left)
  rw [List.map_append] at silent
  simp [Step.extent, fringeAll_map_token, silent]

theorem fringe_textTree (kind : NodeKind) (unclosed : Problem) (opener : Token) (scan : Scan) :
    (textTree kind unclosed opener scan).fringe =
      (opener :: scan.inside).map .token ++ if scan.closed then [] else [.fault unclosed] := by
  rw [textTree, Tree.fringe_node, Tree.fringeAll_append, ← List.map_cons, fringeAll_map_token]
  cases scan.closed <;> simp

/-- A text that is not closed reports this at the place where it ends, and nothing else. -/
theorem extent_textTree (start : Nat) (kind : NodeKind) (unclosed : Problem) (opener : Token)
    (scan : Scan) :
    Step.extent start ⟨[textTree kind unclosed opener scan], scan.rest⟩ =
      ⟨opener :: scan.inside, scan.rest,
        if scan.closed then []
        else [(unclosed.message, spanBehind start (opener :: scan.inside) scan.rest)]⟩ := by
  have ahead : nextWidth (scan.rest.map .token) = (scan.rest.head?.map Token.width).getD 0 := by
    rw [nextWidth_eq, filterMap_map_token]
  have reported : diagnosticsFrom start
      ((textTree kind unclosed opener scan).fringe ++ scan.rest.map .token) =
        if scan.closed then []
        else [⟨unclosed, spanBehind start (opener :: scan.inside) scan.rest⟩] := by
    rw [fringe_textTree, List.append_assoc, diagnosticsFrom_tokens]
    cases scan.closed with
    | true => exact diagnosticsFrom_only_tokens _ scan.rest
    | false =>
        simp only [Bool.false_eq_true, if_false, List.singleton_append, diagnosticsFrom, ahead,
          diagnosticsFrom_only_tokens]
        rfl
  simp only [Step.extent, Tree.tokensAll_cons, Tree.tokensAll_nil, tokens_textTree,
    List.append_nil, Tree.fringeAll_cons, Tree.fringeAll_nil, reported]
  cases scan.closed <;> rfl

/-! ## Runs and prefixes -/

theorem exists_firstOutside (kinds : List TokenKind) (tokens : List Token) :
    Shielded kinds 0 tokens ∨ ∃ run stop left, FirstOutside kinds tokens run stop left := by
  rcases shielded_or_stop kinds 0 tokens with
    shielded | ⟨run, stop, left, split, shielded, outside, stops⟩
  · exact .inl shielded
  · exact .inr ⟨run, stop, left, split, stops, shielded, outside⟩

theorem shielded_of_front {kinds : List TokenKind} {depth : Nat} {part run : List Token}
    (front : part <+: run) (shielded : Shielded kinds depth run) : Shielded kinds depth part := by
  obtain ⟨more, rfl⟩ := front
  intro before token after split
  exact shielded before token (after ++ more) (by simp [split])

/-- A scan that meets no token to stop at takes everything. -/
theorem Grammar.PassesOver.eq_of_shielded {barred : List TokenKind}
    {scan : Nat → List Token → Scan} (passes : PassesOver barred scan)
    (ends : ∀ depth, scan depth [] = ⟨[], false, []⟩) {depth : Nat} {run : List Token}
    (shielded : Shielded barred depth run) : scan depth run = ⟨run, false, []⟩ := by
  have whole := passes.append shielded []
  rw [ends, List.append_nil] at whole
  simpa using whole

/-! ## Texts in braces -/

theorem openCount_cons (token : Token) (rest : List Token) :
    openCount (token :: rest) = openCount rest + if token.kind = .openBrace then 1 else 0 := by
  simp [openCount, List.countP_cons]

theorem closeCount_cons (token : Token) (rest : List Token) :
    closeCount (token :: rest) = closeCount rest + if token.kind = .closeBrace then 1 else 0 := by
  simp [closeCount, List.countP_cons]

theorem openCount_append (left right : List Token) :
    openCount (left ++ right) = openCount left + openCount right :=
  List.countP_append

theorem closeCount_append (left right : List Token) :
    closeCount (left ++ right) = closeCount left + closeCount right :=
  List.countP_append

theorem deepen_add_close {depth : Nat} {kind : TokenKind}
    (inside : kind = .closeBrace → depth ≠ 0) :
    deepen depth kind + (if kind = .closeBrace then 1 else 0) =
      depth + if kind = .openBrace then 1 else 0 := by
  cases kind with
  | closeBrace => exact Nat.succ_pred_eq_of_ne_zero (inside rfl)
  | _ => rfl

/-- While no brace closes more than was opened, the depth is what the braces add up to. -/
theorem depthAfter_add_closeCount {depth : Nat} {run : List Token}
    (shielded : Shielded [.closeBrace] depth run) :
    depthAfter depth run + closeCount run = depth + openCount run := by
  induction run generalizing depth with
  | nil => rfl
  | cons token rest ih =>
      obtain ⟨inside, behind⟩ := shielded_cons.mp shielded
      have here := deepen_add_close fun isCloser => inside (List.mem_singleton.mpr isCloser)
      have counted := ih behind
      rw [depthAfter_cons, closeCount_cons, openCount_cons]
      omega

section Braced

variable {opener : Token} {rest : List Token}

/-- As long as the first brace is open, no run from it on is balanced. -/
theorem not_balanced_of_front (isOpener : opener.kind = .openBrace)
    (shielded : Shielded [.closeBrace] 0 rest) {run : List Token} (front : run <+: opener :: rest) :
    ¬ Balanced run := by
  intro balanced
  rcases List.prefix_cons_iff.mp front with rfl | ⟨part, rfl, inner⟩
  · exact balanced.filled rfl
  · have counted := depthAfter_add_closeCount (shielded_of_front inner shielded)
    have even := balanced.even
    rw [openCount_cons, closeCount_cons, isOpener] at even
    simp only [if_true, reduceCtorEq, if_false] at even
    omega

theorem bracedExtent_textTree (start : Nat) (isOpener : opener.kind = .openBrace)
    (rest : List Token) :
    BracedExtent start (opener :: rest)
      (Step.extent start ⟨[textTree .bracedText .unclosedBrace opener (scanBraced 0 rest)],
        (scanBraced 0 rest).rest⟩) := by
  rw [extent_textTree]
  rcases exists_firstOutside [.closeBrace] rest with shielded | ⟨run, stop, left, first⟩
  · rw [scanBraced_passesOver.eq_of_shielded (fun _ => rfl) shielded]
    exact .unclosed fun _ front => not_balanced_of_front isOpener shielded front
  · obtain ⟨rfl, kind, before⟩ := first
    have isCloser := List.mem_singleton.mp kind
    have counted := depthAfter_add_closeCount before.shielded
    rw [before.closed] at counted
    rw [before.scanBraced_eq isCloser]
    refine .closed (by simp) ⟨by simp, ?_⟩ ?_
    · have none : openCount [] = 0 ∧ closeCount [] = 0 := ⟨rfl, rfl⟩
      simp only [openCount_cons, closeCount_cons, openCount_append, closeCount_append, isOpener,
        isCloser, if_true, reduceCtorEq, if_false]
      omega
    · intro part front balanced
      -- A shorter run would end before the closer, where the first brace is still open.
      rw [← List.cons_append] at front
      rcases List.prefix_concat_iff.mp front with whole | shorter
      · exact whole
      · exact absurd balanced (not_balanced_of_front isOpener before.shielded shorter)

end Braced

theorem BracedExtent.unique {start : Nat} {tokens : List Token} {extent other : Extent}
    (braced : BracedExtent start tokens extent) (also : BracedExtent start tokens other) :
    extent = other := by
  cases braced with
  | @closed taken left split balanced least =>
      cases also with
      | @closed taken' left' split' balanced' least' =>
          have same : taken = taken' := by
            have front : taken <+: tokens := ⟨left, split.symm⟩
            have front' : taken' <+: tokens := ⟨left', split'.symm⟩
            rcases List.prefix_or_prefix_of_prefix front front' with shorter | longer
            · exact least' taken shorter balanced
            · exact (least taken' longer balanced').symm
          subst same
          rw [List.append_cancel_left (split.symm.trans split')]
      | unclosed never => exact absurd balanced (never taken ⟨left, split.symm⟩)
  | unclosed never =>
      cases also with
      | closed split balanced _ => exact absurd balanced (never _ ⟨_, split.symm⟩)
      | unclosed _ => rfl

/-! ## Texts in quotes -/

theorem scan_of_quotedExtent {start : Nat} {opener : Token} {tokens : List Token} {extent : Extent}
    (quoted : QuotedExtent start opener tokens extent) :
    extent = Step.extent start
      ⟨[textTree .quotedText .unclosedQuote opener (scanQuoted 0 tokens)],
        (scanQuoted 0 tokens).rest⟩ := by
  rw [extent_textTree]
  cases quoted with
  | closed first isQuote =>
      obtain ⟨rfl, -, before⟩ := first
      rw [before.scanQuoted_eq isQuote]
      rfl
  | broken first isBrace =>
      obtain ⟨rfl, -, before⟩ := first
      rw [before.scanQuoted_broken isBrace]
      rfl
  | unclosed shielded =>
      rw [scanQuoted_passesOver.eq_of_shielded (fun _ => rfl) shielded]
      rfl

theorem exists_quotedExtent (start : Nat) (opener : Token) (tokens : List Token) :
    ∃ extent, QuotedExtent start opener tokens extent := by
  rcases exists_firstOutside [.quote, .closeBrace] tokens with
    shielded | ⟨run, stop, left, first⟩
  · exact ⟨_, .unclosed shielded⟩
  · rcases List.mem_pair.mp first.kind with isQuote | isBrace
    · exact ⟨_, .closed first isQuote⟩
    · exact ⟨_, .broken first isBrace⟩

/-! ## Bodies without structure -/

theorem scan_of_rawExtent {start : Nat} {delimiter : Delimiter} {tokens : List Token}
    {extent : Extent} (raw : RawExtent delimiter.closer tokens extent) :
    extent = (Rule.rawBody delimiter tokens).extent start := by
  rw [Rule.rawBody, extent_of_tokens]
  cases raw with
  | closed first =>
      obtain ⟨rfl, kind, before⟩ := first
      rw [← List.mem_singleton.mp kind] at before ⊢
      rw [before.scanRaw_eq]
  | unclosed shielded =>
      rw [(scanRaw_passesOver delimiter.closer).eq_of_shielded (fun _ => rfl) shielded]

theorem exists_rawExtent (closer : TokenKind) (tokens : List Token) :
    ∃ extent, RawExtent closer tokens extent := by
  rcases exists_firstOutside [closer] tokens with shielded | ⟨run, stop, left, first⟩
  · exact ⟨_, .unclosed shielded⟩
  · exact ⟨_, .closed first⟩

/-! ## Counters -/

/-- What a loop does at a token. -/
inductive Verdict where
  | goOn (depth : Nat)
  | endBehind
  | endBefore (closed : Bool)

/-- How the loop of texts in braces goes on. The brace that starts the text is counted as well, and
the counter cannot be taken below zero. -/
def bracedVerdict? (depth : Nat) : TokenKind → Option Verdict
  | .openBrace => some (.goOn (depth + 1))
  | .closeBrace => depth.ppred.map fun depth => if depth = 0 then .endBehind else .goOn depth
  | _ => some (.goOn depth)

/-- How the loop of texts in quotes goes on. -/
def quotedVerdict? (depth : Nat) : TokenKind → Option Verdict
  | .quote => some (if depth = 0 then .endBehind else .goOn depth)
  | .openBrace => some (.goOn (depth + 1))
  | .closeBrace => if depth = 0 then some (.endBefore false) else depth.ppred.map .goOn
  | _ => some (.goOn depth)

/-- How the loop of bodies without structure goes on. The counter stays at zero if it is there. -/
def rawVerdict? (closer : TokenKind) (depth : Nat) (kind : TokenKind) : Option Verdict :=
  if kind = closer ∧ depth = 0 then some (.endBefore true) else some (.goOn (deepen depth kind))

/-- The loop that goes on as it is told, from the given state of its counter on. There is no result
if the counter would have to go below zero. -/
def countedScan? (verdict? : Nat → TokenKind → Option Verdict) (depth : Nat) :
    List Token → Option Scan
  | [] => some ⟨[], false, []⟩
  | token :: rest =>
      (verdict? depth token.kind).bind fun
        | .goOn depth => (countedScan? verdict? depth rest).map (Scan.cons token)
        | .endBehind => some ⟨[token], true, rest⟩
        | .endBefore closed => some ⟨[], closed, token :: rest⟩

theorem countedScan?_braced (depth : Nat) (tokens : List Token) :
    countedScan? bracedVerdict? (depth + 1) tokens = some (scanBraced depth tokens) := by
  induction tokens generalizing depth with
  | nil => rfl
  | cons token rest ih =>
      cases kind : token.kind with
      | closeBrace => cases depth <;> simp [countedScan?, bracedVerdict?, scanBraced, kind, ih]
      | _ => simp [countedScan?, bracedVerdict?, scanBraced, kind, ih]

theorem countedScan?_quoted (depth : Nat) (tokens : List Token) :
    countedScan? quotedVerdict? depth tokens = some (scanQuoted depth tokens) := by
  induction tokens generalizing depth with
  | nil => rfl
  | cons token rest ih =>
      cases kind : token.kind <;> cases depth <;>
        simp [countedScan?, quotedVerdict?, scanQuoted, kind, ih]

theorem countedScan?_raw (closer : TokenKind) (depth : Nat) (tokens : List Token) :
    countedScan? (rawVerdict? closer) depth tokens = some (scanRaw closer depth tokens) := by
  induction tokens generalizing depth with
  | nil => rfl
  | cons token rest ih =>
      by_cases stops : token.kind = closer ∧ depth = 0
      · simp [countedScan?, rawVerdict?, scanRaw, stops]
      · have passes := scanRaw_passesOver closer depth token rest fun member outside =>
          stops ⟨List.mem_singleton.mp member, outside⟩
        rw [passes, countedScan?, rawVerdict?, if_neg stops, Option.bind_some]
        exact congrArg (Option.map (Scan.cons token)) (ih _)

/-! ## The main statement -/

/-- What at most one extent satisfies, and some extent does, says which extent that is. -/
theorem extent_iff {Fits : Extent → Prop} {own : Extent}
    (only : ∀ extent, Fits extent → extent = own) (exist : ∃ extent, Fits extent)
    (extent : Extent) : Fits extent ↔ extent = own := by
  obtain ⟨given, fits⟩ := exist
  constructor
  · exact only extent
  · rintro rfl
    rwa [only given fits] at fits

/-- A text in braces is the shortest run that closes what it opens, and a text in quotes and a body
without structure end where a token outside braces ends them; what is not closed goes on to the end.
The counters of open braces are never below zero. -/
theorem scans_extent (start : Nat) (mark : String) (tokens : List Token) (delimiter : Delimiter) :
    (∃ step, Rule.piece? (⟨.openBrace, mark⟩ :: tokens) = some step ∧ ∀ extent,
      BracedExtent start (⟨.openBrace, mark⟩ :: tokens) extent ↔ extent = step.extent start) ∧
    (∃ step, Rule.piece? (⟨.quote, mark⟩ :: tokens) = some step ∧ ∀ extent,
      QuotedExtent start ⟨.quote, mark⟩ tokens extent ↔ extent = step.extent start) ∧
    (∀ extent, RawExtent delimiter.closer tokens extent ↔
      extent = (Rule.rawBody delimiter tokens).extent start) ∧
    countedScan? bracedVerdict? 1 tokens = some (scanBraced 0 tokens) ∧
    countedScan? quotedVerdict? 0 tokens = some (scanQuoted 0 tokens) ∧
    countedScan? (rawVerdict? delimiter.closer) 0 tokens =
      some (scanRaw delimiter.closer 0 tokens) := by
  refine ⟨⟨_, rfl, ?_⟩, ⟨_, rfl, ?_⟩, ?_, countedScan?_braced 0 tokens,
    countedScan?_quoted 0 tokens, countedScan?_raw delimiter.closer 0 tokens⟩
  · have isOpener : (⟨.openBrace, mark⟩ : Token).kind = .openBrace := rfl
    have own := bracedExtent_textTree start isOpener tokens
    exact extent_iff (fun _ braced => braced.unique own) ⟨_, own⟩
  · exact extent_iff (fun _ quoted => scan_of_quotedExtent quoted)
      (exists_quotedExtent start ⟨.quote, mark⟩ tokens)
  · exact extent_iff (fun _ raw => scan_of_rawExtent raw)
      (exists_rawExtent delimiter.closer tokens)

end TexWorkspace.Bib
