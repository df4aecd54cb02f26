import TexWorkspace.Bib.Parser

set_option autoImplicit false

/-!
The grammar of bibliography files, as languages of token lists. Nothing here refers to how files are
read: a rule of the grammar says which tokens can stand where, and trivia can stand between any two
of them. The second part relates runs between delimiters to the scanners that look for their ends.
-/

namespace TexWorkspace.Bib.Grammar

/-! ## Runs of tokens -/

/-- Blanks and comments. -/
def Trivia (run : List Token) : Prop :=
  ∀ token ∈ run, token.isTrivia = true

/-- The number of open braces after one more token. A brace that closes more than was opened changes
nothing. -/
def deepen (depth : Nat) : TokenKind → Nat
  | .openBrace => depth + 1
  | .closeBrace => depth - 1
  | _ => depth

/-- The number of open braces after a run of tokens. -/
def depthAfter (depth : Nat) (run : List Token) : Nat :=
  run.foldl (fun depth token => deepen depth token.kind) depth

/-- Tokens of the barred kinds stand only inside braces. -/
def Shielded (barred : List TokenKind) (depth : Nat) (run : List Token) : Prop :=
  ∀ before token after, run = before ++ token :: after → token.kind ∈ barred →
    depthAfter depth before ≠ 0

/-- A run in which the barred kinds stand only inside braces, and which closes all its braces. -/
structure Run (barred : List TokenKind) (run : List Token) : Prop where
  shielded : Shielded barred 0 run
  closed : depthAfter 0 run = 0

/-! ## Rules -/

/-- One piece of a value: a name, a text in braces, or a text in quotes. -/
inductive Piece : List Token → Prop where
  | name {token : Token} : token.isName = true → Piece [token]
  | braced {opener closer : Token} {run : List Token} :
      opener.kind = .openBrace → Run [.closeBrace] run → closer.kind = .closeBrace →
      Piece (opener :: run ++ [closer])
  | quoted {opener closer : Token} {run : List Token} :
      opener.kind = .quote → Run [.quote, .closeBrace] run → closer.kind = .quote →
      Piece (opener :: run ++ [closer])

/-- Pieces joined by `#`. -/
inductive Value : List Token → Prop where
  | piece {piece : List Token} : Piece piece → Value piece
  | join {piece before after more : List Token} {joint : Token} :
      Piece piece → Trivia before → joint.kind = .hash → Trivia after → Value more →
      Value (piece ++ before ++ joint :: after ++ more)

/-- Fields in any number. Commas between them are optional and can be repeated. -/
inductive Fields : List Token → Prop where
  | nil : Fields []
  | skip {token : Token} {rest : List Token} :
      token.isTrivia = true ∨ token.kind = .comma → Fields rest → Fields (token :: rest)
  | field {name equals : Token} {before after value rest : List Token} :
      name.kind = .word → Trivia before → equals.kind = .equals → Trivia after → Value value →
      Fields rest → Fields (name :: before ++ equals :: after ++ value ++ rest)

/-- The body of an entry, by the entry's type in lower case. -/
inductive Body (delimiter : Delimiter) : String → List Token → Prop where
  | comment {run : List Token} : Run [delimiter.closer] run → Body delimiter "comment" run
  | preamble {before value after : List Token} :
      Trivia before → Value value → Trivia after →
      Body delimiter "preamble" (before ++ value ++ after)
  | string {fields : List Token} : Fields fields → Body delimiter "string" fields
  | key {type : String} {before after : List Token} {name : Token} :
      type ∉ ["comment", "preamble", "string"] →
      Trivia before → name.isName = true → Trivia after →
      Body delimiter type (before ++ name :: after)
  | keyed {type : String} {before after fields : List Token} {name comma : Token} :
      type ∉ ["comment", "preamble", "string"] →
      Trivia before → name.isName = true → Trivia after → comma.kind = .comma → Fields fields →
      Body delimiter type (before ++ name :: after ++ comma :: fields)

/-- The token that starts a body. -/
def opener : Delimiter → TokenKind
  | .braces => .openBrace
  | .parens => .openParen

/-- An entry, from its `@` to the token that closes its body. -/
inductive Entry : List Token → Prop where
  | entry {mark type opening closing : Token} {before between body : List Token}
      {delimiter : Delimiter} :
      mark.kind = .atSign → Trivia before → type.kind = .word → Trivia between →
      opening.kind = opener delimiter → Body delimiter (Text.lowercase type.text) body →
      closing.kind = delimiter.closer →
      Entry (mark :: before ++ type :: between ++ opening :: body ++ [closing])

/-- A file: entries, and between them anything that starts no entry. -/
inductive File : List Token → Prop where
  | nil : File []
  | other {token : Token} {rest : List Token} :
      token.kind ≠ .atSign → File rest → File (token :: rest)
  | entry {entry rest : List Token} : Entry entry → File rest → File (entry ++ rest)

/-! ## Facts about runs -/

theorem Trivia.nil : Trivia [] := by
  intro token member
  cases member

theorem trivia_cons {token : Token} {rest : List Token} :
    Trivia (token :: rest) ↔ token.isTrivia = true ∧ Trivia rest :=
  List.forall_mem_cons

theorem trivia_takeWhile (tokens : List Token) : Trivia (tokens.takeWhile Token.isTrivia) :=
  List.all_eq_true.mp List.all_takeWhile

theorem Trivia.dropWhile_append {run : List Token} (trivia : Trivia run) (rest : List Token) :
    (run ++ rest).dropWhile Token.isTrivia = rest.dropWhile Token.isTrivia := by
  rw [List.dropWhile_append_of_pos trivia]

theorem Fields.of_trivia {run rest : List Token} (trivia : Trivia run) (fields : Fields rest) :
    Fields (run ++ rest) := by
  induction run with
  | nil => exact fields
  | cons token run ih =>
      obtain ⟨isTrivia, trivia⟩ := trivia_cons.mp trivia
      exact .skip (.inl isTrivia) (ih trivia)

theorem Trivia.fields {run : List Token} (trivia : Trivia run) : Fields run := by
  simpa using Fields.of_trivia trivia .nil

theorem Fields.append {left right : List Token} (leftFields : Fields left)
    (rightFields : Fields right) : Fields (left ++ right) := by
  induction leftFields with
  | nil => exact rightFields
  | skip skipped _ ih => exact .skip skipped ih
  | @field name equals before after value rest word beforeTrivia sign afterTrivia isValue _ ih =>
      have joined := Fields.field word beforeTrivia sign afterTrivia isValue ih
      simpa using joined

theorem Entry.starts {taken : List Token} (entry : Entry taken) :
    ∃ mark others, taken = mark :: others ∧ mark.kind = .atSign := by
  cases entry with
  | entry isMark => exact ⟨_, _, rfl, isMark⟩

@[simp] theorem depthAfter_nil (depth : Nat) : depthAfter depth [] = depth := rfl

@[simp] theorem depthAfter_cons (depth : Nat) (token : Token) (rest : List Token) :
    depthAfter depth (token :: rest) = depthAfter (deepen depth token.kind) rest := rfl

theorem Shielded.nil (barred : List TokenKind) (depth : Nat) : Shielded barred depth [] := by
  intro before token after split
  simp at split

theorem shielded_cons {barred : List TokenKind} {depth : Nat} {token : Token} {rest : List Token} :
    Shielded barred depth (token :: rest) ↔
      (token.kind ∈ barred → depth ≠ 0) ∧ Shielded barred (deepen depth token.kind) rest := by
  constructor
  · intro shielded
    refine ⟨fun member => shielded [] token rest rfl member, ?_⟩
    intro before inner after split member
    exact shielded (token :: before) inner after (by rw [split, List.cons_append]) member
  · rintro ⟨first, others⟩ before inner after split member
    cases before with
    | nil =>
        obtain ⟨rfl, -⟩ := List.cons.inj split
        exact first member
    | cons head before =>
        obtain ⟨rfl, inner⟩ := List.cons.inj split
        exact others before _ after inner member

instance Shielded.decidable (barred : List TokenKind) :
    (depth : Nat) → (run : List Token) → Decidable (Shielded barred depth run)
  | depth, [] => isTrue (.nil barred depth)
  | depth, token :: rest =>
      have := Shielded.decidable barred (deepen depth token.kind) rest
      decidable_of_iff _ shielded_cons.symm

instance (barred : List TokenKind) (run : List Token) : Decidable (Run barred run) :=
  decidable_of_iff (Shielded barred 0 run ∧ depthAfter 0 run = 0)
    ⟨fun ⟨shielded, closed⟩ => ⟨shielded, closed⟩, fun isRun => ⟨isRun.shielded, isRun.closed⟩⟩

/-- Either the barred kinds stand only inside braces, or there is a first token of them outside. -/
theorem shielded_or_stop (barred : List TokenKind) (depth : Nat) (tokens : List Token) :
    Shielded barred depth tokens ∨
      ∃ run stop rest, tokens = run ++ stop :: rest ∧ Shielded barred depth run ∧
        depthAfter depth run = 0 ∧ stop.kind ∈ barred := by
  induction tokens generalizing depth with
  | nil => exact .inl (.nil barred depth)
  | cons token rest ih =>
      by_cases stops : token.kind ∈ barred ∧ depth = 0
      · exact .inr ⟨[], token, rest, rfl, .nil barred depth, stops.2, stops.1⟩
      · have inside : token.kind ∈ barred → depth ≠ 0 := fun member outside =>
          stops ⟨member, outside⟩
        rcases ih (deepen depth token.kind) with
          shielded | ⟨run, stop, after, split, shielded, outside, stops⟩
        · exact .inl (shielded_cons.mpr ⟨inside, shielded⟩)
        · exact .inr ⟨token :: run, stop, after, by rw [split, List.cons_append],
            shielded_cons.mpr ⟨inside, shielded⟩, outside, stops⟩

/-! ## Scanners over runs -/

/-- A scanner that takes every token it meets, unless the token is of a barred kind and outside
braces. -/
def PassesOver (barred : List TokenKind) (scan : Nat → List Token → Scan) : Prop :=
  ∀ depth token rest, (token.kind ∈ barred → depth ≠ 0) →
    scan depth (token :: rest) = (scan (deepen depth token.kind) rest).cons token

theorem PassesOver.append {barred : List TokenKind} {scan : Nat → List Token → Scan}
    (passes : PassesOver barred scan) {depth : Nat} {run : List Token}
    (shielded : Shielded barred depth run) (rest : List Token) :
    scan depth (run ++ rest) =
      { scan (depthAfter depth run) rest with
        inside := run ++ (scan (depthAfter depth run) rest).inside } := by
  induction run generalizing depth with
  | nil => rfl
  | cons token run ih =>
      obtain ⟨inside, shielded⟩ := shielded_cons.mp shielded
      rw [List.cons_append, passes depth token _ inside, ih shielded]
      rfl

/-- A scan that meets no token to stop at runs to the end. -/
theorem PassesOver.unclosed {barred : List TokenKind} {scan : Nat → List Token → Scan}
    (passes : PassesOver barred scan) (ends : ∀ depth, (scan depth []).closed = false)
    {depth : Nat} {run : List Token} (shielded : Shielded barred depth run) :
    (scan depth run).closed = false := by
  have whole := passes.append shielded []
  rw [List.append_nil] at whole
  rw [whole]
  exact ends _

theorem scanBraced_passesOver : PassesOver [.closeBrace] scanBraced := by
  intro depth token rest inside
  cases kind : token.kind <;> simp [scanBraced, kind, deepen]
  cases depth with
  | zero => simp [kind] at inside
  | succ outer => rfl

theorem scanQuoted_passesOver : PassesOver [.quote, .closeBrace] scanQuoted := by
  intro depth token rest inside
  cases kind : token.kind <;> simp [scanQuoted, kind, deepen] <;> cases depth with
  | zero => simp [kind] at inside
  | succ outer => rfl

theorem scanRaw_passesOver (closer : TokenKind) : PassesOver [closer] (scanRaw closer) := by
  intro depth token rest inside
  have goesOn : ¬ (token.kind = closer ∧ depth = 0) := fun stops =>
    inside (List.mem_singleton.mpr stops.1) stops.2
  rw [scanRaw, if_neg goesOn]
  cases kind : token.kind <;> rfl

theorem Run.scanBraced_eq {run : List Token} {closer : Token} (balanced : Run [.closeBrace] run)
    (closes : closer.kind = .closeBrace) (rest : List Token) :
    scanBraced 0 (run ++ closer :: rest) = ⟨run ++ [closer], true, rest⟩ := by
  rw [scanBraced_passesOver.append balanced.shielded, balanced.closed]
  simp [scanBraced, closes]

theorem Run.scanQuoted_eq {run : List Token} {closer : Token}
    (enclosed : Run [.quote, .closeBrace] run) (closes : closer.kind = .quote)
    (rest : List Token) :
    scanQuoted 0 (run ++ closer :: rest) = ⟨run ++ [closer], true, rest⟩ := by
  rw [scanQuoted_passesOver.append enclosed.shielded, enclosed.closed]
  simp [scanQuoted, closes]

/-- A brace that closes more than was opened ends a text in quotes. -/
theorem Run.scanQuoted_broken {run : List Token} {stop : Token}
    (enclosed : Run [.quote, .closeBrace] run) (breaks : stop.kind = .closeBrace)
    (rest : List Token) :
    scanQuoted 0 (run ++ stop :: rest) = ⟨run, false, stop :: rest⟩ := by
  rw [scanQuoted_passesOver.append enclosed.shielded, enclosed.closed]
  simp [scanQuoted, breaks]

theorem Run.scanRaw_eq {run : List Token} {closer : Token} (open_ : Run [closer.kind] run)
    (rest : List Token) :
    scanRaw closer.kind 0 (run ++ closer :: rest) = ⟨run, true, closer :: rest⟩ := by
  rw [(scanRaw_passesOver closer.kind).append open_.shielded, open_.closed]
  simp [scanRaw]

/-- A scan that found its end passed over a run. -/
theorem exists_run_of_scanBraced {tokens : List Token}
    (closed : (scanBraced 0 tokens).closed = true) :
    ∃ run closer, Run [.closeBrace] run ∧ closer.kind = .closeBrace ∧
      tokens = run ++ closer :: (scanBraced 0 tokens).rest := by
  rcases shielded_or_stop [.closeBrace] 0 tokens with
    shielded | ⟨run, stop, rest, rfl, shielded, outside, stops⟩
  · cases closed.symm.trans (scanBraced_passesOver.unclosed (fun _ => rfl) shielded)
  · have balanced : Run [.closeBrace] run := ⟨shielded, outside⟩
    have closes := List.mem_singleton.mp stops
    refine ⟨run, stop, balanced, closes, ?_⟩
    rw [balanced.scanBraced_eq closes]

theorem exists_run_of_scanQuoted {tokens : List Token}
    (closed : (scanQuoted 0 tokens).closed = true) :
    ∃ run closer, Run [.quote, .closeBrace] run ∧ closer.kind = .quote ∧
      tokens = run ++ closer :: (scanQuoted 0 tokens).rest := by
  rcases shielded_or_stop [.quote, .closeBrace] 0 tokens with
    shielded | ⟨run, stop, rest, rfl, shielded, outside, stops⟩
  · cases closed.symm.trans (scanQuoted_passesOver.unclosed (fun _ => rfl) shielded)
  · have enclosed : Run [.quote, .closeBrace] run := ⟨shielded, outside⟩
    rcases List.mem_cons.mp stops with closes | early
    · refine ⟨run, stop, enclosed, closes, ?_⟩
      rw [enclosed.scanQuoted_eq closes]
    · rw [scanQuoted_passesOver.append shielded, outside] at closed
      simp [scanQuoted, List.mem_singleton.mp early] at closed

/-- A text in quotes that is not closed ends with the tokens or before a brace. -/
theorem exists_run_of_scanQuoted_unclosed {tokens : List Token}
    (unclosed : (scanQuoted 0 tokens).closed = false) :
    (scanQuoted 0 tokens).rest = [] ∨
      ∃ run stop rest, Run [.quote, .closeBrace] run ∧ stop.kind = .closeBrace ∧
        tokens = run ++ stop :: rest := by
  rcases shielded_or_stop [.quote, .closeBrace] 0 tokens with
    shielded | ⟨run, stop, rest, rfl, shielded, outside, stops⟩
  · have whole := scanQuoted_passesOver.append shielded []
    rw [List.append_nil] at whole
    exact .inl (by rw [whole]; rfl)
  · have enclosed : Run [.quote, .closeBrace] run := ⟨shielded, outside⟩
    rcases List.mem_cons.mp stops with closes | early
    · rw [enclosed.scanQuoted_eq closes] at unclosed
      cases unclosed
    · exact .inr ⟨run, stop, rest, enclosed, List.mem_singleton.mp early, rfl⟩

theorem exists_run_of_scanRaw {kind : TokenKind} {tokens : List Token}
    (closed : (scanRaw kind 0 tokens).closed = true) :
    ∃ run, Run [kind] run ∧ tokens = run ++ (scanRaw kind 0 tokens).rest := by
  rcases shielded_or_stop [kind] 0 tokens with
    shielded | ⟨run, stop, rest, rfl, shielded, outside, stops⟩
  · cases closed.symm.trans ((scanRaw_passesOver kind).unclosed (fun _ => rfl) shielded)
  · obtain rfl := List.mem_singleton.mp stops
    have isRun : Run [stop.kind] run := ⟨shielded, outside⟩
    exact ⟨run, isRun, by rw [isRun.scanRaw_eq]⟩

/-- A scan that did not find its end took everything. -/
theorem scanRaw_of_unclosed {closer : TokenKind} {depth : Nat} {tokens : List Token}
    (unclosed : (scanRaw closer depth tokens).closed = false) :
    (scanRaw closer depth tokens).rest = [] := by
  fun_induction scanRaw closer depth tokens <;> simp_all [Scan.cons]

end TexWorkspace.Bib.Grammar
