import TexWorkspace.Proofs.Bib.Grammar

set_option autoImplicit false

/-!
Reading without a problem: trees in which none was recorded, the token lists that a rule reads to
such trees, and what a rule finds when it looks past trivia.
-/

namespace TexWorkspace.Bib

/-! ## Trees without problems -/

/-- No problem was recorded in the trees. -/
def Faultless (trees : List Tree) : Prop :=
  ∀ problem, Leaf.fault problem ∉ Tree.fringeAll trees

@[simp] theorem faultless_nil : Faultless [] := by
  intro problem member
  simp at member

@[simp] theorem faultless_append {left right : List Tree} :
    Faultless (left ++ right) ↔ Faultless left ∧ Faultless right := by
  simp [Faultless, forall_and]

theorem faultless_cons {tree : Tree} {trees : List Tree} :
    Faultless (tree :: trees) ↔ Faultless [tree] ∧ Faultless trees :=
  @faultless_append [tree] trees

@[simp] theorem faultless_token_cons {token : Token} {trees : List Tree} :
    Faultless (.token token :: trees) ↔ Faultless trees := by
  simp [Faultless]

@[simp] theorem faultless_node_cons {kind : NodeKind} {below trees : List Tree} :
    Faultless (.node kind below :: trees) ↔ Faultless below ∧ Faultless trees := by
  simp [Faultless, forall_and]

@[simp] theorem not_faultless_fault_cons {problem : Problem} {trees : List Tree} :
    ¬ Faultless (.fault problem :: trees) := by
  intro faultless
  exact faultless problem (by simp)

@[simp] theorem faultless_map_token (tokens : List Token) : Faultless (tokens.map .token) := by
  induction tokens with
  | nil => exact faultless_nil
  | cons token rest ih => exact faultless_token_cons.mpr ih

@[simp] theorem faultless_map_triviaTree (tokens : List Token) :
    Faultless (tokens.map Rule.triviaTree) := by
  induction tokens with
  | nil => exact faultless_nil
  | cons token rest ih =>
      rw [List.map_cons, Rule.triviaTree]
      split
      · exact faultless_node_cons.mpr ⟨faultless_token_cons.mpr faultless_nil, ih⟩
      · exact faultless_token_cons.mpr ih

theorem faultless_textTree {kind : NodeKind} {unclosed : Problem} {opener : Token} {scan : Scan} :
    Faultless [textTree kind unclosed opener scan] ↔ scan.closed = true := by
  unfold textTree
  split <;> simp_all

/-- A file has no diagnostics exactly if no problem was recorded in its tree. -/
theorem diagnosticsFrom_eq_nil_iff (start : Nat) (leaves : List Leaf) :
    diagnosticsFrom start leaves = [] ↔ ∀ problem, Leaf.fault problem ∉ leaves := by
  induction leaves generalizing start with
  | nil => simp [diagnosticsFrom]
  | cons leaf leaves ih =>
      cases leaf with
      | token token => simpa [diagnosticsFrom] using ih _
      | fault problem =>
          constructor
          · intro empty
            cases empty
          · intro faultless
            exact absurd List.mem_cons_self (faultless problem)

theorem diagnostics_eq_nil_iff_faultless (text : String) :
    (parse text).diagnostics = [] ↔ Faultless (fileItems (lex text)) := by
  rw [Tree.diagnostics, diagnosticsFrom_eq_nil_iff, parse, parseTokens, Tree.fringe_node]
  rfl

/-! ## What a rule reads -/

namespace Rule

/-- The rule takes the tokens up to `rest` without a problem. -/
def Reads (rule : Rule) (tokens rest : List Token) : Prop :=
  Faultless (rule tokens).trees ∧ (rule tokens).rest = rest

/-- What a rule reads depends only on what it does with the tokens at hand. -/
theorem reads_of_eq {rule other : Rule} {tokens rest : List Token}
    (same : rule tokens = other tokens) : rule.Reads tokens rest ↔ other.Reads tokens rest := by
  rw [Reads, same, Reads]

/-- A rule that looks ahead reads what the branch it takes reads. -/
theorem reads_ite {test : List Token → Prop} [DecidablePred test] {yes no : Rule}
    {tokens rest : List Token} :
    Reads (fun tokens => if test tokens then yes tokens else no tokens) tokens rest ↔
      test tokens ∧ yes.Reads tokens rest ∨ ¬ test tokens ∧ no.Reads tokens rest := by
  by_cases holds : test tokens <;> simp [Reads, holds]

theorem reads_done {tokens rest : List Token} : done.Reads tokens rest ↔ tokens = rest := by
  simp [Reads, done]

theorem reads_take {token : Token} {tokens rest : List Token} :
    take.Reads (token :: tokens) rest ↔ tokens = rest := by
  simp [Reads, take]

theorem not_reads_report {problem : Problem} {tokens rest : List Token} :
    ¬ (report problem).Reads tokens rest := by
  simp [Reads, report]

theorem reads_andThen {first second : Rule} {tokens rest : List Token} :
    (first.andThen second).Reads tokens rest ↔
      ∃ middle, first.Reads tokens middle ∧ second.Reads middle rest := by
  constructor
  · rintro ⟨faultless, ends⟩
    obtain ⟨left, right⟩ := faultless_append.mp faultless
    exact ⟨_, ⟨left, rfl⟩, right, ends⟩
  · rintro ⟨_, ⟨left, rfl⟩, right, ends⟩
    exact ⟨faultless_append.mpr ⟨left, right⟩, ends⟩

theorem reads_wrap {kind : NodeKind} {body : Rule} {tokens rest : List Token} :
    (body.wrap kind).Reads tokens rest ↔ body.Reads tokens rest := by
  simp [Reads, wrap]

theorem reads_trivia {tokens rest : List Token} :
    trivia.Reads tokens rest ↔ tokens.dropWhile Token.isTrivia = rest := by
  simp [Reads, trivia]

/-! ## Looking past trivia -/

theorem significant_of_kind {token : Token} {kind : TokenKind} (found : token.kind = kind)
    (significant : kind.isTrivia = false) : token.isTrivia = false := by
  rw [Token.isTrivia, found, significant]

theorem peekPast_trivia_append {run : List Token} (trivia : Grammar.Trivia run)
    (rest : List Token) : peekPast (run ++ rest) = peekPast rest := by
  rw [peekPast, trivia.dropWhile_append, peekPast]

theorem peekPast_cons {token : Token} (rest : List Token) (significant : token.isTrivia = false) :
    peekPast (token :: rest) = some token.kind := by
  simp [peekPast, peek, significant]

theorem dropWhile_trivia_cons {run : List Token} (trivia : Grammar.Trivia run) {token : Token}
    (rest : List Token) (significant : token.isTrivia = false) :
    (run ++ token :: rest).dropWhile Token.isTrivia = token :: rest := by
  rw [trivia.dropWhile_append, List.dropWhile_cons_of_neg (by simp [significant])]

/-- Every token list is some trivia and what comes after it. -/
theorem exists_trivia (tokens : List Token) :
    ∃ run, Grammar.Trivia run ∧ tokens = run ++ tokens.dropWhile Token.isTrivia :=
  ⟨_, Grammar.trivia_takeWhile tokens, List.takeWhile_append_dropWhile.symm⟩

theorem exists_of_peek {tokens : List Token} {kind : TokenKind}
    (ahead : peek tokens = some kind) : ∃ token rest, tokens = token :: rest ∧ token.kind = kind := by
  cases tokens with
  | nil => cases ahead
  | cons token rest => exact ⟨token, rest, rfl, Option.some.inj ahead⟩

theorem exists_of_peekPast {tokens : List Token} {kind : TokenKind}
    (ahead : peekPast tokens = some kind) :
    ∃ token rest, tokens.dropWhile Token.isTrivia = token :: rest ∧ token.kind = kind :=
  exists_of_peek ahead

theorem name_significant {name : Token} (isName : name.isName = true) :
    name.isTrivia = false := by
  rcases of_decide_eq_true isName with kind | kind <;> exact significant_of_kind kind rfl

theorem closer_significant {closing : Token} {delimiter : Delimiter}
    (closes : closing.kind = delimiter.closer) : closing.isTrivia = false := by
  cases delimiter <;> exact significant_of_kind closes rfl

/-! ## Choosing by the next token -/

theorem startsWithKey_of_dropWhile {tokens rest : List Token} {token : Token}
    (dropped : tokens.dropWhile Token.isTrivia = token :: rest) :
    startsWithKey tokens = (token.isName && peekPast rest != some .equals) := by
  rw [startsWithKey, dropped]

/-- The token after the type of an entry opens a body or is out of place, whatever follows it. -/
theorem delimited_cons (form : BodyForm) (opening : Token) :
    (∃ delimiter, opening.kind = Grammar.opener delimiter ∧
      ∀ rest, delimited form (opening :: rest) = enclosed form delimiter (opening :: rest)) ∨
    ∀ rest, delimited form (opening :: rest) = report .missingOpener (opening :: rest) := by
  cases kind : opening.kind
  case openBrace => exact .inl ⟨.braces, rfl, fun _ => by simp [delimited, peek, kind]⟩
  case openParen => exact .inl ⟨.parens, rfl, fun _ => by simp [delimited, peek, kind]⟩
  all_goals exact .inr fun _ => by simp [delimited, peek, kind]

theorem typed_of_word {type : Token} (word : type.kind = .word) (rest : List Token) :
    typed (type :: rest) = ((take.wrap .entryType).andThen
      (trivia.andThen (delimited (BodyForm.ofType type.text)))) (type :: rest) :=
  if_pos word

theorem typed_of_not_word {type : Token} (other : type.kind ≠ .word) (rest : List Token) :
    typed (type :: rest) = report .missingType (type :: rest) :=
  if_neg other

end Rule

end TexWorkspace.Bib
