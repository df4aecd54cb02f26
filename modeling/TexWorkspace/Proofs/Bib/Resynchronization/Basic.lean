import TexWorkspace.Bib.Parser
import TexWorkspace.Proofs.Bib.TokenSeams

set_option autoImplicit false

/-!
Rules on more tokens. A rule resumes if it does the same with more tokens behind those at hand. The
combinators keep this, looking ahead finds nothing new where an `@` comes next, and so do scans that
found the end of their text.
-/

namespace TexWorkspace.Bib

/-! ## Texts that are open at the end -/

def Problem.IsUnclosed (problem : Problem) : Prop :=
  problem = .unclosedBrace ∨ problem = .unclosedQuote

instance : DecidablePred Problem.IsUnclosed := fun problem =>
  inferInstanceAs (Decidable (problem = .unclosedBrace ∨ problem = .unclosedQuote))

/-- A text between delimiters was given up for want of tokens: none comes after the problem. -/
def OpenAtEnd (leaves : List Leaf) : Prop :=
  ∃ before problem after, leaves = before ++ .fault problem :: after ∧ problem.IsUnclosed ∧
    after.filterMap Leaf.token? = []

theorem OpenAtEnd.append_left {left right : List Leaf} (isOpen : OpenAtEnd right) :
    OpenAtEnd (left ++ right) := by
  obtain ⟨before, problem, after, rfl, unclosed, ended⟩ := isOpen
  exact ⟨left ++ before, problem, after, by simp, unclosed, ended⟩

theorem OpenAtEnd.append_right {left right : List Leaf} (isOpen : OpenAtEnd left)
    (noToken : right.filterMap Leaf.token? = []) : OpenAtEnd (left ++ right) := by
  obtain ⟨before, problem, after, rfl, unclosed, ended⟩ := isOpen
  exact ⟨before, problem, after ++ right, by simp, unclosed, by simp [ended, noToken]⟩

/-- If a step leaves nothing, it does not stop inside a text between delimiters. -/
def Step.Settled (step : Step) : Prop :=
  step.rest = [] → ¬ OpenAtEnd (Tree.fringeAll step.trees)

/-! ## Rules on more tokens -/

namespace Rule

/-- With `more` tokens behind those at hand, the rule does the same and leaves these too. -/
def Extends (more : List Token) (rule : Rule) (tokens : List Token) : Prop :=
  rule (tokens ++ more) = ⟨(rule tokens).trees, (rule tokens).rest ++ more⟩

/-- The rule does the same with `more` tokens, unless it stops inside a text between delimiters. -/
def Resumes (more : List Token) (rule : Rule) (tokens : List Token) : Prop :=
  (rule tokens).Settled → Extends more rule tokens

variable {more tokens : List Token}

theorem extends_of_eq {rule other : Rule} (here : rule tokens = other tokens)
    (there : rule (tokens ++ more) = other (tokens ++ more)) (same : Extends more other tokens) :
    Extends more rule tokens := by
  rw [Extends, here, there]
  exact same

theorem resumes_of_eq {rule other : Rule} (here : rule tokens = other tokens)
    (there : rule (tokens ++ more) = other (tokens ++ more)) (same : Resumes more other tokens) :
    Resumes more rule tokens := by
  intro settled
  exact extends_of_eq here there (same (here ▸ settled))

/-- A rule that looks ahead does the same with more tokens if it finds the same. -/
theorem ite_resumes {test : List Token → Prop} [DecidablePred test] {yes no : Rule}
    (same : test (tokens ++ more) ↔ test tokens)
    (yesResumes : test tokens → Resumes more yes tokens)
    (noResumes : ¬ test tokens → Resumes more no tokens) :
    Resumes more (fun tokens => if test tokens then yes tokens else no tokens) tokens := by
  by_cases holds : test tokens
  · exact resumes_of_eq (if_pos holds) (if_pos (same.mpr holds)) (yesResumes holds)
  · exact resumes_of_eq (if_neg holds) (if_neg (mt same.mp holds)) (noResumes holds)

theorem done_resumes : Resumes more done tokens := fun _ => rfl

theorem report_resumes (problem : Problem) : Resumes more (report problem) tokens := fun _ => rfl

theorem take_resumes (token : Token) : Resumes more take (token :: tokens) := fun _ => rfl

theorem wrap_resumes {body : Rule} (kind : NodeKind) (bodyResumes : Resumes more body tokens) :
    Resumes more (body.wrap kind) tokens := by
  intro settled
  have inner : Extends more body tokens := by
    apply bodyResumes
    intro ended isOpen
    exact settled ended (by simpa [wrap] using isOpen)
  rw [Extends, wrap, inner]
  rfl

/-- A rule that was settled after another one leaves that one settled too: with no token left, the
second can only add problems. -/
theorem settled_first {first second : Rule} (lossless : Lossless second)
    (settled : ((first.andThen second) tokens).Settled) : (first tokens).Settled := by
  intro ended isOpen
  have nothing := lossless (first tokens).rest
  rw [ended, List.append_eq_nil_iff] at nothing
  refine settled ?_ ?_
  · rw [andThen, ended]
    exact nothing.2
  · rw [andThen, Tree.fringeAll_append]
    exact isOpen.append_right (ended ▸ nothing.1)

theorem settled_second {first second : Rule}
    (settled : ((first.andThen second) tokens).Settled) :
    (second (first tokens).rest).Settled := by
  intro ended isOpen
  refine settled ended ?_
  rw [andThen, Tree.fringeAll_append]
  exact isOpen.append_left

theorem andThen_extends {first second : Rule} (firstExtends : Extends more first tokens)
    (secondExtends : Extends more second (first tokens).rest) :
    Extends more (first.andThen second) tokens := by
  rw [Extends, andThen, firstExtends, secondExtends]
  rfl

theorem andThen_resumes {first second : Rule} (lossless : Lossless second)
    (firstResumes : Resumes more first tokens)
    (secondResumes : Resumes more second (first tokens).rest) :
    Resumes more (first.andThen second) tokens := fun settled =>
  andThen_extends (firstResumes (settled_first lossless settled))
    (secondResumes (settled_second settled))

end Rule

/-! ## Looking ahead to the next entry -/

section Mark

variable {mark : Token} {others tokens : List Token}

theorem mark_isTrivia (isMark : mark.kind = .atSign) : mark.isTrivia = false := by
  rw [Token.isTrivia, isMark]
  rfl

theorem dropWhile_trivia_mark (isMark : mark.kind = .atSign) :
    (tokens ++ mark :: others).dropWhile Token.isTrivia =
      tokens.dropWhile Token.isTrivia ++ mark :: others :=
  dropWhile_append_of_stop (fun _ => mark_isTrivia isMark) others

/-- A look ahead for anything but an `@` finds the same before an `@` as at the end. -/
theorem peek_append_mark (isMark : mark.kind = .atSign) {kind : TokenKind}
    (other : kind ≠ .atSign) :
    peek (tokens ++ mark :: others) = some kind ↔ peek tokens = some kind := by
  cases tokens with
  | nil => simp [peek, isMark, other.symm]
  | cons token rest => simp [peek]

theorem peekPast_append_mark (isMark : mark.kind = .atSign) {kind : TokenKind}
    (other : kind ≠ .atSign) :
    peekPast (tokens ++ mark :: others) = some kind ↔ peekPast tokens = some kind := by
  rw [peekPast, dropWhile_trivia_mark isMark]
  exact peek_append_mark isMark other

theorem closer_ne_atSign (delimiter : Delimiter) : delimiter.closer ≠ .atSign := by
  cases delimiter <;> simp [Delimiter.closer]

end Mark

/-! ## Scans on more tokens -/

/-- The same scan with more tokens behind it. -/
def Scan.before (scan : Scan) (more : List Token) : Scan :=
  { scan with rest := scan.rest ++ more }

theorem scanBraced_of_closed {depth : Nat} {tokens : List Token} (more : List Token)
    (closed : (scanBraced depth tokens).closed = true) :
    scanBraced depth (tokens ++ more) = (scanBraced depth tokens).before more := by
  fun_induction scanBraced depth tokens <;> simp_all [scanBraced, Scan.cons, Scan.before]

theorem scanBraced_of_unclosed {depth : Nat} {tokens : List Token}
    (unclosed : (scanBraced depth tokens).closed = false) :
    (scanBraced depth tokens).rest = [] := by
  fun_induction scanBraced depth tokens <;> simp_all [Scan.cons]

theorem scanQuoted_of_closed {depth : Nat} {tokens : List Token} (more : List Token)
    (closed : (scanQuoted depth tokens).closed = true ∨ (scanQuoted depth tokens).rest ≠ []) :
    scanQuoted depth (tokens ++ more) = (scanQuoted depth tokens).before more := by
  fun_induction scanQuoted depth tokens <;> simp_all [scanQuoted, Scan.cons, Scan.before]

theorem scanRaw_of_closed {closer : TokenKind} {depth : Nat} {tokens : List Token}
    (more : List Token) (closed : (scanRaw closer depth tokens).closed = true) :
    scanRaw closer depth (tokens ++ more) = (scanRaw closer depth tokens).before more := by
  fun_induction scanRaw closer depth tokens <;> simp_all [scanRaw, Scan.cons, Scan.before]

theorem openAtEnd_textTree {kind : NodeKind} {unclosed : Problem} {opener : Token} {scan : Scan}
    (isUnclosed : unclosed.IsUnclosed) (notClosed : scan.closed = false) :
    OpenAtEnd (Tree.fringeAll [textTree kind unclosed opener scan]) := by
  refine ⟨Tree.fringeAll (.token opener :: scan.inside.map .token), unclosed, [], ?_, isUnclosed,
    rfl⟩
  simp [textTree, notClosed]

end TexWorkspace.Bib
