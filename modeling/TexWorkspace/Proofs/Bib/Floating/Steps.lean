import TexWorkspace.Proofs.Bib.Floating.Basic

set_option autoImplicit false

/-!
Rules on tokens with one more piece of trivia. A rule that comes to it before it is done takes it
into a padded row and leaves what it left before; a rule that is done first does the same and leaves
it. Rules that are put together from such rules are such rules.
-/

namespace TexWorkspace.Bib

namespace Rule

/-! ## Steps with one more piece of trivia -/

/-- A step, and the one that was made with one more piece of trivia in front of `after`. -/
def Floated (extra : Token) (remark : Bool) (after : List Token) (step padded : Step) : Prop :=
  Tree.Padded extra remark step.trees padded.trees ∧ padded.rest = step.rest ∨
    padded.trees = step.trees ∧
      ∃ kept, step.rest = kept ++ after ∧ padded.rest = kept ++ extra :: after

def FloatsAt (extra : Token) (remark : Bool) (rule : Rule) (before after : List Token) : Prop :=
  Floated extra remark after (rule (before ++ after)) (rule (before ++ extra :: after))

/-- The rule builds no text and no remark around the place between `before` and `after`. -/
structure Clear (rule : Rule) (start : Nat) (before after : List Token) : Prop where
  separated : Separated (before ++ after)
  filled : ∀ token ∈ before ++ after, 0 < token.width
  free : ∀ part ∈ Tree.nodesFromAll start (rule (before ++ after)).trees,
    ¬ part.Shelters (start + Token.widthAll before)

/-- The rule lets trivia float behind tokens that pass the test. -/
def Floats (extra : Token) (test : List Token → Prop) (rule : Rule) : Prop :=
  ∀ start before after, test before → Clear rule start before after →
    FloatsAt extra false rule before after

/-- Trivia may stand right in front of the rule. -/
def Anywhere : List Token → Prop := fun _ => True

/-- The first token is one that the rule gets to see in any case. -/
def Ahead : List Token → Prop := fun before => before ≠ []

section Combinators

variable {extra : Token} {remark : Bool} {before after : List Token} {start : Nat}

theorem floatsAt_of_eq {rule other : Rule} (here : rule (before ++ after) = other (before ++ after))
    (there : rule (before ++ extra :: after) = other (before ++ extra :: after))
    (floats : FloatsAt extra remark other before after) :
    FloatsAt extra remark rule before after := by
  rw [FloatsAt, here, there]
  exact floats

/-- A rule that is done before the place leaves what comes behind it. -/
theorem floatsAt_of_left {rule : Rule} {trees : List Tree} {kept : List Token}
    (leaves : ∀ more, rule (before ++ more) = ⟨trees, kept ++ more⟩) :
    FloatsAt extra remark rule before after := by
  rw [FloatsAt, leaves, leaves]
  exact .inr ⟨rfl, kept, rfl, rfl⟩

theorem Clear.of_eq {rule other : Rule} (clear : Clear rule start before after)
    (same : rule (before ++ after) = other (before ++ after)) : Clear other start before after :=
  ⟨clear.separated, clear.filled, same ▸ clear.free⟩

theorem Clear.first {first second : Rule} (clear : Clear (first.andThen second) start before after) :
    Clear first start before after := by
  refine ⟨clear.separated, clear.filled, fun part member => clear.free part ?_⟩
  rw [andThen, Tree.nodesFromAll_append]
  exact List.mem_append_left _ member

theorem Lossless.taken_append {rule : Rule} (lossless : Lossless rule) {kept : List Token}
    (left : (rule (before ++ after)).rest = kept ++ after) :
    Tree.tokensAll (rule (before ++ after)).trees ++ kept = before := by
  have whole := lossless (before ++ after)
  rw [left, ← List.append_assoc] at whole
  exact List.append_cancel_right whole

theorem Clear.second {first second : Rule} (lossless : Lossless first)
    (clear : Clear (first.andThen second) start before after) {kept : List Token}
    (left : (first (before ++ after)).rest = kept ++ after) :
    Clear second (start + Token.widthAll (Tree.tokensAll (first (before ++ after)).trees)) kept
      after := by
  have whole := lossless (before ++ after)
  rw [left] at whole
  have taken := lossless.taken_append left
  refine ⟨?_, ?_, ?_⟩
  · have separated := clear.separated
    rw [← whole] at separated
    exact separated.of_append
  · intro token member
    refine clear.filled token ?_
    rw [← whole]
    exact List.mem_append_right _ member
  · intro part member
    have place : start + Token.widthAll before =
        start + Token.widthAll (Tree.tokensAll (first (before ++ after)).trees) +
          Token.widthAll kept := by
      rw [← taken, Token.widthAll_append, taken, Nat.add_assoc]
    rw [← place]
    refine clear.free part ?_
    rw [andThen, Tree.nodesFromAll_append, left]
    exact List.mem_append_right _ member

theorem Clear.body {body : Rule} {kind : NodeKind}
    (clear : Clear (body.wrap kind) start before after) : Clear body start before after := by
  refine ⟨clear.separated, clear.filled, fun part member => clear.free part ?_⟩
  rw [wrap, Tree.nodesFromAll, Tree.nodesFrom]
  exact List.mem_append_left _ (List.mem_cons_of_mem _ member)

theorem andThen_floatsAt {first second : Rule} (firstFloats : FloatsAt extra remark first before after)
    (closed : remark = true → ∀ tree ∈ (first (before ++ after)).trees, tree.opens = false)
    (secondFloats : ∀ kept, (first (before ++ after)).rest = kept ++ after →
      (first (before ++ extra :: after)).rest = kept ++ extra :: after →
      FloatsAt extra remark second kept after) :
    FloatsAt extra remark (first.andThen second) before after := by
  rcases firstFloats with ⟨padded, same⟩ | ⟨same, kept, left, leftPadded⟩
  · refine .inl ⟨?_, ?_⟩
    · rw [andThen, andThen, same]
      exact padded.append _
    · rw [andThen, andThen, same]
  · rw [FloatsAt, andThen, andThen, same, left, leftPadded]
    rcases secondFloats kept left leftPadded with ⟨padded, rests⟩ | ⟨same, rests⟩
    · exact .inl ⟨padded.prepend closed, rests⟩
    · exact .inr ⟨congrArg ((first (before ++ after)).trees ++ ·) same, rests⟩

theorem wrap_floatsAt {body : Rule} {kind : NodeKind} (loose : kind ∈ Tree.looseKinds)
    (floats : FloatsAt extra (Tree.node kind (body (before ++ after)).trees).isRemark body before
      after) :
    FloatsAt extra remark (body.wrap kind) before after := by
  rcases floats with ⟨padded, same⟩ | ⟨same, rests⟩
  · exact .inl ⟨.inside [] loose padded, same⟩
  · refine .inr ⟨?_, rests⟩
    rw [wrap, wrap, same]

/-! ## Rules that let trivia float -/

variable {test next : List Token → Prop}

theorem andThen_floats {first second : Rule} (lossless : Lossless first)
    (firstFloats : Floats extra test first) (secondFloats : Floats extra next second)
    (passes : ∀ before after kept, test before → (first (before ++ after)).rest = kept ++ after →
      (first (before ++ extra :: after)).rest = kept ++ extra :: after → next kept) :
    Floats extra test (first.andThen second) := by
  intro start before after ready clear
  refine andThen_floatsAt (firstFloats start before after ready clear.first)
    (fun never => nomatch never) ?_
  intro kept left leftPadded
  exact secondFloats _ kept after (passes before after kept ready left leftPadded)
    (clear.second lossless left)

theorem andThen_floats_anywhere {first second : Rule} (lossless : Lossless first)
    (firstFloats : Floats extra test first) (secondFloats : Floats extra Anywhere second) :
    Floats extra test (first.andThen second) :=
  andThen_floats lossless firstFloats secondFloats fun _ _ _ _ _ _ => trivial

/-- The rule never leaves trivia in front. -/
def Skips (rule : Rule) : Prop :=
  ∀ tokens, ∀ token ∈ (rule tokens).rest.head?, token.isTrivia = false

theorem Skips.ahead {rule : Rule} (skips : Skips rule) (isTrivia : extra.isTrivia = true)
    {kept : List Token} (left : (rule (before ++ extra :: after)).rest = kept ++ extra :: after) :
    Ahead kept := by
  rintro rfl
  have significant := skips (before ++ extra :: after) extra (by rw [left]; rfl)
  cases isTrivia.symm.trans significant

theorem andThen_skips {first second : Rule} (skips : Skips second) : Skips (first.andThen second) :=
  fun tokens => skips (first tokens).rest

theorem Skips.andThen_floats {first second : Rule} (skips : Skips first)
    (isTrivia : extra.isTrivia = true) (lossless : Lossless first)
    (firstFloats : Floats extra test first) (secondFloats : Floats extra Ahead second) :
    Floats extra test (first.andThen second) :=
  Rule.andThen_floats lossless firstFloats secondFloats fun _ _ _ _ _ leftPadded =>
    skips.ahead isTrivia leftPadded

theorem wrap_floats {body : Rule} {kind : NodeKind} (loose : kind ∈ Tree.looseKinds)
    (noEntry : kind ≠ .entry) (floats : Floats extra test body) :
    Floats extra test (body.wrap kind) := by
  intro start before after ready clear
  have noRemark : (Tree.node kind (body (before ++ after)).trees).isRemark = false := by
    simp [Tree.isRemark, Tree.IsEntryOf, Tree.hasKind, noEntry]
  refine wrap_floatsAt loose ?_
  rw [noRemark]
  exact floats start before after ready clear.body

theorem ite_floats {choose : List Token → Prop} [DecidablePred choose] {yes no : Rule}
    (same : ∀ before after, test before →
      (choose (before ++ extra :: after) ↔ choose (before ++ after)))
    (yesFloats : Floats extra test yes) (noFloats : Floats extra test no) :
    Floats extra test fun tokens => if choose tokens then yes tokens else no tokens := by
  intro start before after ready clear
  by_cases holds : choose (before ++ after)
  · refine floatsAt_of_eq (if_pos holds) (if_pos ((same before after ready).mpr holds)) ?_
    exact yesFloats start before after ready (clear.of_eq (if_pos holds))
  · refine floatsAt_of_eq (if_neg holds) (if_neg (mt (same before after ready).mp holds)) ?_
    exact noFloats start before after ready (clear.of_eq (if_neg holds))

theorem done_floats : Floats extra test done := fun _ _ _ _ _ =>
  floatsAt_of_left fun _ => rfl

theorem report_floats (problem : Problem) : Floats extra test (report problem) := fun _ _ _ _ _ =>
  floatsAt_of_left fun _ => rfl

/-- A problem that is reported takes nothing, so the next rule sees the same tokens. -/
theorem report_andThen_floats (problem : Problem) {rule : Rule}
    (floats : Floats extra test rule) : Floats extra test ((report problem).andThen rule) := by
  refine andThen_floats (report_lossless problem) (report_floats problem) floats ?_
  intro before after kept ready left _
  obtain rfl : before = kept := List.append_cancel_right left
  exact ready

theorem take_floats : Floats extra Ahead take := by
  intro start before after ahead _
  cases before with
  | nil => exact absurd rfl ahead
  | cons token before => exact floatsAt_of_left fun _ => rfl

theorem wrap_take_floats (kind : NodeKind) : Floats extra Ahead (take.wrap kind) := by
  intro start before after ahead _
  cases before with
  | nil => exact absurd rfl ahead
  | cons token before =>
      exact @floatsAt_of_left _ _ _ _ _ [.node kind [.token token]] before fun _ => rfl

/-! ### What is left in front of the place -/

theorem kept_length_le {rule : Rule} (lossless : Lossless rule) {kept : List Token}
    (left : (rule (before ++ after)).rest = kept ++ after) : kept.length ≤ before.length := by
  have shorter := lossless.length_le (before ++ after)
  rw [left, List.length_append, List.length_append] at shorter
  omega

theorem kept_length_lt {kept : List Token} (ahead : Ahead before)
    (left : (take (before ++ after)).rest = kept ++ after) : kept.length < before.length := by
  cases before with
  | nil => exact absurd rfl ahead
  | cons token before =>
      obtain rfl : before = kept := List.append_cancel_right left
      exact Nat.lt_succ_self _

theorem exists_kept {taken rest : List Token}
    (whole : taken ++ rest = before ++ after) (filled : ∀ token ∈ before ++ after, 0 < token.width)
    (ends : Token.widthAll taken ≤ Token.widthAll before) :
    ∃ kept, before = taken ++ kept ∧ rest = kept ++ after := by
  rcases List.append_eq_append_iff.mp whole with ⟨kept, split, left⟩ | ⟨more, split, left⟩
  · exact ⟨kept, split, left⟩
  · cases more with
    | nil => exact ⟨[], by simpa using split.symm, by simpa using left.symm⟩
    | cons token more =>
        have width := filled token (by rw [left]; simp)
        rw [split, Token.widthAll_append, Token.widthAll_cons] at ends
        omega

end Combinators

/-! ## Looking past trivia -/

section Ahead

variable {extra : Token} {before : List Token}

theorem anchored_or_trivia (tokens : List Token) : Anchored tokens ∨ Grammar.Trivia tokens := by
  by_cases anchored : Anchored tokens
  · exact .inl anchored
  · refine .inr fun token member => ?_
    by_contra significant
    exact anchored ⟨token, member, Bool.not_eq_true _ ▸ significant⟩

theorem peek_float (ahead : Ahead before) (after : List Token) :
    peek (before ++ extra :: after) = peek (before ++ after) := by
  cases before with
  | nil => exact absurd rfl ahead
  | cons token before => rfl

theorem peekPast_float (isTrivia : extra.isTrivia = true) (before after : List Token) :
    peekPast (before ++ extra :: after) = peekPast (before ++ after) := by
  rcases anchored_or_trivia before with anchored | run
  · rw [anchored.peekPast_append, anchored.peekPast_append]
  · rw [peekPast_trivia_append run, peekPast_trivia_append run]
    simp [peekPast, isTrivia]

theorem Floated.peekPast_rest (isTrivia : extra.isTrivia = true) {remark : Bool}
    {after : List Token} {step padded : Step} (floated : Floated extra remark after step padded) :
    peekPast padded.rest = peekPast step.rest := by
  rcases floated with ⟨-, same⟩ | ⟨-, kept, left, leftPadded⟩
  · rw [same]
  · rw [left, leftPadded, peekPast_float isTrivia]

theorem ahead_float (isTrivia : extra.isTrivia = true) (kind : TokenKind)
    (before after : List Token) :
    peekPast (before ++ extra :: after) = some kind ↔ peekPast (before ++ after) = some kind := by
  rw [peekPast_float isTrivia]

theorem next_float (kind : TokenKind) (after : List Token) (ahead : Ahead before) :
    peek (before ++ extra :: after) = some kind ↔ peek (before ++ after) = some kind := by
  rw [peek_float ahead]

theorem exists_dropWhile_float (isTrivia : extra.isTrivia = true) {token : Token}
    {rest after : List Token}
    (ahead : (before ++ after).dropWhile Token.isTrivia = token :: rest) :
    ∃ others, (before ++ extra :: after).dropWhile Token.isTrivia = token :: others := by
  rcases anchored_or_trivia before with anchored | run
  · obtain ⟨first, others, dropped⟩ := anchored.exists_dropWhile
    rw [anchored.dropWhile_append, dropped] at ahead
    obtain ⟨rfl, -⟩ := List.cons.inj ahead
    exact ⟨others ++ extra :: after, by rw [anchored.dropWhile_append, dropped, List.cons_append]⟩
  · rw [run.dropWhile_append] at ahead
    exact ⟨rest, by rw [run.dropWhile_append, List.dropWhile_cons_of_pos isTrivia, ahead]⟩

theorem trivia_floatsAt (isTrivia : extra.isTrivia = true) (remark : Bool)
    (before after : List Token) : FloatsAt extra remark trivia before after := by
  rcases anchored_or_trivia before with anchored | run
  · have leaves : ∀ more, trivia (before ++ more) =
        ⟨(before.takeWhile Token.isTrivia).map triviaTree,
          before.dropWhile Token.isTrivia ++ more⟩ := fun more => by
      rw [trivia, anchored.takeWhile_append, anchored.dropWhile_append]
    exact floatsAt_of_left leaves
  · -- The run of trivia goes through the place, so the new piece becomes a part of it.
    refine .inl ⟨?_, ?_⟩
    · rw [trivia, trivia, List.takeWhile_append_of_pos run, List.takeWhile_append_of_pos run,
        List.takeWhile_cons_of_pos isTrivia, List.map_append, List.map_append, List.map_cons]
      refine (Tree.Padded.here remark _).prepend fun _ tree member => ?_
      obtain ⟨token, inRun, rfl⟩ := List.mem_map.mp member
      exact Tree.opens_triviaTree (run token inRun)
    · rw [trivia, trivia, run.dropWhile_append, run.dropWhile_append,
        List.dropWhile_cons_of_pos isTrivia]

theorem trivia_floats (isTrivia : extra.isTrivia = true) (test : List Token → Prop) :
    Floats extra test trivia :=
  fun _ before after _ _ => trivia_floatsAt isTrivia false before after

theorem trivia_skips : Skips trivia := by
  intro tokens token first
  have head := List.head?_dropWhile_not Token.isTrivia tokens
  rw [show tokens.dropWhile Token.isTrivia = (trivia tokens).rest from rfl, first] at head
  exact head

/-- What follows trivia need not expect any. -/
theorem skip_floats (isTrivia : extra.isTrivia = true) {rule : Rule} {test : List Token → Prop}
    (floats : Floats extra Ahead rule) : Floats extra test (trivia.andThen rule) :=
  trivia_skips.andThen_floats isTrivia trivia_lossless (trivia_floats isTrivia test) floats

end Ahead

end Rule

end TexWorkspace.Bib
