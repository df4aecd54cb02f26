import TexWorkspace.Proofs.Bib.Grammar

set_option autoImplicit false

/-!
Which trees the rules of the grammar put together, whatever the tokens are: where they put an error
node and the problem about it, and what they put between the delimiters of a text.
-/

namespace TexWorkspace.Bib

/-! ## Texts between delimiters -/

/-- The two forms of texts in a value. -/
inductive TextForm where
  | braced
  | quoted

namespace TextForm

def kind : TextForm → NodeKind
  | .braced => .bracedText
  | .quoted => .quotedText

def opening : TextForm → TokenKind
  | .braced => .openBrace
  | .quoted => .quote

def closing : TextForm → TokenKind
  | .braced => .closeBrace
  | .quoted => .quote

def unclosed : TextForm → Problem
  | .braced => .unclosedBrace
  | .quoted => .unclosedQuote

def scan : TextForm → List Token → Scan
  | .braced => scanBraced 0
  | .quoted => scanQuoted 0

/-- What can stand below a text: its opener, the tokens inside, and the closer that ended it or the
problem that none did. -/
inductive Holds (form : TextForm) (inside : List Token) : (closed : Bool) → List Tree → Prop where
  | closed {opener closer : Token} :
      opener.kind = form.opening → closer.kind = form.closing →
      Holds form inside true (.token opener :: inside.map .token ++ [.token closer])
  | unclosed {opener : Token} :
      opener.kind = form.opening →
      Holds form inside false (.token opener :: inside.map .token ++ [.fault form.unclosed])

/-- A scan that found its end took the closer last. -/
theorem inside_of_closed {form : TextForm} {tokens : List Token}
    (closed : (form.scan tokens).closed = true) :
    ∃ run closer, (form.scan tokens).inside = run ++ [closer] ∧ closer.kind = form.closing := by
  cases form with
  | braced =>
      obtain ⟨run, closer, -, closes, split⟩ := Grammar.exists_run_of_scanBraced closed
      have whole := (scanBraced_append 0 tokens).trans split
      rw [List.append_cons] at whole
      exact ⟨run, closer, List.append_cancel_right whole, closes⟩
  | quoted =>
      obtain ⟨run, closer, -, closes, split⟩ := Grammar.exists_run_of_scanQuoted closed
      have whole := (scanQuoted_append 0 tokens).trans split
      rw [List.append_cons] at whole
      exact ⟨run, closer, List.append_cancel_right whole, closes⟩

/-- What a scan takes is a text of the form. -/
theorem exists_textTree {form : TextForm} {opener : Token} (opens : opener.kind = form.opening)
    (tokens : List Token) :
    ∃ inside closed below, form.Holds inside closed below ∧
      textTree form.kind form.unclosed opener (form.scan tokens) = .node form.kind below := by
  cases closed : (form.scan tokens).closed with
  | true =>
      obtain ⟨run, closer, inside, closes⟩ := inside_of_closed closed
      exact ⟨run, true, _, .closed opens closes, by simp [textTree, closed, inside]⟩
  | false =>
      exact ⟨(form.scan tokens).inside, false, _, .unclosed opens, by simp [textTree, closed]⟩

end TextForm

/-! ## Rows that rules build -/

/-- Rows of trees as the rules build them: an error node holds one token and stands behind the problem
about it, which is met nowhere else, and a text holds what its form allows. -/
inductive Built : List Tree → Prop where
  | nil : Built []
  | token {own : Token} {trees : List Tree} : Built trees → Built (.token own :: trees)
  | fault {problem : Problem} {trees : List Tree} :
      problem ≠ .unexpectedToken → Built trees → Built (.fault problem :: trees)
  | node {kind : NodeKind} {below trees : List Tree} :
      kind ≠ .error →
      (∀ form : TextForm, form.kind = kind → ∃ inside closed, form.Holds inside closed below) →
      Built below → Built trees → Built (.node kind below :: trees)
  | error {own : Token} {trees : List Tree} : Built trees →
      Built (.fault .unexpectedToken :: .node .error [.token own] :: trees)

namespace Built

variable {left right trees : List Tree}

theorem append (leftBuilt : Built left) (rightBuilt : Built right) : Built (left ++ right) := by
  induction leftBuilt with
  | nil => exact rightBuilt
  | token _ ih => exact .token ih
  | fault other _ ih => exact .fault other ih
  | node other text below _ _ ih => exact .node other text below ih
  | error _ ih => exact .error ih

theorem map_token (tokens : List Token) : Built (tokens.map .token) := by
  induction tokens with
  | nil => exact .nil
  | cons token tokens ih => exact .token ih

theorem single_fault {problem : Problem} (other : problem ≠ .unexpectedToken) :
    Built [.fault problem] :=
  .fault other .nil

/-- What stands below a node of the row is built as well, and a text holds what its form allows. -/
theorem of_mem {kind : NodeKind} {below : List Tree} (built : Built trees)
    (member : Tree.node kind below ∈ trees) :
    Built below ∧
      ∀ form : TextForm, form.kind = kind → ∃ inside closed, form.Holds inside closed below := by
  induction built with
  | nil => cases member
  | token _ ih =>
      rcases List.mem_cons.mp member with same | member
      · cases same
      · exact ih member
  | fault _ _ ih =>
      rcases List.mem_cons.mp member with same | member
      · cases same
      · exact ih member
  | node _ text belowBuilt _ _ ih =>
      rcases List.mem_cons.mp member with same | member
      · cases same
        exact ⟨belowBuilt, text⟩
      · exact ih member
  | error _ ih =>
      rcases List.mem_cons.mp member with same | member
      · cases same
      · rcases List.mem_cons.mp member with same | member
        · cases same
          refine ⟨.token .nil, ?_⟩
          intro form isError
          cases form <;> cases isError
        · exact ih member

/-- The kinds of nodes that rules build around any row. -/
def plainKinds : List NodeKind :=
  [.file, .entry, .entryType, .key, .field, .fieldName, .value, .comment]

theorem plain {kind : NodeKind} {below : List Tree} (isPlain : kind ∈ plainKinds)
    (belowBuilt : Built below) : Built [.node kind below] := by
  refine .node ?_ ?_ belowBuilt .nil
  · rintro rfl
    exact absurd isPlain (by decide)
  · intro form isText
    subst isText
    cases form <;> exact absurd isPlain (by decide)

theorem textTree {form : TextForm} {opener : Token} (opens : opener.kind = form.opening)
    (tokens : List Token) :
    Built [textTree form.kind form.unclosed opener (form.scan tokens)] := by
  obtain ⟨inside, closed, below, holds, same⟩ := form.exists_textTree opens tokens
  rw [same]
  refine .node (by cases form <;> decide) ?_ ?_ .nil
  · intro other isKind
    obtain rfl : other = form := by cases other <;> cases form <;> first | rfl | cases isKind
    exact ⟨inside, closed, holds⟩
  · cases holds with
    | closed _ _ => exact (map_token (_ :: inside)).append (.token .nil)
    | unclosed _ =>
        exact (map_token (_ :: inside)).append (.single_fault (by cases form <;> decide))

end Built

/-! ## What the rules build -/

namespace Rule

def Builds (rule : Rule) : Prop :=
  ∀ tokens, Built (rule tokens).trees

theorem done_builds : Builds done := fun _ => .nil

theorem take_builds : Builds take := by
  intro tokens
  cases tokens with
  | nil => exact .nil
  | cons token rest => exact .token .nil

theorem report_builds {problem : Problem} (other : problem ≠ .unexpectedToken) :
    Builds (report problem) := fun _ => .single_fault other

theorem andThen_builds {first second : Rule} (firstBuilds : Builds first)
    (secondBuilds : Builds second) : Builds (first.andThen second) := by
  intro tokens
  exact (firstBuilds tokens).append (secondBuilds (first tokens).rest)

theorem wrap_builds {body : Rule} {kind : NodeKind} (isPlain : kind ∈ Built.plainKinds)
    (bodyBuilds : Builds body) : Builds (body.wrap kind) := by
  intro tokens
  exact .plain isPlain (bodyBuilds tokens)

theorem ite_builds {test : List Token → Prop} [DecidablePred test] {yes no : Rule}
    (yesBuilds : Builds yes) (noBuilds : Builds no) :
    Builds fun tokens => if test tokens then yes tokens else no tokens := by
  intro tokens
  dsimp only
  split
  · exact yesBuilds tokens
  · exact noBuilds tokens

theorem built_map_triviaTree (tokens : List Token) : Built (tokens.map triviaTree) := by
  induction tokens with
  | nil => exact .nil
  | cons token tokens ih =>
      rw [List.map_cons, triviaTree]
      split
      · exact (Built.plain (by decide) (.token .nil)).append ih
      · exact .token ih

theorem trivia_builds : Builds trivia := fun _ => built_map_triviaTree _

/-! ### Values -/

theorem piece?_built {tokens : List Token} {step : Step} (found : piece? tokens = some step) :
    Built step.trees := by
  cases tokens with
  | nil => cases found
  | cons token rest =>
      cases kind : token.kind <;>
        simp only [piece?, kind, Option.some.injEq, reduceCtorEq] at found
      case openBrace =>
        subst found
        exact @Built.textTree .braced token kind rest
      case quote =>
        subst found
        exact @Built.textTree .quoted token kind rest
      case number =>
        subst found
        exact .token .nil
      case word =>
        subst found
        exact .token .nil

theorem pieces_builds : Builds pieces := by
  intro tokens
  induction tokens using pieces.induct with
  | case1 tokens missing =>
      rw [pieces_of_none missing]
      exact .single_fault (by decide)
  | case2 tokens first found ended =>
      rw [pieces_of_last found (by simp [peekPast, peek, ended])]
      exact piece?_built found
  | case3 tokens first found joint after joined isHash ih =>
      rw [pieces_of_joint found joined isHash]
      have front := (piece?_built found).append (trivia_builds first.rest)
      exact (front.append (.token (trivia_builds after))).append ih
  | case4 tokens first found joint after joined notHash =>
      rw [pieces_of_last found (by simpa [peekPast, peek, joined] using notHash)]
      exact piece?_built found

theorem value_builds : Builds value := wrap_builds (by decide) pieces_builds

/-! ### Fields and keys -/

theorem trivia_take_builds : Builds (trivia.andThen take) := andThen_builds trivia_builds take_builds

theorem separator_builds : Builds separator := ite_builds trivia_take_builds done_builds

theorem assignment_builds : Builds assignment :=
  ite_builds (andThen_builds take_builds (andThen_builds trivia_builds value_builds))
    (report_builds (by decide))

theorem field_builds : Builds field :=
  wrap_builds (by decide) (andThen_builds (wrap_builds (by decide) take_builds)
    (andThen_builds trivia_builds (andThen_builds assignment_builds separator_builds)))

/-- Only here is a token reported as out of place, and it goes right into an error node. -/
theorem fieldItem_built (token : Token) (rest : List Token) :
    Built (fieldItem token (token :: rest)).trees := by
  unfold fieldItem
  split
  · exact field_builds _
  · split
    · exact take_builds _
    · exact .error .nil

theorem fields_builds (delimiter : Delimiter) : Builds (fields delimiter) := by
  intro tokens
  induction tokens using fields.induct delimiter with
  | case1 tokens ended =>
      rw [fields_of_stop (by simp [peekPast, peek, ended])]
      exact trivia_builds tokens
  | case2 tokens token after ahead stop =>
      rw [fields_of_stop (by simpa [peekPast, peek, ahead] using stop)]
      exact trivia_builds tokens
  | case3 tokens token after ahead goOn item ih =>
      rw [fields_of_item ahead goOn]
      exact ((trivia_builds tokens).append (fieldItem_built token after)).append ih

theorem keySeparator_builds (delimiter : Delimiter) : Builds (keySeparator delimiter) :=
  ite_builds trivia_take_builds (ite_builds done_builds (report_builds (by decide)))

theorem strayComma_builds : Builds strayComma := ite_builds take_builds done_builds

theorem key_builds (delimiter : Delimiter) : Builds (key delimiter) := by
  have names_builds : Builds names := fun tokens => .map_token _
  apply ite_builds
  · exact wrap_builds (by decide)
      (andThen_builds trivia_builds (andThen_builds names_builds (keySeparator_builds delimiter)))
  · exact andThen_builds trivia_builds
      (andThen_builds (report_builds (by decide)) strayComma_builds)

/-! ### Entries -/

theorem body_builds (form : BodyForm) (delimiter : Delimiter) : Builds (body form delimiter) := by
  cases form with
  | remark => exact fun tokens => .map_token _
  | preamble => exact andThen_builds trivia_builds (andThen_builds value_builds trivia_builds)
  | definitions => exact fields_builds delimiter
  | keyed => exact andThen_builds (key_builds delimiter) (fields_builds delimiter)

theorem close_builds (delimiter : Delimiter) : Builds (close delimiter) :=
  ite_builds take_builds (report_builds (by simp))

theorem enclosed_builds (form : BodyForm) (delimiter : Delimiter) :
    Builds (enclosed form delimiter) :=
  andThen_builds take_builds (andThen_builds (body_builds form delimiter) (close_builds delimiter))

theorem delimited_builds (form : BodyForm) : Builds (delimited form) := by
  intro tokens
  unfold delimited
  split
  · exact enclosed_builds form .braces tokens
  · exact enclosed_builds form .parens tokens
  · exact report_builds (by decide) tokens

theorem typed_builds : Builds typed := by
  intro tokens
  unfold typed
  split
  · exact report_builds (by decide) _
  · split
    · exact andThen_builds (wrap_builds (by decide) take_builds)
        (andThen_builds trivia_builds (delimited_builds _)) _
    · exact report_builds (by decide) _

theorem entry_builds : Builds entry :=
  wrap_builds (by decide) (andThen_builds take_builds (andThen_builds trivia_builds typed_builds))

end Rule

theorem fileItems_built (tokens : List Token) : Built (fileItems tokens) := by
  fun_induction fileItems tokens with
  | case1 => exact .nil
  | case2 token rest isMark ih => exact (Rule.entry_builds _).append ih
  | case3 token rest noMark ih =>
      exact (Rule.built_map_triviaTree [token]).append ih

theorem built_parse (text : String) : Built [parse text] :=
  .plain (by decide) (fileItems_built (lex text))

end TexWorkspace.Bib
