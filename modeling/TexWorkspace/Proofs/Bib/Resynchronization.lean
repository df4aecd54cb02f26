import TexWorkspace.Proofs.Bib.Lossless
import TexWorkspace.Proofs.Bib.Resynchronization.Rules

set_option autoImplicit false

/-!
Reading resumes at the next `@`. Wherever the tokens of a file end, a rule that meets an `@` instead
does the same as at the end of the text, unless it is inside a text between delimiters or inside the
body of a comment entry. Main statement: the tree of two texts one after the other is made of the
trees of both, if the second one starts with `@` and the first one does not end inside such a text.
-/

namespace TexWorkspace.Bib

/-! ## Items of a file -/

/-- The items of two files one after the other. -/
theorem fileItems_append {mark : Token} (isMark : mark.kind = .atSign) (others : List Token)
    {tokens : List Token} (settled : ¬ OpenAtEnd (Tree.fringeAll (fileItems tokens)))
    (finished : ∀ last, (fileItems tokens).getLast? = some last → ¬ last.IsUnclosedRemark) :
    fileItems (tokens ++ mark :: others) = fileItems tokens ++ fileItems (mark :: others) := by
  fun_induction fileItems tokens with
  | case1 => rfl
  | case2 token rest isEntry ih =>
      have resumes : Rule.Resumes (mark :: others) Rule.entry (token :: rest) := by
        refine Rule.entry_resumes isMark (List.cons_ne_nil token rest) ?_
        intro ended
        rw [ended, fileItems, List.append_nil] at finished
        intro tree member
        exact finished tree (by rw [List.mem_singleton.mp member]; rfl)
      -- Only an entry that leaves nothing can be open, and then it is the last item.
      have extended : Rule.Extends (mark :: others) Rule.entry (token :: rest) := by
        apply resumes
        intro ended isOpen
        rw [ended, fileItems, List.append_nil] at settled
        exact settled isOpen
      have restSettled : ¬ OpenAtEnd
          (Tree.fringeAll (fileItems (Rule.entry (token :: rest)).rest)) := by
        intro isOpen
        rw [Tree.fringeAll_append] at settled
        exact settled isOpen.append_left
      have restFinished : ∀ last,
          (fileItems (Rule.entry (token :: rest)).rest).getLast? = some last →
          ¬ last.IsUnclosedRemark := by
        intro last isLast
        exact finished last (by simp [List.getLast?_append, isLast])
      rw [Rule.Extends, List.cons_append] at extended
      rw [List.cons_append, fileItems, if_pos isEntry, extended, ih restSettled restFinished,
        List.append_assoc]
  | case3 token rest noEntry ih =>
      have restSettled : ¬ OpenAtEnd (Tree.fringeAll (fileItems rest)) := by
        intro isOpen
        rw [Tree.fringeAll_cons] at settled
        exact settled isOpen.append_left
      have restFinished : ∀ last, (fileItems rest).getLast? = some last →
          ¬ last.IsUnclosedRemark := by
        intro last isLast
        exact finished last (by simp [List.getLast?_cons, isLast])
      rw [List.cons_append, fileItems, if_neg noEntry, ih restSettled restFinished,
        List.cons_append]

/-- The same tree further to the right. -/
def Located.shift (offset : Nat) (located : Located) : Located :=
  { located with start := located.start + offset }

theorem Located.row_add (start offset : Nat) (trees : List Tree) :
    row (start + offset) trees = (row start trees).map (shift offset) := by
  induction trees generalizing start with
  | nil => rfl
  | cons tree trees ih =>
      have swap : start + offset + tree.width = start + tree.width + offset := by omega
      rw [row, row, List.map_cons, swap, ih]
      rfl

/-- The problem at a leaf, if it holds one. -/
def Leaf.problem? : Leaf → Option Problem
  | .token _ => none
  | .fault problem => some problem

theorem map_problem_diagnosticsFrom (start : Nat) (leaves : List Leaf) :
    (diagnosticsFrom start leaves).map Diagnostic.problem = leaves.filterMap Leaf.problem? := by
  induction leaves generalizing start with
  | nil => rfl
  | cons leaf leaves ih =>
      cases leaf with
      | token token => exact ih _
      | fault problem =>
          rw [diagnosticsFrom, List.map_cons, ih]
          rfl

theorem nextWidth_of_ended {leaves : List Leaf} (ended : leaves.filterMap Leaf.token? = []) :
    nextWidth leaves = 0 := by
  induction leaves with
  | nil => rfl
  | cons leaf leaves ih =>
      cases leaf with
      | token token => simp [Leaf.token?] at ended
      | fault problem => exact ih (by simpa [Leaf.token?] using ended)

/-- A problem is about the place where the tokens before it end. -/
theorem mem_diagnosticsFrom (start : Nat) (before after : List Leaf) (problem : Problem) :
    ⟨problem, ⟨start + Token.widthAll (before.filterMap Leaf.token?),
      start + Token.widthAll (before.filterMap Leaf.token?) + nextWidth after⟩⟩ ∈
      diagnosticsFrom start (before ++ .fault problem :: after) := by
  induction before generalizing start with
  | nil => simp [diagnosticsFrom]
  | cons leaf before ih =>
      cases leaf with
      | token token =>
          have rest := ih (start + token.width)
          rw [Nat.add_assoc] at rest
          exact rest
      | fault other => exact List.mem_cons_of_mem _ (ih start)

/-- A text that is still open where the file ends is reported at the end of the file. -/
theorem exists_diagnostic_of_openAtEnd {text : String} (isOpen : OpenAtEnd (parse text).fringe) :
    ∃ diagnostic ∈ (parse text).diagnostics, diagnostic.problem.IsUnclosed ∧
      diagnostic.span = ⟨text.utf8ByteSize, text.utf8ByteSize⟩ := by
  obtain ⟨before, problem, after, split, unclosed, ended⟩ := isOpen
  have whole : before.filterMap Leaf.token? = lex text := by
    have tokens := tokens_parse text
    rw [Tree.tokens, split, List.filterMap_append, List.filterMap_cons] at tokens
    simpa [Leaf.token?, ended] using tokens
  have member := mem_diagnosticsFrom 0 before after problem
  rw [← split, whole, widthAll_lex, nextWidth_of_ended ended, Nat.zero_add, Nat.add_zero] at member
  exact ⟨_, member, unclosed, rfl⟩

theorem lex_of_atSign {text : String} (starts : text.toList.head? = some '@') :
    ∃ mark others, lex text = mark :: others ∧ mark.kind = .atSign := by
  cases chars : text.toList with
  | nil => simp [chars] at starts
  | cons c rest =>
      obtain rfl : c = '@' := by simpa [chars] using starts
      rw [lex, chars, lexChars]
      exact ⟨_, _, rfl, rfl⟩

/-- Reading resumes at the next `@`. If a text is cut before an `@`, and its first part does not end
inside a text between delimiters or inside the body of a comment entry, then both parts are read as
if they stood alone: what stands in the second part is only moved behind the first one, and the
problems of the whole are those of the first part and those of the second. -/
theorem parse_append_of_atSign {left right : String} (starts : right.toList.head? = some '@')
    (lexes : lex (left ++ right) = lex left ++ lex right)
    (settled : ∀ diagnostic ∈ (parse left).diagnostics, diagnostic.problem.IsUnclosed →
      diagnostic.span ≠ ⟨left.utf8ByteSize, left.utf8ByteSize⟩)
    (finished : ∀ last, (parse left).children.getLast? = some last → ¬ last.IsUnclosedRemark) :
    (parse (left ++ right)).located.children =
        (parse left).located.children ++
          (parse right).located.children.map (Located.shift left.utf8ByteSize) ∧
      (parse (left ++ right)).diagnostics.map (fun diagnostic => diagnostic.problem.message) =
        (parse left).diagnostics.map (fun diagnostic => diagnostic.problem.message) ++
          (parse right).diagnostics.map (fun diagnostic => diagnostic.problem.message) := by
  have items : fileItems (lex (left ++ right)) =
      fileItems (lex left) ++ fileItems (lex right) := by
    obtain ⟨mark, others, rightTokens, isMark⟩ := lex_of_atSign starts
    rw [lexes, rightTokens]
    refine fileItems_append isMark others ?_ ?_
    · intro isOpen
      have whole : OpenAtEnd (parse left).fringe := by
        rwa [parse, parseTokens, Tree.fringe_node]
      obtain ⟨diagnostic, member, unclosed, atEnd⟩ := exists_diagnostic_of_openAtEnd whole
      exact settled diagnostic member unclosed atEnd
    · rwa [children_parse] at finished
  constructor
  · have leftWidth : Token.widthAll (Tree.tokensAll (fileItems (lex left))) =
        left.utf8ByteSize := by
      have tokens := tokens_parse left
      rw [parse, parseTokens, Tree.tokens_node] at tokens
      rw [tokens, widthAll_lex]
    simp only [Located.children, Tree.located, children_parse]
    rw [items, Located.row_append, leftWidth, Located.row_add]
  · have problems : ∀ text, (parse text).diagnostics.map (fun diagnostic =>
        diagnostic.problem.message) =
        ((Tree.fringeAll (fileItems (lex text))).filterMap Leaf.problem?).map Problem.message := by
      intro text
      rw [← map_problem_diagnosticsFrom 0, List.map_map, Tree.diagnostics, parse, parseTokens,
        Tree.fringe_node]
      rfl
    rw [problems, problems, problems, items, Tree.fringeAll_append, List.filterMap_append,
      List.map_append]

/-- An entry that stops after the `=` of a field does not disturb the next one. -/
theorem parse_append_of_atSign_after_equals :
    (parse ("@a\x7bk,t=\n" ++ "@b\x7bk\x7d")).located.children =
        (parse "@a\x7bk,t=\n").located.children ++
          (parse "@b\x7bk\x7d").located.children.map (Located.shift 8) ∧
      (parse ("@a\x7bk,t=\n" ++ "@b\x7bk\x7d")).diagnostics.map
        (fun diagnostic => diagnostic.problem.message) =
        ["Expected field value", "Expected '\x7d'"] := by
  have type : ((parse "@a\x7bk,t=\n").children.getLast?.bind fun last =>
      (Entry.mk last.located).type?) = some "a" := by decide +kernel
  have finished : ∀ last, (parse "@a\x7bk,t=\n").children.getLast? = some last →
      ¬ last.IsUnclosedRemark := by
    rintro last isLast ⟨below, shape, isComment, lacks⟩
    rw [isLast, Option.bind_some, isComment] at type
    simp at type
  obtain ⟨children, messages⟩ := @parse_append_of_atSign "@a\x7bk,t=\n" "@b\x7bk\x7d"
    (by decide) (by decide +kernel) (by decide +kernel) finished
  refine ⟨children, messages.trans ?_⟩
  decide +kernel

end TexWorkspace.Bib
