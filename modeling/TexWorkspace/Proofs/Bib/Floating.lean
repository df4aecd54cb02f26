import TexWorkspace.Proofs.Bib.Floating.Rules

set_option autoImplicit false

/-!
Trivia floats. Main statement: one more blank or comment between two tokens of a file, outside of
texts and remarks, changes neither the messages nor the records, and the tree only by that piece of
trivia. The file need not be free of problems.
-/

namespace TexWorkspace.Bib

namespace Rule

/-- One token between entries. -/
def other : Rule
  | [] => ⟨[], []⟩
  | token :: rest => ⟨[triviaTree token], rest⟩

theorem other_lossless : Lossless other
  | [] => rfl
  | token :: rest => by simp [other]

/-- The items of a file, to the end of the tokens. -/
def items : Rule := fun tokens => ⟨fileItems tokens, []⟩

theorem items_of_mark {mark : Token} (isMark : mark.kind = .atSign) (rest : List Token) :
    items (mark :: rest) = (entry.andThen items) (mark :: rest) := by
  rw [items, fileItems, if_pos isMark]
  rfl

theorem items_of_other {token : Token} (noMark : token.kind ≠ .atSign) (rest : List Token) :
    items (token :: rest) = (other.andThen items) (token :: rest) := by
  rw [items, fileItems, if_neg noMark]
  rfl

variable {extra : Token}

theorem items_floats (isTrivia : extra.isTrivia = true) : Floats extra Anywhere items := by
  intro start before after _ clear
  induction size : before.length using Nat.strong_induction_on generalizing start before with
  | _ size ih =>
    subst size
    cases before with
    | nil =>
        have noMark : extra.kind ≠ .atSign := by
          intro isMark
          rw [Token.isTrivia, isMark] at isTrivia
          cases isTrivia
        refine .inl ⟨?_, rfl⟩
        rw [List.nil_append, List.nil_append, items_of_other noMark]
        exact .here false (fileItems after)
    | cons token before =>
        by_cases isMark : token.kind = .atSign
        · refine floatsAt_of_eq (items_of_mark isMark _) (items_of_mark isMark _) ?_
          have clear := clear.of_eq (items_of_mark isMark (before ++ after))
          refine andThen_floatsAt (entry_floatsAt isTrivia isMark clear.first)
            (fun never => absurd never Bool.false_ne_true) ?_
          intro kept left _
          have shorter : kept.length < (token :: before).length := by
            have less := entry_length_lt token (before ++ after)
            rw [← List.cons_append, left, List.length_append, List.length_append] at less
            omega
          exact ih kept.length shorter _ kept trivial (clear.second entry_lossless left) rfl
        · refine floatsAt_of_eq (items_of_other isMark _) (items_of_other isMark _) ?_
          have clear := clear.of_eq (items_of_other isMark (before ++ after))
          refine andThen_floatsAt
            (@floatsAt_of_left _ _ _ _ _ [triviaTree token] before fun _ => rfl)
            (fun never => absurd never Bool.false_ne_true) ?_
          intro kept left _
          obtain rfl : before = kept := List.append_cancel_right left
          exact ih before.length (Nat.lt_succ_self _) _ before trivial
            (clear.second other_lossless left) rfl

end Rule

section Text

variable {left right : String} {before after : List Token} {extra : Token}

theorem padded_fileItems (lexLeft : lex left = before ++ after)
    (lexRight : lex right = before ++ extra :: after) (isTrivia : extra.isTrivia = true)
    (free : ∀ part ∈ (parse left).located.nodes, ¬ part.Shelters (Token.widthAll before)) :
    Tree.Padded extra false (fileItems (lex left)) (fileItems (lex right)) := by
  have clear : Rule.Clear Rule.items 0 before after := by
    refine ⟨?_, ?_, ?_⟩
    · rw [← lexLeft]
      exact lex_separated left
    · rw [← lexLeft]
      intro token member
      exact width_pos_of_mem_lex member
    · intro part member
      rw [Nat.zero_add]
      rw [← lexLeft] at member
      exact free part (List.mem_cons_of_mem _ member)
  rw [lexLeft, lexRight]
  rcases Rule.items_floats isTrivia 0 before after trivial clear with
    ⟨padded, -⟩ | ⟨-, kept, -, never⟩
  · exact padded
  · -- The items take all tokens, so they leave no trivia.
    simp [Rule.items] at never

theorem messages_eq (text : String) :
    (parse text).diagnostics.map (fun diagnostic => diagnostic.problem.message) =
      ((Tree.fringeAll (fileItems (lex text))).filterMap Leaf.problem?).map Problem.message := by
  rw [← map_problem_diagnosticsFrom 0, List.map_map, Tree.diagnostics, parse, parseTokens,
    Tree.fringe_node]
  rfl

theorem bare_parse (text : String) :
    (parse text).bare = .node .file (Tree.bareRow false (fileItems (lex text))) := by
  have noRemark : (Tree.node .file (fileItems (lex text))).isRemark = false := by
    simp [Tree.isRemark, Tree.IsEntryOf, Tree.hasKind]
  rw [parse, parseTokens, Tree.bare, if_neg (by decide), noRemark]

/-- One more piece of trivia between two tokens, neither in a text between delimiters nor in the
body of a comment entry, changes nothing but where things stand. -/
theorem parse_insert_trivia (lexLeft : lex left = before ++ after)
    (lexRight : lex right = before ++ extra :: after) (isTrivia : extra.isTrivia = true)
    (free : ∀ part ∈ (parse left).located.nodes, ¬ part.Shelters (Token.widthAll before)) :
    (parse right).diagnostics.map (fun diagnostic => diagnostic.problem.message) =
        (parse left).diagnostics.map (fun diagnostic => diagnostic.problem.message) ∧
      (parse right).bare = (parse left).bare ∧
      (records right).map Record.content = (records left).map Record.content := by
  have padded := padded_fileItems lexLeft lexRight isTrivia free
  refine ⟨?_, ?_, ?_⟩
  · rw [messages_eq, messages_eq, padded.problems_eq]
  · rw [bare_parse, bare_parse, padded.bareRow_eq isTrivia]
  · rw [map_content_records, map_content_records, padded.contents_eq isTrivia]

end Text

/-- A comment behind a `=` that no value follows. -/
theorem parse_insert_trivia_before_value :
    lex "@comment(x)@a\x7bk,t=\n" = lex "@comment(x)@a\x7bk,t=" ++ [⟨.blank, "\n"⟩] ∧
      lex "@comment(x)@a\x7bk,t=%c\n" =
        lex "@comment(x)@a\x7bk,t=" ++ ⟨.comment, "%c"⟩ :: [⟨.blank, "\n"⟩] ∧
      (∀ part ∈ (parse "@comment(x)@a\x7bk,t=\n").located.nodes,
        ¬ part.Shelters (Token.widthAll (lex "@comment(x)@a\x7bk,t="))) ∧
      (parse "@comment(x)@a\x7bk,t=%c\n").diagnostics.map
          (fun diagnostic => diagnostic.problem.message) =
        ["Expected field value", "Expected '\x7d'"] ∧
      (parse "@comment(x)@a\x7bk,t=%c\n").bare = (parse "@comment(x)@a\x7bk,t=\n").bare ∧
      (records "@comment(x)@a\x7bk,t=%c\n").map Record.content = [("a", "k", [("t", "")])] := by
  have lexLeft : lex "@comment(x)@a\x7bk,t=\n" =
      lex "@comment(x)@a\x7bk,t=" ++ [⟨.blank, "\n"⟩] := by decide +kernel
  have lexRight : lex "@comment(x)@a\x7bk,t=%c\n" =
      lex "@comment(x)@a\x7bk,t=" ++ ⟨.comment, "%c"⟩ :: [⟨.blank, "\n"⟩] := by decide +kernel
  have free : ∀ part ∈ (parse "@comment(x)@a\x7bk,t=\n").located.nodes,
      ¬ part.Shelters (Token.widthAll (lex "@comment(x)@a\x7bk,t=")) := by decide +kernel
  obtain ⟨messages, bare, contents⟩ := parse_insert_trivia lexLeft lexRight rfl free
  refine ⟨lexLeft, lexRight, free, messages.trans ?_, bare, contents.trans ?_⟩
  · decide +kernel
  · decide +kernel

end TexWorkspace.Bib
