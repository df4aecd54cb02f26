import TexWorkspace.Proofs.Bib.Construction
import TexWorkspace.Proofs.Bib.Lossless

set_option autoImplicit false

/-!
Where the diagnostics of a text stand. Main statement: each is about one token or about the end of the
text, they come in the order of the text, and those about tokens out of place stand exactly where the
error nodes of the tree stand.
-/

namespace TexWorkspace.Bib

/-- The span is that of one token of the text, or the empty one at its end. -/
inductive Span.Marks (text : String) : Span → Prop where
  | token {before after : List Token} {token : Token} :
      lex text = before ++ token :: after →
      Marks text ⟨Token.widthAll before, Token.widthAll before + token.width⟩
  | ending : Marks text ⟨text.utf8ByteSize, text.utf8ByteSize⟩

/-- The spans of the diagnostics of the given wording, in their order. -/
def spansOf (message : String) (diagnostics : List Diagnostic) : List Span :=
  (diagnostics.filter fun diagnostic => diagnostic.problem.message = message).map Diagnostic.span

def errorSpans (nodes : List Located) : List Span :=
  (nodes.filter fun node => node.tree.hasKind .error).map Located.span

/-! ## Diagnostics of a fringe -/

theorem nextWidth_eq (leaves : List Leaf) :
    nextWidth leaves = ((leaves.filterMap Leaf.token?).head?.map Token.width).getD 0 := by
  induction leaves with
  | nil => rfl
  | cons leaf leaves ih =>
      cases leaf with
      | token token => rfl
      | fault problem => exact ih

theorem exists_of_mem_diagnosticsFrom {start : Nat} {leaves : List Leaf} {diagnostic : Diagnostic}
    (member : diagnostic ∈ diagnosticsFrom start leaves) :
    ∃ before after, leaves.filterMap Leaf.token? = before ++ after ∧
      diagnostic.span = ⟨start + Token.widthAll before,
        start + Token.widthAll before + (after.head?.map Token.width).getD 0⟩ := by
  induction leaves generalizing start with
  | nil => cases member
  | cons leaf leaves ih =>
      cases leaf with
      | token token =>
          obtain ⟨before, after, split, placed⟩ := ih member
          refine ⟨token :: before, after, by simp [Leaf.token?, split], ?_⟩
          rw [placed, Token.widthAll_cons, Nat.add_assoc]
      | fault problem =>
          rcases List.mem_cons.mp member with rfl | member
          · exact ⟨[], leaves.filterMap Leaf.token?, rfl, by simp [nextWidth_eq]⟩
          · exact ih member

theorem marks_of_mem_diagnostics {text : String} {diagnostic : Diagnostic}
    (member : diagnostic ∈ (parse text).diagnostics) : diagnostic.span.Marks text := by
  obtain ⟨before, after, split, placed⟩ := exists_of_mem_diagnosticsFrom member
  have whole : lex text = before ++ after := by rw [← tokens_parse, Tree.tokens, split]
  rw [placed, Nat.zero_add]
  cases after with
  | nil =>
      rw [List.append_nil] at whole
      rw [← whole, widthAll_lex]
      exact .ending
  | cons token after => exact .token whole

theorem le_start_of_mem_diagnosticsFrom {start : Nat} {leaves : List Leaf} {diagnostic : Diagnostic}
    (member : diagnostic ∈ diagnosticsFrom start leaves) : start ≤ diagnostic.span.start := by
  obtain ⟨before, after, -, placed⟩ := exists_of_mem_diagnosticsFrom member
  rw [placed]
  exact Nat.le_add_right ..

theorem diagnosticsFrom_ordered (start : Nat) (leaves : List Leaf) :
    (diagnosticsFrom start leaves).Pairwise fun left right =>
      left.span.start ≤ right.span.start := by
  induction leaves generalizing start with
  | nil => exact .nil
  | cons leaf leaves ih =>
      cases leaf with
      | token token => exact ih _
      | fault problem =>
          rw [diagnosticsFrom, List.pairwise_cons]
          exact ⟨fun other member => le_start_of_mem_diagnosticsFrom member, ih start⟩

/-! ## Tokens out of place -/

theorem Problem.message_eq_iff {problem : Problem} :
    problem.message = "Unexpected token in entry" ↔ problem = .unexpectedToken := by
  constructor
  · intro worded
    cases problem with
    | unexpectedToken => rfl
    | missingCloser delimiter => cases delimiter <;> exact absurd worded (by decide)
    | _ => exact absurd worded (by decide)
  · rintro rfl
    rfl

/-- Whatever follows, the error nodes of a row stand where the problems of the row are about tokens
out of place. -/
theorem Built.spansOf_eq {trees : List Tree} (built : Built trees) (start : Nat) (more : List Leaf) :
    spansOf "Unexpected token in entry"
        (diagnosticsFrom start (Tree.fringeAll trees ++ more)) =
      errorSpans (Tree.nodesFromAll start trees) ++
        spansOf "Unexpected token in entry"
          (diagnosticsFrom (start + Token.widthAll (Tree.tokensAll trees)) more) := by
  -- What follows is arbitrary, so that the parts of a node can be put in front of its neighbours.
  induction built generalizing start more with
  | nil => rfl
  | @token own trees _ ih =>
      have nodes : Tree.nodesFromAll start (.token own :: trees) =
          Tree.nodesFromAll (start + own.width) trees := by
        simp [Tree.nodesFromAll, Tree.nodesFrom, Tree.width]
      have width : start + Token.widthAll (Tree.tokensAll (.token own :: trees)) =
          start + own.width + Token.widthAll (Tree.tokensAll trees) := by
        simp [Nat.add_assoc]
      rw [nodes, width, ← ih]
      simp [diagnosticsFrom]
  | @fault problem trees other _ ih =>
      have nodes : Tree.nodesFromAll start (.fault problem :: trees) =
          Tree.nodesFromAll start trees := by
        simp [Tree.nodesFromAll, Tree.nodesFrom, Tree.width]
      rw [nodes, Tree.tokensAll_cons, Tree.tokens_fault, List.nil_append, ← ih]
      simp [diagnosticsFrom, spansOf, Problem.message_eq_iff, other]
  | @node kind below trees other _ _ _ belowIH treesIH =>
      have noError : (Tree.node kind below).hasKind .error = false := by simp [Tree.hasKind, other]
      have errors : errorSpans (Tree.nodesFromAll start (.node kind below :: trees)) =
          errorSpans (Tree.nodesFromAll start below) ++
            errorSpans (Tree.nodesFromAll (start + (Tree.node kind below).width) trees) := by
        simp [errorSpans, Tree.nodesFromAll, Tree.nodesFrom, noError]
      have width : start + Token.widthAll (Tree.tokensAll (.node kind below :: trees)) =
          start + (Tree.node kind below).width + Token.widthAll (Tree.tokensAll trees) := by
        simp [Tree.width, Nat.add_assoc]
      rw [errors, width, Tree.fringeAll_cons, Tree.fringe_node, List.append_assoc, belowIH,
        List.append_assoc, ← treesIH, Tree.width, Tree.tokens_node]
  | @error own trees _ ih =>
      have errors : errorSpans
          (Tree.nodesFromAll start (.fault .unexpectedToken :: .node .error [.token own] :: trees)) =
          ⟨start, start + own.width⟩ :: errorSpans (Tree.nodesFromAll (start + own.width) trees) := by
        simp [errorSpans, Tree.nodesFromAll, Tree.nodesFrom, Tree.width, Tree.hasKind, Located.span]
      have width : start + Token.widthAll
          (Tree.tokensAll (.fault .unexpectedToken :: .node .error [.token own] :: trees)) =
          start + own.width + Token.widthAll (Tree.tokensAll trees) := by
        simp [Nat.add_assoc]
      have reported : diagnosticsFrom start (Tree.fringeAll
          (.fault .unexpectedToken :: .node .error [.token own] :: trees) ++ more) =
          ⟨.unexpectedToken, ⟨start, start + own.width⟩⟩ ::
            diagnosticsFrom (start + own.width) (Tree.fringeAll trees ++ more) := by
        simp [diagnosticsFrom, nextWidth]
      rw [errors, width, reported, List.cons_append, ← ih]
      simp [spansOf, Problem.message_eq_iff]

/-! ## Diagnostics of a text -/

/-- Each diagnostic of a text is about one of its tokens or about its end, none starts before the one
before it, and the tokens that are out of place are those in the error nodes of the tree. -/
theorem diagnostics_placed (text : String) :
    (∀ diagnostic ∈ (parse text).diagnostics, diagnostic.span.Marks text) ∧
      ((parse text).diagnostics.Pairwise fun left right => left.span.start ≤ right.span.start) ∧
      spansOf "Unexpected token in entry" (parse text).diagnostics =
        errorSpans (parse text).located.nodes := by
  refine ⟨fun _ member => marks_of_mem_diagnostics member, diagnosticsFrom_ordered 0 _, ?_⟩
  have spans := (built_parse text).spansOf_eq 0 []
  simpa [Tree.nodesFromAll, spansOf, diagnosticsFrom, Tree.diagnostics, Located.nodes,
    Tree.located] using spans

end TexWorkspace.Bib
