import TexWorkspace.Bib.Lexer
import TexWorkspace.Bib.Tree
import TexWorkspace.Text.Lowercase

set_option autoImplicit false

/-!
Reading tokens into a syntax tree. A rule takes tokens from the front and builds trees of them; what
it does not understand it takes as it is, with a problem recorded in front of it. Every rule is
lossless: the tokens of its trees and the tokens it leaves are the tokens it was given.
-/

namespace TexWorkspace.Bib

/-- What a rule leaves: the trees it built and the tokens it did not take. -/
structure Step where
  trees : List Tree
  rest : List Token

/-- A rule of the grammar, applied to the tokens that are left. -/
abbrev Rule := List Token → Step

def peek (tokens : List Token) : Option TokenKind :=
  tokens.head?.map Token.kind

def peekPast (tokens : List Token) : Option TokenKind :=
  peek (tokens.dropWhile Token.isTrivia)

namespace Rule

/-- No token of the input is lost, invented or moved. -/
def Lossless (rule : Rule) : Prop :=
  ∀ tokens, Tree.tokensAll (rule tokens).trees ++ (rule tokens).rest = tokens

def done : Rule := fun tokens => ⟨[], tokens⟩

def take : Rule
  | [] => ⟨[], []⟩
  | token :: rest => ⟨[.token token], rest⟩

def report (problem : Problem) : Rule := fun tokens => ⟨[.fault problem], tokens⟩

def andThen (first second : Rule) : Rule := fun tokens =>
  ⟨(first tokens).trees ++ (second (first tokens).rest).trees, (second (first tokens).rest).rest⟩

def wrap (kind : NodeKind) (body : Rule) : Rule := fun tokens =>
  ⟨[.node kind (body tokens).trees], (body tokens).rest⟩

/-- A trivia token in the tree: a comment has a node of its own. -/
def triviaTree (token : Token) : Tree :=
  if token.kind = .comment then .node .comment [.token token] else .token token

def trivia : Rule := fun tokens =>
  ⟨(tokens.takeWhile Token.isTrivia).map triviaTree, tokens.dropWhile Token.isTrivia⟩

theorem done_lossless : Lossless done := fun _ => by simp [done]

theorem take_lossless : Lossless take
  | [] => by simp [take]
  | _ :: _ => by simp [take]

theorem report_lossless (problem : Problem) : Lossless (report problem) := fun _ => by
  simp [report]

theorem andThen_lossless {first second : Rule} (firstLossless : Lossless first)
    (secondLossless : Lossless second) : Lossless (first.andThen second) := fun tokens => by
  simp only [andThen, Tree.tokensAll_append, List.append_assoc]
  rw [secondLossless, firstLossless]

theorem wrap_lossless {body : Rule} (kind : NodeKind) (bodyLossless : Lossless body) :
    Lossless (body.wrap kind) := fun tokens => by
  simpa [wrap] using bodyLossless tokens

@[simp] theorem tokens_triviaTree (token : Token) : (triviaTree token).tokens = [token] := by
  unfold triviaTree
  split <;> simp

theorem tokensAll_map_triviaTree (tokens : List Token) :
    Tree.tokensAll (tokens.map triviaTree) = tokens := by
  induction tokens with
  | nil => simp
  | cons token rest ih => simp [ih]

theorem trivia_lossless : Lossless trivia := fun tokens => by
  simp [trivia, tokensAll_map_triviaTree]

theorem Lossless.length_le {rule : Rule} (lossless : Lossless rule) (tokens : List Token) :
    (rule tokens).rest.length ≤ tokens.length := by
  have whole := congrArg List.length (lossless tokens)
  simp only [List.length_append] at whole
  omega

end Rule

/-! ## Texts between delimiters -/

/-- A run of tokens up to a delimiter. -/
structure Scan where
  inside : List Token
  closed : Bool
  rest : List Token

def Scan.cons (token : Token) (scan : Scan) : Scan :=
  { scan with inside := token :: scan.inside }

/-- Takes tokens through the brace that closes the text, with `depth` more braces open inside. -/
def scanBraced (depth : Nat) : List Token → Scan
  | [] => ⟨[], false, []⟩
  | token :: rest =>
      match token.kind with
      | .openBrace => (scanBraced (depth + 1) rest).cons token
      | .closeBrace =>
          match depth with
          | 0 => ⟨[token], true, rest⟩
          | outer + 1 => (scanBraced outer rest).cons token
      | _ => (scanBraced depth rest).cons token

/-- Takes tokens through the quote that closes the text, with `depth` braces open inside. A brace
that closes more than was opened ends the text before it. -/
def scanQuoted (depth : Nat) : List Token → Scan
  | [] => ⟨[], false, []⟩
  | token :: rest =>
      match token.kind with
      | .quote =>
          match depth with
          | 0 => ⟨[token], true, rest⟩
          | _ + 1 => (scanQuoted depth rest).cons token
      | .openBrace => (scanQuoted (depth + 1) rest).cons token
      | .closeBrace =>
          match depth with
          | 0 => ⟨[], false, token :: rest⟩
          | outer + 1 => (scanQuoted outer rest).cons token
      | _ => (scanQuoted depth rest).cons token

/-- Takes tokens up to the closer outside all braces. A brace that closes more than was opened
changes nothing. -/
def scanRaw (closer : TokenKind) (depth : Nat) : List Token → Scan
  | [] => ⟨[], false, []⟩
  | token :: rest =>
      if token.kind = closer ∧ depth = 0 then ⟨[], true, token :: rest⟩
      else
        match token.kind with
        | .openBrace => (scanRaw closer (depth + 1) rest).cons token
        | .closeBrace => (scanRaw closer (depth - 1) rest).cons token
        | _ => (scanRaw closer depth rest).cons token

theorem scanBraced_append (depth : Nat) (tokens : List Token) :
    (scanBraced depth tokens).inside ++ (scanBraced depth tokens).rest = tokens := by
  fun_induction scanBraced depth tokens <;> simp_all [Scan.cons]

theorem scanQuoted_append (depth : Nat) (tokens : List Token) :
    (scanQuoted depth tokens).inside ++ (scanQuoted depth tokens).rest = tokens := by
  fun_induction scanQuoted depth tokens <;> simp_all [Scan.cons]

theorem scanRaw_append (closer : TokenKind) (depth : Nat) (tokens : List Token) :
    (scanRaw closer depth tokens).inside ++ (scanRaw closer depth tokens).rest = tokens := by
  fun_induction scanRaw closer depth tokens <;> simp_all [Scan.cons]

def textTree (kind : NodeKind) (unclosed : Problem) (opener : Token) (scan : Scan) : Tree :=
  .node kind
    (.token opener :: scan.inside.map .token ++ if scan.closed then [] else [.fault unclosed])

theorem tokens_textTree (kind : NodeKind) (unclosed : Problem) (opener : Token) (scan : Scan) :
    (textTree kind unclosed opener scan).tokens = opener :: scan.inside := by
  unfold textTree
  split <;> simp

namespace Rule

/-! ## Values -/

def piece? : List Token → Option Step
  | [] => none
  | token :: rest =>
      match token.kind with
      | .openBrace =>
          let scan := scanBraced 0 rest
          some ⟨[textTree .bracedText .unclosedBrace token scan], scan.rest⟩
      | .quote =>
          let scan := scanQuoted 0 rest
          some ⟨[textTree .quotedText .unclosedQuote token scan], scan.rest⟩
      | .number | .word => some ⟨[.token token], rest⟩
      | _ => none

theorem piece?_append {tokens : List Token} {step : Step} (found : piece? tokens = some step) :
    Tree.tokensAll step.trees ++ step.rest = tokens := by
  unfold piece? at found
  split at found
  · simp at found
  · split at found <;> simp only [Option.some.injEq, reduceCtorEq] at found <;> subst found <;>
      simp [tokens_textTree, scanBraced_append, scanQuoted_append]

/-- Pieces joined by `#`. A missing piece ends the value. -/
def pieces (tokens : List Token) : Step :=
  match _found : piece? tokens with
  | none => ⟨[.fault .missingValue], tokens⟩
  | some first =>
      match _joined : first.rest.dropWhile Token.isTrivia with
      | [] => first
      | joint :: after =>
          if joint.kind = .hash then
            let more := pieces (trivia after).rest
            ⟨first.trees ++ (trivia first.rest).trees ++ .token joint :: (trivia after).trees ++
              more.trees, more.rest⟩
          else first
termination_by tokens.length
decreasing_by
  have whole := congrArg List.length (piece?_append _found)
  have shorter := (List.dropWhile_sublist (l := first.rest) Token.isTrivia).length_le
  have tail := trivia_lossless.length_le after
  simp only [List.length_append] at whole
  rw [_joined] at shorter
  simp only [List.length_cons] at shorter
  omega

theorem pieces_of_none {tokens : List Token} (missing : piece? tokens = none) :
    pieces tokens = ⟨[.fault .missingValue], tokens⟩ := by
  rw [pieces]
  split
  · rfl
  · rename_i found
    simp [missing] at found

theorem pieces_of_last {tokens : List Token} {first : Step} (found : piece? tokens = some first)
    (last : peekPast first.rest ≠ some .hash) : pieces tokens = first := by
  rw [pieces]
  split
  · rename_i missing
    simp [found] at missing
  · rename_i other same
    obtain rfl : first = other := Option.some.inj (found.symm.trans same)
    split
    · rfl
    · rename_i joint after joined
      have notHash : joint.kind ≠ .hash := by simpa [peekPast, peek, joined] using last
      rw [if_neg notHash]

theorem pieces_of_joint {tokens after : List Token} {first : Step} {joint : Token}
    (found : piece? tokens = some first)
    (joined : first.rest.dropWhile Token.isTrivia = joint :: after) (isHash : joint.kind = .hash) :
    pieces tokens =
      ⟨first.trees ++ (trivia first.rest).trees ++ .token joint :: (trivia after).trees ++
        (pieces (trivia after).rest).trees, (pieces (trivia after).rest).rest⟩ := by
  rw [pieces]
  split
  · rename_i missing
    simp [found] at missing
  · rename_i other same
    obtain rfl : first = other := Option.some.inj (found.symm.trans same)
    split
    · rename_i ended
      simp [joined] at ended
    · rename_i otherJoint otherAfter otherJoined
      obtain ⟨rfl, rfl⟩ := List.cons.inj (joined.symm.trans otherJoined)
      rw [if_pos isHash]

theorem pieces_lossless : Lossless pieces := by
  intro tokens
  fun_induction pieces tokens with
  | case1 tokens found => simp
  | case2 tokens first found blank => exact piece?_append found
  | case3 tokens first found joint after blank isHash more ih =>
      have front := trivia_lossless first.rest
      have joined : (trivia first.rest).rest = joint :: after := by simp [trivia, blank]
      rw [joined] at front
      have between := trivia_lossless after
      simp only [Tree.tokensAll_append, Tree.tokensAll_cons, Tree.tokens_token, List.append_assoc,
        List.cons_append, List.nil_append]
      rw [ih, between, front]
      exact piece?_append found
  | case4 tokens first found joint after blank notHash => exact piece?_append found

def value : Rule := wrap .value pieces

theorem value_lossless : Lossless value := wrap_lossless _ pieces_lossless

/-! ## Fields and keys -/

def separator : Rule := fun tokens =>
  if peekPast tokens = some .comma then trivia.andThen take tokens else done tokens

theorem separator_lossless : Lossless separator := fun tokens => by
  unfold separator
  split
  · exact andThen_lossless trivia_lossless take_lossless tokens
  · exact done_lossless tokens

def assignment : Rule := fun tokens =>
  if peek tokens = some .equals then take.andThen (trivia.andThen value) tokens
  else report .missingEquals tokens

theorem assignment_lossless : Lossless assignment := fun tokens => by
  unfold assignment
  split
  · exact andThen_lossless take_lossless (andThen_lossless trivia_lossless value_lossless) tokens
  · exact report_lossless _ tokens

def field : Rule :=
  wrap .field
    ((take.wrap .fieldName).andThen (trivia.andThen (assignment.andThen separator)))

theorem field_lossless : Lossless field :=
  wrap_lossless _ (andThen_lossless (wrap_lossless _ take_lossless)
    (andThen_lossless trivia_lossless (andThen_lossless assignment_lossless separator_lossless)))

/-- What can stand among the fields of an entry: a field, a comma, or something out of place. -/
def fieldItem (token : Token) : Rule :=
  if token.kind = .word then field
  else if token.kind = .comma then take
  else (report .unexpectedToken).andThen (take.wrap .error)

theorem fieldItem_lossless (token : Token) : Lossless (fieldItem token) := by
  unfold fieldItem
  split
  · exact field_lossless
  · split
    · exact take_lossless
    · exact andThen_lossless (report_lossless _) (wrap_lossless _ take_lossless)

theorem fieldItem_length_lt (token : Token) (rest : List Token) :
    (fieldItem token (token :: rest)).rest.length < (token :: rest).length := by
  unfold fieldItem
  split
  · have body := Lossless.length_le
      (andThen_lossless trivia_lossless (andThen_lossless assignment_lossless separator_lossless))
      rest
    simpa [field, wrap, andThen, take] using Nat.lt_succ_of_le body
  · split <;> simp [take, andThen, wrap, report]

/-- Fields up to the closer, the next entry or the end of the text. -/
def fields (delimiter : Delimiter) (tokens : List Token) : Step :=
  match _ahead : tokens.dropWhile Token.isTrivia with
  | [] => trivia tokens
  | token :: rest =>
      if token.kind = delimiter.closer ∨ token.kind = .atSign then trivia tokens
      else
        let item := fieldItem token (token :: rest)
        let more := fields delimiter item.rest
        ⟨(trivia tokens).trees ++ item.trees ++ more.trees, more.rest⟩
termination_by tokens.length
decreasing_by
  have shorter := (List.dropWhile_sublist (l := tokens) Token.isTrivia).length_le
  rw [_ahead] at shorter
  exact Nat.lt_of_lt_of_le (fieldItem_length_lt token rest) shorter

theorem fields_of_stop {delimiter : Delimiter} {tokens : List Token}
    (stop : ∀ kind, peekPast tokens = some kind → kind = delimiter.closer ∨ kind = .atSign) :
    fields delimiter tokens = trivia tokens := by
  rw [fields]
  split
  · rfl
  · rename_i token rest ahead
    rw [if_pos (stop token.kind (by simp [peekPast, peek, ahead]))]

theorem fields_of_item {delimiter : Delimiter} {tokens rest : List Token} {token : Token}
    (ahead : tokens.dropWhile Token.isTrivia = token :: rest)
    (goOn : ¬ (token.kind = delimiter.closer ∨ token.kind = .atSign)) :
    fields delimiter tokens =
      ⟨(trivia tokens).trees ++ (fieldItem token (token :: rest)).trees ++
        (fields delimiter (fieldItem token (token :: rest)).rest).trees,
        (fields delimiter (fieldItem token (token :: rest)).rest).rest⟩ := by
  rw [fields]
  split
  · rename_i ended
    simp [ahead] at ended
  · rename_i otherToken otherRest otherAhead
    obtain ⟨rfl, rfl⟩ := List.cons.inj (ahead.symm.trans otherAhead)
    rw [if_neg goOn]

theorem fields_lossless (delimiter : Delimiter) : Lossless (fields delimiter) := by
  intro tokens
  fun_induction fields delimiter tokens with
  | case1 tokens blank => exact trivia_lossless tokens
  | case2 tokens token rest blank stop => exact trivia_lossless tokens
  | case3 tokens token rest blank goOn item more ih =>
      have front := trivia_lossless tokens
      have here := fieldItem_lossless token (token :: rest)
      have left : (trivia tokens).rest = token :: rest := by simp [trivia, blank]
      rw [left] at front
      simp only [Tree.tokensAll_append, List.append_assoc]
      rw [ih, here, front]

/-- Whether the body of an entry starts with a key: a name that no `=` follows. -/
def startsWithKey (tokens : List Token) : Bool :=
  match tokens.dropWhile Token.isTrivia with
  | [] => false
  | token :: rest => token.isName && peekPast rest != some .equals

def names : Rule := fun tokens =>
  ⟨(tokens.takeWhile Token.isName).map .token, tokens.dropWhile Token.isName⟩

theorem names_lossless : Lossless names := fun tokens => by simp [names]

/-- The comma after a key. Nothing is missing if the entry ends. -/
def keySeparator (delimiter : Delimiter) : Rule := fun tokens =>
  if peekPast tokens = some .comma then trivia.andThen take tokens
  else if peekPast tokens = some delimiter.closer then done tokens
  else report .missingKeySeparator tokens

theorem keySeparator_lossless (delimiter : Delimiter) : Lossless (keySeparator delimiter) :=
  fun tokens => by
  unfold keySeparator
  split
  · exact andThen_lossless trivia_lossless take_lossless tokens
  · split
    · exact done_lossless tokens
    · exact report_lossless _ tokens

def strayComma : Rule := fun tokens =>
  if peek tokens = some .comma then take tokens else done tokens

theorem strayComma_lossless : Lossless strayComma := fun tokens => by
  unfold strayComma
  split
  · exact take_lossless tokens
  · exact done_lossless tokens

def key (delimiter : Delimiter) : Rule := fun tokens =>
  if startsWithKey tokens then
    wrap .key (trivia.andThen (names.andThen (keySeparator delimiter))) tokens
  else trivia.andThen ((report .missingKey).andThen strayComma) tokens

theorem key_lossless (delimiter : Delimiter) : Lossless (key delimiter) := fun tokens => by
  unfold key
  split
  · exact wrap_lossless _ (andThen_lossless trivia_lossless
      (andThen_lossless names_lossless (keySeparator_lossless delimiter))) tokens
  · exact andThen_lossless trivia_lossless
      (andThen_lossless (report_lossless _) strayComma_lossless) tokens

/-! ## Entries -/

inductive BodyForm where
  | remark
  | preamble
  | definitions
  | keyed
  deriving DecidableEq, Repr

/-- Three types have bodies of their own, in any spelling; all others have a key and fields. -/
def BodyForm.ofType (type : String) : BodyForm :=
  match Text.lowercase type with
  | "comment" => .remark
  | "preamble" => .preamble
  | "string" => .definitions
  | _ => .keyed

theorem BodyForm.ofType_eq_remark_iff (type : String) :
    BodyForm.ofType type = .remark ↔ Text.lowercase type = "comment" := by
  unfold BodyForm.ofType
  split <;> simp_all

theorem BodyForm.ofType_eq_keyed {type : String}
    (ordinary : Text.lowercase type ∉ ["comment", "preamble", "string"]) :
    BodyForm.ofType type = .keyed := by
  unfold BodyForm.ofType
  split <;> simp_all

def rawBody (delimiter : Delimiter) : Rule := fun tokens =>
  let scan := scanRaw delimiter.closer 0 tokens
  ⟨scan.inside.map .token, scan.rest⟩

def body (form : BodyForm) (delimiter : Delimiter) : Rule :=
  match form with
  | .remark => rawBody delimiter
  | .preamble => trivia.andThen (value.andThen trivia)
  | .definitions => fields delimiter
  | .keyed => (key delimiter).andThen (fields delimiter)

theorem body_lossless (form : BodyForm) (delimiter : Delimiter) :
    Lossless (body form delimiter) := by
  cases form with
  | remark => intro tokens; simp [body, rawBody, scanRaw_append]
  | preamble =>
      exact andThen_lossless trivia_lossless (andThen_lossless value_lossless trivia_lossless)
  | definitions => exact fields_lossless delimiter
  | keyed => exact andThen_lossless (key_lossless delimiter) (fields_lossless delimiter)

def close (delimiter : Delimiter) : Rule := fun tokens =>
  if peek tokens = some delimiter.closer then take tokens
  else report (.missingCloser delimiter) tokens

theorem close_lossless (delimiter : Delimiter) : Lossless (close delimiter) := fun tokens => by
  unfold close
  split
  · exact take_lossless tokens
  · exact report_lossless _ tokens

def enclosed (form : BodyForm) (delimiter : Delimiter) : Rule :=
  take.andThen ((body form delimiter).andThen (close delimiter))

theorem enclosed_lossless (form : BodyForm) (delimiter : Delimiter) :
    Lossless (enclosed form delimiter) :=
  andThen_lossless take_lossless
    (andThen_lossless (body_lossless form delimiter) (close_lossless delimiter))

def delimited (form : BodyForm) : Rule := fun tokens =>
  match peek tokens with
  | some .openBrace => enclosed form .braces tokens
  | some .openParen => enclosed form .parens tokens
  | _ => report .missingOpener tokens

theorem delimited_lossless (form : BodyForm) : Lossless (delimited form) := fun tokens => by
  unfold delimited
  split
  · exact enclosed_lossless form .braces tokens
  · exact enclosed_lossless form .parens tokens
  · exact report_lossless _ tokens

def typed : Rule := fun tokens =>
  match tokens with
  | [] => report .missingType tokens
  | type :: _ =>
      if type.kind = .word then
        ((take.wrap .entryType).andThen
          (trivia.andThen (delimited (BodyForm.ofType type.text)))) tokens
      else report .missingType tokens

theorem typed_lossless : Lossless typed := fun tokens => by
  unfold typed
  split
  · exact report_lossless _ _
  · split
    · exact andThen_lossless (wrap_lossless _ take_lossless)
        (andThen_lossless trivia_lossless (delimited_lossless _)) _
    · exact report_lossless _ _

def entry : Rule := wrap .entry (take.andThen (trivia.andThen typed))

theorem entry_lossless : Lossless entry :=
  wrap_lossless _ (andThen_lossless take_lossless
    (andThen_lossless trivia_lossless typed_lossless))

theorem entry_length_lt (token : Token) (rest : List Token) :
    (entry (token :: rest)).rest.length < (token :: rest).length := by
  have inside := Lossless.length_le (andThen_lossless trivia_lossless typed_lossless) rest
  simpa [entry, wrap, andThen, take] using Nat.lt_succ_of_le inside

end Rule

/-! ## Files -/

/-- The entries of a file, with the text between them as it is. -/
def fileItems : List Token → List Tree
  | [] => []
  | token :: rest =>
      if token.kind = .atSign then
        (Rule.entry (token :: rest)).trees ++ fileItems (Rule.entry (token :: rest)).rest
      else Rule.triviaTree token :: fileItems rest
termination_by tokens => tokens.length
decreasing_by
  · exact Rule.entry_length_lt token rest
  · simp

def parseTokens (tokens : List Token) : Tree :=
  .node .file (fileItems tokens)

def parse (text : String) : Tree :=
  parseTokens (lex text)

theorem tokens_parseTokens (tokens : List Token) : (parseTokens tokens).tokens = tokens := by
  unfold parseTokens
  fun_induction fileItems tokens with
  | case1 => simp
  | case2 token rest isEntry ih =>
      simp only [Tree.tokens_node, Tree.tokensAll_append] at ih ⊢
      rw [ih, Rule.entry_lossless]
  | case3 token rest notEntry ih =>
      simp only [Tree.tokens_node, Tree.tokensAll_cons, Rule.tokens_triviaTree] at ih ⊢
      rw [ih]
      rfl

end TexWorkspace.Bib
