import TexWorkspace.Proofs.Bib.Draft
import TexWorkspace.Proofs.Bib.Faultless
import TexWorkspace.Proofs.Bib.Lossless

set_option autoImplicit false

/-!
The tree of a written bibliography. Every rule is followed through the tokens of a draft, so that the
tree is known exactly: no problem is recorded, and each text stands in a node of its own.
-/

namespace TexWorkspace.Bib

/-! ## Rules with a known outcome -/

namespace Rule

theorem andThen_eq {first second : Rule} {tokens middle rest : List Token}
    {firstTrees secondTrees : List Tree} (firstEq : first tokens = ⟨firstTrees, middle⟩)
    (secondEq : second middle = ⟨secondTrees, rest⟩) :
    (first.andThen second) tokens = ⟨firstTrees ++ secondTrees, rest⟩ := by
  rw [andThen, firstEq, secondEq]

theorem wrap_eq {body : Rule} {tokens rest : List Token} {trees : List Tree} (kind : NodeKind)
    (bodyEq : body tokens = ⟨trees, rest⟩) : (body.wrap kind) tokens = ⟨[.node kind trees], rest⟩ := by
  rw [wrap, bodyEq]

theorem trivia_eq_done {token : Token} (significant : token.isTrivia = false) (rest : List Token) :
    trivia (token :: rest) = ⟨[], token :: rest⟩ := by
  simp [trivia, significant]

theorem trivia_space {token : Token} (significant : token.isTrivia = false) (rest : List Token) :
    trivia (Draft.space :: token :: rest) = ⟨[.token Draft.space], token :: rest⟩ := by
  have isSpace : Draft.space.isTrivia = true := rfl
  have noComment : Draft.space.kind ≠ .comment := by decide
  simp [trivia, significant, isSpace, triviaTree, noComment]

end Rule

namespace Draft

/-! ## The trees of a written bibliography -/

def tokenTrees (tokens : List Token) : List Tree :=
  tokens.map .token

def Piece.trees : Piece → List Tree
  | .bare name => tokenTrees (lex name.text)
  | .braced inner =>
      [.node .bracedText (.token openBrace :: tokenTrees (lex inner.text ++ [closeBrace]))]
  | .quoted inner => [.node .quotedText (.token quote :: tokenTrees (lex inner.text ++ [quote]))]

def valueTrees (pieces : List Piece) : List Tree :=
  (tokenTrees [space, hash, space]).intercalate (pieces.map Piece.trees)

/-- What separates the fields from what stands before them. It belongs to that. -/
def separatorTokens : List Field → List Token
  | [] => []
  | _ :: _ => [comma]

/-- The tokens of fields behind the first separator. -/
def separatedTokens : List Field → List Token
  | [] => []
  | field :: fields => space :: field.tokens ++ fieldsTokens fields

/-- The node of a field that `others` follow. -/
def Field.tree (field : Field) (others : List Field) : Tree :=
  .node .field (.node .fieldName (tokenTrees (lex field.name.text)) :: .token space ::
    .token equals :: .token space :: .node .value (valueTrees field.pieces) ::
    tokenTrees (separatorTokens others))

def fieldTrees : List Field → List Tree
  | [] => []
  | field :: fields => .token space :: field.tree fields :: fieldTrees fields

def keyTree (draft : Draft) : Tree :=
  .node .key (tokenTrees (lex draft.key.text) ++ tokenTrees (separatorTokens draft.fields))

def tree (draft : Draft) : Tree :=
  .node .entry (.token atSign :: .node .entryType (tokenTrees (lex draft.type.text)) ::
    .token openBrace :: draft.keyTree :: fieldTrees draft.fields ++ [.token closeBrace])

/-! ## What the rules make of the written form -/

theorem fieldsTokens_eq (fields : List Field) :
    fieldsTokens fields = separatorTokens fields ++ separatedTokens fields := by
  cases fields with
  | nil => rfl
  | cons field fields => simp [fieldsTokens, separatorTokens, separatedTokens]

theorem piece?_tokens (piece : Piece) (rest : List Token) :
    Rule.piece? (piece.tokens ++ rest) = some ⟨piece.trees, rest⟩ := by
  cases piece with
  | bare name =>
      obtain ⟨token, single, isName⟩ := name.single
      rw [Piece.tokens, Piece.trees, single]
      rcases of_decide_eq_true isName with kind | kind <;> simp [Rule.piece?, kind, tokenTrees]
  | braced inner =>
      have opens : openBrace.kind = .openBrace := rfl
      have closes : closeBrace.kind = .closeBrace := rfl
      have scan := inner.run.scanBraced_eq closes rest
      simp [Piece.tokens, Piece.trees, Rule.piece?, opens, scan, textTree, tokenTrees]
  | quoted inner =>
      have isQuote : quote.kind = .quote := rfl
      have scan := inner.run.scanQuoted_eq isQuote rest
      simp [Piece.tokens, Piece.trees, Rule.piece?, isQuote, scan, textTree, tokenTrees]

theorem piece_starts (piece : Piece) (rest : List Token) :
    ∃ first more, piece.tokens ++ rest = first :: more ∧ first.isTrivia = false := by
  cases piece with
  | bare name =>
      obtain ⟨token, single, isName⟩ := name.single
      exact ⟨token, rest, by rw [Piece.tokens, single]; rfl, Rule.name_significant isName⟩
  | braced inner => exact ⟨openBrace, _, rfl, rfl⟩
  | quoted inner => exact ⟨quote, _, rfl, rfl⟩

theorem valueTokens_cons_cons (piece next : Piece) (more : List Piece) :
    valueTokens (piece :: next :: more) =
      piece.tokens ++ space :: hash :: space :: valueTokens (next :: more) := by
  simp [valueTokens]

theorem value_starts {pieces : List Piece} (nonempty : pieces ≠ []) (rest : List Token) :
    ∃ first more, valueTokens pieces ++ rest = first :: more ∧ first.isTrivia = false := by
  cases pieces with
  | nil => exact absurd rfl nonempty
  | cons piece more =>
      cases more with
      | nil => simpa [valueTokens] using piece_starts piece rest
      | cons next more =>
          rw [valueTokens_cons_cons, List.append_assoc]
          exact piece_starts piece _

theorem valueTrees_cons_cons (piece next : Piece) (more : List Piece) :
    valueTrees (piece :: next :: more) =
      piece.trees ++ .token space :: .token hash :: .token space :: valueTrees (next :: more) := by
  simp [valueTrees, tokenTrees]

theorem pieces_tokens {pieces : List Piece} (nonempty : pieces ≠ []) {rest : List Token}
    (last : peekPast rest ≠ some .hash) :
    Rule.pieces (valueTokens pieces ++ rest) = ⟨valueTrees pieces, rest⟩ := by
  induction pieces with
  | nil => exact absurd rfl nonempty
  | cons piece more ih =>
      cases more with
      | nil =>
          have found := piece?_tokens piece rest
          simpa [valueTokens, valueTrees] using Rule.pieces_of_last found last
      | cons next more =>
          have others := List.cons_ne_nil next more
          obtain ⟨first, tail, split, significant⟩ := value_starts others rest
          have found := piece?_tokens piece (space :: hash :: space :: first :: tail)
          have joined : (space :: hash :: space :: first :: tail).dropWhile Token.isTrivia =
              hash :: space :: first :: tail := rfl
          rw [valueTokens_cons_cons, List.append_assoc, List.cons_append, List.cons_append,
            List.cons_append, split, Rule.pieces_of_joint found joined rfl,
            Rule.trivia_space significant, Rule.trivia_space rfl, ← split, ih others]
          simp [valueTrees, tokenTrees]

/-- What follows a field or key is its separator or the end of the entry. -/
theorem fields_ahead (fields : List Field) (rest : List Token) :
    peekPast (fieldsTokens fields ++ closeBrace :: rest) =
      if fields = [] then some .closeBrace else some .comma := by
  cases fields with
  | nil => rfl
  | cons field fields => rfl

theorem separator_tokens (fields : List Field) (rest : List Token) :
    Rule.separator (fieldsTokens fields ++ closeBrace :: rest) =
      ⟨tokenTrees (separatorTokens fields), separatedTokens fields ++ closeBrace :: rest⟩ := by
  rw [Rule.separator, fields_ahead]
  cases fields with
  | nil => rfl
  | cons field fields => rw [fieldsTokens_eq]; rfl

theorem keySeparator_tokens (fields : List Field) (rest : List Token) :
    Rule.keySeparator .braces (fieldsTokens fields ++ closeBrace :: rest) =
      ⟨tokenTrees (separatorTokens fields), separatedTokens fields ++ closeBrace :: rest⟩ := by
  rw [Rule.keySeparator, fields_ahead]
  cases fields with
  | nil => rfl
  | cons field fields => rw [fieldsTokens_eq]; rfl

theorem assignment_tokens (field : Field) {rest : List Token} (last : peekPast rest ≠ some .hash) :
    Rule.assignment (equals :: space :: valueTokens field.pieces ++ rest) =
      ⟨[.token equals, .token space, .node .value (valueTrees field.pieces)], rest⟩ := by
  obtain ⟨first, more, split, significant⟩ := value_starts field.nonempty rest
  have valued := Rule.wrap_eq .value (pieces_tokens field.nonempty last)
  have skipped := Rule.trivia_space significant more
  rw [← split] at skipped
  have taken : Rule.take (equals :: space :: valueTokens field.pieces ++ rest) =
      ⟨[.token equals], space :: (valueTokens field.pieces ++ rest)⟩ := rfl
  exact Rule.andThen_eq taken (Rule.andThen_eq skipped valued)

theorem field_tokens (field : Field) (others : List Field) (rest : List Token) :
    Rule.field (field.tokens ++ (fieldsTokens others ++ closeBrace :: rest)) =
      ⟨[field.tree others], separatedTokens others ++ closeBrace :: rest⟩ := by
  obtain ⟨name, single, isName⟩ := field.name.single
  have last : peekPast (fieldsTokens others ++ closeBrace :: rest) ≠ some .hash := by
    rw [fields_ahead]
    split <;> simp
  have assigned := Rule.andThen_eq (assignment_tokens field last) (separator_tokens others rest)
  have noTrivia : equals.isTrivia = false := rfl
  have spaced := Rule.andThen_eq (Rule.trivia_space noTrivia _) assigned
  have named : (Rule.take.wrap .fieldName) (name :: space :: equals :: space ::
      valueTokens field.pieces ++ (fieldsTokens others ++ closeBrace :: rest)) =
      ⟨[.node .fieldName [.token name]], space :: equals :: space ::
      valueTokens field.pieces ++ (fieldsTokens others ++ closeBrace :: rest)⟩ := rfl
  have whole := Rule.wrap_eq .field (Rule.andThen_eq named spaced)
  rw [Field.tokens, Field.tree, single]
  exact whole

theorem fields_tokens (fields : List Field) (rest : List Token) :
    Rule.fields .braces (separatedTokens fields ++ closeBrace :: rest) =
      ⟨fieldTrees fields, closeBrace :: rest⟩ := by
  induction fields with
  | nil =>
      have stop : ∀ kind, peekPast (closeBrace :: rest) = some kind →
          kind = Delimiter.closer .braces ∨ kind = .atSign := by
        intro kind ahead
        exact .inl (Option.some.inj ahead).symm
      rw [separatedTokens, List.nil_append, Rule.fields_of_stop stop]
      exact Rule.trivia_eq_done rfl rest
  | cons field fields ih =>
      obtain ⟨name, single, isName⟩ := field.name.single
      have word : name.kind = .word := field.name.noNumber name (by simp [single])
      have significant := Rule.name_significant isName
      obtain ⟨more, split⟩ : ∃ more,
          field.tokens ++ (fieldsTokens fields ++ closeBrace :: rest) = name :: more :=
        ⟨_, by rw [Field.tokens, single]; rfl⟩
      have source : separatedTokens (field :: fields) ++ closeBrace :: rest =
          space :: name :: more := by
        rw [← split]
        simp [separatedTokens]
      have skipped := Rule.trivia_space significant more
      have ahead : (space :: name :: more).dropWhile Token.isTrivia = name :: more :=
        congrArg Step.rest skipped
      have goOn : ¬ (name.kind = Delimiter.closer .braces ∨ name.kind = .atSign) := by
        simp [word, Delimiter.closer]
      have item : Rule.fieldItem name (name :: more) =
          ⟨[field.tree fields], separatedTokens fields ++ closeBrace :: rest⟩ := by
        rw [Rule.fieldItem, if_pos word, ← split]
        exact field_tokens field fields rest
      rw [source, Rule.fields_of_item ahead goOn, skipped, item, ih]
      rfl

/-- The key of an entry is taken with its separator. -/
theorem key_tokens (draft : Draft) (rest : List Token) :
    Rule.key .braces (lex draft.key.text ++
      (fieldsTokens draft.fields ++ closeBrace :: rest)) =
      ⟨[draft.keyTree], separatedTokens draft.fields ++ closeBrace :: rest⟩ := by
  obtain ⟨name, single, isName⟩ := draft.key.single
  obtain ⟨next, more, split, noName⟩ : ∃ next more,
      fieldsTokens draft.fields ++ closeBrace :: rest = next :: more ∧ next.isName = false := by
    cases draft.fields with
    | nil => exact ⟨closeBrace, rest, rfl, rfl⟩
    | cons field fields => exact ⟨comma, _, rfl, rfl⟩
  have noSign : peekPast (fieldsTokens draft.fields ++ closeBrace :: rest) ≠ some .equals := by
    rw [fields_ahead]
    split <;> simp
  have separated := keySeparator_tokens draft.fields rest
  rw [split] at separated noSign
  have significant := Rule.name_significant isName
  have starts : Rule.startsWithKey (name :: next :: more) = true := by
    simp [Rule.startsWithKey, significant, isName, noSign]
  have named : Rule.names (name :: next :: more) = ⟨[.token name], next :: more⟩ := by
    simp [Rule.names, isName, noName]
  have whole := Rule.wrap_eq .key (Rule.andThen_eq (Rule.trivia_eq_done significant (next :: more))
    (Rule.andThen_eq named separated))
  rw [single, split, List.singleton_append, Rule.key, if_pos starts, keyTree, single]
  exact whole

theorem enclosed_tokens (draft : Draft) (rest : List Token) :
    Rule.enclosed .keyed .braces (openBrace :: lex draft.key.text ++
      (fieldsTokens draft.fields ++ closeBrace :: rest)) =
      ⟨.token openBrace :: draft.keyTree :: fieldTrees draft.fields ++ [.token closeBrace],
        rest⟩ := by
  have opened : Rule.take (openBrace :: lex draft.key.text ++
      (fieldsTokens draft.fields ++ closeBrace :: rest)) = ⟨[.token openBrace],
        lex draft.key.text ++ (fieldsTokens draft.fields ++ closeBrace :: rest)⟩ := rfl
  have inside : Rule.body .keyed .braces (lex draft.key.text ++
      (fieldsTokens draft.fields ++ closeBrace :: rest)) =
      ⟨[draft.keyTree] ++ fieldTrees draft.fields, closeBrace :: rest⟩ :=
    Rule.andThen_eq (key_tokens draft rest) (fields_tokens draft.fields rest)
  have closed : Rule.close .braces (closeBrace :: rest) = ⟨[.token closeBrace], rest⟩ := rfl
  have whole := Rule.andThen_eq opened (Rule.andThen_eq inside closed)
  exact whole

theorem entry_tokens (draft : Draft) (rest : List Token) :
    Rule.entry (draft.tokens ++ rest) = ⟨[draft.tree], rest⟩ := by
  obtain ⟨type, single, isName⟩ := draft.type.single
  have word : type.kind = .word := draft.type.noNumber type (by simp [single])
  have text : type.text = draft.type.text := text_of_lex single
  have form : Rule.BodyForm.ofType type.text = .keyed :=
    Rule.BodyForm.ofType_eq_keyed (text ▸ draft.ordinary)
  obtain ⟨body, source⟩ : ∃ body, openBrace :: lex draft.key.text ++
      (fieldsTokens draft.fields ++ closeBrace :: rest) = openBrace :: body := ⟨_, rfl⟩
  have inside := enclosed_tokens draft rest
  rw [source] at inside
  have delimited : Rule.delimited (Rule.BodyForm.ofType type.text) (openBrace :: body) =
      ⟨.token openBrace :: draft.keyTree :: fieldTrees draft.fields ++ [.token closeBrace],
        rest⟩ := by
    rw [form]
    exact inside
  have noTrivia : openBrace.isTrivia = false := rfl
  -- The rules are put together from the inside out, as `entry` nests them.
  have behind := Rule.andThen_eq (Rule.trivia_eq_done noTrivia body) delimited
  have typed : Rule.typed (type :: openBrace :: body) = ⟨.node .entryType [.token type] ::
      .token openBrace :: draft.keyTree :: fieldTrees draft.fields ++ [.token closeBrace],
        rest⟩ := by
    have named : (Rule.take.wrap .entryType) (type :: openBrace :: body) =
        ⟨[.node .entryType [.token type]], openBrace :: body⟩ := rfl
    have both := Rule.andThen_eq named behind
    rw [Rule.typed, if_pos word]
    exact both
  have marked : Rule.take (atSign :: type :: openBrace :: body) =
      ⟨[.token atSign], type :: openBrace :: body⟩ := rfl
  have whole := Rule.wrap_eq .entry (Rule.andThen_eq marked
    (Rule.andThen_eq (Rule.trivia_eq_done (Rule.name_significant isName) _) typed))
  have regroup : draft.tokens ++ rest = atSign :: type :: openBrace :: body := by
    rw [← source]
    simp [tokens, single]
  rw [regroup, tree, single]
  exact whole

/-- The items of a written bibliography are its entries, each with the end of its line. -/
theorem fileItems_write (drafts : List Draft) :
    fileItems (lex (write drafts)) = drafts.flatMap fun draft => [draft.tree, .token newline] := by
  rw [lex_write]
  induction drafts with
  | nil => simp [fileItems]
  | cons draft drafts ih =>
      obtain ⟨others, marked⟩ : ∃ others, draft.tokens = atSign :: others := ⟨_, rfl⟩
      have entry := entry_tokens draft (newline :: drafts.flatMap fun draft =>
        draft.tokens ++ [newline])
      rw [marked, List.cons_append] at entry
      have isMark : atSign.kind = .atSign := rfl
      have noMark : newline.kind ≠ .atSign := by decide
      rw [List.flatMap_cons, List.append_assoc, marked, List.cons_append, fileItems,
        if_pos isMark, List.singleton_append, entry, fileItems, if_neg noMark, ih]
      rfl

/-! ## No problem is recorded -/

theorem faultless_piece (piece : Piece) : Faultless piece.trees := by
  cases piece <;> simp [Piece.trees, tokenTrees]

theorem faultless_value {pieces : List Piece} (nonempty : pieces ≠ []) :
    Faultless (valueTrees pieces) := by
  induction pieces with
  | nil => exact absurd rfl nonempty
  | cons piece more ih =>
      cases more with
      | nil => simpa [valueTrees] using faultless_piece piece
      | cons next more =>
          rw [valueTrees_cons_cons]
          simp [faultless_piece, ih]

theorem faultless_fields (fields : List Field) : Faultless (fieldTrees fields) := by
  induction fields with
  | nil => exact faultless_nil
  | cons field fields ih =>
      rw [fieldTrees, Field.tree]
      simp [tokenTrees, faultless_value field.nonempty, ih]

theorem faultless_write (drafts : List Draft) : Faultless (fileItems (lex (write drafts))) := by
  rw [fileItems_write]
  induction drafts with
  | nil => exact faultless_nil
  | cons draft drafts ih =>
      rw [List.flatMap_cons, tree, keyTree]
      simp [tokenTrees, faultless_fields, ih]

theorem diagnostics_write (drafts : List Draft) : (parse (write drafts)).diagnostics = [] := by
  rw [diagnostics_eq_nil_iff_faultless]
  exact faultless_write drafts

end Draft

end TexWorkspace.Bib
