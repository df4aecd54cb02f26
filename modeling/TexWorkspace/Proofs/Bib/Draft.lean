import TexWorkspace.Proofs.Bib.Grammar
import TexWorkspace.Proofs.Bib.TokenSeams
import TexWorkspace.Text.Lowercase

set_option autoImplicit false

/-!
Bibliographies to be written. A draft holds the texts of its entries and knows that they can stand
where they are put: names are single tokens, and a text between delimiters does not end them early.
Main statement: the tokens of a written bibliography are those of its texts, with the punctuation
between them.
-/

namespace TexWorkspace.Bib

/-! ## Drafts -/

namespace Draft

/-- A text that is one name, and that takes nothing of what follows it. -/
structure Name where
  text : String
  single : ∃ token, lex text = [token] ∧ token.isName = true
  paired : endsUnpaired text.toList = false

/-- A name that is not a number. -/
structure Word extends Name where
  noNumber : ∀ token ∈ lex text, token.kind = .word

/-- A text that can stand between delimiters: outside its braces it has no token of the barred kinds,
and it takes nothing of the delimiter that follows it. -/
structure Inner (barred : List TokenKind) where
  text : String
  run : Grammar.Run barred (lex text)
  paired : endsUnpaired text.toList = false
  noComment : ∀ last ∈ (lex text).getLast?, last.kind ≠ .comment

/-- One piece of a value. -/
inductive Piece where
  | bare (name : Name)
  | braced (inner : Inner [.closeBrace])
  | quoted (inner : Inner [.quote, .closeBrace])

/-- A field with its value in pieces. -/
structure Field where
  name : Word
  pieces : List Piece
  nonempty : pieces ≠ []

end Draft

/-- An entry of an ordinary type, with a key and fields. -/
structure Draft where
  type : Draft.Word
  ordinary : Text.lowercase type.text ∉ ["comment", "preamble", "string"]
  key : Draft.Name
  fields : List Draft.Field

/-! ## The written form -/

namespace Draft

def Piece.source : Piece → String
  | .bare name => name.text
  | .braced inner => "\x7b" ++ inner.text ++ "\x7d"
  | .quoted inner => "\"" ++ inner.text ++ "\""

def valueSource (pieces : List Piece) : String :=
  " # ".intercalate (pieces.map Piece.source)

def Field.source (field : Field) : String :=
  field.name.text ++ " = " ++ valueSource field.pieces

def fieldsSource (fields : List Field) : String :=
  String.join (fields.map fun field => ", " ++ field.source)

/-- The draft as an entry of a file. -/
def source (draft : Draft) : String :=
  "@" ++ draft.type.text ++ "\x7b" ++ draft.key.text ++ fieldsSource draft.fields ++ "\x7d"

/-- A bibliography, one entry after the other, each with the end of its line. -/
def write (drafts : List Draft) : String :=
  String.join (drafts.map fun draft => draft.source ++ "\n")

/-! ## Its tokens -/

def atSign : Token := ⟨.atSign, "@"⟩
def openBrace : Token := ⟨.openBrace, "\x7b"⟩
def closeBrace : Token := ⟨.closeBrace, "\x7d"⟩
def comma : Token := ⟨.comma, ","⟩
def equals : Token := ⟨.equals, "="⟩
def hash : Token := ⟨.hash, "#"⟩
def quote : Token := ⟨.quote, "\""⟩
def space : Token := ⟨.blank, " "⟩
def newline : Token := ⟨.blank, "\n"⟩

def Piece.tokens : Piece → List Token
  | .bare name => lex name.text
  | .braced inner => openBrace :: lex inner.text ++ [closeBrace]
  | .quoted inner => quote :: lex inner.text ++ [quote]

def valueTokens (pieces : List Piece) : List Token :=
  [space, hash, space].intercalate (pieces.map Piece.tokens)

def Field.tokens (field : Field) : List Token :=
  lex field.name.text ++ space :: equals :: space :: valueTokens field.pieces

def fieldsTokens (fields : List Field) : List Token :=
  fields.flatMap fun field => comma :: space :: field.tokens

def tokens (draft : Draft) : List Token :=
  atSign :: lex draft.type.text ++ openBrace :: lex draft.key.text ++
    fieldsTokens draft.fields ++ [closeBrace]

/-! ## Cutting the written form -/

/-- The text does not start with a blank. -/
def Filled (chars : List Char) : Prop :=
  ∀ c ∈ chars.head?, Text.isBlank c = false

theorem filled_cons {c : Char} {rest : List Char} :
    Filled (c :: rest) ↔ Text.isBlank c = false := by
  simp [Filled]

theorem mark_stops {c : Char} {kind : TokenKind} (isMark : punctuation? c = some kind) :
    isWordChar c = false := by
  simp [isWordChar, isMark]

theorem wordChar_filled {c : Char} (wordChar : isWordChar c = true) :
    Text.isBlank c = false := by
  simp only [isWordChar, Bool.and_eq_true, Bool.not_eq_true'] at wordChar
  exact wordChar.1.1

/-- A punctuation mark is a token of its own. -/
theorem lexChars_mark {c : Char} {kind : TokenKind} (isMark : punctuation? c = some kind)
    (rest : List Char) : lexChars (c :: rest) = ⟨kind, String.ofList [c]⟩ :: lexChars rest := by
  simp [lexChars, tokenAt, isMark]

/-- A blank is a token of its own in front of anything but another one. -/
theorem lexChars_blank {blank : Char} (noMark : punctuation? blank = none) (noComment : blank ≠ '%')
    (isBlank : Text.isBlank blank = true) {rest : List Char} (filled : Filled rest) :
    lexChars (blank :: rest) = ⟨.blank, String.ofList [blank]⟩ :: lexChars rest := by
  have taken : rest.takeWhile Text.isBlank = [] ∧ rest.dropWhile Text.isBlank = rest := by
    cases rest with
    | nil => exact ⟨rfl, rfl⟩
    | cons c rest => simp [filled_cons.mp filled]
  simp [lexChars, tokenAt, noMark, noComment, isBlank, taken]

theorem lexChars_space {rest : List Char} (filled : Filled rest) :
    lexChars (' ' :: rest) = space :: lexChars rest :=
  lexChars_blank rfl (by decide) (by decide) filled

theorem lexChars_newline {rest : List Char} (filled : Filled rest) :
    lexChars ('\n' :: rest) = newline :: lexChars rest :=
  lexChars_blank rfl (by decide) (by decide) filled

/-- A name is a whole token in front of anything that cannot stand in it. -/
theorem Name.lexChars_append (name : Name) {c : Char} (stops : isWordChar c = false)
    (rest : List Char) :
    lexChars (name.text.toList ++ c :: rest) = lex name.text ++ lexChars (c :: rest) := by
  refine lexChars_append_stop stops name.paired ?_ rest
  intro last isLast
  obtain ⟨token, single, isName⟩ := name.single
  rw [← lex, single] at isLast
  obtain rfl : token = last := by simpa using isLast
  rcases of_decide_eq_true isName with kind | kind <;> simp [kind]

theorem Name.filled (name : Name) (rest : List Char) : Filled (name.text.toList ++ rest) := by
  obtain ⟨token, single, isName⟩ := name.single
  cases chars : name.text.toList with
  | nil => simp [lex, chars, lexChars] at single
  | cons c more =>
      rw [lex, chars, lexChars, List.cons.injEq] at single
      rw [← single.1, tokenAt_isName] at isName
      exact filled_cons.mpr (wordChar_filled isName)

theorem Inner.lexChars_enclosed {barred : List TokenKind} (inner : Inner barred)
    {opening closing : Char} {openKind closeKind : TokenKind}
    (opens : punctuation? opening = some openKind) (closes : punctuation? closing = some closeKind)
    (rest : List Char) :
    lexChars (opening :: (inner.text.toList ++ closing :: rest)) =
      ⟨openKind, String.ofList [opening]⟩ ::
        (lex inner.text ++ ⟨closeKind, String.ofList [closing]⟩ :: lexChars rest) := by
  have seam : lexChars (inner.text.toList ++ closing :: rest) =
      lex inner.text ++ lexChars (closing :: rest) := by
    refine lexChars_append_stop (mark_stops closes) inner.paired ?_ rest
    intro last isLast
    refine ⟨inner.noComment last isLast, ?_⟩
    intro blank
    cases (mark_filled closes).symm.trans blank
  rw [lexChars_mark opens, seam, lexChars_mark closes]

theorem Piece.lexChars_append (piece : Piece) {c : Char} (stops : isWordChar c = false)
    (rest : List Char) :
    lexChars (piece.source.toList ++ c :: rest) = piece.tokens ++ lexChars (c :: rest) := by
  cases piece with
  | bare name => exact name.lexChars_append stops rest
  | braced inner =>
      have source : (Piece.braced inner).source.toList ++ c :: rest =
          '{' :: (inner.text.toList ++ '}' :: c :: rest) := by simp [Piece.source]
      rw [source, inner.lexChars_enclosed rfl rfl]
      simp [Piece.tokens, openBrace, closeBrace]
  | quoted inner =>
      have source : (Piece.quoted inner).source.toList ++ c :: rest =
          '"' :: (inner.text.toList ++ '"' :: c :: rest) := by simp [Piece.source]
      rw [source, inner.lexChars_enclosed rfl rfl]
      simp [Piece.tokens, quote]

theorem Piece.filled (piece : Piece) (rest : List Char) :
    Filled (piece.source.toList ++ rest) := by
  cases piece with
  | bare name => exact name.filled rest
  | braced inner => simp [Piece.source, filled_cons, mark_filled (c := '{') rfl]
  | quoted inner => simp [Piece.source, filled_cons, mark_filled (c := '"') rfl]

theorem valueSource_cons_cons (piece next : Piece) (more : List Piece) :
    (valueSource (piece :: next :: more)).toList =
      piece.source.toList ++ ' ' :: '#' :: ' ' :: (valueSource (next :: more)).toList := by
  simp [valueSource, String.toList_intercalate]

theorem value_filled {pieces : List Piece} (nonempty : pieces ≠ []) (rest : List Char) :
    Filled ((valueSource pieces).toList ++ rest) := by
  cases pieces with
  | nil => exact absurd rfl nonempty
  | cons piece more =>
      cases more with
      | nil => simpa [valueSource] using piece.filled rest
      | cons next more =>
          rw [valueSource_cons_cons, List.append_assoc]
          exact piece.filled _

theorem lexChars_value {pieces : List Piece} (nonempty : pieces ≠ []) {c : Char}
    (stops : isWordChar c = false) (rest : List Char) :
    lexChars ((valueSource pieces).toList ++ c :: rest) =
      valueTokens pieces ++ lexChars (c :: rest) := by
  induction pieces with
  | nil => exact absurd rfl nonempty
  | cons piece more ih =>
      cases more with
      | nil => simpa [valueSource, valueTokens] using piece.lexChars_append stops rest
      | cons next more =>
          have others := ih (List.cons_ne_nil next more)
          have joint : lexChars (' ' :: '#' :: ' ' ::
              ((valueSource (next :: more)).toList ++ c :: rest)) =
              space :: hash :: space :: (valueTokens (next :: more) ++ lexChars (c :: rest)) := by
            rw [lexChars_space (filled_cons.mpr (by decide)), lexChars_mark rfl,
              lexChars_space (value_filled (List.cons_ne_nil next more) _), others]
            rfl
          rw [valueSource_cons_cons, List.append_assoc, List.cons_append, List.cons_append,
            List.cons_append, piece.lexChars_append (by decide), joint]
          simp [valueTokens, List.intercalate_cons_cons]

theorem Field.lexChars_append (field : Field) {c : Char} (stops : isWordChar c = false)
    (rest : List Char) :
    lexChars (field.source.toList ++ c :: rest) = field.tokens ++ lexChars (c :: rest) := by
  have source : field.source.toList ++ c :: rest = field.name.text.toList ++
      ' ' :: '=' :: ' ' :: ((valueSource field.pieces).toList ++ c :: rest) := by
    simp [Field.source]
  have assigned : lexChars (' ' :: '=' :: ' ' ::
      ((valueSource field.pieces).toList ++ c :: rest)) =
      space :: equals :: space :: (valueTokens field.pieces ++ lexChars (c :: rest)) := by
    rw [lexChars_space (filled_cons.mpr (by decide)), lexChars_mark rfl,
      lexChars_space (value_filled field.nonempty _), lexChars_value field.nonempty stops]
    rfl
  rw [source, field.name.lexChars_append (by decide), assigned]
  simp [Field.tokens]

theorem Field.filled (field : Field) (rest : List Char) :
    Filled (field.source.toList ++ rest) := by
  rw [Field.source, String.toList_append, String.toList_append, List.append_assoc,
    List.append_assoc]
  exact field.name.filled _

/-- The fields of an entry end its key: they start with a comma. -/
theorem fields_starts (fields : List Field) {c : Char} (stops : isWordChar c = false)
    (rest : List Char) : ∃ first more,
      (fieldsSource fields).toList ++ c :: rest = first :: more ∧ isWordChar first = false := by
  cases fields with
  | nil => exact ⟨c, rest, by simp [fieldsSource], stops⟩
  | cons field fields =>
      refine ⟨',', ' ' :: (field.source.toList ++ (fieldsSource fields).toList ++ c :: rest), ?_, ?_⟩
      · simp [fieldsSource]
      · decide

theorem lexChars_fields (fields : List Field) {c : Char} (stops : isWordChar c = false)
    (rest : List Char) :
    lexChars ((fieldsSource fields).toList ++ c :: rest) =
      fieldsTokens fields ++ lexChars (c :: rest) := by
  induction fields with
  | nil => simp [fieldsSource, fieldsTokens]
  | cons field fields ih =>
      have source : (fieldsSource (field :: fields)).toList ++ c :: rest =
          ',' :: ' ' :: (field.source.toList ++ ((fieldsSource fields).toList ++ c :: rest)) := by
        simp [fieldsSource]
      obtain ⟨first, more, split, firstStops⟩ := fields_starts fields stops rest
      rw [split] at ih source
      rw [source, lexChars_mark rfl, lexChars_space (field.filled _),
        field.lexChars_append firstStops, ih]
      simp [fieldsTokens, comma]

theorem lexChars_source (draft : Draft) (rest : List Char) :
    lexChars (draft.source.toList ++ rest) = draft.tokens ++ lexChars rest := by
  have source : draft.source.toList ++ rest = '@' :: (draft.type.text.toList ++ '{' ::
      (draft.key.text.toList ++ ((fieldsSource draft.fields).toList ++ '}' :: rest))) := by
    simp [source]
  have closing : isWordChar '}' = false := by decide
  have fields := lexChars_fields draft.fields closing rest
  obtain ⟨first, more, split, firstStops⟩ := fields_starts draft.fields closing rest
  rw [split] at source fields
  rw [source, lexChars_mark rfl, draft.type.lexChars_append (by decide), lexChars_mark rfl,
    draft.key.lexChars_append firstStops, fields, lexChars_mark rfl]
  simp [tokens, atSign, openBrace, closeBrace]

theorem write_cons (draft : Draft) (drafts : List Draft) :
    (write (draft :: drafts)).toList =
      draft.source.toList ++ '\n' :: (write drafts).toList := by
  simp [write]

/-- The tokens of a written bibliography are those of its drafts. -/
theorem lex_write (drafts : List Draft) :
    lex (write drafts) = drafts.flatMap fun draft => draft.tokens ++ [newline] := by
  rw [lex]
  induction drafts with
  | nil => simp [write, lexChars]
  | cons draft drafts ih =>
      have filled : Filled (write drafts).toList := by
        cases drafts with
        | nil => simp [Filled, write]
        | cons next drafts =>
            rw [write_cons]
            simp [source, filled_cons, mark_filled (c := '@') rfl]
      rw [write_cons, lexChars_source, lexChars_newline filled, ih]
      simp

end Draft

end TexWorkspace.Bib
