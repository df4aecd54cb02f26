set_option autoImplicit false

/-!
The words of a bibliography file: token kinds, the kinds of tree nodes, and their common numbering.
-/

namespace TexWorkspace.Bib

inductive TokenKind where
  | atSign
  | openBrace
  | closeBrace
  | openParen
  | closeParen
  | comma
  | equals
  | hash
  | quote
  | number
  | word
  | blank
  | comment
  deriving DecidableEq, Repr

inductive NodeKind where
  | file
  | entry
  | entryType
  | key
  | field
  | fieldName
  | value
  | bracedText
  | quotedText
  | comment
  | error
  deriving DecidableEq, Repr

/-- Blanks and comments separate tokens and mean nothing themselves. -/
def TokenKind.isTrivia : TokenKind → Bool
  | .blank | .comment => true
  | _ => false

/-- Any label of a syntax tree, or the end of the input. -/
inductive Label where
  | token (kind : TokenKind)
  | node (kind : NodeKind)
  | endOfInput
  deriving DecidableEq, Repr

namespace Label

def all : List Label :=
  [.token .atSign, .token .openBrace, .token .closeBrace, .token .openParen, .token .closeParen,
    .token .comma, .token .equals, .token .hash, .token .quote, .token .number, .token .word,
    .token .blank, .token .comment, .node .file, .node .entry, .node .entryType, .node .key,
    .node .field, .node .fieldName, .node .value, .node .bracedText, .node .quotedText,
    .node .comment, .node .error, .endOfInput]

def code (label : Label) : Nat :=
  all.idxOf label

def ofCode? (code : Nat) : Option Label :=
  all[code]?

def isTrivia : Label → Bool
  | .token kind => kind.isTrivia
  | _ => false

theorem ofCode?_code (label : Label) : ofCode? label.code = some label := by
  cases label with
  | token kind => cases kind <;> rfl
  | node kind => cases kind <;> rfl
  | endOfInput => rfl

end Label

structure Token where
  kind : TokenKind
  text : String
  deriving DecidableEq, Repr

namespace Token

def width (token : Token) : Nat :=
  token.text.utf8ByteSize

def isTrivia (token : Token) : Bool :=
  token.kind.isTrivia

/-- Whether the token can be a key or a bare piece of a value. -/
def isName (token : Token) : Bool :=
  token.kind = .word ∨ token.kind = .number

def widthAll : List Token → Nat
  | [] => 0
  | token :: rest => token.width + widthAll rest

@[simp] theorem widthAll_nil : widthAll [] = 0 := rfl

@[simp] theorem widthAll_cons (token : Token) (rest : List Token) :
    widthAll (token :: rest) = token.width + widthAll rest := rfl

@[simp] theorem widthAll_append (left right : List Token) :
    widthAll (left ++ right) = widthAll left + widthAll right := by
  induction left with
  | nil => simp
  | cons token rest ih => simp [ih, Nat.add_assoc]

end Token

end TexWorkspace.Bib
