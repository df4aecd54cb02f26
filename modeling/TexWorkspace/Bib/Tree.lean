import TexWorkspace.Bib.Token

set_option autoImplicit false

/-!
Concrete syntax trees. A tree keeps every token of its source, so its text is the source, and it
records each problem at the place where it was met. Positions are not stored: they follow from the
lengths of the tokens.
-/

namespace TexWorkspace.Bib

inductive Delimiter where
  | braces
  | parens
  deriving DecidableEq, Repr

def Delimiter.closer : Delimiter → TokenKind
  | .braces => .closeBrace
  | .parens => .closeParen

inductive Problem where
  | missingType
  | missingOpener
  | missingCloser (delimiter : Delimiter)
  | missingKey
  | missingKeySeparator
  | missingEquals
  | missingValue
  | unexpectedToken
  | unclosedBrace
  | unclosedQuote
  deriving DecidableEq, Repr

def Problem.message : Problem → String
  | .missingType => "Expected entry type after '@'"
  | .missingOpener => "Expected '\x7b' or '(' after entry type"
  | .missingCloser .braces => "Expected '\x7d'"
  | .missingCloser .parens => "Expected ')'"
  | .missingKey => "Expected entry key"
  | .missingKeySeparator => "Expected ',' after entry key"
  | .missingEquals => "Expected '=' after field name"
  | .missingValue => "Expected field value"
  | .unexpectedToken => "Unexpected token in entry"
  | .unclosedBrace => "Unclosed '\x7b'"
  | .unclosedQuote => "Unclosed '\"'"

/-- A stretch of source text, in bytes from its start. -/
structure Span where
  start : Nat
  stop : Nat
  deriving DecidableEq, Repr

structure Diagnostic where
  problem : Problem
  span : Span
  deriving DecidableEq, Repr

/-- A syntax tree: tokens, grouped by nodes, with problems where they were met. -/
inductive Tree where
  | token (token : Token)
  | fault (problem : Problem)
  | node (kind : NodeKind) (children : List Tree)

/-- What stands at the fringe of a tree. -/
inductive Leaf where
  | token (token : Token)
  | fault (problem : Problem)
  deriving DecidableEq, Repr

def Leaf.token? : Leaf → Option Token
  | .token own => some own
  | .fault _ => none

namespace Tree

mutual

def fringe : Tree → List Leaf
  | .token own => [.token own]
  | .fault problem => [.fault problem]
  | .node _ children => fringeAll children

def fringeAll : List Tree → List Leaf
  | [] => []
  | tree :: trees => fringe tree ++ fringeAll trees

end

def tokensAll (trees : List Tree) : List Token :=
  (fringeAll trees).filterMap Leaf.token?

def tokens (tree : Tree) : List Token :=
  tree.fringe.filterMap Leaf.token?

def text (tree : Tree) : String :=
  String.join (tree.tokens.map Token.text)

def width (tree : Tree) : Nat :=
  Token.widthAll tree.tokens

def hasKind (kind : NodeKind) : Tree → Bool
  | .node own _ => own = kind
  | _ => false

def children : Tree → List Tree
  | .node _ below =>
      below.filter fun
        | .fault _ => false
        | _ => true
  | _ => []

def child? (kind : NodeKind) (tree : Tree) : Option Tree :=
  tree.children.find? (hasKind kind)

@[simp] theorem fringe_token (own : Token) : (Tree.token own).fringe = [.token own] := by
  simp [fringe]

@[simp] theorem fringe_fault (problem : Problem) :
    (Tree.fault problem).fringe = [.fault problem] := by
  simp [fringe]

@[simp] theorem fringe_node (kind : NodeKind) (below : List Tree) :
    (Tree.node kind below).fringe = fringeAll below := by
  simp [fringe]

@[simp] theorem fringeAll_nil : fringeAll [] = [] := by
  simp [fringeAll]

@[simp] theorem fringeAll_cons (tree : Tree) (trees : List Tree) :
    fringeAll (tree :: trees) = tree.fringe ++ fringeAll trees := by
  simp [fringeAll]

@[simp] theorem fringeAll_append (left right : List Tree) :
    fringeAll (left ++ right) = fringeAll left ++ fringeAll right := by
  induction left with
  | nil => simp
  | cons tree trees ih => simp [ih]

@[simp] theorem children_nil (kind : NodeKind) : (Tree.node kind []).children = [] := rfl

@[simp] theorem children_token_cons (kind : NodeKind) (own : Token) (below : List Tree) :
    (Tree.node kind (.token own :: below)).children =
      .token own :: (Tree.node kind below).children := rfl

@[simp] theorem children_fault_cons (kind : NodeKind) (problem : Problem) (below : List Tree) :
    (Tree.node kind (.fault problem :: below)).children = (Tree.node kind below).children := rfl

@[simp] theorem children_node_cons (kind inner : NodeKind) (own below : List Tree) :
    (Tree.node kind (.node inner own :: below)).children =
      .node inner own :: (Tree.node kind below).children := rfl

@[simp] theorem children_append (kind : NodeKind) (left right : List Tree) :
    (Tree.node kind (left ++ right)).children =
      (Tree.node kind left).children ++ (Tree.node kind right).children := by
  simp [children]

@[simp] theorem tokensAll_nil : tokensAll [] = [] := by
  simp [tokensAll, fringeAll]

@[simp] theorem tokensAll_cons (tree : Tree) (trees : List Tree) :
    tokensAll (tree :: trees) = tree.tokens ++ tokensAll trees := by
  simp [tokensAll, tokens, fringeAll]

@[simp] theorem tokensAll_append (left right : List Tree) :
    tokensAll (left ++ right) = tokensAll left ++ tokensAll right := by
  induction left with
  | nil => simp
  | cons tree trees ih => simp [ih]

@[simp] theorem tokens_token (own : Token) : (Tree.token own).tokens = [own] := by
  simp [tokens, fringe, Leaf.token?]

@[simp] theorem tokens_fault (problem : Problem) : (Tree.fault problem).tokens = [] := by
  simp [tokens, fringe, Leaf.token?]

@[simp] theorem tokens_node (kind : NodeKind) (below : List Tree) :
    (Tree.node kind below).tokens = tokensAll below := by
  simp [tokens, tokensAll, fringe]

@[simp] theorem tokensAll_map_token (given : List Token) :
    tokensAll (given.map Tree.token) = given := by
  induction given with
  | nil => simp
  | cons first rest ih => simp [ih]

end Tree

/-- The length of the first token of a fringe; nothing follows the end of the text. -/
def nextWidth : List Leaf → Nat
  | [] => 0
  | .token token :: _ => token.width
  | .fault _ :: rest => nextWidth rest

/-- The problems of a fringe that starts at `start`. A problem is about the token after it, or about
the empty stretch at the end of the text. -/
def diagnosticsFrom (start : Nat) : List Leaf → List Diagnostic
  | [] => []
  | .token token :: rest => diagnosticsFrom (start + token.width) rest
  | .fault problem :: rest =>
      ⟨problem, ⟨start, start + nextWidth rest⟩⟩ :: diagnosticsFrom start rest

/-- The problems of a whole file, in the order in which they were met. -/
def Tree.diagnostics (tree : Tree) : List Diagnostic :=
  diagnosticsFrom 0 tree.fringe

/-- A tree with the place where it starts. -/
structure Located where
  start : Nat
  tree : Tree

namespace Located

def row (start : Nat) : List Tree → List Located
  | [] => []
  | tree :: trees => ⟨start, tree⟩ :: row (start + tree.width) trees

def span (located : Located) : Span :=
  ⟨located.start, located.start + located.tree.width⟩

def children (located : Located) : List Located :=
  row located.start located.tree.children

end Located

namespace Tree

mutual

/-- The nodes of a tree that starts at `start`, each before those below it. -/
def nodesFrom (start : Nat) : Tree → List Located
  | .token _ => []
  | .fault _ => []
  | .node kind below => ⟨start, .node kind below⟩ :: nodesFromAll start below

def nodesFromAll (start : Nat) : List Tree → List Located
  | [] => []
  | tree :: trees => nodesFrom start tree ++ nodesFromAll (start + tree.width) trees

end

end Tree

def Located.nodes (located : Located) : List Located :=
  located.tree.nodesFrom located.start

def Tree.located (tree : Tree) : Located :=
  ⟨0, tree⟩

end TexWorkspace.Bib
