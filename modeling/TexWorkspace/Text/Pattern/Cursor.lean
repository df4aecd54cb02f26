import TexWorkspace.Text.CharSet
import TexWorkspace.Text.Pattern.Fault

set_option autoImplicit false

/-!
A place in the text of a pattern, and moving on from it. Where blanks are loose, blanks and comments
between the parts of a pattern mean nothing.
-/

namespace TexWorkspace.Text.Pattern

structure Cursor where
  place : Nat
  rest : List Char
  deriving DecidableEq, Repr

namespace Cursor

def here (cursor : Cursor) : Stretch :=
  ⟨cursor.place, cursor.place⟩

def next (cursor : Cursor) : Stretch :=
  ⟨cursor.place, cursor.place + 1⟩

/-- The place some characters on, or the end of the text. -/
def onward (place : Nat) (rest : List Char) : Nat → Cursor
  | 0 => ⟨place, rest⟩
  | more + 1 =>
      match rest with
      | [] => ⟨place, []⟩
      | _ :: later => onward (place + 1) later more

def drop (cursor : Cursor) (count : Nat) : Cursor :=
  onward cursor.place cursor.rest count

def past? (cursor : Cursor) (text : String) : Option Cursor :=
  if text.toList.isPrefixOf cursor.rest then some (cursor.drop text.length) else none

def pastBlanks (cursor : Cursor) : Cursor :=
  cursor.drop (cursor.rest.takeWhile isBlank).length

/-- The place after the blanks and the comments that stand here. A comment starts at a hash and
takes the rest of its line. -/
def pastLoose (comment : Bool) (place : Nat) : List Char → Cursor
  | [] => ⟨place, []⟩
  | c :: rest =>
      if comment then pastLoose (c ≠ '\n') (place + 1) rest
      else if isBlank c then pastLoose false (place + 1) rest
      else if c = '#' then pastLoose true (place + 1) rest
      else ⟨place, c :: rest⟩

/-- The next place at which something means something. -/
def settle (loose : Bool) (cursor : Cursor) : Cursor :=
  if loose then pastLoose false cursor.place cursor.rest else cursor

def step (loose : Bool) (cursor : Cursor) : Cursor :=
  (cursor.drop 1).settle loose

def second? (loose : Bool) (cursor : Cursor) : Option Char :=
  if loose then
    match (cursor.rest.drop 1).dropWhile isBlank with
    | '#' :: rest => (rest.dropWhile isBlank).head?
    | rest => rest.head?
  else (cursor.rest.drop 1).head?

/-- The characters of a kind that stand here, each with its place, and the place after them. The
last of those found so far comes first; what is loose is passed over only after one is found. -/
def gather (loose : Bool) (keep : Char → Bool) (found : List (Nat × Char)) (comment : Bool)
    (place : Nat) : List Char → List (Nat × Char) × Cursor
  | [] => (found.reverse, ⟨place, []⟩)
  | c :: rest =>
      let passes := loose && !found.isEmpty
      if passes && comment then gather loose keep found (c ≠ '\n') (place + 1) rest
      else if passes && isBlank c then gather loose keep found false (place + 1) rest
      else if passes && c = '#' then gather loose keep found true (place + 1) rest
      else if keep c then gather loose keep ((place, c) :: found) false (place + 1) rest
      else (found.reverse, ⟨place, c :: rest⟩)

def span (loose : Bool) (keep : Char → Bool) (cursor : Cursor) : List (Nat × Char) × Cursor :=
  gather loose keep [] false cursor.place cursor.rest

end Cursor

end TexWorkspace.Text.Pattern
