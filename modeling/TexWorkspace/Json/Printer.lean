set_option autoImplicit false

/-!
Writing JSON text: two blanks for each level, one item or member a line, and an escape for every
character that may not stand in a string.
-/

namespace TexWorkspace.Json

inductive Value where
  | string (text : String)
  | number (n : Nat)
  | bool (value : Bool)
  | list (items : List Value)
  | object (members : List (String × Value))

def hexDigit (n : Nat) : Char :=
  if n < 10 then Char.ofNat ('0'.toNat + n) else Char.ofNat ('a'.toNat + (n - 10))

def escapeChar (c : Char) : List Char :=
  if c = '"' then ['\\', '"']
  else if c = '\\' then ['\\', '\\']
  else if c = '\n' then ['\\', 'n']
  else if c = '\r' then ['\\', 'r']
  else if c = '\t' then ['\\', 't']
  else if c = Char.ofNat 8 then ['\\', 'b']
  else if c = Char.ofNat 12 then ['\\', 'f']
  else if c.toNat < 0x20 then
    ['\\', 'u', '0', '0', hexDigit (c.toNat / 16), hexDigit (c.toNat % 16)]
  else [c]

def printString (text : String) : List Char :=
  '"' :: text.toList.flatMap escapeChar ++ ['"']

/-- A new line, indented to its level. -/
def newLine (level : Nat) : List Char :=
  '\n' :: List.replicate (2 * level) ' '

namespace Value

mutual

/-- The text of a value that starts at the given level. -/
def print (level : Nat) : Value → List Char
  | .string text => printString text
  | .number n => Nat.toDigits 10 n
  | .bool true => ['t', 'r', 'u', 'e']
  | .bool false => ['f', 'a', 'l', 's', 'e']
  | .list [] => ['[', ']']
  | .list (first :: more) =>
      '[' :: newLine (level + 1) ++ print (level + 1) first ++ printItems (level + 1) more ++
        newLine level ++ [']']
  | .object [] => ['{', '}']
  | .object ((key, first) :: more) =>
      '{' :: newLine (level + 1) ++ printString key ++ [':', ' '] ++ print (level + 1) first ++
        printMembers (level + 1) more ++ newLine level ++ ['}']

def printItems (level : Nat) : List Value → List Char
  | [] => []
  | item :: more => ',' :: newLine level ++ print level item ++ printItems level more

def printMembers (level : Nat) : List (String × Value) → List Char
  | [] => []
  | (key, value) :: more =>
      ',' :: newLine level ++ printString key ++ [':', ' '] ++ print level value ++
        printMembers level more

end

def pretty (value : Value) : String :=
  String.ofList (value.print 0)

end Value

end TexWorkspace.Json
