import TexWorkspace.Json.Skip

set_option autoImplicit false

/-!
Reading JSON text into the types it was written from. The text is read once, from left to right, so
the first problem met is the one reported: text of the wrong shape is refused before anything wrong
further on is seen. A record may be written as an object or as the list of its fields.
-/

namespace TexWorkspace.Json

/-- Reads a value from the front of a text. -/
abbrev Reader (α : Type) := List Char → Except Fault (α × List Char)

def unexpected (expected : String) (chars : List Char) : Fault :=
  let wrong (found : Found) : Fault := .mismatch (.wrongType found expected)
  let afterLiteral (more rest : List Char) (found : Found) : Fault :=
    match literal more rest with
    | .error fault => fault
    | .ok _ => wrong found
  let afterNumber (positive : Bool) (rest : List Char) : Fault :=
    match number positive rest with
    | .error fault => fault
    | .ok (value, _) => wrong (.number value)
  match chars with
  | [] => .truncated
  | 'n' :: rest => afterLiteral ['u', 'l', 'l'] rest .null
  | 't' :: rest => afterLiteral ['r', 'u', 'e'] rest (.bool true)
  | 'f' :: rest => afterLiteral ['a', 'l', 's', 'e'] rest (.bool false)
  | '-' :: rest => afterNumber false rest
  | '"' :: rest =>
      match stringBody rest with
      | .error fault => fault
      | .ok (body, _) => wrong (.string (String.ofList body))
  | '[' :: _ => wrong .sequence
  | '{' :: _ => wrong .map
  | c :: rest => if c.isDigit then afterNumber true (c :: rest) else .malformed

def string : Reader String := fun chars =>
  match skipBlanks chars with
  | '"' :: rest => (stringBody rest).map fun (body, left) => (String.ofList body, left)
  | other => .error (unexpected "a string" other)

def word32Of : Number → Except Fault UInt32
  | .natural n =>
      if n < UInt32.size then .ok (UInt32.ofNat n)
      else .error (.mismatch (.wrongValue (.number (.natural n)) "u32"))
  | .negative n => .error (.mismatch (.wrongValue (.number (.negative n)) "u32"))
  | .real x => .error (.mismatch (.wrongType (.number (.real x)) "u32"))

def word32 : Reader UInt32 := fun chars =>
  let convert (read : Except Fault (Number × List Char)) : Except Fault (UInt32 × List Char) := do
    let (value, rest) ← read
    return (← word32Of value, rest)
  match skipBlanks chars with
  | '-' :: rest => convert (number false rest)
  | c :: rest =>
      if c.isDigit then convert (number true (c :: rest))
      else .error (unexpected "u32" (c :: rest))
  | [] => .error .truncated

/-! ## Lists -/

/-- Goes to the next item of a list; at the end of the list there is none. -/
def nextItem (isFirst : Bool) (chars : List Char) : Except Fault (Option (List Char)) :=
  match skipBlanks chars with
  | [] => .error .truncated
  | ']' :: _ => .ok none
  | c :: rest =>
      if isFirst then .ok (some (c :: rest))
      else if c = ',' then
        match skipBlanks rest with
        | [] => .error .truncated
        | ']' :: _ => .error .malformed
        | item => .ok (some item)
      else .error .malformed

def listEnd (chars : List Char) : Except Fault (List Char) :=
  match skipBlanks chars with
  | [] => .error .truncated
  | ']' :: rest => .ok rest
  | _ => .error .malformed

/-- Reads the items of a list, up to its end. An item always takes some text. -/
def items {α : Type} (item : Reader α) (isFirst : Bool) (chars : List Char) :
    Except Fault (List α × List Char) :=
  match nextItem isFirst chars with
  | .error fault => .error fault
  | .ok none => .ok ([], chars)
  | .ok (some start) =>
      match item start with
      | .error fault => .error fault
      | .ok (value, rest) =>
          if rest.length < chars.length then
            (items item false rest).map fun (values, left) => (value :: values, left)
          else .error .malformed
termination_by chars.length

def list {α : Type} (item : Reader α) : Reader (List α) := fun chars =>
  match skipBlanks chars with
  | '[' :: rest => do
      let (values, rest) ← items item true rest
      return (values, ← listEnd rest)
  | other => .error (unexpected "a sequence" other)

/-! ## Records -/

/-- One field of a record: its name, whether it has been read, and how to read it. -/
structure FieldReader (σ : Type) where
  name : String
  isSet : σ → Bool
  read : σ → Reader σ

/-- How a record is read: its fields in order into a draft `σ`, and the draft into the record. A
record of optional fields may be written as a list that ends early. -/
structure Shape (σ α : Type) where
  title : String
  fields : List (FieldReader σ)
  start : σ
  optional : Bool := false
  finish : σ → Except Mismatch α

def require {α : Type} (name : String) : Option α → Except Mismatch α
  | some value => .ok value
  | none => .error (.missing name)

def FieldReader.of {σ α : Type} (name : String) (get : σ → Option α) (set : σ → α → σ)
    (reader : Reader α) : FieldReader σ :=
  { name
    isSet := fun draft => (get draft).isSome
    read := fun draft chars => (reader chars).map fun (value, rest) => (set draft value, rest) }

def nextKey (isFirst : Bool) (chars : List Char) :
    Except Fault (Option (String × List Char)) :=
  let key (chars : List Char) : Except Fault (Option (String × List Char)) :=
    match chars with
    | [] => .error .truncated
    | '"' :: rest => (stringBody rest).map fun (body, left) => some (String.ofList body, left)
    | _ => .error .malformed
  match skipBlanks chars with
  | [] => .error .truncated
  | '}' :: _ => .ok none
  | c :: rest =>
      if isFirst then key (c :: rest)
      else if c = ',' then key (skipBlanks rest)
      else .error .malformed

def objectEnd (chars : List Char) : Except Fault (List Char) :=
  match skipBlanks chars with
  | [] => .error .truncated
  | '}' :: rest => .ok rest
  | _ => .error .malformed

/-- Reads the value of a key into the draft. The value of a key that is no field is passed over. -/
def member {σ : Type} (fields : List (FieldReader σ)) (draft : σ) (key : String)
    (chars : List Char) : Except Fault (σ × List Char) :=
  match fields.find? fun field => field.name = key with
  | some field =>
      if field.isSet draft then .error (.mismatch (.duplicate key))
      else do field.read draft (← colon chars)
  | none => do return (draft, ← skipValue (← colon chars))

def members {σ : Type} (fields : List (FieldReader σ)) (isFirst : Bool) (draft : σ)
    (chars : List Char) : Except Fault (σ × List Char) :=
  match nextKey isFirst chars with
  | .error fault => .error fault
  | .ok none => .ok (draft, chars)
  | .ok (some (key, afterKey)) =>
      match member fields draft key afterKey with
      | .error fault => .error fault
      | .ok (extended, rest) =>
          if rest.length < chars.length then members fields false extended rest
          else .error .malformed
termination_by chars.length

/-- Reads the fields of a record that is written as a list. -/
def positional {σ : Type} (short : Nat → Option Mismatch) (count : Nat) (draft : σ)
    (chars : List Char) : List (FieldReader σ) → Except Fault (σ × List Char)
  | [] => .ok (draft, chars)
  | field :: more =>
      match nextItem (count = 0) chars with
      | .error fault => .error fault
      | .ok none =>
          match short count with
          | some mismatch => .error (.mismatch mismatch)
          | none => .ok (draft, chars)
      | .ok (some start) =>
          match field.read draft start with
          | .error fault => .error fault
          | .ok (extended, rest) => positional short (count + 1) extended rest more

def Shape.short {σ α : Type} (shape : Shape σ α) (count : Nat) : Option Mismatch :=
  if shape.optional then none
  else
    some (.wrongLength count
      (shape.title ++ " with " ++ toString shape.fields.length ++ " elements"))

def Shape.conclude {σ α : Type} (shape : Shape σ α) (draft : σ) : Except Fault α :=
  match shape.finish draft with
  | .ok value => .ok value
  | .error mismatch => .error (.mismatch mismatch)

def Shape.read {σ α : Type} (shape : Shape σ α) : Reader α := fun chars =>
  match skipBlanks chars with
  | '[' :: rest => do
      let (draft, rest) ← positional shape.short 0 shape.start rest shape.fields
      let value ← shape.conclude draft
      return (value, ← listEnd rest)
  | '{' :: rest => do
      let (draft, rest) ← members shape.fields true shape.start rest
      let value ← shape.conclude draft
      return (value, ← objectEnd rest)
  | other => .error (unexpected shape.title other)

def readAll {α : Type} (reader : Reader α) (text : String) : Except Fault α := do
  let (value, rest) ← reader text.toList
  if (skipBlanks rest).isEmpty then return value else throw .malformed

end TexWorkspace.Json
