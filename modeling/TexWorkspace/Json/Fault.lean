import TexWorkspace.Text.Quoted
import TexWorkspace.Text.Shortest

set_option autoImplicit false

/-!
What can go wrong when a value is read from JSON text.
-/

namespace TexWorkspace.Json

/-- A number, by how it is written: whole numbers that fit 64 bits, and all others. -/
inductive Number where
  | natural (n : Nat)
  | negative (n : Nat)
  | real (x : Float)

inductive Found where
  | null
  | bool (value : Bool)
  | number (value : Number)
  | string (value : String)
  | sequence
  | map

def Found.describe : Found → String
  | .null => "null"
  | .bool value => "boolean `" ++ (if value then "true" else "false") ++ "`"
  | .number (.natural n) => "integer `" ++ toString n ++ "`"
  | .number (.negative n) => "integer `-" ++ toString n ++ "`"
  | .number (.real x) => "floating point `" ++ Text.floatText x ++ "`"
  | .string value => "string " ++ Text.quoted value
  | .sequence => "sequence"
  | .map => "map"

inductive Mismatch where
  | wrongType (found : Found) (expected : String)
  | wrongValue (found : Found) (expected : String)
  | wrongLength (count : Nat) (expected : String)
  | missing (field : String)
  | duplicate (field : String)

def Mismatch.message : Mismatch → String
  | .wrongType found expected => "invalid type: " ++ found.describe ++ ", expected " ++ expected
  | .wrongValue found expected => "invalid value: " ++ found.describe ++ ", expected " ++ expected
  | .wrongLength count expected =>
      "invalid length " ++ toString count ++ ", expected " ++ expected
  | .missing field => "missing field `" ++ field ++ "`"
  | .duplicate field => "duplicate field `" ++ field ++ "`"

/-- Why reading stopped: the text ended, it is no JSON, or it has the wrong shape. -/
inductive Fault where
  | truncated
  | malformed
  | mismatch (cause : Mismatch)

end TexWorkspace.Json
