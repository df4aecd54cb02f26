import TexWorkspace.Json.Scan

set_option autoImplicit false

/-!
Passing over a whole JSON value without keeping anything of it. What is open is kept on a stack, so
values may be nested to any depth.
-/

namespace TexWorkspace.Json

inductive Frame where
  | list
  | object
  deriving DecidableEq, Repr

def Frame.closer : Frame → Char
  | .list => ']'
  | .object => '}'

/-- What the text has to go on with. -/
inductive Awaited where
  | value
  | firstItem (frame : Frame)
  | nextItem
  deriving DecidableEq, Repr

/-- Ranks what is awaited, so that passing over nothing still makes progress. -/
def Awaited.rank : Awaited → Nat
  | .firstItem _ => 2
  | .value => 1
  | .nextItem => 0

def colon (chars : List Char) : Except Fault (List Char) :=
  match skipBlanks chars with
  | [] => .error .truncated
  | ':' :: rest => .ok rest
  | _ => .error .malformed

def skipKey (chars : List Char) : Except Fault (List Char) :=
  match skipBlanks chars with
  | [] => .error .truncated
  | '"' :: rest => (skipString rest).bind colon
  | _ => .error .malformed

def skipItemStart (frame : Frame) (chars : List Char) : Except Fault (List Char) :=
  match frame with
  | .list => .ok chars
  | .object => skipKey chars

/-- Passes over a value that starts with `c` and holds no others. -/
def skipScalar (c : Char) (rest : List Char) : Except Fault (List Char) :=
  match c with
  | 'n' => literal ['u', 'l', 'l'] rest
  | 't' => literal ['r', 'u', 'e'] rest
  | 'f' => literal ['a', 'l', 's', 'e'] rest
  | '"' => skipString rest
  | '-' => skipNumber rest
  | _ => if c.isDigit then skipNumber (c :: rest) else .error .malformed

theorem skipBlanks_length (chars : List Char) : (skipBlanks chars).length ≤ chars.length :=
  length_dropWhile_le isBlank chars

theorem literal_length {expected chars rest : List Char}
    (read : literal expected chars = .ok rest) :
    rest.length ≤ chars.length := by
  fun_induction literal expected chars with
  | case1 => simp_all
  | case2 => simp at read
  | case3 expected more chars ih => exact Nat.le_succ_of_le (ih read)
  | case4 => simp at read

theorem colon_length {chars rest : List Char} (read : colon chars = .ok rest) :
    rest.length ≤ chars.length := by
  have blanks := skipBlanks_length chars
  unfold colon at read
  split at read
  · simp at read
  · rename_i after ahead
    simp only [Except.ok.injEq] at read
    subst read
    rw [ahead] at blanks
    exact Nat.le_of_succ_le blanks
  · simp at read

theorem skipKey_length {chars rest : List Char} (read : skipKey chars = .ok rest) :
    rest.length ≤ chars.length := by
  have blanks := skipBlanks_length chars
  unfold skipKey at read
  split at read
  · simp at read
  · rename_i body ahead
    rw [ahead] at blanks
    cases text : skipString body with
    | error fault => simp [text, Except.bind] at read
    | ok after =>
        simp only [text, Except.bind] at read
        have shorter := skipString_length text
        have later := colon_length read
        simp only [List.length_cons] at blanks
        omega
  · simp at read

theorem skipItemStart_length {frame : Frame} {chars rest : List Char}
    (read : skipItemStart frame chars = .ok rest) : rest.length ≤ chars.length := by
  cases frame with
  | list =>
      simp only [skipItemStart, Except.ok.injEq] at read
      exact Nat.le_of_eq (congrArg List.length read.symm)
  | object => exact skipKey_length read

theorem skipScalar_length {c : Char} {chars rest : List Char}
    (read : skipScalar c chars = .ok rest) : rest.length ≤ (c :: chars).length := by
  unfold skipScalar at read
  split at read
  · exact Nat.le_succ_of_le (literal_length read)
  · exact Nat.le_succ_of_le (literal_length read)
  · exact Nat.le_succ_of_le (literal_length read)
  · exact Nat.le_succ_of_le (Nat.le_of_lt (skipString_length read))
  · exact Nat.le_succ_of_le (skipNumber_length read)
  · split at read
    · exact skipNumber_length read
    · simp at read

/-- Passes over what is awaited and over the rest of everything that is open. -/
def skip (awaited : Awaited) (frames : List Frame) (chars : List Char) :
    Except Fault (List Char) :=
  match awaited with
  | .value =>
      match _ahead : skipBlanks chars with
      | [] => .error .truncated
      | c :: rest =>
          if c = '[' then skip (.firstItem .list) frames rest
          else if c = '{' then skip (.firstItem .object) frames rest
          else
            match _read : skipScalar c rest with
            | .error fault => .error fault
            | .ok after => skip .nextItem frames after
  | .firstItem frame =>
      match _ahead : skipBlanks chars with
      | [] => .error .truncated
      | c :: rest =>
          if c = frame.closer then skip .nextItem frames rest
          else
            match _read : skipItemStart frame (c :: rest) with
            | .error fault => .error fault
            | .ok after => skip .value (frame :: frames) after
  | .nextItem =>
      match frames with
      | [] => .ok chars
      | frame :: outer =>
          match _ahead : skipBlanks chars with
          | [] => .error .truncated
          | c :: rest =>
              if c = ',' then
                match _read : skipItemStart frame rest with
                | .error fault => .error fault
                | .ok after => skip .value (frame :: outer) after
              else if c = frame.closer then skip .nextItem outer rest
              else .error .malformed
termination_by 3 * chars.length + awaited.rank
decreasing_by
  all_goals
    have blanks := skipBlanks_length chars
    rw [_ahead] at blanks
    simp only [List.length_cons] at blanks
    simp only [Awaited.rank]
  · omega
  · omega
  · have later := skipScalar_length _read
    simp only [List.length_cons] at later
    omega
  · omega
  · have later := skipItemStart_length _read
    simp only [List.length_cons] at later
    omega
  · have later := skipItemStart_length _read
    omega
  · omega

def skipValue (chars : List Char) : Except Fault (List Char) :=
  skip .value [] chars

end TexWorkspace.Json
