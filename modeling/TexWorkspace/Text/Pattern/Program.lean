import TexWorkspace.Text.Pattern

set_option autoImplicit false

/-!
Whether a text has a part that fits a pattern. A pattern is written out as steps, which are followed
through the text from every place at once: at each place there is a set of steps that have been
reached, so a text is gone through once, however a pattern repeats its parts.
-/

namespace TexWorkspace.Text.Pattern

inductive Step where
  /-- Takes the given character. -/
  | char (c : Char)
  /-- Takes a character of a set. -/
  | one (set : CharSet)
  /-- Goes on if the place meets a condition. -/
  | check (condition : Condition)
  /-- Goes on with the next step and with another one. -/
  | fork (other : Nat)
  /-- Goes on with the given step. -/
  | jump (target : Nat)
  /-- The text fits. -/
  | stop
  deriving DecidableEq, Repr

abbrev Code := Array Step

/-! ## Writing programs -/

/-- Code with more of it that can leave by way of one step, which leads to the end of it all. -/
def withExit (write : Nat → Code → Code) (code : Code) : Code :=
  let exit := code.size + 1
  let written := write exit ((code.push (.jump (exit + 1))).push .stop)
  let stop := written.size
  written.setIfInBounds exit (.jump stop)

def withBranch (target : Nat) (code : Code) (write : Code → Code) : Code :=
  let fork := code.size
  let written := (write (code.push .stop)).push (.jump target)
  let next := written.size
  written.setIfInBounds fork (.fork next)

def withDeadEnd (code : Code) : Code :=
  code.push (.one .empty)

def withBranches (branches : List (Code → Code)) : Code → Code :=
  withExit fun exit code => withDeadEnd (branches.foldl (withBranch exit) code)

/-- Code with something repeated. What may be repeated without end and need not be there is a branch
that goes on where it starts. -/
def withCount (count : Count) (write : Code → Code) (code : Code) : Code :=
  match count.most, count.least with
  | none, 0 => withBranch code.size code write
  | none, more + 1 =>
      let before := Nat.repeat write more code
      let start := before.size
      (write before).push (.fork start)
  | some most, least =>
      let optional (exit : Nat) (code : Code) : Code :=
        Nat.repeat (fun code => write (code.push (.fork exit))) (most - least) code
      withExit optional (Nat.repeat write least code)

/-- How each kind of pattern is written out after other code. What nothing can fit is not written
out again and again. -/
def writing : Rule (Code → Code) where
  nothing := id
  literal := fun chars code => chars.foldl (fun code c => code.push (.char c)) code
  one := fun set _ code => code.push (.one set)
  place := fun condition code => code.push (.check condition)
  repeated := fun (item, write) count =>
    if !item.isHopeless then withCount count write
    else if count.least = 0 then id
    else withDeadEnd
  captured := fun (_, write) _ => write
  sequence := fun parts code => parts.foldl (fun code (_, write) => write code) code
  either := fun parts => withBranches (parts.map Prod.snd)

def code (pattern : Pattern) : Code :=
  (measure writing pattern #[]).push .stop

/-! ## Following programs -/

/-- How far a program has been followed at a place: for each step the number of the last place at
which it was reached, the steps that wait for a character, and whether the text fits. -/
structure Front where
  reached : Array Nat
  waiting : List Nat := []
  fits : Bool := false

def Step.takes : Step → Char → Bool
  | .char c, next => c == next
  | .one set, next => set.contains next
  | _, _ => false

/-- Follows steps as far as they go at one place, which has the given number. Each step is taken
once and leads to at most two others, which bounds their number. -/
def follow (code : Code) (around : Surroundings) (place : Nat) : Nat → List Nat → Front → Front
  | 0, _, front => front
  | _ + 1, [], front => front
  | fuel + 1, step :: more, front =>
      if front.reached.getD step place = place then follow code around place fuel more front
      else
        let front := { front with reached := front.reached.setIfInBounds step place }
        match code[step]? with
        | none => follow code around place fuel more front
        | some .stop => { front with fits := true }
        | some (.jump target) => follow code around place fuel (target :: more) front
        | some (.fork other) => follow code around place fuel ((step + 1) :: other :: more) front
        | some (.check condition) =>
            if condition.holds around then
              follow code around place fuel ((step + 1) :: more) front
            else follow code around place fuel more front
        | some _ =>
            follow code around place fuel more { front with waiting := step :: front.waiting }

def arrive (code : Code) (around : Surroundings) (place : Nat) (steps : List Nat)
    (reached : Array Nat) : Front :=
  follow code around place (steps.length + 2 * code.size + 2) (0 :: steps) { reached }

/-- Whether the text that is left makes the text fit, of which a character may stand before. Places
have numbers from one. -/
def run (code : Code) (before : Option Char) (place : Nat) (steps : List Nat)
    (reached : Array Nat) : List Char → Bool
  | [] => (arrive code (before, none) place steps reached).fits
  | c :: rest =>
      let front := arrive code (before, some c) place steps reached
      if front.fits then true
      else
        let taken := front.waiting.filter fun step => code[step]?.any (·.takes c)
        run code (some c) (place + 1) (taken.map (· + 1)) front.reached rest

def fits (pattern : Pattern) (text : List Char) : Bool :=
  let code := pattern.code
  run code none 1 [] (Array.replicate code.size 0) text

end TexWorkspace.Text.Pattern
