import TexWorkspace.Proofs.Bib.Discipline
import TexWorkspace.Proofs.Bib.KeyForm
import TexWorkspace.Proofs.CommandLine.NewProject

set_option autoImplicit false

/-!
The list of keys that the command line prints. A key can hold a newline, since a backslash takes
any character along; but then it holds the backslash as well. Main statement: the output consists of
one logical line for each key, where a line that ends in a backslash goes on behind its newline.
-/

namespace TexWorkspace.Text

/-! ## Logical lines -/

/-- Every newline stands right behind a backslash. -/
def NewlinesEscaped (text : List Char) : Prop :=
  ∀ before after, text = before ++ '\n' :: after → before.getLast? = some '\\'

/-- Joins every line that ends in a backslash with the line behind it. -/
def joinContinued : List (List Char) → List (List Char)
  | [] => []
  | line :: rest =>
      if line.getLast? = some '\\' then
        match joinContinued rest with
        | [] => [line]
        | next :: more => (line ++ '\n' :: next) :: more
      else line :: joinContinued rest

/-- The lines of a text, where a line that ends in a backslash goes on behind its newline. -/
def logicalLines (text : List Char) : List (List Char) :=
  joinContinued (cut '\n' text)

theorem newlinesEscaped_nil : NewlinesEscaped [] := by
  intro before after split
  simp at split

theorem NewlinesEscaped.cons {c : Char} {rest : List Char} (other : c ≠ '\n')
    (escaped : NewlinesEscaped rest) : NewlinesEscaped (c :: rest) := by
  intro before after split
  cases before with
  | nil => exact absurd (List.cons.inj split).1 other
  | cons first before =>
      have last := escaped before after (List.cons.inj split).2
      rw [List.getLast?_cons, last]
      rfl

theorem NewlinesEscaped.append_of_notMem {text behind : List Char} (escaped : NewlinesEscaped text)
    (unmarked : '\n' ∉ behind) : NewlinesEscaped (text ++ behind) := by
  intro before after split
  rcases List.append_eq_append_iff.mp split with ⟨more, rfl, inner⟩ | ⟨more, rfl, inner⟩
  · exact absurd (inner ▸ by simp) unmarked
  · cases more with
    | nil => exact absurd (by simp [← inner.trans (List.nil_append behind)]) unmarked
    | cons first more =>
        obtain ⟨rfl, -⟩ := List.cons.inj inner
        exact escaped before more rfl

theorem NewlinesEscaped.behind {before after : List Char}
    (escaped : NewlinesEscaped (before ++ '\n' :: after)) : NewlinesEscaped after := by
  intro front back split
  have whole := escaped (before ++ '\n' :: front) back (by simp [split])
  cases front with
  | nil => simp at whole
  | cons first front => simpa using whole

/-- A line whose newlines all stand behind backslashes is one logical line, if it ends otherwise. -/
theorem logicalLines_append_cons {line : List Char} (escaped : NewlinesEscaped line)
    (ends : line.getLast? ≠ some '\\') (rest : List Char) :
    logicalLines (line ++ '\n' :: rest) = line :: logicalLines rest := by
  -- From newline to newline: what stands behind the first one is a shorter line of the same form.
  induction measured : line.length using Nat.strong_induction_on generalizing line with
  | _ size ih =>
      by_cases marked : '\n' ∈ line
      · obtain ⟨before, after, rfl, unmarked⟩ := List.eq_append_cons_of_mem marked
        have goesOn := escaped before after rfl
        have afterEnds : after.getLast? ≠ some '\\' := by
          intro last
          refine ends ?_
          cases after with
          | nil => cases last
          | cons first after => simpa using last
        have shorter : after.length < size := by
          rw [← measured, List.length_append, List.length_cons]
          omega
        have behind := ih after.length shorter escaped.behind afterEnds rfl
        rw [logicalLines] at behind
        rw [logicalLines, List.append_assoc, List.cons_append, cut_append_cons _ unmarked,
          joinContinued, if_pos goesOn, behind]
      · rw [logicalLines, cut_append_cons _ marked, joinContinued, if_neg ends]
        rfl

example : logicalLines "a\\\nb\nc".toList = ["a\\\nb".toList, "c".toList] := by
  decide

/-- Such lines, each ended by a newline, are found again; behind the last one there is nothing. -/
theorem logicalLines_flatMap {lines : List (List Char)}
    (escaped : ∀ line ∈ lines, NewlinesEscaped line)
    (ends : ∀ line ∈ lines, line.getLast? ≠ some '\\') :
    logicalLines (lines.flatMap (· ++ ['\n'])) = lines ++ [[]] := by
  induction lines with
  | nil => rfl
  | cons line lines ih =>
      obtain ⟨escapedHere, escapedBehind⟩ := List.forall_mem_cons.mp escaped
      obtain ⟨endsHere, endsBehind⟩ := List.forall_mem_cons.mp ends
      rw [List.flatMap_cons, List.append_assoc, List.singleton_append,
        logicalLines_append_cons escapedHere endsHere, ih escapedBehind endsBehind]
      rfl

/-- Cutting at every newline finds the lines exactly if no line holds one. -/
theorem cut_flatMap_iff {lines : List (List Char)} :
    cut '\n' (lines.flatMap (· ++ ['\n'])) = lines ++ [[]] ↔ ∀ line ∈ lines, '\n' ∉ line := by
  constructor
  · intro pieces line member
    have piece : line ∈ cut '\n' (lines.flatMap (· ++ ['\n'])) := by simp [pieces, member]
    exact (notMem_of_mem_cut piece).1
  · intro unmarked
    induction lines with
    | nil => rfl
    | cons line lines ih =>
        obtain ⟨here, behind⟩ := List.forall_mem_cons.mp unmarked
        rw [List.flatMap_cons, List.append_assoc, List.singleton_append, cut_append_cons _ here,
          ih behind]
        rfl

end TexWorkspace.Text

namespace TexWorkspace.Bib

/-! ## Newlines in keys -/

theorem Units.newlinesEscaped {units : List Char} (formed : Units units) :
    Text.NewlinesEscaped units := by
  induction formed with
  | nil => exact Text.newlinesEscaped_nil
  | @plain c rest plain formed ih =>
      have other : c ≠ '\n' := by
        rintro rfl
        exact absurd plain.filled (by decide)
      exact .cons other ih
  | @escaped c rest formed ih =>
      intro before after split
      cases before with
      | nil => exact absurd (List.cons.inj split).1 (by decide)
      | cons first before =>
          obtain ⟨rfl, behind⟩ := List.cons.inj split
          cases before with
          | nil => rfl
          | cons second before =>
              have last := ih before after (List.cons.inj behind).2
              rw [List.getLast?_cons, List.getLast?_cons, last]
              rfl

/-- A name of a text is made up of units, but the last token can end in a single backslash. -/
theorem Disciplined.units_of_name {tokens : List Token} (disciplined : Disciplined tokens)
    {name : Token} (member : name ∈ tokens) (isName : name.isName = true) :
    ∃ units, Units units ∧ (name.text.toList = units ∨ name.text.toList = units ++ ['\\']) := by
  induction disciplined with
  | nil => cases member
  | @unpaired units formed =>
      obtain rfl := List.mem_singleton.mp member
      exact ⟨units, formed, .inr String.toList_ofList⟩
  | cons formed _ _ ih =>
      rcases List.mem_cons.mp member with rfl | member
      · cases formed with
        | mark listed => cases (punctuation?_ne_name (mem_marks_iff.mp listed) _).symm.trans isName
        | blank _ _ => cases isName
        | comment _ => cases isName
        | number _ digits => exact ⟨_, .of_digits digits, .inl String.toList_ofList⟩
        | word _ formed => exact ⟨_, formed, .inl String.toList_ofList⟩
      · exact ih member

theorem Grammar.Key.isName {name : Token} {tokens : List Token} (key : Grammar.Key name tokens) :
    name.isName = true := by
  cases key with
  | alone _ isName => exact isName
  | separated _ isName _ _ => exact isName

/-- A newline in a key stands right behind a backslash. -/
theorem newlinesEscaped_of_record {text : String} {record : Record}
    (listed : record ∈ records text) : Text.NewlinesEscaped record.key.toList := by
  obtain ⟨entry, among, made⟩ := List.mem_filterMap.mp listed
  obtain ⟨key, found, rfl⟩ := Option.map_eq_some_iff.mp made
  obtain ⟨name, formed, same⟩ := KeyNode.formed among found
  obtain ⟨_, _, _, _, _, _, within⟩ := exists_of_key? among found
  have lexed : name ∈ lex text := mem_lex_of_within within formed.mem
  obtain ⟨units, isUnits, spelled | spelled⟩ :=
    (lexChars_disciplined text.toList).units_of_name lexed formed.isName
  · rw [same, spelled]
    exact isUnits.newlinesEscaped
  · rw [same, spelled]
    exact isUnits.newlinesEscaped.append_of_notMem (by decide)

end TexWorkspace.Bib

namespace TexWorkspace.CommandLine

open Files

/-! ## The listing -/

/-- The line of a key, without the newline at its end. -/
def keyLine (key : String) : String :=
  "Id\x7b" ++ key ++ "\x7d"

theorem keyListing_eq (text : String) :
    keyListing text false =
      String.join ((Bib.records text).map fun record => keyLine record.key ++ "\n") := by
  have keys : (Bib.Document.ofText text).keys.map Bib.KeyNode.identifier =
      (Bib.records text).map Bib.Record.key := by
    rw [Bib.records, Bib.Document.records, Bib.Document.keys, List.map_filterMap,
      List.map_filterMap]
    refine List.filterMap_congr fun entry _ => ?_
    rw [Bib.Entry.record?, Option.map_map]
    rfl
  calc keyListing text false
      = String.join (((Bib.Document.ofText text).keys.map Bib.KeyNode.identifier).map
          fun key => keyLine key ++ "\n") := by rw [List.map_map]; rfl
    _ = _ := by rw [keys, List.map_map]; rfl

/-- The lines of the keys of a text, in the order of its records. -/
def keyLines (text : String) : List (List Char) :=
  (Bib.records text).map fun record => (keyLine record.key).toList

theorem toList_keyListing (text : String) :
    (keyListing text false).toList = (keyLines text).flatMap (· ++ ['\n']) := by
  rw [keyListing_eq]
  simp [keyLines, String.toList_join, List.flatMap_map]

theorem newline_mem_keyLine_iff (key : String) :
    '\n' ∈ (keyLine key).toList ↔ '\n' ∈ key.toList := by
  simp [keyLine]

theorem newlinesEscaped_keyLine {key : String} (escaped : Text.NewlinesEscaped key.toList) :
    Text.NewlinesEscaped (keyLine key).toList := by
  have spelled : (keyLine key).toList = 'I' :: 'd' :: '\x7b' :: (key.toList ++ ['\x7d']) := by
    simp [keyLine]
  rw [spelled]
  exact .cons (by decide) (.cons (by decide) (.cons (by decide)
    (escaped.append_of_notMem (by decide))))

theorem getLast?_keyLine (key : String) : (keyLine key).toList.getLast? = some '\x7d' := by
  rw [keyLine, String.toList_append, List.getLast?_append]
  rfl

theorem logicalLines_keyListing (text : String) :
    Text.logicalLines (keyListing text false).toList = keyLines text ++ [[]] := by
  rw [toList_keyListing]
  refine Text.logicalLines_flatMap ?_ ?_
  · intro line member
    obtain ⟨record, listed, rfl⟩ := List.mem_map.mp member
    exact newlinesEscaped_keyLine (Bib.newlinesEscaped_of_record listed)
  · intro line member
    obtain ⟨record, listed, rfl⟩ := List.mem_map.mp member
    rw [getLast?_keyLine]
    decide

theorem cut_keyListing_iff (text : String) :
    Text.cut '\n' (keyListing text false).toList = keyLines text ++ [[]] ↔
      ∀ record ∈ Bib.records text, '\n' ∉ record.key.toList := by
  rw [toList_keyListing, Text.cut_flatMap_iff, keyLines, List.forall_mem_map]
  simp only [newline_mem_keyLine_iff]

/-! ## Running -/

section

variable {σ : Type} {machine : Machine (StateM σ)} {arguments : List String} {path : Path}
  {text : String} {before after : σ}

theorem run_of_held (asked : command? arguments = some (.ids path false))
    (held : machine.readText path before = (.ok text, after)) :
    run machine arguments before =
      ({ exitCode := 0
         output := keyListing text false
         log := (Bib.parse text).diagnostics.map (problemNote path) }, after) := by
  simp only [run, asked, Command.run, runIds, bind, StateT.bind, held]
  rfl

/-- For every file that can be read, the keys of its records are printed in order, each in a line of
its own. A newline in a key stands behind a backslash, so the lines of the keys are the logical
lines of the output; they are its lines exactly if no key holds a newline. -/
theorem run_ids (asked : command? arguments = some (.ids path false))
    (held : machine.readText path before = (.ok text, after)) :
    ∃ outcome, run machine arguments before = (outcome, after) ∧ outcome.exitCode = 0 ∧
      outcome.output =
        String.join ((Bib.records text).map fun record => keyLine record.key ++ "\n") ∧
      (∀ record ∈ Bib.records text, Text.NewlinesEscaped record.key.toList) ∧
      Text.logicalLines outcome.output.toList = keyLines text ++ [[]] ∧
      (Text.cut '\n' outcome.output.toList = keyLines text ++ [[]] ↔
        ∀ record ∈ Bib.records text, '\n' ∉ record.key.toList) :=
  ⟨_, run_of_held asked held, rfl, keyListing_eq text,
    fun _ listed => Bib.newlinesEscaped_of_record listed, logicalLines_keyListing text,
    cut_keyListing_iff text⟩

end

/-- A file whose only key goes on behind the end of a line. -/
def brokenText : String := "@misc\x7ba\\\nb\x7d"

def brokenDisk : Disk :=
  ({} : Disk).put ["refs.bib"] (.file brokenText.toUTF8)

theorem readText_brokenDisk : brokenDisk.readText ⟨"refs.bib"⟩ = .ok brokenText := by
  have free : ({} : Disk).resolve .create ⟨"refs.bib"⟩ = .ok (.vacant [] "refs.bib") := by
    have names : Path.segments "refs.bib" = ["refs.bib"] := rfl
    have followed : Disk.Followed .create "refs.bib" [] :=
      ⟨by decide, by decide, by simp, by decide⟩
    exact Disk.resolve_of_leads names rfl (.vacant followed rfl)
  have written : ({} : Disk).writeFile ⟨"refs.bib"⟩ brokenText.toUTF8 = .ok brokenDisk := by
    rw [Disk.writeFile, free]
    rfl
  exact Disk.readText_of_writeFile written

theorem asked_refs : command? ["ids", "refs.bib"] = some (.ids ⟨"refs.bib"⟩ false) := by
  decide +kernel

theorem run_ids_broken :
    command? ["ids", "refs.bib"] = some (.ids ⟨"refs.bib"⟩ false) ∧
      brokenDisk.readText ⟨"refs.bib"⟩ = .ok brokenText ∧
      ∃ outcome, run (Machine.onDisk ⟨"2024-05-01", "kim"⟩) ["ids", "refs.bib"] brokenDisk =
          (outcome, brokenDisk) ∧
        Text.logicalLines outcome.output.toList = ["Id\x7ba\\\nb\x7d".toList, []] := by
  have held : (Machine.onDisk ⟨"2024-05-01", "kim"⟩).readText ⟨"refs.bib"⟩ brokenDisk =
      (.ok brokenText, brokenDisk) := congrArg (·, brokenDisk) readText_brokenDisk
  obtain ⟨outcome, ran, -, -, -, lines, -⟩ := run_ids asked_refs held
  have keys : keyLines brokenText = ["Id\x7ba\\\nb\x7d".toList] := by decide +kernel
  rw [keys] at lines
  exact ⟨asked_refs, readText_brokenDisk, outcome, ran, lines⟩

/-- The lines of the output are not always those of the keys: this key takes two of them. -/
theorem run_ids_not_cut : ¬ ∀ (session : Project.Session) (disk : Disk) (arguments : List String)
    (path : Path) (text : String), command? arguments = some (.ids path false) →
    disk.readText path = .ok text →
    Text.cut '\n' (run (Machine.onDisk session) arguments disk).1.output.toList =
      keyLines text ++ [[]] := by
  intro cut
  have held : (Machine.onDisk ⟨"2024-05-01", "kim"⟩).readText ⟨"refs.bib"⟩ brokenDisk =
      (.ok brokenText, brokenDisk) := congrArg (·, brokenDisk) readText_brokenDisk
  have lines := cut ⟨"2024-05-01", "kim"⟩ brokenDisk _ _ _ asked_refs readText_brokenDisk
  rw [run_of_held asked_refs held] at lines
  exact absurd lines (by decide +kernel)

end TexWorkspace.CommandLine
