import TexWorkspace.Files.FileSystem
import TexWorkspace.Project.Layout
import TexWorkspace.Proofs.Files.Changes
import TexWorkspace.Proofs.Json.Rereading

set_option autoImplicit false

/-!
Stored layouts that say only some of their fields. Main statement: a file with an object that lists
some fields of a layout, in any order and between members of other names, is loaded as the layout
that agrees with it on those fields and is as usual elsewhere. What is saved lists all fields, so it
is loaded as it was.
-/

namespace TexWorkspace.Files.Disk

def reader (path : Path) : StateM Disk (Except IoError String) := fun disk =>
  (disk.readText path, disk)

theorem readText_of_holds {disk : Disk} {path : Path} {location : Location} {text : String}
    (holds : disk.Holds path location text.toUTF8) : disk.readText path = .ok text := by
  have found : disk.resolve .find path = .ok (.existing location (.file text.toUTF8)) := holds
  have decoded : String.fromUTF8? text.toUTF8 = some text := by
    rw [String.fromUTF8?, String.toUTF8_eq_toByteArray, dif_pos text.isValidUTF8]
    rfl
  rw [readText, found]
  simp only [decoded]

/-- What was written to a file is read from there. -/
theorem readText_of_writeFile {path : Path} {before after : Disk} {text : String}
    (written : before.writeFile path text.toUTF8 = .ok after) : after.readText path = .ok text := by
  obtain ⟨location, holds, -⟩ := Disk.writeFile_changes written
  exact readText_of_holds holds

end TexWorkspace.Files.Disk

namespace TexWorkspace.Project

open Files Json

namespace Layout

/-! ## Objects that list fields -/

inductive Field where
  | sourceDir
  | sourcePackage
  | extraSourceDirs
  | outputDir
  | auxiliaryDir
  | mainFile
  | template
  deriving DecidableEq

namespace Field

def name : Field → String
  | sourceDir => "source_dir"
  | sourcePackage => "source_prefix"
  | extraSourceDirs => "extra_source_dirs"
  | outputDir => "output_dir"
  | auxiliaryDir => "auxiliary_dir"
  | mainFile => "main_file"
  | template => "template"

def all : List Field :=
  [sourceDir, sourcePackage, extraSourceDirs, outputDir, auxiliaryDir, mainFile, template]

/-- The ways to write what a layout has in a field. -/
def Text (layout : Layout) : Field → List Char → Prop
  | sourceDir => StringText layout.sourceDir
  | sourcePackage => StringText layout.sourcePackage
  | extraSourceDirs => ListText StringText layout.extraSourceDirs
  | outputDir => StringText layout.outputDir
  | auxiliaryDir => StringText layout.auxiliaryDir
  | mainFile => StringText layout.mainFile
  | template => StringText layout.template

end Field

/-- The members have the fields of a layout in this order, each at most once. Their other names are
no fields, and the values there may be anything. -/
inductive Lists (layout : Layout) : List Field → List (String × List Char) → Prop where
  | nil : Lists layout [] []
  | field {field : Field} {written : List Char} {listed : List Field}
      {members : List (String × List Char)} :
      field ∉ listed → field.Text layout written → Lists layout listed members →
      Lists layout (field :: listed) ((field.name, written) :: members)
  | other {name : String} {written : List Char} {listed : List Field}
      {members : List (String × List Char)} :
      (∀ field : Field, field.name ≠ name) → WellFormed written → Lists layout listed members →
      Lists layout listed ((name, written) :: members)

/-- The text is an object that lists fields of a layout, with blanks around it. -/
inductive StoredAs (layout : Layout) (listed : List Field) (text : String) : Prop where
  | object {members : List (String × List Char)} {before written after : List Char} :
      layout.Lists listed members → ObjectText members written → Blanks before → Blanks after →
      text.toList = before ++ (written ++ after) → StoredAs layout listed text

/-- What one has of a field if it is listed, and what is usual if it is not. -/
def Field.pick {α : Type} (field : Field) (listed : List Field) (own usual : α) : α :=
  if field ∈ listed then own else usual

/-- The listed fields of a layout, and all others as usual. -/
def only (layout : Layout) (listed : List Field) : Layout :=
  let usual : Layout := {}
  { sourceDir := Field.sourceDir.pick listed layout.sourceDir usual.sourceDir
    sourcePackage := Field.sourcePackage.pick listed layout.sourcePackage usual.sourcePackage
    extraSourceDirs :=
      Field.extraSourceDirs.pick listed layout.extraSourceDirs usual.extraSourceDirs
    outputDir := Field.outputDir.pick listed layout.outputDir usual.outputDir
    auxiliaryDir := Field.auxiliaryDir.pick listed layout.auxiliaryDir usual.auxiliaryDir
    mainFile := Field.mainFile.pick listed layout.mainFile usual.mainFile
    template := Field.template.pick listed layout.template usual.template }

theorem only_all (layout : Layout) : layout.only Field.all = layout := by
  simp [only, Field.all, Field.pick]

/-! ## Reading -/

/-- What is known once the listed fields have been read. -/
def draft (layout : Layout) (listed : List Field) : Draft where
  sourceDir := Field.sourceDir.pick listed (some layout.sourceDir) none
  sourcePackage := Field.sourcePackage.pick listed (some layout.sourcePackage) none
  extraSourceDirs := Field.extraSourceDirs.pick listed (some layout.extraSourceDirs) none
  outputDir := Field.outputDir.pick listed (some layout.outputDir) none
  auxiliaryDir := Field.auxiliaryDir.pick listed (some layout.auxiliaryDir) none
  mainFile := Field.mainFile.pick listed (some layout.mainFile) none
  template := Field.template.pick listed (some layout.template) none

variable {layout : Layout} {listed : List Field} {text : String}

theorem Field.pick_getD {α : Type} (field : Field) (listed : List Field) (own usual : α) :
    (field.pick listed (some own) none).getD usual = field.pick listed own usual := by
  unfold pick
  split <;> rfl

theorem draft_complete (layout : Layout) (listed : List Field) :
    (layout.draft listed).complete = layout.only listed := by
  simp only [Draft.complete, draft, only, Field.pick_getD]

/-- A field that was not read before is read and kept, and nothing else changes. -/
theorem Field.exists_reader {field : Field} {written : List Char} {before : List Field}
    (fresh : field ∉ before) (spelled : field.Text layout written) :
    ∃ reader, (shape.fields.find? fun reader => reader.name = field.name) = some reader ∧
      reader.isSet (layout.draft before) = false ∧
      reader.Takes written (layout.draft before) (layout.draft (before ++ [field])) := by
  cases field with
  | extraSourceDirs =>
      have takes := list_takes (fun _ _ formed => string_takes formed) spelled
      refine ⟨_, rfl, by simp [FieldReader.of, draft, pick, fresh], ?_⟩
      simpa [draft, pick] using FieldReader.of_takes takes (layout.draft before)
  | _ =>
      -- All other fields are strings.
      have takes := string_takes spelled
      refine ⟨_, rfl, by simp [FieldReader.of, draft, pick, fresh], ?_⟩
      simpa [draft, pick] using FieldReader.of_takes takes (layout.draft before)

theorem exists_field {reader : FieldReader Draft} (member : reader ∈ shape.fields) :
    ∃ field : Field, field.name = reader.name := by
  have known : ∀ name ∈ shape.fields.map (·.name), ∃ field ∈ Field.all, field.name = name := by
    decide
  obtain ⟨field, -, name⟩ := known _ (List.mem_map_of_mem member)
  exact ⟨field, name⟩

theorem Lists.gathers {members : List (String × List Char)} (lists : layout.Lists listed members) :
    ∀ before : List Field, (∀ field ∈ listed, field ∉ before) →
      Gathers shape.fields members (layout.draft before) (layout.draft (before ++ listed)) := by
  -- What was read before is the draft of the fields of the members in front.
  induction lists with
  | nil =>
      intro before _
      rw [List.append_nil]
      exact .nil _
  | @field field _ listed _ once spelled _ ih =>
      intro before apart
      obtain ⟨reader, known, fresh, takes⟩ :=
        Field.exists_reader (apart field List.mem_cons_self) spelled
      have later : ∀ other ∈ listed, other ∉ before ++ [field] := by
        intro other member already
        rcases List.mem_append.mp already with early | now
        · exact apart other (List.mem_cons_of_mem _ member) early
        · exact once (List.mem_singleton.mp now ▸ member)
      have gathers := ih (before ++ [field]) later
      rw [List.append_assoc] at gathers
      exact .known known fresh takes gathers
  | other unknown formed _ ih =>
      intro before apart
      refine .unknown ?_ formed.skipped (ih before apart)
      rw [List.find?_eq_none]
      intro reader member same
      obtain ⟨field, name⟩ := exists_field member
      exact unknown field (name.trans (of_decide_eq_true same))

theorem read_of_storedAs (stored : layout.StoredAs listed text) :
    read text = .ok (layout.only listed) := by
  obtain ⟨lists, formed, beforeBlank, afterBlank, whole⟩ := stored
  have gathers := lists.gathers [] (fun _ _ => List.not_mem_nil)
  have takes := Shape.read_takes gathers (congrArg Except.ok (draft_complete layout listed)) formed
  exact readAll_of_takes takes beforeBlank afterBlank whole

/-! ## Saving and loading -/

def Field.value (layout : Layout) : Field → Value
  | sourceDir => .string layout.sourceDir
  | sourcePackage => .string layout.sourcePackage
  | extraSourceDirs => .list (layout.extraSourceDirs.map .string)
  | outputDir => .string layout.outputDir
  | auxiliaryDir => .string layout.auxiliaryDir
  | mainFile => .string layout.mainFile
  | template => .string layout.template

theorem Field.text_print (layout : Layout) (field : Field) (level : Nat) :
    field.Text layout ((field.value layout).print level) := by
  cases field with
  | extraSourceDirs => exact listText_print stringText_value layout.extraSourceDirs level
  | _ => exact stringText_value _ level

theorem lists_print (distinct : listed.Nodup) (level : Nat) :
    layout.Lists listed
      (listed.map fun field => (field.name, (field.value layout).print level)) := by
  induction listed with
  | nil => exact .nil
  | cons field listed ih =>
      obtain ⟨once, distinct⟩ := List.nodup_cons.mp distinct
      exact .field once (field.text_print layout level) (ih distinct)

/-- Every choice of fields in every order can be stored. -/
theorem storedAs_pretty (layout : Layout) (distinct : listed.Nodup) :
    layout.StoredAs listed
      (Value.object (listed.map fun field => (field.name, field.value layout))).pretty := by
  have formed := objectText_print (listed.map fun field => (field.name, field.value layout)) 0
  rw [List.map_map] at formed
  refine .object (lists_print distinct 1) formed Blanks.nil Blanks.nil ?_
  rw [Value.pretty, String.toList_ofList, List.append_nil, List.nil_append]

theorem storedAs_print (layout : Layout) : layout.StoredAs Field.all layout.print :=
  layout.storedAs_pretty (by decide)

/-- What a file holds is read as a layout, and the disk is left alone. -/
theorem load_reader (path : Path) (disk : Disk) :
    load Disk.reader path disk =
      (match disk.readText path with
        | .error cause => .error (.inaccessible path cause)
        | .ok text => (read text).mapError (.invalid path), disk) := by
  simp only [load, bind, StateT.bind, Disk.reader]
  cases disk.readText path with
  | error cause => rfl
  | ok text =>
      dsimp only
      cases read text <;> rfl

theorem load_of_storedAs {path : Path} {disk : Disk} (stored : layout.StoredAs listed text)
    (held : disk.readText path = .ok text) :
    load Disk.reader path disk = (.ok (layout.only listed), disk) := by
  simp only [load_reader, held, read_of_storedAs stored]
  rfl

theorem save_of_written {path : Path} {before after : Disk}
    (written : before.writeFile path layout.print.toUTF8 = .ok after) :
    save Disk.fileSystem.writeFile path layout before = (.ok (), after) := by
  simp only [save, Disk.fileSystem, bind, StateT.bind, Disk.attempt, written]
  rfl

/-- A layout is loaded from every object that lists some of its fields, each once and in any order,
with blanks around the words and members of other names between them: what is listed is as in the
layout, and all else is as usual. A layout that is saved where a file can be written is loaded from
there as it was. -/
theorem load_listed (layout : Layout) :
    (∀ listed text path (disk : Disk), layout.StoredAs listed text →
        disk.readText path = .ok text →
        load Disk.reader path disk =
          (.ok (layout.only listed), disk)) ∧
      ∀ path (before after : Disk), before.writeFile path layout.print.toUTF8 = .ok after →
        save Disk.fileSystem.writeFile path layout before = (.ok (), after) ∧
          load Disk.reader path after = (.ok layout, after) := by
  constructor
  · intro listed text path disk stored held
    exact load_of_storedAs stored held
  · intro path before after written
    have loaded := load_of_storedAs layout.storedAs_print (Disk.readText_of_writeFile written)
    rw [only_all] at loaded
    exact ⟨save_of_written written, loaded⟩

/-- An object with two fields, whose names and values are partly escaped, and a member with a value
that could not be read. -/
def escapedText : String :=
  "\r\x7b\"note\" : [ \"\\ud800\", \x7b\"a\\\"\":-1.5E+3\x7d ]\n,\t\"\\u006dain_file\" :" ++
    "\"\\ud83d\\ude00\\n\\/\",\"extra_source_dirs\":[ \"\\u00e9\" ,\"\" ] \x7d "

def escapedLayout : Layout :=
  { extraSourceDirs := ["é", ""], mainFile := "😀\n/", outputDir := "build" }

theorem wellFormed_note : WellFormed "[ \"\\ud800\", \x7b\"a\\\"\":-1.5E+3\x7d ]".toList := by
  have lone : CodeUnit ['d', '8', '0', '0'] 0xd800 := @codeUnit_formed 0xd800 (by decide)
  have half : WellFormed "\"\\ud800\"".toList := .string (.unit lone .nil)
  have one : WholeText ['1'] := .positive (by decide) (by simp [Char.isDigit])
  have five : Digits ['5'] := ⟨by decide, by simp [Char.isDigit]⟩
  have three : Digits ['3'] := ⟨by decide, by simp [Char.isDigit]⟩
  have number : WellFormed "-1.5E+3".toList :=
    .number (@NumberText.number ['-'] ['1'] ['.', '5'] ['E', '+', '3'] (by decide) one (.some five)
      (@ExponentText.some 'E' ['+'] ['3'] (.inr rfl) (by decide) three))
  have body : RawBody ['a', '\\', '"'] := .plain ⟨by decide, by decide, by decide⟩
    (@RawBody.short '"' '"' [] (by decide) .nil)
  have object : WellFormed "\x7b\"a\\\"\":-1.5E+3\x7d".toList :=
    @WellFormed.framed .object ["-1.5E+3".toList] _ (by simpa using number)
      (Framed.filled (RawText.item (RawHead.object Blanks.nil body Blanks.nil Blanks.nil))
        (More.close Blanks.nil))
  have space : Blanks [' '] := .singleton (by decide)
  have both : ∀ value ∈ ["\"\\ud800\"".toList, "\x7b\"a\\\"\":-1.5E+3\x7d".toList],
      WellFormed value := by
    simp only [List.forall_mem_cons, half, object, true_and]
    exact fun _ none => absurd none List.not_mem_nil
  exact .framed both (Framed.filled (RawText.item (RawHead.list space))
    (More.next Blanks.nil (RawText.item (RawHead.list space)) (More.close space)))

theorem storedAs_escapedText :
    escapedLayout.StoredAs [.mainFile, .extraSourceDirs] escapedText := by
  have letter : CodeUnit ['0', '0', '6', 'd'] 'm'.toNat := @codeUnit_formed 0x6d (by decide)
  have accented : CodeUnit ['0', '0', 'e', '9'] 'é'.toNat := @codeUnit_formed 0xe9 (by decide)
  have high : CodeUnit ['d', '8', '3', 'd'] 0xd83d := @codeUnit_formed 0xd83d (by decide)
  have low : CodeUnit ['d', 'e', '0', '0'] 0xde00 := @codeUnit_formed 0xde00 (by decide)
  have body : BodyText "\\u006dain_file".toList "main_file".toList :=
    .cons (.unit letter (.inl (by decide))) (bodyText_print "ain_file".toList)
  have key : StringText "main_file" "\"\\u006dain_file\"".toList := .quoted body
  have name : BodyText "\\ud83d\\ude00\\n\\/".toList "😀\n/".toList :=
    .cons (.pair high (by decide) low (by decide))
      (.cons (@Spells.short 'n' '\n' (by decide)) (.cons (@Spells.short '/' '/' (by decide)) .nil))
  have mainFile : StringText "😀\n/" "\"\\ud83d\\ude00\\n\\/\"".toList := .quoted name
  have folder : BodyText "\\u00e9".toList "é".toList :=
    .cons (.unit accented (.inl (by decide))) .nil
  have first : StringText "é" "\"\\u00e9\"".toList := .quoted folder
  have second : StringText "" "\"\"".toList := stringText_print ""
  have space : Blanks [' '] := .singleton (by decide)
  have folders : ListText StringText ["é", ""] "[ \"\\u00e9\" ,\"\" ]".toList :=
    Framed.filled (ItemText.item space first)
      (More.next space (ItemText.item Blanks.nil second) (More.close space))
  have lists : escapedLayout.Lists [.mainFile, .extraSourceDirs]
      [("note", "[ \"\\ud800\", \x7b\"a\\\"\":-1.5E+3\x7d ]".toList),
        ("main_file", "\"\\ud83d\\ude00\\n\\/\"".toList),
        ("extra_source_dirs", "[ \"\\u00e9\" ,\"\" ]".toList)] := by
    refine .other ?_ wellFormed_note ?_
    · intro field
      cases field <;> decide
    · exact @Lists.field _ .mainFile _ _ _ (by decide) mainFile
        (@Lists.field _ .extraSourceDirs _ _ _ (by decide) folders .nil)
  have lineEnd : Blanks ['\n'] := .singleton (by decide)
  have tab : Blanks ['\t'] := .singleton (by decide)
  have carriageReturn : Blanks ['\r'] := .singleton (by decide)
  have noteKey := KeyText.key Blanks.nil (stringText_print "note") space
  have mainKey := KeyText.key tab key space
  have foldersKey := KeyText.key Blanks.nil (stringText_print "extra_source_dirs") Blanks.nil
  refine .object lists (Framed.filled (MemberText.member noteKey space)
    (More.next lineEnd (MemberText.member mainKey Blanks.nil)
      (More.next Blanks.nil (MemberText.member foldersKey Blanks.nil) (More.close space))))
    carriageReturn space ?_
  decide +kernel

def storingDisk (text : String) : Disk :=
  ({} : Disk).put ["texkit.json"] (.file text.toUTF8)

theorem writeFile_empty (text : String) :
    ({} : Disk).writeFile ⟨"/texkit.json"⟩ text.toUTF8 = .ok (storingDisk text) := by
  have free : ({} : Disk).resolve .create ⟨"/texkit.json"⟩ = .ok (.vacant [] "texkit.json") := by
    have names : Path.segments "/texkit.json" = ["", "texkit.json"] := rfl
    have followed : Disk.Followed .create "texkit.json" [] :=
      ⟨by decide, by decide, by simp, by decide⟩
    exact Disk.resolve_of_leads names rfl (.stay (.inl rfl) (.vacant followed rfl))
  rw [Disk.writeFile, free]
  rfl

theorem load_listed_escaped :
    escapedLayout.StoredAs [.mainFile, .extraSourceDirs] escapedText ∧
      (storingDisk escapedText).readText ⟨"/texkit.json"⟩ = .ok escapedText ∧
      load Disk.reader ⟨"/texkit.json"⟩ (storingDisk escapedText) =
        (.ok { extraSourceDirs := ["é", ""], mainFile := "😀\n/" }, storingDisk escapedText) ∧
      ({} : Disk).writeFile ⟨"/texkit.json"⟩ escapedLayout.print.toUTF8 =
        .ok (storingDisk escapedLayout.print) ∧
      save Disk.fileSystem.writeFile ⟨"/texkit.json"⟩ escapedLayout {} =
        (.ok (), storingDisk escapedLayout.print) ∧
      load Disk.reader ⟨"/texkit.json"⟩ (storingDisk escapedLayout.print) =
        (.ok escapedLayout, storingDisk escapedLayout.print) := by
  have found := Disk.readText_of_writeFile (writeFile_empty escapedText)
  have written := writeFile_empty escapedLayout.print
  have loaded := (load_listed escapedLayout).1 _ _ _ _ storedAs_escapedText found
  exact ⟨storedAs_escapedText, found, loaded, written, (load_listed escapedLayout).2 _ _ _ written⟩

end Layout

end TexWorkspace.Project
