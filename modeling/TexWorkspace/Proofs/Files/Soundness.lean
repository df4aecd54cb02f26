import TexWorkspace.Proofs.Files.Changes

set_option autoImplicit false

/-!
Sound disks: everything stands in a directory, under a name that a file can have. The calls keep a
disk sound. On a sound disk the directory that a path leads to is also found at its own absolute
path, the one without links.
-/

namespace TexWorkspace.Files.Disk

/-! ## Names -/

/-- A stretch of a path: it holds no slash and nothing that no path may hold. -/
structure Plain (name : String) : Prop where
  unslashed : '/' ∉ name.toList
  clean : Char.ofNat 0 ∉ name.toList

/-- A name that a thing on a disk can have. -/
structure Proper (name : String) : Prop extends Plain name where
  followed : Followed .find name []

instance (name : String) : Decidable (Proper name) :=
  decidable_of_iff
    (('/' ∉ name.toList ∧ Char.ofNat 0 ∉ name.toList) ∧ ¬(name = "" ∨ name = ".") ∧ name ≠ ".." ∧
      ¬maxNameLength < name.utf8ByteSize)
    ⟨fun ⟨⟨unslashed, clean⟩, named, down, fits⟩ =>
        ⟨⟨unslashed, clean⟩, named, down, by simp, fits⟩,
      fun ⟨⟨unslashed, clean⟩, named, down, _, fits⟩ =>
        ⟨⟨unslashed, clean⟩, named, down, fits⟩⟩

theorem plain_of_mem_segments {text name : String} (clean : Char.ofNat 0 ∉ text.toList)
    (member : name ∈ Path.segments text) : Plain name := by
  obtain ⟨piece, found, rfl⟩ := List.mem_map.mp member
  obtain ⟨unslashed, inside⟩ := Text.notMem_of_mem_cut found
  constructor
  · rwa [String.toList_ofList]
  · rw [String.toList_ofList]
    exact fun nul => clean (inside nul)

theorem clean_of_textRefusal? {path : Path} (allowed : textRefusal? path = none) :
    Char.ofNat 0 ∉ path.text.toList := by
  intro nul
  unfold textRefusal? at allowed
  rw [if_pos (List.elem_eq_true_of_mem nul)] at allowed
  cases allowed

theorem textRefusal?_of_refusal? {path : Path} (allowed : refusal? path = none) :
    textRefusal? path = none := by
  unfold refusal? at allowed
  split at allowed
  next => cases allowed
  next textAllowed => exact textAllowed

theorem clean_of_refusal? {path : Path} (allowed : refusal? path = none) :
    Char.ofNat 0 ∉ path.text.toList :=
  clean_of_textRefusal? (textRefusal?_of_refusal? allowed)

/-! ## Sound disks -/

/-- Everything stands in a directory, under a proper name, and relative paths start in one. -/
structure Sound (disk : Disk) : Prop where
  current : disk.node? disk.current = some .directory
  inside : ∀ {parent : Location} {name : String} {node : Node},
    disk.node? (parent ++ [name]) = some node → disk.node? parent = some .directory
  proper : ∀ {parent : Location} {name : String} {node : Node},
    disk.node? (parent ++ [name]) = some node → Proper name
  link : ∀ {location : Location} {text : String},
    disk.node? location = some (.link text) → Char.ofNat 0 ∉ text.toList

theorem sound_empty : Sound {} where
  current := rfl
  inside {parent _ _} found := by cases parent <;> cases found
  proper {parent _ _} found := by cases parent <;> cases found
  link {location _} found := by cases location <;> cases found

variable {disk after : Disk} {purpose : Purpose} {links : Nat} {location : Location}

namespace Sound

theorem dropLast (sound : disk.Sound) (found : disk.node? location = some .directory) :
    disk.node? location.dropLast = some .directory := by
  rcases List.eq_nil_or_concat location with rfl | ⟨parent, name, rfl⟩
  · exact found
  · rw [List.concat_eq_append] at found ⊢
    rw [List.dropLast_append_of_ne_nil (List.cons_ne_nil name [])]
    simpa using sound.inside found

/-- All that contains a directory is a directory. -/
theorem containing (sound : disk.Sound) {front back : List String}
    (found : disk.node? (front ++ back) = some .directory) :
    disk.node? front = some .directory := by
  induction back generalizing front with
  | nil => rwa [List.append_nil] at found
  | cons name rest ih =>
      rw [List.append_cons] at found
      exact sound.inside (ih found)

theorem start (sound : disk.Sound) (path : Path) :
    disk.node? (disk.start path) = some .directory := by
  unfold Disk.start
  split
  · rfl
  · exact sound.current

theorem put (sound : disk.Sound) {name : String} {node : Node}
    (directory : disk.node? location = some .directory) (proper : Proper name)
    (replaces : disk.node? (location ++ [name]) ≠ some .directory)
    (clean : ∀ text, node = .link text → Char.ofNat 0 ∉ text.toList) :
    (disk.put (location ++ [name]) node).Sound := by
  have inner : location ++ [name] ≠ [] := by simp
  have stays {other : Location} (found : disk.node? other = some .directory) :
      (disk.put (location ++ [name]) node).node? other = some .directory := by
    rwa [node?_put_of_ne disk (fun same => replaces (by rwa [same] at found))]
  refine ⟨stays sound.current, ?_, ?_, ?_⟩
  · intro parent other held found
    by_cases same : parent ++ [other] = location ++ [name]
    · rw [(List.append_inj' same rfl).1]
      exact stays directory
    · rw [node?_put_of_ne disk same] at found
      exact stays (sound.inside found)
  · intro parent other held found
    by_cases same : parent ++ [other] = location ++ [name]
    · obtain rfl : other = name := by simpa using (List.append_inj' same rfl).2
      exact proper
    · rw [node?_put_of_ne disk same] at found
      exact sound.proper found
  · intro place text found
    by_cases same : place = location ++ [name]
    · rw [same, node?_put_self disk inner] at found
      exact clean text (Option.some.inj found)
    · rw [node?_put_of_ne disk same] at found
      exact sound.link found

theorem putNew (sound : disk.Sound) {name : String} {node : Node}
    (directory : disk.node? location = some .directory) (proper : Proper name)
    (free : disk.node? (location ++ [name]) = none)
    (clean : ∀ text, node = .link text → Char.ofNat 0 ∉ text.toList) :
    (disk.put (location ++ [name]) node).Sound := by
  refine sound.put directory proper ?_ clean
  rw [free]
  exact nofun

end Sound

/-! ## Following paths -/

/-- What a target of a sound disk is: a directory that is there, or a place in one. -/
def Target.Grounded (disk : Disk) : Target → Prop
  | .existing location .directory => disk.node? location = some .directory
  | .existing _ _ => True
  | .vacant directory name => disk.node? directory = some .directory ∧ Proper name

theorem Sound.grounded (sound : disk.Sound) {directory : Location} {names : List String}
    {target : Target} (plain : ∀ name ∈ names, Plain name)
    (found : disk.node? directory = some .directory)
    (leads : disk.Leads purpose links directory names target) : target.Grounded disk := by
  induction leads with
  | arrived => exact found
  | vacant followed =>
      exact ⟨found, { plain _ List.mem_cons_self with followed := followed.find [] }⟩
  | file => trivial
  | stay _ _ ih => exact ih (fun other member => plain other (.tail _ member)) found
  | up _ ih => exact ih (fun other member => plain other (.tail _ member)) (sound.dropLast found)
  | enter _ entered _ ih => exact ih (fun other member => plain other (.tail _ member)) entered
  | link _ linked _ ih =>
      refine ih ?_ ?_
      · intro other member
        rcases List.mem_append.mp member with held | later
        · exact plain_of_mem_segments (sound.link linked) held
        · exact plain other (.tail _ later)
      · unfold linkStart
        split
        · rfl
        · exact found

theorem Sound.resolve (sound : disk.Sound) {path : Path} {target : Target}
    (resolved : disk.resolve purpose path = .ok target) : target.Grounded disk := by
  obtain ⟨allowed, leads⟩ := resolve_eq_ok_iff.mp resolved
  have clean := clean_of_refusal? allowed
  exact sound.grounded (fun _ member => plain_of_mem_segments clean member) (sound.start path) leads

/-! ## Calls -/

namespace Sound

theorem makeDirectory (sound : disk.Sound) {path : Path}
    (ok : disk.makeDirectory path = .ok after) : after.Sound := by
  obtain ⟨front, name, blanks, parent, allowed, whole, followed, reached, free, rfl⟩ :=
    makeDirectory_eq_ok ok
  have plain {part : String} (member : part ∈ front ++ name :: blanks) : Plain part :=
    plain_of_mem_segments (clean_of_refusal? allowed) (whole ▸ member)
  have grounded : Target.Grounded disk (.existing parent .directory) :=
    sound.grounded (fun part member => plain (List.mem_append_left _ member)) (sound.start path)
      reached
  exact sound.putNew grounded { plain (by simp) with followed } free nofun

theorem createDirectories (sound : disk.Sound) (path : Path) :
    (disk.createDirectories path).2.Sound :=
  createDirectories_preserves Sound (fun sound fresh => sound.makeDirectory fresh) path sound

theorem putFile (sound : disk.Sound) {path : Path} {held content : ByteArray}
    (holds : disk.Holds path location held) : (disk.put location (.file content)).Sound := by
  rcases List.eq_nil_or_concat location with rfl | ⟨parent, name, rfl⟩
  · exact absurd rfl holds.inner
  · rw [List.concat_eq_append] at holds ⊢
    refine sound.put (sound.inside holds.node?) (sound.proper holds.node?) ?_ nofun
    rw [holds.node?]
    exact nofun

theorem putNewFile (sound : disk.Sound) {path : Path} {directory : Location} {name : String}
    {content : ByteArray} (free : disk.resolve .create path = .ok (.vacant directory name)) :
    (disk.put (directory ++ [name]) (.file content)).Sound := by
  obtain ⟨found, proper⟩ : Target.Grounded disk (.vacant directory name) := sound.resolve free
  exact sound.putNew found proper (node?_of_vacant free) nofun

theorem createFile (sound : disk.Sound) {path : Path} (ok : disk.createFile path = .ok after) :
    after.Sound := by
  rcases createFile_eq_ok ok with ⟨directory, name, free, rfl⟩ | ⟨location, held, holds, rfl⟩
  · exact sound.putNewFile free
  · exact sound

theorem writeFile (sound : disk.Sound) {path : Path} {content : ByteArray}
    (ok : disk.writeFile path content = .ok after) : after.Sound := by
  rcases writeFile_eq_ok ok with ⟨directory, name, free, rfl⟩ | ⟨location, held, holds, rfl⟩
  · exact sound.putNewFile free
  · exact sound.putFile holds

/-! ## Absolute paths -/

theorem leads (sound : disk.Sound) (front : List String) {back : List String}
    (found : disk.node? (front ++ back) = some .directory) :
    disk.Leads .find links front back (.existing (front ++ back) .directory) := by
  induction back generalizing front with
  | nil =>
      rw [List.append_nil]
      exact .arrived
  | cons name rest ih =>
      rw [List.append_cons] at found ⊢
      have entered := sound.containing found
      exact .enter ((sound.proper entered).followed.find rest) entered (ih (front ++ [name]) found)

theorem plain (sound : disk.Sound) (front : List String) {back : List String}
    (found : disk.node? (front ++ back) = some .directory) : ∀ name ∈ back, Plain name := by
  induction back generalizing front with
  | nil => exact nofun
  | cons name rest ih =>
      rw [List.append_cons] at found
      intro other member
      rcases List.mem_cons.mp member with rfl | later
      · exact (sound.proper (sound.containing found)).toPlain
      · exact ih (front ++ [name]) found other later

end Sound

theorem toList_toPath (location : Location) :
    location.toPath.text.toList = '/' :: ['/'].intercalate (location.map String.toList) := by
  unfold Location.toPath
  rw [String.toList_append, String.toList_intercalate]
  rfl

theorem mem_of_mem_intercalate {mark c : Char} {pieces : List (List Char)}
    (member : c ∈ [mark].intercalate pieces) : c = mark ∨ ∃ piece ∈ pieces, c ∈ piece := by
  induction pieces with
  | nil => cases member
  | cons first rest ih =>
      cases rest with
      | nil => exact .inr ⟨first, List.mem_cons_self, by simpa using member⟩
      | cons second more =>
          rw [List.intercalate_cons_cons, List.append_assoc] at member
          rcases List.mem_append.mp member with held | later
          · exact .inr ⟨first, List.mem_cons_self, held⟩
          · rcases List.mem_cons.mp later with rfl | further
            · exact .inl rfl
            · exact (ih further).imp_right fun ⟨piece, joined, held⟩ =>
                ⟨piece, List.mem_cons_of_mem first joined, held⟩

theorem segments_toPath {location : Location} (plain : ∀ name ∈ location, Plain name) :
    Path.segments location.toPath.text = "" :: if location = [] then [""] else location := by
  unfold Path.segments
  rw [toList_toPath]
  have first : Text.cut '/' ('/' :: ['/'].intercalate (location.map String.toList)) =
      [] :: Text.cut '/' (['/'].intercalate (location.map String.toList)) :=
    Text.cut_append_cons _ List.not_mem_nil
  rw [first]
  cases location with
  | nil => rfl
  | cons name names =>
      have unmarked : ∀ piece ∈ name.toList :: names.map String.toList, '/' ∉ piece := by
        rw [← List.map_cons]
        intro piece member
        obtain ⟨other, listed, rfl⟩ := List.mem_map.mp member
        exact (plain other listed).unslashed
      rw [List.map_cons, List.map_cons, Text.cut_intercalate unmarked]
      simp [String.ofList_toList, Function.comp_def]

theorem Sound.leadsTo_toPath (sound : disk.Sound) (found : disk.node? location = some .directory) :
    disk.LeadsTo location.toPath location := by
  have absolute : location.toPath.isAbsolute := by
    unfold Path.isAbsolute
    rw [toList_toPath]
    rfl
  unfold LeadsTo Disk.start
  rw [if_pos absolute, segments_toPath (sound.plain [] found)]
  refine .stay (.inl rfl) ?_
  split
  next root =>
    rw [root]
    exact .stay (.inl rfl) .arrived
  next => exact sound.leads [] found

theorem Sound.refusal?_toPath (sound : disk.Sound) (found : disk.node? location = some .directory)
    (short : location.toPath.text.utf8ByteSize ≤ maxPathLength) :
    refusal? location.toPath = none := by
  have plain := sound.plain [] found
  have clean : ¬location.toPath.text.toList.contains (Char.ofNat 0) := by
    rw [toList_toPath, List.contains_iff_mem, List.mem_cons, not_or]
    refine ⟨by decide, fun nul => ?_⟩
    rcases mem_of_mem_intercalate nul with slash | ⟨piece, joined, held⟩
    · exact absurd slash (by decide)
    · obtain ⟨name, listed, rfl⟩ := List.mem_map.mp joined
      exact (plain name listed).clean held
  have named : location.toPath.text ≠ "" := by
    intro empty
    have listed := toList_toPath location
    rw [empty] at listed
    cases listed
  unfold refusal? textRefusal?
  rw [if_neg clean, if_neg named]
  exact if_neg (Nat.not_lt.mpr short)

/-- A directory that was found is a directory at the path that it was found under. -/
theorem Sound.directory?_of_found (sound : disk.Sound) {path found : Path}
    (answer : disk.findDirectory? path = some found) : (disk.directory? found).isSome := by
  obtain ⟨allowed, location, leads, short, rfl⟩ := findDirectory?_eq_some_iff.mp answer
  have grounded : disk.node? location = some .directory :=
    sound.grounded (fun _ member => plain_of_mem_segments (clean_of_textRefusal? allowed) member)
      (sound.start path) leads
  rw [directory?_eq_some_iff.mpr
    ⟨sound.refusal?_toPath grounded short, sound.leadsTo_toPath grounded⟩]
  rfl

theorem isSome_directory?_of_keeps {before after : Disk} (keeps : before.Keeps after) {path : Path}
    (found : (before.directory? path).isSome) : (after.directory? path).isSome := by
  obtain ⟨location, there⟩ := Option.isSome_iff_exists.mp found
  obtain ⟨allowed, leads⟩ := directory?_eq_some_iff.mp there
  rw [directory?_eq_some_iff.mpr ⟨allowed, leads.of_keeps keeps⟩]
  rfl

end TexWorkspace.Files.Disk
