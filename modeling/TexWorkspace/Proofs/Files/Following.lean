import TexWorkspace.Files.FileSystem

set_option autoImplicit false

/-!
Where paths lead. The rules for following a path are stated as a relation, one rule for each kind of
thing a name can stand for, and following finds a target exactly if the rules lead to it. Hence what
was found on a disk is still found after the disk has grown, since a walk only meets what is there.
-/

namespace TexWorkspace.Files

namespace Disk

/-! ## The rules -/

/-- The name is followed: it is neither empty nor dots, it is short enough and, if a file is to be
made, no slash is all that comes after it. -/
structure Followed (purpose : Purpose) (name : String) (rest : List String) : Prop where
  named : ¬(name = "" ∨ name = ".")
  down : name ≠ ".."
  unended : ¬(purpose = .create ∧ rest ≠ [] ∧ rest.all (· = ""))
  fits : ¬maxNameLength < name.utf8ByteSize

theorem Followed.find {purpose : Purpose} {name : String} {rest : List String}
    (followed : Followed purpose name rest) (others : List String) :
    Followed .find name others :=
  { followed with unended := fun ended => Purpose.noConfusion ended.1 }

theorem Followed.undotted {purpose : Purpose} {name : String} {rest : List String}
    (followed : Followed purpose name rest) : ¬(name = "." ∨ name = "..") :=
  not_or.mpr ⟨fun dot => followed.named (.inr dot), followed.down⟩

/-- The directory at which the path held by a link is followed. -/
def linkStart (directory : Location) (target : String) : Location :=
  if Path.isAbsolute ⟨target⟩ then [] else directory

/-- Names, followed from a directory through at most so many links, lead to a target. -/
inductive Leads (disk : Disk) (purpose : Purpose) :
    Nat → Location → List String → Target → Prop
  | arrived {links : Nat} {directory : Location} :
      Leads disk purpose links directory [] (.existing directory .directory)
  | stay {links : Nat} {directory : Location} {name : String} {rest : List String}
      {target : Target} :
      name = "" ∨ name = "." → Leads disk purpose links directory rest target →
      Leads disk purpose links directory (name :: rest) target
  | up {links : Nat} {directory : Location} {rest : List String} {target : Target} :
      Leads disk purpose links directory.dropLast rest target →
      Leads disk purpose links directory (".." :: rest) target
  | vacant {links : Nat} {directory : Location} {name : String} :
      Followed purpose name [] → disk.node? (directory ++ [name]) = none →
      Leads disk purpose links directory [name] (.vacant directory name)
  | file {links : Nat} {directory : Location} {name : String} {content : ByteArray} :
      Followed purpose name [] → disk.node? (directory ++ [name]) = some (.file content) →
      Leads disk purpose links directory [name] (.existing (directory ++ [name]) (.file content))
  | enter {links : Nat} {directory : Location} {name : String} {rest : List String}
      {target : Target} :
      Followed purpose name rest → disk.node? (directory ++ [name]) = some .directory →
      Leads disk purpose links (directory ++ [name]) rest target →
      Leads disk purpose links directory (name :: rest) target
  | link {fewer : Nat} {directory : Location} {name text : String} {rest : List String}
      {target : Target} :
      Followed purpose name rest → disk.node? (directory ++ [name]) = some (.link text) →
      Leads disk purpose fewer (linkStart directory text) (Path.segments text ++ rest) target →
      Leads disk purpose (fewer + 1) directory (name :: rest) target

variable {disk before after : Disk} {purpose : Purpose} {links : Nat} {directory : Location}
  {names : List String} {target : Target}

theorem follow_of_followed {name : String} {rest : List String}
    (followed : Followed purpose name rest) :
    disk.follow purpose links directory (name :: rest) =
      match disk.node? (directory ++ [name]) with
      | none => if rest = [] then .ok (.vacant directory name) else .error .notFound
      | some .directory => disk.follow purpose links (directory ++ [name]) rest
      | some (.file content) =>
          if rest = [] then .ok (.existing (directory ++ [name]) (.file content))
          else .error .notADirectory
      | some (.link text) =>
          match links with
          | 0 => .error .tooManyLinks
          | fewer + 1 =>
              disk.follow purpose fewer (linkStart directory text)
                (Path.segments text ++ rest) := by
  rw [follow, if_neg followed.named, if_neg followed.down, if_neg followed.unended,
    if_neg followed.fits]
  rfl

theorem Leads.follow_eq (leads : disk.Leads purpose links directory names target) :
    disk.follow purpose links directory names = .ok target := by
  induction leads with
  | arrived => rw [follow]
  | stay unnamed _ ih => rw [follow, if_pos unnamed, ih]
  | up _ ih => rw [follow, if_neg (by decide), if_pos rfl, ih]
  | vacant followed free => rw [follow_of_followed followed, free]; rfl
  | file followed found => rw [follow_of_followed followed, found]; rfl
  | enter followed found _ ih => rw [follow_of_followed followed, found]; exact ih
  | link followed found _ ih => rw [follow_of_followed followed, found]; exact ih

theorem leads_of_follow (found : disk.follow purpose links directory names = .ok target) :
    disk.Leads purpose links directory names target := by
  fun_induction follow disk purpose links directory names with
  | case1 => cases found; exact .arrived
  | case2 _ _ _ _ unnamed ih => exact .stay unnamed (ih found)
  | case3 _ _ _ _ ih => exact .up (ih found)
  | case4 => cases found
  | case5 => cases found
  | case6 links directory name named down fits free unended =>
      cases found
      exact .vacant ⟨named, down, unended, fits⟩ free
  | case7 => cases found
  | case8 links directory name rest named down unended fits entered ih =>
      exact .enter ⟨named, down, unended, fits⟩ entered (ih found)
  | case9 links directory name named down fits content there unended =>
      cases found
      exact .file ⟨named, down, unended, fits⟩ there
  | case10 => cases found
  | case11 => cases found
  | case12 directory name rest named down unended fits text there fewer start ih =>
      exact .link ⟨named, down, unended, fits⟩ there (ih found)

theorem follow_eq_ok_iff :
    disk.follow purpose links directory names = .ok target ↔
      disk.Leads purpose links directory names target :=
  ⟨leads_of_follow, Leads.follow_eq⟩

/-! ## Targets -/

/-- What a target says of the disk. A directory may be the one that the names were followed from, so
nothing is said of it. -/
def Target.Meets (disk : Disk) : Target → Prop
  | .existing _ .directory => True
  | .existing location (.file content) => disk.node? location = some (.file content)
  | .existing _ (.link _) => False
  | .vacant directory name => disk.node? (directory ++ [name]) = none

namespace Leads

theorem meets (leads : disk.Leads purpose links directory names target) : target.Meets disk := by
  induction leads with
  | arrived => trivial
  | vacant _ free => exact free
  | file _ found => exact found
  | stay _ _ ih => exact ih
  | up _ ih => exact ih
  | enter _ _ _ ih => exact ih
  | link _ _ _ ih => exact ih

/-- What is found when a file is to be made is found when it is only looked for. -/
theorem find (leads : disk.Leads purpose links directory names target) :
    disk.Leads .find links directory names target := by
  induction leads with
  | arrived => exact .arrived
  | stay unnamed _ ih => exact .stay unnamed ih
  | up _ ih => exact .up ih
  | vacant followed free => exact .vacant (followed.find []) free
  | file followed found => exact .file (followed.find []) found
  | enter followed found _ ih => exact .enter (followed.find _) found ih
  | link followed found _ ih => exact .link (followed.find _) found ih

/-- The first of the names that lead somewhere lead to a directory, and the others from there. -/
theorem split {front back : List String} (more : back ≠ [])
    (leads : disk.Leads .find links directory (front ++ back) target) :
    ∃ fewer middle, disk.Leads .find links directory front (.existing middle .directory) ∧
      disk.Leads .find fewer middle back target := by
  generalize whole : front ++ back = names at leads
  induction leads generalizing front with
  | arrived => exact absurd (List.append_eq_nil_iff.mp whole).2 more
  | @stay links directory name rest target unnamed leads ih =>
      cases front with
      | nil =>
          obtain rfl : back = name :: rest := whole
          exact ⟨links, directory, .arrived, .stay unnamed leads⟩
      | cons first inner =>
          obtain ⟨rfl, tail⟩ := List.cons.inj whole
          obtain ⟨fewer, middle, reached, onward⟩ := ih tail
          exact ⟨fewer, middle, .stay unnamed reached, onward⟩
  | @up links directory rest target leads ih =>
      cases front with
      | nil =>
          obtain rfl : back = ".." :: rest := whole
          exact ⟨links, directory, .arrived, .up leads⟩
      | cons first inner =>
          obtain ⟨rfl, tail⟩ := List.cons.inj whole
          obtain ⟨fewer, middle, reached, onward⟩ := ih tail
          exact ⟨fewer, middle, .up reached, onward⟩
  | @vacant links directory name followed free =>
      obtain ⟨rfl, rfl⟩ := (List.append_eq_singleton_iff.mp whole).resolve_right fun last =>
        more last.2
      exact ⟨links, directory, .arrived, .vacant followed free⟩
  | @file links directory name content followed found =>
      obtain ⟨rfl, rfl⟩ := (List.append_eq_singleton_iff.mp whole).resolve_right fun last =>
        more last.2
      exact ⟨links, directory, .arrived, .file followed found⟩
  | @enter links directory name rest target followed found leads ih =>
      cases front with
      | nil =>
          obtain rfl : back = name :: rest := whole
          exact ⟨links, directory, .arrived, .enter followed found leads⟩
      | cons first inner =>
          obtain ⟨rfl, tail⟩ := List.cons.inj whole
          obtain ⟨fewer, middle, reached, onward⟩ := ih tail
          exact ⟨fewer, middle, .enter (followed.find inner) found reached, onward⟩
  | @link fewer directory name text rest target followed found leads ih =>
      cases front with
      | nil =>
          obtain rfl : back = name :: rest := whole
          exact ⟨fewer + 1, directory, .arrived, .link followed found leads⟩
      | cons first inner =>
          obtain ⟨rfl, rfl⟩ := List.cons.inj whole
          -- The path that the link holds stands in front of both parts of the names.
          obtain ⟨least, middle, reached, onward⟩ := ih (List.append_assoc _ inner back)
          exact ⟨least, middle, .link (followed.find inner) found reached, onward⟩

/-- Names that lead to a directory can be followed by names that lead on from there. -/
theorem append {front back : List String} {middle : Location}
    (leads : disk.Leads .find links directory front (.existing middle .directory))
    (onward : ∀ fewer, disk.Leads .find fewer middle back target) :
    disk.Leads .find links directory (front ++ back) target := by
  generalize aim : Target.existing middle .directory = reached at leads
  induction leads with
  | arrived =>
      cases aim
      exact onward _
  | stay unnamed _ ih => exact .stay unnamed (ih aim)
  | up _ ih => exact .up (ih aim)
  | vacant => cases aim
  | file => cases aim
  | enter followed found _ ih => exact .enter (followed.find _) found (ih aim)
  | link followed found _ ih =>
      have further := ih aim
      rw [List.append_assoc] at further
      exact .link (followed.find _) found further

/-- Slashes at the end of a path leave it where it was. -/
theorem of_blanks {blanks : List String} (blank : ∀ name ∈ blanks, name = "")
    (leads : disk.Leads purpose links directory blanks target) :
    target = .existing directory .directory := by
  induction blanks with
  | nil => cases leads; rfl
  | cons name rest ih =>
      have empty := blank name List.mem_cons_self
      cases leads with
      | stay _ leads => exact ih (fun other member => blank other (.tail name member)) leads
      | up => exact absurd empty (by decide)
      | vacant followed => exact absurd (.inl empty) followed.named
      | file followed => exact absurd (.inl empty) followed.named
      | enter followed => exact absurd (.inl empty) followed.named
      | link followed => exact absurd (.inl empty) followed.named

/-- A path to a file does not end in a slash. -/
theorem unended (front : List String) {rest : List String} {location : Location}
    {content : ByteArray}
    (leads : disk.Leads .find links directory (front ++ rest)
      (.existing location (.file content))) :
    ¬(purpose = .create ∧ rest ≠ [] ∧ rest.all (· = "")) := by
  rintro ⟨-, more, blank⟩
  obtain ⟨fewer, middle, -, onward⟩ := leads.split more
  have stays := onward.of_blanks (by simpa using blank)
  cases stays

/-- A file that is found when it is looked for is found when it is to be made. -/
theorem create {location : Location} {content : ByteArray}
    (leads : disk.Leads .find links directory names (.existing location (.file content))) :
    disk.Leads .create links directory names (.existing location (.file content)) := by
  generalize aim : Target.existing location (.file content) = target at leads
  induction leads with
  | arrived => cases aim
  | vacant => cases aim
  | file followed found => exact .file { followed with unended := by simp } found
  | stay unnamed _ ih => exact .stay unnamed (ih aim)
  | up _ ih => exact .up (ih aim)
  | enter followed found leads ih =>
      subst aim
      exact .enter { followed with unended := unended [] leads } found (ih rfl)
  | link followed found leads ih =>
      subst aim
      exact .link { followed with unended := unended _ leads } found (ih rfl)

end Leads

/-! ## Growth -/

/-- Whatever stood on the disk stays, and files stay files. -/
structure Keeps (before after : Disk) : Prop where
  current : after.current = before.current
  directory : ∀ {location : Location}, before.node? location = some .directory →
    after.node? location = some .directory
  link : ∀ {location : Location} {text : String}, before.node? location = some (.link text) →
    after.node? location = some (.link text)
  file : ∀ {location : Location} {content : ByteArray},
    before.node? location = some (.file content) →
      ∃ later, after.node? location = some (.file later)

theorem Keeps.refl (disk : Disk) : disk.Keeps disk where
  current := rfl
  directory found := found
  link found := found
  file found := ⟨_, found⟩

/-- What a target is on a grown disk: what was there still is, and where nothing was there may be a
file now. -/
inductive Target.Becomes (after : Disk) : Target → Target → Prop
  | directory {location : Location} :
      Becomes after (.existing location .directory) (.existing location .directory)
  | file {location : Location} {content later : ByteArray} :
      after.node? location = some (.file later) →
      Becomes after (.existing location (.file content)) (.existing location (.file later))
  | filled {parent : Location} {name : String} {content : ByteArray} :
      after.node? (parent ++ [name]) = some (.file content) →
      Becomes after (.vacant parent name) (.existing (parent ++ [name]) (.file content))

/-- A walk passes only through what is there, so on a grown disk it goes the same way. -/
theorem Leads.of_keeps {later : Target} (keeps : before.Keeps after)
    (becomes : target.Becomes after later)
    (leads : before.Leads purpose links directory names target) :
    after.Leads purpose links directory names later := by
  induction leads with
  | arrived => cases becomes; exact .arrived
  | vacant followed => cases becomes with | filled found => exact .file followed found
  | file followed => cases becomes with | file found => exact .file followed found
  | stay unnamed _ ih => exact .stay unnamed (ih becomes)
  | up _ ih => exact .up (ih becomes)
  | enter followed found _ ih => exact .enter followed (keeps.directory found) (ih becomes)
  | link followed found _ ih => exact .link followed (keeps.link found) (ih becomes)

/-! ## Disks that hold the same -/

/-- The disks hold the same at every place. -/
structure Alike (one other : Disk) : Prop where
  current : other.current = one.current
  nodes : ∀ location, other.node? location = one.node? location

namespace Alike

variable {one other : Disk}

theorem refl (disk : Disk) : disk.Alike disk :=
  ⟨rfl, fun _ => rfl⟩

theorem symm (alike : one.Alike other) : other.Alike one :=
  ⟨alike.current.symm, fun location => (alike.nodes location).symm⟩

theorem trans {third : Disk} (first : one.Alike other) (second : other.Alike third) :
    one.Alike third where
  current := second.current.trans first.current
  nodes location := (second.nodes location).trans (first.nodes location)

theorem keeps (alike : one.Alike other) : one.Keeps other where
  current := alike.current
  directory found := (alike.nodes _).trans found
  link found := (alike.nodes _).trans found
  file found := ⟨_, (alike.nodes _).trans found⟩

theorem start (alike : one.Alike other) (path : Path) : other.start path = one.start path := by
  unfold Disk.start
  rw [alike.current]

/-- What is asked of a disk while names are followed is what stands at places, so the answer is the
same, even if it is an error. -/
theorem follow (alike : one.Alike other) :
    other.follow purpose links directory names = one.follow purpose links directory names := by
  fun_induction Disk.follow one purpose links directory names with
  | case1 => rw [Disk.follow]
  | case2 _ _ _ _ unnamed ih => rw [Disk.follow, if_pos unnamed, ih]
  | case3 _ _ _ named ih => rw [Disk.follow, if_neg named, if_pos rfl, ih]
  | case4 _ _ _ _ named down ended => rw [Disk.follow, if_neg named, if_neg down, if_pos ended]
  | case5 _ _ _ _ named down unended long =>
      rw [Disk.follow, if_neg named, if_neg down, if_neg unended, if_pos long]
  | case6 _ _ _ named down fits free unended =>
      rw [follow_of_followed ⟨named, down, unended, fits⟩, alike.nodes, free]
      rfl
  | case7 _ _ _ _ named down unended fits free more =>
      rw [follow_of_followed ⟨named, down, unended, fits⟩, alike.nodes, free]
      exact if_neg more
  | case8 _ _ _ _ named down unended fits entered ih =>
      rw [follow_of_followed ⟨named, down, unended, fits⟩, alike.nodes, entered]
      exact ih
  | case9 _ _ _ named down fits _ there unended =>
      rw [follow_of_followed ⟨named, down, unended, fits⟩, alike.nodes, there]
      rfl
  | case10 _ _ _ _ named down unended fits _ there more =>
      rw [follow_of_followed ⟨named, down, unended, fits⟩, alike.nodes, there]
      exact if_neg more
  | case11 _ _ _ named down unended fits _ there =>
      rw [follow_of_followed ⟨named, down, unended, fits⟩, alike.nodes, there]
  | case12 _ _ _ named down unended fits _ there _ _ ih =>
      rw [follow_of_followed ⟨named, down, unended, fits⟩, alike.nodes, there]
      exact ih

theorem resolve (alike : one.Alike other) (path : Path) :
    other.resolve purpose path = one.resolve purpose path := by
  unfold Disk.resolve
  rw [alike.start, alike.follow]

end Alike

/-! ## Paths -/

theorem Keeps.start (keeps : before.Keeps after) (path : Path) :
    after.start path = before.start path := by
  unfold Disk.start
  rw [keeps.current]

/-- The path leads to a directory, if it is followed a name at a time. -/
def LeadsTo (disk : Disk) (path : Path) (location : Location) : Prop :=
  disk.Leads .find maxLinks (disk.start path) (Path.segments path.text)
    (.existing location .directory)

/-- The path resolves to a file, and this is what the file holds. -/
def Holds (disk : Disk) (path : Path) (location : Location) (content : ByteArray) : Prop :=
  disk.resolve .find path = .ok (.existing location (.file content))

theorem resolve_eq_ok_iff {path : Path} :
    disk.resolve purpose path = .ok target ↔
      refusal? path = none ∧
        disk.Leads purpose maxLinks (disk.start path) (Path.segments path.text) target := by
  unfold resolve
  cases refused : refusal? path with
  | none => simp [follow_eq_ok_iff]
  | some error => simp

theorem resolve_of_leads {path : Path} (whole : Path.segments path.text = names)
    (allowed : refusal? path = none)
    (leads : disk.Leads purpose maxLinks (disk.start path) names target) :
    disk.resolve purpose path = .ok target := by
  subst whole
  exact resolve_eq_ok_iff.mpr ⟨allowed, leads⟩

/-- What a path leads to stays there, and where it leads to a place that was free, a file may be
now. -/
theorem resolve_of_keeps {path : Path} {later : Target} (keeps : before.Keeps after)
    (becomes : target.Becomes after later) (resolved : before.resolve purpose path = .ok target) :
    after.resolve purpose path = .ok later := by
  obtain ⟨allowed, leads⟩ := resolve_eq_ok_iff.mp resolved
  rw [resolve_eq_ok_iff, keeps.start]
  exact ⟨allowed, leads.of_keeps keeps becomes⟩

theorem LeadsTo.of_keeps {path : Path} {location : Location} (keeps : before.Keeps after)
    (leads : before.LeadsTo path location) : after.LeadsTo path location := by
  unfold LeadsTo
  rw [keeps.start]
  exact Leads.of_keeps keeps .directory leads

theorem Holds.node? {path : Path} {location : Location} {content : ByteArray}
    (holds : disk.Holds path location content) : disk.node? location = some (.file content) :=
  (resolve_eq_ok_iff.mp holds).2.meets

theorem holds_of_create {path : Path} {location : Location} {content : ByteArray}
    (resolved : disk.resolve .create path = .ok (.existing location (.file content))) :
    disk.Holds path location content := by
  obtain ⟨allowed, leads⟩ := resolve_eq_ok_iff.mp resolved
  exact resolve_eq_ok_iff.mpr ⟨allowed, leads.find⟩

theorem Holds.create {path : Path} {location : Location} {content : ByteArray}
    (holds : disk.Holds path location content) :
    disk.resolve .create path = .ok (.existing location (.file content)) := by
  obtain ⟨allowed, leads⟩ := resolve_eq_ok_iff.mp holds
  exact resolve_eq_ok_iff.mpr ⟨allowed, leads.create⟩

/-- A file is found at its path as long as it is there, whatever it then holds. -/
theorem Holds.of_keeps {path : Path} {location : Location} {content later : ByteArray}
    (keeps : before.Keeps after) (holds : before.Holds path location content)
    (found : after.node? location = some (.file later)) : after.Holds path location later :=
  resolve_of_keeps keeps (.file found) holds

theorem directory?_eq_some_iff {path : Path} {location : Location} :
    disk.directory? path = some location ↔ refusal? path = none ∧ disk.LeadsTo path location := by
  unfold LeadsTo
  rw [← resolve_eq_ok_iff]
  unfold directory?
  split
  next found resolved => simp [resolved]
  next other =>
    refine iff_of_false (by simp) fun resolved => ?_
    exact other location resolved

theorem findDirectory?_eq_some_iff {path found : Path} :
    disk.findDirectory? path = some found ↔
      textRefusal? path = none ∧ ∃ location, disk.LeadsTo path location ∧
        location.toPath.text.utf8ByteSize ≤ maxPathLength ∧ found = location.toPath := by
  unfold findDirectory?
  cases refused : textRefusal? path with
  | some error => simp
  | none =>
      simp only [Option.isSome_none, Bool.false_eq_true, if_false, true_and]
      split
      next location leads =>
        have unique (other : Location) : disk.LeadsTo path other ↔ other = location := by
          unfold LeadsTo
          rw [← follow_eq_ok_iff, leads]
          simp [eq_comm]
        simp only [unique, exists_eq_left]
        split
        next long => exact iff_of_false nofun fun fits => absurd long (Nat.not_lt.mpr fits.1)
        next fits =>
          rw [Option.some_inj, eq_comm]
          exact (and_iff_right (Nat.not_lt.mp fits)).symm
      next other =>
        refine iff_of_false (by simp) ?_
        rintro ⟨location, leads, -⟩
        exact other location leads.follow_eq

theorem findDirectory?_of_keeps {path found : Path} (keeps : before.Keeps after)
    (there : before.findDirectory? path = some found) : after.findDirectory? path = some found := by
  obtain ⟨allowed, location, leads, short⟩ := findDirectory?_eq_some_iff.mp there
  exact findDirectory?_eq_some_iff.mpr ⟨allowed, location, leads.of_keeps keeps, short⟩

end Disk

end TexWorkspace.Files
