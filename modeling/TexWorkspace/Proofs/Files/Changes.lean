import TexWorkspace.Proofs.Files.Following

set_option autoImplicit false

/-!
What the calls of a disk change. A directory may be made where nothing was; a file may be made
there, or may be rewritten; everything else stays. For each call it is said at which places this
happens, and a directory that a path leads to is not made again.
-/

namespace TexWorkspace.Files

/-! ## Changes -/

/-- What may become of a place, where files are made or rewritten only if that is allowed, and
rewritten only with the given content. -/
inductive Change (made rewritten : Prop) (content : ByteArray) :
    Option Node → Option Node → Prop
  | same {node? : Option Node} : Change made rewritten content node? node?
  | directoryMade : Change made rewritten content none (some .directory)
  | fileMade : made → Change made rewritten content none (some (.file .empty))
  | fileWritten : made → rewritten → Change made rewritten content none (some (.file content))
  | fileRewritten {old : ByteArray} : rewritten →
      Change made rewritten content (some (.file old)) (some (.file content))

theorem Change.trans {made rewritten : Prop} {content : ByteArray}
    {before middle after : Option Node} (first : Change made rewritten content before middle)
    (second : Change made rewritten content middle after) :
    Change made rewritten content before after := by
  cases first with
  | same => exact second
  | directoryMade => cases second; exact .directoryMade
  | fileMade allowed =>
      cases second with
      | same => exact .fileMade allowed
      | fileRewritten rewrites => exact .fileWritten allowed rewrites
  | fileWritten allowed rewrites => cases second <;> exact .fileWritten allowed rewrites
  | fileRewritten rewrites => cases second <;> exact .fileRewritten rewrites

theorem Change.mono {made rewritten made' rewritten' : Prop} {content : ByteArray}
    {before after : Option Node} (makes : made → made') (rewrites : rewritten → rewritten')
    (change : Change made rewritten content before after) :
    Change made' rewritten' content before after := by
  cases change with
  | same => exact .same
  | directoryMade => exact .directoryMade
  | fileMade allowed => exact .fileMade (makes allowed)
  | fileWritten allowed again => exact .fileWritten (makes allowed) (rewrites again)
  | fileRewritten again => exact .fileRewritten (rewrites again)

namespace Disk

/-- From one disk to the other, files are made and rewritten only at the given places. -/
structure Changes (made rewritten : Location → Prop) (content : ByteArray)
    (before after : Disk) : Prop where
  current : after.current = before.current
  nodes : ∀ location, Change (made location) (rewritten location) content
    (before.node? location) (after.node? location)

variable {disk before middle after : Disk} {made rewritten : Location → Prop}
  {content : ByteArray}

namespace Changes

theorem refl (disk : Disk) : Changes made rewritten content disk disk :=
  ⟨rfl, fun _ => .same⟩

theorem trans (first : Changes made rewritten content before middle)
    (second : Changes made rewritten content middle after) :
    Changes made rewritten content before after where
  current := second.current.trans first.current
  nodes location := (first.nodes location).trans (second.nodes location)

theorem mono {made' rewritten' : Location → Prop}
    (makes : ∀ location, made location → made' location)
    (rewrites : ∀ location, rewritten location → rewritten' location)
    (changes : Changes made rewritten content before after) :
    Changes made' rewritten' content before after where
  current := changes.current
  nodes location := (changes.nodes location).mono (makes location) (rewrites location)

theorem keeps (changes : Changes made rewritten content before after) : before.Keeps after where
  current := changes.current
  directory {location} found := by
    have change := changes.nodes location
    rw [found] at change
    generalize later : after.node? location = node? at change
    cases change
    rfl
  link {location _} found := by
    have change := changes.nodes location
    rw [found] at change
    generalize later : after.node? location = node? at change
    cases change
    rfl
  file {location _} found := by
    have change := changes.nodes location
    rw [found] at change
    generalize later : after.node? location = node? at change
    cases change with
    | same => exact ⟨_, rfl⟩
    | fileRewritten => exact ⟨_, rfl⟩

end Changes

/-! ## Putting something at a place -/

theorem lookup_filter_ne {location : Location} (entries : List (Location × Node))
    {other : Location} (apart : other ≠ location) :
    (entries.filter fun (place, _) => place != location).lookup other = entries.lookup other := by
  induction entries with
  | nil => rfl
  | cons entry rest ih =>
      obtain ⟨place, node⟩ := entry
      by_cases dropped : place = location
      · have passed : (other == place) = false := by simpa [dropped] using apart
        rw [List.filter_cons_of_neg (by simp [dropped]), ih, List.lookup_cons, passed]
      · rw [List.filter_cons_of_pos (by simp [dropped]), List.lookup_cons, List.lookup_cons, ih]

theorem node?_put_self (disk : Disk) {location : Location} (inner : location ≠ []) (node : Node) :
    (disk.put location node).node? location = some node := by
  cases location with
  | nil => exact absurd rfl inner
  | cons name names => simp [node?, put]

theorem put_put (disk : Disk) (location : Location) (node later : Node) :
    (disk.put location node).put location later = disk.put location later := by
  simp [put, List.filter_filter]

theorem node?_put_of_ne (disk : Disk) {location other : Location} (apart : other ≠ location)
    (node : Node) : (disk.put location node).node? other = disk.node? other := by
  cases other with
  | nil => rfl
  | cons name names =>
      have passed : (name :: names == location) = false := by simpa using apart
      simp only [node?, put, List.lookup_cons, passed]
      exact lookup_filter_ne disk.nodes apart

theorem changes_put {location : Location} {node : Node} (inner : location ≠ [])
    (change : Change (made location) (rewritten location) content (disk.node? location)
      (some node)) : Changes made rewritten content disk (disk.put location node) where
  current := rfl
  nodes other := by
    by_cases same : other = location
    · rw [same, node?_put_self disk inner]
      exact change
    · rw [node?_put_of_ne disk same]
      exact .same

theorem alike_put {location : Location} {node : Node} (inner : location ≠ [])
    (there : disk.node? location = some node) : disk.Alike (disk.put location node) where
  current := rfl
  nodes other := by
    by_cases same : other = location
    · rw [same, node?_put_self disk inner, there]
    · exact node?_put_of_ne disk same node

/-! ## Making directories -/

/-- A path ends in a name and slashes, or it is slashes only. -/
theorem lastName_cases (names : List String) :
    names.reverse.dropWhile (· = "") = [] ∨
      ∃ front name blanks, names = front ++ name :: blanks ∧ name ≠ "" ∧
        names.reverse.dropWhile (· = "") = name :: front.reverse := by
  cases kept : names.reverse.dropWhile (· = "") with
  | nil => exact .inl rfl
  | cons name rest =>
      refine .inr ⟨rest.reverse, name, (names.reverse.takeWhile (· = "")).reverse, ?_, ?_, ?_⟩
      · have whole : names.reverse.takeWhile (· = "") ++ names.reverse.dropWhile (· = "") =
            names.reverse := List.takeWhile_append_dropWhile
        rw [kept] at whole
        have turned := congrArg List.reverse whole
        rw [List.reverse_append, List.reverse_cons, List.append_assoc,
          List.reverse_reverse] at turned
        exact turned.symm
      · have stops := List.head?_dropWhile_not (· = "") names.reverse
        rw [kept] at stops
        simpa using stops
      · rw [List.reverse_reverse]

theorem makeDirectory_of_blank {path : Path}
    (blank : (Path.segments path.text).reverse.dropWhile (· = "") = [])
    (allowed : refusal? path = none) : disk.makeDirectory path = .error .alreadyExists := by
  unfold makeDirectory
  rw [allowed, blank]
  simp only [List.drop_nil, List.reverse_nil]
  rw [Leads.follow_eq .arrived]
  rfl

theorem makeDirectory_of_name {path : Path} {front : List String} {name : String}
    {parent : Location}
    (ends : (Path.segments path.text).reverse.dropWhile (· = "") = name :: front.reverse)
    (allowed : refusal? path = none)
    (reached : disk.Leads .find maxLinks (disk.start path) front (.existing parent .directory)) :
    disk.makeDirectory path =
      if name = "." ∨ name = ".." then .error .alreadyExists
      else if maxNameLength < name.utf8ByteSize then .error .nameTooLong
      else if (disk.node? (parent ++ [name])).isSome then .error .alreadyExists
      else .ok (disk.put (parent ++ [name]) .directory) := by
  unfold makeDirectory
  rw [allowed, ends]
  simp only [List.drop_succ_cons, List.drop_zero, List.reverse_reverse, List.head?_cons,
    reached.follow_eq]
  cases disk.node? (parent ++ [name]) <;> rfl

theorem exists_parent_of_makeDirectory {path : Path} {front : List String} {name : String}
    (ends : (Path.segments path.text).reverse.dropWhile (· = "") = name :: front.reverse)
    (allowed : refusal? path = none) (ok : disk.makeDirectory path = .ok after) :
    ∃ parent, disk.Leads .find maxLinks (disk.start path) front (.existing parent .directory) := by
  unfold makeDirectory at ok
  rw [allowed, ends] at ok
  simp only [List.drop_succ_cons, List.drop_zero, List.reverse_reverse] at ok
  split at ok
  all_goals try cases ok
  next parent leads => exact ⟨parent, leads_of_follow leads⟩

/-- A directory is made under the last name of a path, in a directory that the names before it lead
to, where nothing was. -/
theorem makeDirectory_eq_ok {path : Path} (ok : disk.makeDirectory path = .ok after) :
    ∃ front name blanks parent, refusal? path = none ∧
      Path.segments path.text = front ++ name :: blanks ∧ Followed .find name [] ∧
      disk.Leads .find maxLinks (disk.start path) front (.existing parent .directory) ∧
      disk.node? (parent ++ [name]) = none ∧ after = disk.put (parent ++ [name]) .directory := by
  cases allowed : refusal? path with
  | some error => simp [makeDirectory, allowed] at ok
  | none =>
      rcases lastName_cases (Path.segments path.text) with
        blank | ⟨front, name, blanks, whole, named, ends⟩
      · rw [makeDirectory_of_blank blank allowed] at ok
        cases ok
      · obtain ⟨parent, reached⟩ := exists_parent_of_makeDirectory ends allowed ok
        rw [makeDirectory_of_name ends allowed reached] at ok
        repeat' split at ok
        all_goals cases ok
        next dots fits free =>
          obtain ⟨undotted, down⟩ := not_or.mp dots
          refine ⟨front, name, blanks, parent, rfl, whole, ?_, reached, by simpa using free, rfl⟩
          exact ⟨not_or.mpr ⟨named, undotted⟩, down, by simp, fits⟩

theorem makeDirectory_of_leadsTo {path : Path} {location : Location}
    (leads : disk.LeadsTo path location) (allowed : refusal? path = none) :
    disk.makeDirectory path = .error .alreadyExists := by
  rcases lastName_cases (Path.segments path.text) with
    blank | ⟨front, name, blanks, whole, named, ends⟩
  · exact makeDirectory_of_blank blank allowed
  · unfold LeadsTo at leads
    rw [whole] at leads
    obtain ⟨fewer, parent, reached, onward⟩ := leads.split (List.cons_ne_nil name blanks)
    rw [makeDirectory_of_name ends allowed reached]
    -- From its parent on, the path passes the last name, so there is something under it.
    generalize aim : Target.existing location .directory = target at onward
    cases onward with
    | stay unnamed => rw [if_pos (.inl (unnamed.resolve_left named))]
    | up => rw [if_pos (.inr rfl)]
    | vacant => cases aim
    | file => cases aim
    | enter followed found =>
        rw [if_neg followed.undotted, if_neg followed.fits, found]
        rfl
    | link followed found =>
        rw [if_neg followed.undotted, if_neg followed.fits, found]
        rfl

theorem ensureDirectory_of_leadsTo {path : Path} {location : Location}
    (leads : disk.LeadsTo path location) (allowed : refusal? path = none) :
    disk.ensureDirectory path = .ok disk := by
  unfold ensureDirectory
  rw [makeDirectory_of_leadsTo leads allowed, directory?_eq_some_iff.mpr ⟨allowed, leads⟩]
  rfl

theorem ensureDirectory_of_refusal (disk : Disk) {path : Path} {error : IoError}
    (refused : refusal? path = some error) : disk.ensureDirectory path = .error error := by
  unfold ensureDirectory makeDirectory directory? resolve
  rw [refused]
  rfl

theorem refusal?_kind {path : Path} {error : IoError} (refused : refusal? path = some error)
    (named : path.text ≠ "") : error.kind ≠ .notFound := by
  unfold refusal? textRefusal? at refused
  rw [if_neg named] at refused
  by_cases nul : path.text.toList.contains (Char.ofNat 0)
  · rw [if_pos nul] at refused
    cases refused
    decide
  · rw [if_neg nul] at refused
    dsimp only at refused
    split at refused
    · cases refused
      decide
    · cases refused

/-- Where a path leads to a directory, making it makes nothing, even if the path is too long for the
call to succeed. -/
theorem createDirectories_of_leadsTo {path : Path} {location : Location}
    (leads : disk.LeadsTo path location) : (disk.createDirectories path).2 = disk := by
  unfold createDirectories
  by_cases named : path.text = ""
  · obtain ⟨text⟩ := path
    obtain rfl : text = "" := named
    rfl
  · cases allowed : refusal? path with
    | none =>
        have ensured := ensureDirectory_of_leadsTo leads allowed
        cases path.parents <;> simp [createWithin, ensured, named]
    | some error =>
        have ensured := ensureDirectory_of_refusal disk allowed
        have kind := refusal?_kind allowed named
        cases path.parents <;> simp [createWithin, ensured, named, kind]

/-! ## Calls -/

section

variable (P : Disk → Prop)
  (makes : ∀ {before after : Disk} {path : Path}, P before →
    before.makeDirectory path = .ok after → P after)

include makes in
theorem ensureDirectory_preserves {path : Path} (holds : P disk)
    (ok : disk.ensureDirectory path = .ok after) : P after := by
  unfold ensureDirectory at ok
  split at ok
  next fresh =>
    cases ok
    exact makes holds fresh
  next =>
    split at ok
    · cases ok
      exact holds
    · cases ok

include makes in
-- By induction on the containing paths, which are tried one after the other until one can be made.
theorem createWithin_preserves (path : Path) (parents : List Path) (holds : P disk) :
    P (disk.createWithin path parents).2 := by
  induction parents generalizing path with
  | nil =>
      unfold createWithin
      split
      · exact holds
      · split
        next made ensured => exact ensureDirectory_preserves P makes holds ensured
        next => exact holds
  | cons parent outer ih =>
      have inner := ih parent
      unfold createWithin
      split
      next made ensured => exact ensureDirectory_preserves P makes holds ensured
      next =>
        split
        · split
          next error made within =>
            rw [within] at inner
            exact inner
          next made within =>
            rw [within] at inner
            split
            next all ensured => exact ensureDirectory_preserves P makes inner ensured
            next => exact inner
        · exact holds

include makes in
/-- Making a directory with all that contain it keeps whatever making one directory keeps. -/
theorem createDirectories_preserves (path : Path) (holds : P disk) :
    P (disk.createDirectories path).2 :=
  createWithin_preserves P makes path path.parents holds

end

theorem makeDirectory_changes {path : Path} (ok : disk.makeDirectory path = .ok after) :
    Changes made rewritten content disk after := by
  obtain ⟨front, name, blanks, parent, -, -, -, -, free, rfl⟩ := makeDirectory_eq_ok ok
  refine changes_put (by simp) ?_
  rw [free]
  exact .directoryMade

theorem createDirectories_changes (disk : Disk) (path : Path) :
    Changes made rewritten content disk (disk.createDirectories path).2 :=
  createDirectories_preserves (Changes made rewritten content disk)
    (fun changes fresh => changes.trans (makeDirectory_changes fresh)) path (.refl disk)

/-- Where a path leads to a free place in a directory, making it makes one directory, which is then
found there. -/
theorem createDirectories_of_free {path : Path} {front : List String} {name : String}
    {parent : Location} (whole : Path.segments path.text = front ++ [name])
    (allowed : refusal? path = none) (followed : Followed .find name [])
    (reached : disk.Leads .find maxLinks (disk.start path) front (.existing parent .directory))
    (free : disk.node? (parent ++ [name]) = none) :
    disk.createDirectories path = (.ok (), disk.put (parent ++ [name]) .directory) ∧
      (disk.put (parent ++ [name]) .directory).LeadsTo path (parent ++ [name]) := by
  have ends : (Path.segments path.text).reverse.dropWhile (· = "") = name :: front.reverse := by
    simp [whole, (not_or.mp followed.named).1]
  have made : disk.makeDirectory path = .ok (disk.put (parent ++ [name]) .directory) := by
    rw [makeDirectory_of_name ends allowed reached, if_neg followed.undotted, if_neg followed.fits,
      free]
    rfl
  have named : path.text ≠ "" := by
    obtain ⟨text⟩ := path
    rintro rfl
    cases allowed
  constructor
  · have ensured : disk.ensureDirectory path = .ok (disk.put (parent ++ [name]) .directory) := by
      rw [ensureDirectory, made]
    unfold createDirectories
    cases path.parents <;> simp [createWithin, ensured, named]
  · have changes : Changes (fun _ => False) (fun _ => False) .empty disk
        (disk.put (parent ++ [name]) .directory) := makeDirectory_changes made
    have keeps := changes.keeps
    unfold LeadsTo
    rw [whole]
    refine (reached.of_keeps keeps .directory).append fun fewer => ?_
    exact .enter followed (node?_put_self disk (by simp) .directory) .arrived

theorem resolve_node {path : Path} {purpose : Purpose} {location : Location} {node : Node}
    (resolved : disk.resolve purpose path = .ok (.existing location node)) :
    node = .directory ∨ ∃ held, node = .file held ∧ disk.node? location = some (.file held) := by
  have meets := (resolve_eq_ok_iff.mp resolved).2.meets
  cases node with
  | directory => exact .inl rfl
  | file held => exact .inr ⟨held, rfl, meets⟩
  | link => exact meets.elim

theorem Holds.inner {path : Path} {location : Location} (holds : disk.Holds path location content) :
    location ≠ [] := by
  rintro rfl
  cases holds.node?

/-- A file is made where the path leads to a free place, and nothing happens where there is one. -/
theorem createFile_eq_ok {path : Path} (ok : disk.createFile path = .ok after) :
    (∃ directory name, disk.resolve .create path = .ok (.vacant directory name) ∧
        after = disk.put (directory ++ [name]) (.file .empty)) ∨
      ∃ location held, disk.Holds path location held ∧ after = disk := by
  unfold createFile at ok
  cases resolved : disk.resolve .create path with
  | error error => simp [resolved] at ok
  | ok target =>
      rw [resolved] at ok
      cases target with
      | vacant directory name =>
          cases ok
          exact .inl ⟨directory, name, rfl, rfl⟩
      | existing location node =>
          rcases resolve_node resolved with rfl | ⟨held, rfl, -⟩
          · cases ok
          · cases ok
            exact .inr ⟨location, held, holds_of_create resolved, rfl⟩

/-- A file is written where the path leads to a free place or to a file. -/
theorem writeFile_eq_ok {path : Path} (ok : disk.writeFile path content = .ok after) :
    (∃ directory name, disk.resolve .create path = .ok (.vacant directory name) ∧
        after = disk.put (directory ++ [name]) (.file content)) ∨
      ∃ location held, disk.Holds path location held ∧
        after = disk.put location (.file content) := by
  unfold writeFile at ok
  cases resolved : disk.resolve .create path with
  | error error => simp [resolved] at ok
  | ok target =>
      rw [resolved] at ok
      cases target with
      | vacant directory name =>
          cases ok
          exact .inl ⟨directory, name, rfl, rfl⟩
      | existing location node =>
          rcases resolve_node resolved with rfl | ⟨held, rfl, -⟩
          · cases ok
          · cases ok
            exact .inr ⟨location, held, holds_of_create resolved, rfl⟩

theorem node?_of_vacant {path : Path} {directory : Location} {name : String}
    (free : disk.resolve .create path = .ok (.vacant directory name)) :
    disk.node? (directory ++ [name]) = none :=
  (resolve_eq_ok_iff.mp free).2.meets

theorem holds_put {path : Path} {directory : Location} {name : String}
    (free : disk.resolve .create path = .ok (.vacant directory name)) :
    (disk.put (directory ++ [name]) (.file content)).Holds path (directory ++ [name]) content := by
  have inner : directory ++ [name] ≠ [] := by simp
  have changes : Changes (fun _ => True) (fun _ => True) content disk
      (disk.put (directory ++ [name]) (.file content)) := by
    refine changes_put inner ?_
    rw [node?_of_vacant free]
    exact .fileWritten trivial trivial
  exact holds_of_create
    (resolve_of_keeps changes.keeps (.filled (node?_put_self disk inner _)) free)

theorem createFile_changes (rewritten : Location → Prop) (content : ByteArray) {path : Path}
    (ok : disk.createFile path = .ok after) :
    ∃ location held, after.Holds path location held ∧
      Changes (· = location) rewritten content disk after := by
  rcases createFile_eq_ok ok with ⟨directory, name, free, rfl⟩ | ⟨location, held, holds, rfl⟩
  · refine ⟨directory ++ [name], .empty, holds_put free, changes_put (by simp) ?_⟩
    rw [node?_of_vacant free]
    exact .fileMade rfl
  · exact ⟨location, held, holds, .refl after⟩

theorem writeFile_changes {path : Path} (ok : disk.writeFile path content = .ok after) :
    ∃ location, after.Holds path location content ∧
      Changes (· = location) (· = location) content disk after := by
  rcases writeFile_eq_ok ok with ⟨directory, name, free, rfl⟩ | ⟨location, held, holds, rfl⟩
  · refine ⟨directory ++ [name], holds_put free, changes_put (by simp) ?_⟩
    rw [node?_of_vacant free]
    exact .fileWritten rfl rfl
  · have changes : Changes (· = location) (· = location) content disk
        (disk.put location (.file content)) := by
      refine changes_put holds.inner ?_
      rw [holds.node?]
      exact .fileRewritten rfl
    exact ⟨location, holds.of_keeps changes.keeps (node?_put_self disk holds.inner _), changes⟩

theorem createFile_of_holds {path : Path} {location : Location}
    (holds : disk.Holds path location content) : disk.createFile path = .ok disk := by
  unfold createFile
  rw [holds.create]

theorem writeFile_of_holds {path : Path} {location : Location} {held : ByteArray}
    (holds : disk.Holds path location held) :
    disk.writeFile path content = .ok (disk.put location (.file content)) := by
  unfold writeFile
  rw [holds.create]

end Disk

end TexWorkspace.Files
