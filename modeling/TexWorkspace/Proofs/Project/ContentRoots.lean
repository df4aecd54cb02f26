import Mathlib.Data.List.Induction
import TexWorkspace.Proofs.Project.Registration

set_option autoImplicit false

/-!
One entry for each content root. A model is edited by adding roots, by registering folders, and by
carrying out plans, in any order and with roots in any spelling. Main statement: the entries are
those of the roots that were added, in the order in which they were added first and as they were
spelled then, and the entry of a root stays in its place and is found there from then on.
-/

namespace TexWorkspace

namespace Path

theorem same_iff {left right : Path} :
    left.same right = true ↔ left.components = right.components := by
  simp [same]

theorem same_comm (left right : Path) : left.same right = right.same left := by
  rw [Bool.eq_iff_iff, same_iff, same_iff, eq_comm]

/-- The paths without those that only repeat an earlier one in another spelling. -/
def firstSpellings (paths : List Path) : List Path :=
  paths.eraseDupsBy same

end Path

/-! ## First spellings -/

theorem eraseDupsBy_loop_append {α : Type} (same : α → α → Bool) (items kept : List α) (item : α) :
    List.eraseDupsBy.loop same (items ++ [item]) kept =
      if (List.eraseDupsBy.loop same items kept).any (same item)
      then List.eraseDupsBy.loop same items kept
      else List.eraseDupsBy.loop same items kept ++ [item] := by
  induction items generalizing kept with
  | nil =>
      simp only [List.nil_append, List.eraseDupsBy.loop, List.any_reverse]
      cases kept.any (same item) <;> simp
  | cons first rest ih =>
      cases repeats : kept.any (same first) <;>
        simp only [List.cons_append, List.eraseDupsBy.loop, repeats, ih]

namespace Path

/-- A path behind others stays if it repeats none of them. -/
theorem firstSpellings_append (paths : List Path) (path : Path) :
    firstSpellings (paths ++ [path]) =
      if (firstSpellings paths).any path.same then firstSpellings paths
      else firstSpellings paths ++ [path] :=
  eraseDupsBy_loop_append same paths [] path

example : firstSpellings [⟨"a/b"⟩, ⟨"c"⟩, ⟨"a//./b/"⟩, ⟨"./c"⟩] = [⟨"a/b"⟩, ⟨"c"⟩, ⟨"./c"⟩] := by
  decide

theorem firstSpellings_pairwise (paths : List Path) :
    (firstSpellings paths).Pairwise fun left right => left.same right = false := by
  induction paths using List.reverseRecOn with
  | nil => exact .nil
  | append_singleton paths path ih =>
      rw [firstSpellings_append]
      split
      · exact ih
      · rename_i fresh
        refine List.pairwise_append.mpr ⟨ih, List.pairwise_singleton .., ?_⟩
        intro other kept last isLast
        obtain rfl := List.mem_singleton.mp isLast
        rw [same_comm]
        exact Bool.eq_false_iff.mpr fun same => fresh (List.any_eq_true.mpr ⟨other, kept, same⟩)

theorem exists_same_firstSpellings (paths : List Path) (path : Path) :
    (∃ other ∈ firstSpellings paths, other.same path = true) ↔
      ∃ other ∈ paths, other.same path = true := by
  induction paths using List.reverseRecOn with
  | nil => rfl
  | append_singleton paths last ih =>
      have either : (∃ other ∈ paths ++ [last], other.same path = true) ↔
          (∃ other ∈ firstSpellings paths, other.same path = true) ∨ last.same path = true := by
        rw [ih]
        simp [or_and_right, exists_or]
      rw [either, firstSpellings_append]
      split
      · rename_i repeated
        obtain ⟨other, kept, same⟩ := List.any_eq_true.mp repeated
        refine ⟨.inl, fun found => found.elim id fun lastSame => ⟨other, kept, ?_⟩⟩
        rw [same_iff] at same lastSame ⊢
        exact same.symm.trans lastSame
      · simp [or_and_right, exists_or]

end Path

end TexWorkspace

namespace TexWorkspace.Project

/-! ## Edits -/

/-- Finds the entry of a root, which is added at the end if there is none: the model then, and the
place of the entry in it. -/
def RootModel.provideEntry (model : RootModel) (root : Path) : RootModel × Nat :=
  match model.contentEntries.findIdx? fun entry => entry.root.same root with
  | some place => (model, place)
  | none =>
      ({ model with contentEntries := model.contentEntries ++ [{ root }] },
        model.contentEntries.length)

/-- One edit of a model. Folders are registered with the entry of a root, which is added if there is
none. -/
inductive Edit (σ : Type) where
  | addEntry (root : Path)
  | addSource (root : Path) (folder : SourceFolder)
  | addExclude (root : Path) (path : Path)
  | setExcludeOutput (exclude : Bool)
  | carryOut (workshop : Workshop (StateM σ)) (plan : Plan) (project : Project)

namespace Edit

variable {σ : Type}

/-- The model after an edit. A plan is carried out whether or not all of its steps succeed. -/
def perform : Edit σ → RootModel → StateM σ RootModel
  | .addEntry root, model => pure (model.addEntry root)
  | .addSource root folder, model => pure (model.update root (·.addSource folder))
  | .addExclude root path, model => pure (model.update root (·.addExclude path))
  | .setExcludeOutput exclude, model => pure (model.setExcludeOutput exclude)
  | .carryOut workshop plan project, model => Run.model <$> scaffold workshop plan project model

/-- The model after some edits, one after the other. -/
def performAll (edits : List (Edit σ)) (model : RootModel) : StateM σ RootModel :=
  edits.foldlM (fun model edit => edit.perform model) model

/-- The root that an edit adds, unless it is there. -/
def root? : Edit σ → Option Path
  | .addEntry root => some root
  | .addSource root _ => some root
  | .addExclude root _ => some root
  | .setExcludeOutput _ => none
  | .carryOut _ plan _ => some plan.root

end Edit

/-- What an edit can do to the entries: nothing, or to extend that of its root. -/
inductive Extended (entries : List ContentEntry) : Option Path → List ContentEntry → Prop where
  | nowhere : Extended entries none entries
  | entry (root : Path) (sources : List SourceFolder) (excludes : List Path) :
      Extended entries (some root)
        (updateEntry root (ContentEntry.extend sources excludes) entries)

section

variable {σ : Type}

theorem scaffold_extends (workshop : Workshop (StateM σ)) (plan : Plan) (project : Project)
    (model : RootModel) (start : σ) :
    Extended model.contentEntries (some plan.root)
      (scaffold workshop plan project model start).1.model.contentEntries := by
  obtain ⟨run, _, accounts, finish, last, log, ran, -, -, chronicle, -, modelled, -⟩ :=
    scaffold_chronicle workshop plan project model start
  -- The root is registered before the steps, and every step extends what is there.
  have opens : (model.addEntry plan.root).contentEntries =
      updateEntry plan.root (ContentEntry.extend [] []) model.contentEntries := by
    rw [ContentEntry.extend_nil]
    rfl
  rw [ran, modelled, chronicle.model, foldl_register_entries accounts opens]
  exact .entry ..

theorem Edit.perform_extends (edit : Edit σ) (model : RootModel) (start : σ) :
    Extended model.contentEntries edit.root? (edit.perform model start).1.contentEntries := by
  cases edit with
  | addEntry root =>
      have opened := @Extended.entry model.contentEntries root [] []
      rwa [ContentEntry.extend_nil] at opened
  | addSource root folder =>
      have extended := @Extended.entry model.contentEntries root [folder] []
      rwa [← ContentEntry.addSource_eq_extend] at extended
  | addExclude root path =>
      have extended := @Extended.entry model.contentEntries root [] [path]
      rwa [← ContentEntry.addExclude_eq_extend] at extended
  | setExcludeOutput exclude => exact .nowhere
  | carryOut workshop plan project => exact scaffold_extends workshop plan project model start

theorem Edit.performAll_append (edits : List (Edit σ)) (edit : Edit σ) (model : RootModel)
    (start : σ) :
    performAll (edits ++ [edit]) model start =
      edit.perform (performAll edits model start).1 (performAll edits model start).2 := by
  rw [performAll, List.foldlM_append]
  rfl

end

/-! ## Entries after an edit -/

theorem map_root_updateEntry (root : Path) (sources : List SourceFolder) (excludes : List Path)
    (entries : List ContentEntry) :
    (updateEntry root (ContentEntry.extend sources excludes) entries).map ContentEntry.root =
      if (entries.map ContentEntry.root).any root.same then entries.map ContentEntry.root
      else entries.map ContentEntry.root ++ [root] := by
  induction entries with
  | nil => rfl
  | cons entry rest ih =>
      cases found : entry.root.same root with
      | true =>
          have repeats : root.same entry.root = true := by rwa [Path.same_comm]
          simp [updateEntry, found, repeats, ContentEntry.extend]
      | false =>
          have differs : root.same entry.root = false := by rwa [Path.same_comm]
          simp only [updateEntry, found, Bool.false_eq_true, if_false, List.map_cons, ih,
            List.any_cons, differs, Bool.false_or]
          split <;> rfl

/-- Entries stay in their places, and folders are added to them only at the end. -/
def Grown (entries later : List ContentEntry) : Prop :=
  ∀ (place : Nat) (entry : ContentEntry), entries[place]? = some entry →
    ∃ sources excludes, later[place]? = some (entry.extend sources excludes)

theorem ContentEntry.extend_none (entry : ContentEntry) : entry.extend [] [] = entry := by
  rw [extend_nil]
  rfl

theorem Grown.refl (entries : List ContentEntry) : Grown entries entries := by
  intro place entry placed
  exact ⟨[], [], by rw [entry.extend_none, placed]⟩

theorem Grown.trans {entries between later : List ContentEntry} (first : Grown entries between)
    (second : Grown between later) : Grown entries later := by
  intro place entry placed
  obtain ⟨sources, excludes, extended⟩ := first place entry placed
  obtain ⟨moreSources, moreExcludes, again⟩ := second place _ extended
  exact ⟨_, _, by rw [again, ContentEntry.extend_extend]⟩

theorem grown_updateEntry (root : Path) (sources : List SourceFolder) (excludes : List Path)
    (entries : List ContentEntry) :
    Grown entries (updateEntry root (ContentEntry.extend sources excludes) entries) := by
  induction entries with
  | nil => exact fun place entry placed => by cases placed
  | cons first rest ih =>
      intro place entry placed
      cases found : first.root.same root with
      | true =>
          rw [updateEntry, if_pos found]
          cases place with
          | zero =>
              obtain rfl := Option.some.inj placed
              exact ⟨sources, excludes, rfl⟩
          | succ place => exact Grown.refl rest place entry placed
      | false =>
          rw [updateEntry, found, if_neg Bool.false_ne_true]
          cases place with
          | zero =>
              obtain rfl := Option.some.inj placed
              exact ⟨[], [], by rw [first.extend_none]; rfl⟩
          | succ place => exact ih place entry placed

theorem Extended.grown {entries later : List ContentEntry} {root? : Option Path}
    (extended : Extended entries root? later) : Grown entries later := by
  cases extended with
  | nowhere => exact .refl entries
  | entry root sources excludes => exact grown_updateEntry root sources excludes entries

theorem Extended.roots {entries later : List ContentEntry} {root? : Option Path}
    {added : List Path} (extended : Extended entries root? later)
    (first : entries.map ContentEntry.root = Path.firstSpellings added) :
    later.map ContentEntry.root = Path.firstSpellings (added ++ root?.toList) := by
  cases extended with
  | nowhere => rw [Option.toList_none, List.append_nil, first]
  | entry root sources excludes =>
      rw [map_root_updateEntry, first, Option.toList_some, Path.firstSpellings_append]

/-! ## The entry of a root -/

/-- The entry is the first one of the root, and it stands in this place. -/
structure EntryAt (entries : List ContentEntry) (root : Path) (place : Nat)
    (entry : ContentEntry) : Prop where
  placed : entries[place]? = some entry
  same : entry.root.same root = true
  first : ∀ earlier < place, ∀ other, entries[earlier]? = some other →
    other.root.same root = false

theorem findIdx?_eq_iff {entries : List ContentEntry} {root : Path} {place : Nat} :
    entries.findIdx? (fun entry => entry.root.same root) = some place ↔
      ∃ entry, EntryAt entries root place entry := by
  rw [List.findIdx?_eq_some_iff_getElem]
  constructor
  · rintro ⟨inside, same, first⟩
    refine ⟨entries[place], List.getElem?_eq_getElem inside, same, ?_⟩
    intro earlier before other placed
    obtain ⟨_, rfl⟩ := List.getElem?_eq_some_iff.mp placed
    exact Bool.eq_false_iff.mpr (first earlier before)
  · rintro ⟨entry, placed, same, first⟩
    obtain ⟨inside, rfl⟩ := List.getElem?_eq_some_iff.mp placed
    refine ⟨inside, same, fun earlier before => Bool.eq_false_iff.mp ?_⟩
    exact first earlier before _ (List.getElem?_eq_getElem (Nat.lt_trans before inside))

namespace EntryAt

variable {model : RootModel} {root : Path} {place : Nat} {entry : ContentEntry}

theorem provideEntry_eq (here : EntryAt model.contentEntries root place entry) :
    model.provideEntry root = (model, place) := by
  rw [RootModel.provideEntry, findIdx?_eq_iff.mpr ⟨entry, here⟩]

theorem entry?_eq (here : EntryAt model.contentEntries root place entry) :
    model.entry? root = some entry := by
  obtain ⟨placed, same, first⟩ := here
  obtain ⟨inside, rfl⟩ := List.getElem?_eq_some_iff.mp placed
  refine List.find?_eq_some_iff_getElem.mpr ⟨same, place, inside, rfl, fun earlier before => ?_⟩
  simp [first earlier before _ (List.getElem?_eq_getElem (Nat.lt_trans before inside))]

theorem of_grown {entries later : List ContentEntry} (grown : Grown entries later)
    (here : EntryAt entries root place entry) :
    ∃ sources excludes, EntryAt later root place (entry.extend sources excludes) := by
  obtain ⟨sources, excludes, placed⟩ := grown place entry here.placed
  refine ⟨sources, excludes, placed, here.same, ?_⟩
  intro earlier before other among
  -- What stands earlier now has stood there before, with the same root.
  have inside : earlier < entries.length :=
    Nat.lt_trans before (List.getElem?_eq_some_iff.mp here.placed).1
  have known := List.getElem?_eq_getElem inside
  obtain ⟨_, _, extended⟩ := grown earlier _ known
  obtain rfl := Option.some.inj (extended.symm.trans among)
  have apart := here.first earlier before _ known
  exact apart

end EntryAt

theorem exists_entryAt {model : RootModel} {root : Path} {entry : ContentEntry}
    (found : model.entry? root = some entry) :
    ∃ place, EntryAt model.contentEntries root place entry := by
  obtain ⟨same, place, inside, rfl, first⟩ := List.find?_eq_some_iff_getElem.mp found
  refine ⟨place, List.getElem?_eq_getElem inside, same, ?_⟩
  intro earlier before other placed
  obtain ⟨_, rfl⟩ := List.getElem?_eq_some_iff.mp placed
  simpa using first earlier before

theorem updateEntry_eq (root : Path) (change : ContentEntry → ContentEntry)
    (entries : List ContentEntry) :
    updateEntry root change entries =
      match entries.findIdx? fun entry => entry.root.same root with
      | some place => entries.modify place change
      | none => entries ++ [change { root }] := by
  induction entries with
  | nil => rfl
  | cons first rest ih =>
      rw [updateEntry, List.findIdx?_cons]
      cases found : first.root.same root with
      | true => simp
      | false =>
          rw [if_neg Bool.false_ne_true, if_neg Bool.false_ne_true, ih]
          cases rest.findIdx? fun entry => entry.root.same root <;> simp

namespace RootModel

/-- An entry is changed where it is found, or where it is added. -/
theorem update_eq (model : RootModel) (root : Path) (change : ContentEntry → ContentEntry) :
    model.update root change =
      { (model.provideEntry root).1 with
        contentEntries :=
          (model.provideEntry root).1.contentEntries.modify (model.provideEntry root).2
            change } := by
  rw [update, updateEntry_eq, provideEntry]
  cases model.contentEntries.findIdx? fun entry => entry.root.same root with
  | some place => rfl
  | none => simp [List.modify_eq_take_drop]

theorem addEntry_eq (model : RootModel) (root : Path) :
    model.addEntry root = (model.provideEntry root).1 := by
  rw [addEntry, update_eq, List.modify_id]

/-- Adding a root that is there changes nothing, and any other goes to the end, without folders. -/
theorem addEntry_cases (model : RootModel) (root : Path) :
    (model.entry? root).isSome = true ∧ model.addEntry root = model ∨
      model.entry? root = none ∧ model.addEntry root =
        { model with contentEntries := model.contentEntries ++ [{ root }] } := by
  rw [addEntry_eq]
  cases found : model.entry? root with
  | some entry =>
      obtain ⟨place, here⟩ := exists_entryAt found
      rw [here.provideEntry_eq]
      exact .inl ⟨rfl, rfl⟩
  | none =>
      have nowhere : model.contentEntries.findIdx? (fun entry => entry.root.same root) = none :=
        List.findIdx?_eq_none_iff.mpr fun entry member =>
          Bool.eq_false_iff.mpr (List.find?_eq_none.mp found entry member)
      rw [provideEntry, nowhere]
      exact .inr ⟨rfl, rfl⟩

end RootModel

/-! ## Entries after all edits -/

section

variable {σ : Type}

theorem Edit.performAll_roots (moduleName : String) (edits : List (Edit σ)) (start : σ) :
    (performAll edits { moduleName } start).1.contentEntries.map ContentEntry.root =
      Path.firstSpellings (edits.filterMap root?) := by
  induction edits using List.reverseRecOn with
  | nil => rfl
  | append_singleton edits edit ih =>
      rw [performAll_append, List.filterMap_append,
        (edit.perform_extends _ _).roots ih]
      rfl

theorem Edit.performAll_grown (edits : List (Edit σ)) (model : RootModel) (start : σ) :
    Grown model.contentEntries (performAll edits model start).1.contentEntries := by
  induction edits using List.reverseRecOn with
  | nil => exact .refl _
  | append_singleton edits edit ih =>
      rw [performAll_append]
      exact ih.trans (edit.perform_extends _ _).grown

end

/-- The entries of a model are those of the roots that were added, one for each. -/
structure RootModel.Registers (model : RootModel) (added : List Path) : Prop where
  unique : model.contentEntries.Pairwise fun left right => left.root.same right.root = false
  /-- They stand in the order of first additions, each under the first spelling of its root. -/
  roots : model.contentEntries.map ContentEntry.root = Path.firstSpellings added
  found : ∀ root, (model.entry? root).isSome = true ↔ ∃ other ∈ added, other.same root = true

theorem RootModel.registers_of_roots {model : RootModel} {added : List Path}
    (roots : model.contentEntries.map ContentEntry.root = Path.firstSpellings added) :
    model.Registers added where
  unique := by
    have apart := Path.firstSpellings_pairwise added
    rw [← roots] at apart
    exact List.pairwise_map.mp apart
  roots := roots
  found root := by
    rw [← Path.exists_same_firstSpellings, ← roots, entry?, List.find?_isSome]
    simp

/-- However a model is edited, there is one entry for each root that was added, in the order of the
first additions and as spelled there. Adding a root changes no entry, and the entry that is found
for a root is the one that adding it finds, in the same place, after whatever else is done. -/
theorem performAll_registers {σ : Type} (moduleName : String) (edits : List (Edit σ)) (start : σ) :
    ∃ model between,
      Edit.performAll edits { moduleName } start = (model, between) ∧
      model.Registers (edits.filterMap Edit.root?) ∧
      (∀ root change, model.update root change =
        { (model.provideEntry root).1 with
          contentEntries :=
            (model.provideEntry root).1.contentEntries.modify (model.provideEntry root).2
              change }) ∧
      (∀ root, (model.entry? root).isSome = true ∧ model.addEntry root = model ∨
        model.entry? root = none ∧ model.addEntry root =
          { model with contentEntries := model.contentEntries ++ [{ root }] }) ∧
      ∀ root entry, model.entry? root = some entry →
        ∃ place, model.contentEntries[place]? = some entry ∧
          model.provideEntry root = (model, place) ∧
          ∀ more : List (Edit σ), ∃ later finish sources excludes,
            Edit.performAll more model between = (later, finish) ∧
            later.provideEntry root = (later, place) ∧
            later.contentEntries[place]? = some (entry.extend sources excludes) ∧
            later.entry? root = some (entry.extend sources excludes) := by
  obtain ⟨model, between, ran⟩ : ∃ model between,
      Edit.performAll edits { moduleName } start = (model, between) := ⟨_, _, rfl⟩
  have roots := Edit.performAll_roots moduleName edits start
  rw [ran] at roots
  refine ⟨model, between, ran, RootModel.registers_of_roots roots, model.update_eq,
    model.addEntry_cases, fun root entry found => ?_⟩
  obtain ⟨place, here⟩ := exists_entryAt found
  refine ⟨place, here.placed, here.provideEntry_eq, fun more => ?_⟩
  obtain ⟨sources, excludes, still⟩ := here.of_grown (Edit.performAll_grown more model between)
  exact ⟨_, _, sources, excludes, rfl, still.provideEntry_eq, still.placed, still.entry?_eq⟩

end TexWorkspace.Project
