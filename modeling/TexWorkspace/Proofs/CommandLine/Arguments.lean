import TexWorkspace.CommandLine

set_option autoImplicit false

/-!
Arguments of the command that lays out a project. Every combination of its options can be asked for,
whatever their values are, as long as no path is empty; and no other combination can.
-/

namespace TexWorkspace.CommandLine

/-! ## Options with their values -/

/-- An option with its value in one argument. -/
def spelled (option : String × String) : String :=
  "--" ++ option.1 ++ "=" ++ option.2

/-- The option is one of the table and takes a value, and this one will do. -/
structure Takes (table : OptionTable) (option : String × String) (form : OptionForm) : Prop where
  listed : table.lookup option.1 = some form
  valued : form ≠ .flag
  filled : form = .path → option.2 ≠ ""
  named : option.1 ≠ "" ∧ option.1 ≠ "help"
  plain : '=' ∉ option.1.toList

theorem longOption?_spelled {name : String} (value : String) (named : name ≠ "")
    (plain : '=' ∉ name.toList) :
    longOption? (spelled (name, value)) = some (name, some value) := by
  have letters : ∀ c ∈ name.toList, decide (c ≠ '=') := by
    intro c member
    simp only [decide_eq_true_eq]
    rintro rfl
    exact plain member
  obtain ⟨c, rest, begins⟩ : ∃ c rest, name.toList = c :: rest :=
    List.exists_cons_of_ne_nil (by simpa using named)
  have listed : (spelled (name, value)).toList =
      '-' :: '-' :: c :: (rest ++ '=' :: value.toList) := by
    simp [spelled, String.toList_append, begins]
  have whole : c :: (rest ++ '=' :: value.toList) = name.toList ++ '=' :: value.toList := by
    rw [begins]
    rfl
  have took : (c :: (rest ++ '=' :: value.toList)).takeWhile (· ≠ '=') = name.toList := by
    rw [whole, List.takeWhile_append_of_pos letters]
    simp
  have left : (c :: (rest ++ '=' :: value.toList)).dropWhile (· ≠ '=') = '=' :: value.toList := by
    rw [whole, List.dropWhile_append_of_pos letters]
    simp
  unfold longOption?
  rw [listed]
  split
  next other more same =>
    cases same
    dsimp only
    rw [took, left, String.ofList_toList]
    simp
  next none => exact absurd rfl (none c _)

variable {table : OptionTable} {given : Given}

theorem readArguments_spelled {option : String × String} {form : OptionForm} {rest : List String}
    (takes : Takes table option form) (fresh : given.options.lookup option.1 = none) :
    readArguments table given (spelled option :: rest) =
      readArguments table { given with options := given.options ++ [option] } rest := by
  obtain ⟨name, value⟩ := option
  have long := longOption?_spelled value takes.named.1 takes.plain
  have mark : spelled (name, value) ≠ "--" := by
    intro same
    rw [same] at long
    cases long
  have adds : given.addOption? name form value =
      some { given with options := given.options ++ [(name, value)] } := by
    unfold Given.addOption?
    rw [if_neg]
    simp only [fresh, Option.isSome_none, Bool.false_eq_true, false_or, not_and]
    exact takes.filled
  rw [readArguments.eq_3 _ _ _ _ mark, long]
  dsimp only
  rw [if_neg takes.named.2, takes.listed]
  cases form with
  | flag => exact absurd rfl takes.valued
  | text => simp [adds]
  | path => simp [adds]

-- By induction on the options, for all that may have been read before them.
theorem readArguments_spelled_all {options : List (String × String)} {rest : List String}
    (takes : ∀ option ∈ options, ∃ form, Takes table option form)
    (fresh : ((given.options ++ options).map Prod.fst).Nodup) :
    readArguments table given (options.map spelled ++ rest) =
      readArguments table { given with options := given.options ++ options } rest := by
  induction options generalizing given with
  | nil => simp
  | cons option later ih =>
      obtain ⟨form, here⟩ := takes option List.mem_cons_self
      have unread : given.options.lookup option.1 = none := by
        rw [List.lookup_eq_none_iff]
        intro other member
        rw [List.map_append, List.nodup_append] at fresh
        have apart := fresh.2.2 other.1 (List.mem_map_of_mem member) option.1 (by simp)
        simpa using apart.symm
      rw [List.map_cons, List.cons_append, readArguments_spelled here unread, ih]
      · simp
      · exact fun other member => takes other (.tail _ member)
      · simpa using fresh

/-! ## Options of a new project -/

namespace NewOptions

/-- No path is empty. -/
structure Valid (options : NewOptions) : Prop where
  path : options.path ≠ ⟨""⟩
  templates : options.templates ≠ some ⟨""⟩
  config : options.config ≠ some ⟨""⟩

/-- The options that are given, with their values. -/
def assigned (options : NewOptions) : List (String × String) :=
  (options.name.map ("name", ·)).toList ++ (options.template.map ("template", ·)).toList ++
    (options.templates.map fun place => ("templates", place.text)).toList ++
    (options.config.map fun file => ("config", file.text)).toList

/-- Arguments that ask for a new project with the options. -/
def arguments (options : NewOptions) : List String :=
  "new" :: (options.assigned.map spelled ++ ["--", options.path.text])

theorem takes_assigned {options : NewOptions} (valid : options.Valid) :
    ∀ option ∈ options.assigned, ∃ form, Takes newTable option form := by
  intro option member
  simp only [assigned, List.mem_append, Option.mem_toList, Option.map_eq_some_iff] at member
  rcases member with
    ((⟨name, -, rfl⟩ | ⟨template, -, rfl⟩) | ⟨place, named, rfl⟩) | ⟨file, named, rfl⟩
  · exact ⟨.text, rfl, nofun, nofun, by simp, by simp⟩
  · exact ⟨.text, rfl, nofun, nofun, by simp, by simp⟩
  · refine ⟨.path, rfl, nofun, fun _ empty => ?_, by simp, by simp⟩
    exact valid.templates (named.trans (congrArg (some ∘ Path.mk) empty))
  · refine ⟨.path, rfl, nofun, fun _ empty => ?_, by simp, by simp⟩
    exact valid.config (named.trans (congrArg (some ∘ Path.mk) empty))

theorem nodup_assigned (options : NewOptions) : (options.assigned.map Prod.fst).Nodup := by
  obtain ⟨path, name, template, templates, config⟩ := options
  cases name <;> cases template <;> cases templates <;> cases config <;>
    simp [assigned]

/-- Whatever the options are, they can be asked for, if no path is empty. -/
theorem command?_arguments {options : NewOptions} (valid : options.Valid) :
    command? options.arguments = some (.new options) := by
  have named : options.path.text ≠ "" := fun empty => valid.path (congrArg Path.mk empty)
  have read :
      readArguments newTable {} (options.assigned.map spelled ++ ["--", options.path.text]) =
        .accepted { operand := some options.path.text, options := options.assigned } := by
    have apart : ((({} : Given).options ++ options.assigned).map Prod.fst).Nodup :=
      options.nodup_assigned
    rw [readArguments_spelled_all (takes_assigned valid) apart]
    simp [readArguments, readOperands, Given.addOperand?, named]
  unfold arguments
  rw [command?, read]
  obtain ⟨path, name, template, templates, config⟩ := options
  cases name <;> cases template <;> cases templates <;> cases config <;> rfl

end NewOptions

/-! ## What can be asked for -/

/-- The operand is not empty, and neither is any path among the options. -/
structure Given.Filled (table : OptionTable) (given : Given) : Prop where
  operand : given.operand ≠ some ""
  path : ∀ option ∈ given.options, table.lookup option.1 = some .path → option.2 ≠ ""

theorem Given.Filled.addOperand {extended : Given} {operand : String} (filled : given.Filled table)
    (adds : given.addOperand? operand = some extended) : extended.Filled table := by
  unfold Given.addOperand? at adds
  split at adds
  next => cases adds
  next allowed =>
    cases adds
    exact ⟨fun empty => allowed (.inr (Option.some.inj empty)), filled.path⟩

theorem Given.Filled.addOption {extended : Given} {name value : String} {form : OptionForm}
    (filled : given.Filled table) (listed : table.lookup name = some form)
    (adds : given.addOption? name form value = some extended) : extended.Filled table := by
  unfold Given.addOption? at adds
  split at adds
  next => cases adds
  next allowed =>
    cases adds
    refine ⟨filled.operand, fun option member paths => ?_⟩
    rcases List.mem_append.mp member with earlier | here
    · exact filled.path option earlier paths
    · obtain rfl := List.mem_singleton.mp here
      exact fun empty => allowed (.inr ⟨Option.some.inj (listed.symm.trans paths), empty⟩)

theorem readOperands_filled {arguments : List String} {final : Given} (filled : given.Filled table)
    (read : readOperands given arguments = .accepted final) : final.Filled table := by
  fun_induction readOperands given arguments with
  | case1 => cases read; exact filled
  | case2 given operand rest extended adds ih => exact ih (filled.addOperand adds) read
  | case3 => cases read

theorem readArguments_filled {arguments : List String} {final : Given} (filled : given.Filled table)
    (read : readArguments table given arguments = .accepted final) : final.Filled table := by
  fun_induction readArguments table given arguments with
  | case1 => cases read; exact filled
  | case2 => exact readOperands_filled filled read
  | case7 given argument rest mark name attached long other listed bare extended adds ih =>
      exact ih (filled.addOption listed adds) read
  | case9 given argument rest mark name other form valued listed value extended adds long ih =>
      exact ih (filled.addOption listed adds) read
  | case13 given argument mark name other form valued listed value rest plain extended adds _ ih =>
      exact ih (filled.addOption listed adds) read
  | case17 given argument rest mark short plain extended adds ih =>
      exact ih (filled.addOperand adds) read
  | _ => cases read

theorem Given.Filled.lookup_ne {name : String} (filled : given.Filled table)
    (paths : table.lookup name = some .path) : given.options.lookup name ≠ some "" := by
  intro found
  obtain ⟨before, after, listed, -⟩ := List.lookup_eq_some_iff.mp found
  exact filled.path (name, "") (by simp [listed]) paths rfl

/-- Arguments that ask for a new project have no empty path among its options. -/
theorem NewOptions.valid_of_command? {arguments : List String} {options : NewOptions}
    (asked : command? arguments = some (.new options)) : options.Valid := by
  unfold command? at asked
  split at asked
  next rest =>
    split at asked
    next given read =>
      obtain ⟨path, operand, made⟩ := Option.bind_eq_some_iff.mp asked
      cases made
      have filled : given.Filled newTable := readArguments_filled ⟨by simp, by simp⟩ read
      refine ⟨?_, ?_, ?_⟩
      · rintro ⟨⟩
        exact filled.operand operand
      · intro empty
        obtain ⟨text, found, ⟨⟩⟩ := Option.map_eq_some_iff.mp empty
        exact filled.lookup_ne rfl found
      · intro empty
        obtain ⟨text, found, ⟨⟩⟩ := Option.map_eq_some_iff.mp empty
        exact filled.lookup_ne rfl found
    next => cases asked
    next => cases asked
  next rest =>
    split at asked
    next given read =>
      obtain ⟨path, operand, made⟩ := Option.bind_eq_some_iff.mp asked
      cases made
    next => cases asked
    next => cases asked
  next => split at asked <;> cases asked
  next => split at asked <;> cases asked
  next => cases asked

/-- A new project can be asked for with just those options in which no path is empty. -/
theorem NewOptions.valid_iff {options : NewOptions} :
    options.Valid ↔ ∃ arguments, command? arguments = some (.new options) :=
  ⟨fun valid => ⟨options.arguments, command?_arguments valid⟩,
    fun ⟨_, asked⟩ => valid_of_command? asked⟩

end TexWorkspace.CommandLine
