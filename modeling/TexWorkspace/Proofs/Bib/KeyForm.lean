import TexWorkspace.Proofs.Bib.Views

set_option autoImplicit false

/-!
What a key consists of: one name, trivia before it, and the comma behind it if there is one. This
holds of every key in the tree of a text, whatever is wrong with the entry around it, because keys
are built in one place only.
-/

namespace TexWorkspace.Bib

namespace Grammar

/-- The tokens of a key with the given name. -/
inductive Key (name : Token) : List Token → Prop where
  | alone {before : List Token} :
      Trivia before → name.isName = true → Key name (before ++ [name])
  | separated {before after : List Token} {comma : Token} :
      Trivia before → name.isName = true → Trivia after → comma.kind = .comma →
      Key name (before ++ name :: after ++ [comma])

theorem Trivia.filter_isName {run : List Token} (trivia : Trivia run) :
    run.filter Token.isName = [] := by
  rw [List.filter_eq_nil_iff]
  intro token member isName
  have significant := Rule.name_significant isName
  rw [trivia token member] at significant
  cases significant

theorem Key.filter_isName {name : Token} {tokens : List Token} (key : Key name tokens) :
    tokens.filter Token.isName = [name] := by
  cases key with
  | alone before isName => simp [before.filter_isName, isName]
  | @separated _ _ comma before isName after isComma =>
      have noName : comma.isName = false := by simp [Token.isName, isComma]
      simp [before.filter_isName, after.filter_isName, isName, noName]

theorem Key.mem {name : Token} {tokens : List Token} (key : Key name tokens) : name ∈ tokens := by
  cases key with
  | alone => simp
  | separated => simp

end Grammar

/-- Every key in the row is formed as the grammar has it. -/
def KeysFormed (trees : List Tree) : Prop :=
  ∀ below, Tree.node .key below ∈ trees → ∃ name, Grammar.Key name (Tree.tokensAll below)

namespace KeysFormed

variable {left right trees : List Tree}

theorem append (leftFormed : KeysFormed left) (rightFormed : KeysFormed right) :
    KeysFormed (left ++ right) := by
  intro below member
  rcases List.mem_append.mp member with member | member
  · exact leftFormed below member
  · exact rightFormed below member

theorem of_among {labels : List Label} (among : Among labels trees)
    (absent : Label.node .key ∉ labels) : KeysFormed trees := by
  intro below member
  exact absurd (among _ member _ rfl) absent

end KeysFormed

namespace Rule

variable {tokens : List Token} {delimiter : Delimiter}

/-! ## Rules that build keys -/

theorem keySeparator_tokens (delimiter : Delimiter) (tokens : List Token) :
    Tree.tokensAll (keySeparator delimiter tokens).trees = [] ∨
      ∃ after comma, Grammar.Trivia after ∧ comma.kind = .comma ∧
        Tree.tokensAll (keySeparator delimiter tokens).trees = after ++ [comma] := by
  unfold keySeparator
  split
  · rename_i ahead
    obtain ⟨comma, rest, split, isComma⟩ := exists_of_peekPast ahead
    right
    refine ⟨tokens.takeWhile Token.isTrivia, comma, Grammar.trivia_takeWhile tokens, isComma, ?_⟩
    rw [andThen, Tree.tokensAll_append]
    simp only [trivia, tokensAll_map_triviaTree, split, take]
    simp
  · left
    split
    · exact Tree.tokensAll_nil
    · simp [report]

theorem key_formed (separated : Separated tokens) : KeysFormed (key delimiter tokens).trees := by
  unfold key
  split
  · rename_i starts
    obtain ⟨before, name, rest, -, isName, dropped, split⟩ := exists_of_startsWithKey starts
    have apart := trivia_lossless.separated separated
    rw [show (trivia tokens).rest = name :: rest from dropped] at apart
    have taken :
        Tree.tokensAll (trivia.andThen (names.andThen (keySeparator delimiter)) tokens).trees =
        tokens.takeWhile Token.isTrivia ++
          name :: Tree.tokensAll (keySeparator delimiter rest).trees := by
      simp only [andThen, Tree.tokensAll_append]
      rw [show (trivia tokens).rest = name :: rest from dropped, names_of_separated apart isName]
      simp [trivia, tokensAll_map_triviaTree]
    have loose := Grammar.trivia_takeWhile tokens
    intro below member
    obtain ⟨-, rfl⟩ := Tree.node.inj (List.mem_singleton.mp member)
    refine ⟨name, ?_⟩
    rw [taken]
    rcases keySeparator_tokens delimiter rest with none | ⟨after, comma, between, isComma, some⟩
    · rw [none]
      exact .alone loose isName
    · rw [some, ← List.cons_append, ← List.append_assoc]
      exact .separated loose isName between isComma
  · have reported : Row [.token .comma] [.fault .missingKey] := .fault _ _
    have loose := KeysFormed.of_among (trivia_row tokens).among (by decide)
    have fault := KeysFormed.of_among reported.among (by decide)
    have comma := KeysFormed.of_among (strayComma_row (trivia tokens).rest).among (by decide)
    exact loose.append (fault.append comma)

theorem fields_formed (delimiter : Delimiter) (tokens : List Token) :
    KeysFormed (fields delimiter tokens).trees :=
  .of_among (fields_row delimiter tokens).among (by decide)

theorem body_formed (form : BodyForm) (separated : Separated tokens) :
    KeysFormed (body form delimiter tokens).trees := by
  cases form with
  | remark =>
      have raw := tokens_row (scanRaw delimiter.closer 0 tokens).inside
      exact .of_among raw.among (by decide)
  | preamble =>
      have before := KeysFormed.of_among (trivia_row tokens).among (by decide)
      have valued := KeysFormed.of_among (value_row (trivia tokens).rest).among (by decide)
      have after := KeysFormed.of_among (trivia_row (value (trivia tokens).rest).rest).among
        (by decide)
      exact before.append (valued.append after)
  | definitions => exact fields_formed delimiter tokens
  | keyed => exact (key_formed separated).append (fields_formed delimiter _)

theorem delimited_formed (form : BodyForm) (separated : Separated tokens) :
    KeysFormed (delimited form tokens).trees := by
  have reported : KeysFormed [.fault .missingOpener] :=
    .of_among (Row.fault [] .missingOpener).among (by decide)
  cases tokens with
  | nil => exact reported
  | cons opening rest =>
      rcases delimited_cons form opening with ⟨delimiter, -, chosen⟩ | misplaced
      · have behind : Separated rest := @Separated.of_append [opening] rest separated
        have opener : KeysFormed [.token opening] :=
          .of_among (@Row.token [.token opening.kind] opening (by simp)).among (by simp)
        have closer :=
          KeysFormed.of_among (close_row delimiter (body form delimiter rest).rest).among (by decide)
        rw [chosen]
        exact opener.append ((body_formed form behind).append closer)
      · rw [misplaced]
        exact reported

theorem typed_formed (separated : Separated tokens) : KeysFormed (typed tokens).trees := by
  have reported : KeysFormed [.fault .missingType] :=
    .of_among (Row.fault [] .missingType).among (by decide)
  cases tokens with
  | nil => exact reported
  | cons type rest =>
      by_cases word : type.kind = .word
      · have behind : Separated rest := @Separated.of_append [type] rest separated
        have named : KeysFormed [.node .entryType [.token type]] := by
          intro below member
          cases List.mem_singleton.mp member
        have loose := KeysFormed.of_among (trivia_row rest).among (by decide)
        rw [typed_of_word word]
        exact named.append (loose.append
          (delimited_formed _ (trivia_lossless.separated behind)))
      · rw [typed_of_not_word word]
        exact reported

theorem entry_formed {mark : Token} (separated : Separated (mark :: tokens)) {below : List Tree}
    (built : Tree.node .entry below ∈ (entry (mark :: tokens)).trees) : KeysFormed below := by
  have behind : Separated tokens := @Separated.of_append [mark] tokens separated
  have first : KeysFormed [.token mark] :=
    .of_among (@Row.token [.token mark.kind] mark (by simp)).among (by simp)
  have loose := KeysFormed.of_among (trivia_row tokens).among (by decide)
  obtain ⟨-, rfl⟩ := Tree.node.inj (List.mem_singleton.mp built)
  exact first.append (loose.append (typed_formed (trivia_lossless.separated behind)))

end Rule

theorem fileItems_formed {tokens : List Token} (separated : Separated tokens) {below : List Tree}
    (built : Tree.node .entry below ∈ fileItems tokens) : KeysFormed below := by
  fun_induction fileItems tokens with
  | case1 => cases built
  | case2 token rest isMark ih =>
      rcases List.mem_append.mp built with here | later
      · exact Rule.entry_formed separated here
      · exact ih (Rule.entry_lossless.separated separated) later
  | case3 token rest noMark ih =>
      rcases List.mem_cons.mp built with here | later
      · rw [Rule.triviaTree] at here
        split at here <;> cases here
      · exact ih (@Separated.of_append [token] rest separated) later

/-! ## Keys of a text -/

/-- Every key of a text is formed as the grammar has it, and its name is the identifier. -/
theorem KeyNode.formed {text : String} {entry : Entry} {key : KeyNode}
    (listed : entry ∈ (Document.ofText text).entries) (found : entry.key? = some key) :
    ∃ name, Grammar.Key name key.node.tree.tokens ∧ key.identifier = name.text := by
  obtain ⟨inner, deep, isEntry, sound, member, isKey, -⟩ := exists_of_key? listed found
  obtain ⟨place, -, -⟩ := @Located.mem_entries (parse text).located _ rfl (sound_parse text) entry
    listed
  have built := Located.tree_mem_of_mem_children place
  rw [isEntry, Tree.located, children_parse] at built
  have among := Located.tree_mem_of_mem_children member
  rw [isEntry, isKey] at among
  obtain ⟨name, formed⟩ := fileItems_formed (lex_separated text) built deep
    (Tree.mem_of_mem_children among)
  refine ⟨name, by rwa [isKey, Tree.tokens_node], ?_⟩
  have keySound := (Located.sound_of_mem_children isEntry sound member).1
  obtain ⟨⟨start, tree⟩⟩ := key
  obtain rfl : tree = .node .key deep := isKey
  cases keySound with
  | node fits sound =>
      cases fits with
      | key labels _ =>
          rw [identifier_of_row ⟨labels, sound⟩, formed.filter_isName]
          simp

end TexWorkspace.Bib
