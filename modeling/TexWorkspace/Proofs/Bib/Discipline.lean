import TexWorkspace.Proofs.Bib.Lossless
import TexWorkspace.Proofs.Bib.TokenSeams
import TexWorkspace.Text.Cut

set_option autoImplicit false

/-!
Which lists of tokens texts have. Every token has the form of its kind, and side by side stand only
tokens that would not have been taken as one. Main statement: the tokens of a text are the one list
that keeps to this and whose texts, joined, are the text.
-/

namespace TexWorkspace.Bib

/-! ## The discipline -/

/-- The punctuation marks, each with its kind. -/
def marks : List (TokenKind × Char) :=
  [(.atSign, '@'), (.openBrace, '{'), (.closeBrace, '}'), (.openParen, '('), (.closeParen, ')'),
    (.comma, ','), (.equals, '='), (.hash, '#'), (.quote, '"')]

/-- A character that stands for itself in a word. -/
structure IsPlain (c : Char) : Prop where
  filled : Text.isBlank c = false
  noMark : c ∉ marks.map Prod.snd
  noComment : c ≠ '%'
  noEscape : c ≠ '\\'

/-- The units of a word: plain characters, and backslashes each with whatever character is next. -/
inductive Units : List Char → Prop where
  | nil : Units []
  | plain {c : Char} {rest : List Char} : IsPlain c → Units rest → Units (c :: rest)
  | escaped {c : Char} {rest : List Char} : Units rest → Units ('\\' :: c :: rest)

/-- The token has the form of its kind, and takes nothing of what follows it. -/
inductive Token.Formed : Token → Prop where
  | mark {kind : TokenKind} {c : Char} : (kind, c) ∈ marks → Formed ⟨kind, String.ofList [c]⟩
  | blank {run : List Char} :
      run ≠ [] → (∀ c ∈ run, Text.isBlank c = true) → Formed ⟨.blank, String.ofList run⟩
  | comment {line : List Char} :
      (∀ c ∈ line, c ≠ '\n' ∧ c ≠ '\r') → Formed ⟨.comment, String.ofList ('%' :: line)⟩
  | number {digits : List Char} :
      digits ≠ [] → (∀ c ∈ digits, c.isDigit = true) → Formed ⟨.number, String.ofList digits⟩
  | word {units : List Char} :
      (∃ c ∈ units, c.isDigit = false) → Units units → Formed ⟨.word, String.ofList units⟩

/-- The right token can stand behind the left one. -/
structure Token.Admits (left right : Token) : Prop where
  blank : left.kind = .blank → right.kind ≠ .blank
  comment : left.kind = .comment → right.kind = .blank ∧
    ∃ c ∈ right.text.toList.head?, c = '\n' ∨ c = '\r'
  name : ¬ (left.isName = true ∧ right.isName = true)

/-- Tokens in the form of their kinds, each of them admitted by the one before it. Only a word at the
very end may have a backslash that takes nothing along. -/
inductive Disciplined : List Token → Prop where
  | nil : Disciplined []
  | unpaired {units : List Char} :
      Units units → Disciplined [⟨.word, String.ofList (units ++ ['\\'])⟩]
  | cons {token : Token} {rest : List Token} :
      token.Formed → (∀ next ∈ rest.head?, token.Admits next) → Disciplined rest →
      Disciplined (token :: rest)

/-! ## Characters -/

theorem mem_marks_iff {kind : TokenKind} {c : Char} :
    (kind, c) ∈ marks ↔ punctuation? c = some kind := by
  constructor
  · intro member
    simp only [marks, List.mem_cons, Prod.mk.injEq, List.not_mem_nil, or_false] at member
    rcases member with ⟨rfl, rfl⟩ | ⟨rfl, rfl⟩ | ⟨rfl, rfl⟩ | ⟨rfl, rfl⟩ | ⟨rfl, rfl⟩ |
      ⟨rfl, rfl⟩ | ⟨rfl, rfl⟩ | ⟨rfl, rfl⟩ | ⟨rfl, rfl⟩ <;> rfl
  · intro found
    unfold punctuation? at found
    split at found <;> cases found <;> decide

theorem notMem_marks_iff {c : Char} : c ∉ marks.map Prod.snd ↔ punctuation? c = none := by
  rw [Option.eq_none_iff_forall_ne_some]
  constructor
  · intro noMark kind found
    exact noMark (List.mem_map.mpr ⟨(kind, c), mem_marks_iff.mpr found, rfl⟩)
  · intro noKind member
    obtain ⟨⟨kind, other⟩, listed, rfl⟩ := List.mem_map.mp member
    exact noKind kind (mem_marks_iff.mp listed)

theorem isPlain_iff {c : Char} : IsPlain c ↔ isWordChar c = true ∧ c ≠ '\\' := by
  simp only [isWordChar, Bool.and_eq_true, Bool.not_eq_true', bne_iff_ne, ne_eq,
    Option.isNone_iff_eq_none]
  constructor
  · intro plain
    exact ⟨⟨⟨plain.filled, plain.noComment⟩, notMem_marks_iff.mp plain.noMark⟩, plain.noEscape⟩
  · rintro ⟨⟨⟨filled, noComment⟩, noMark⟩, noEscape⟩
    exact ⟨filled, notMem_marks_iff.mpr noMark, noComment, noEscape⟩

theorem isPlain_of_isDigit {c : Char} (isDigit : c.isDigit = true) : IsPlain c := by
  have plain : ∀ code < 58, 48 ≤ code → isWordChar (Char.ofNat code) = true ∧
      Char.ofNat code ≠ '\\' := by
    decide
  simp only [Char.isDigit, Bool.and_eq_true, decide_eq_true_eq] at isDigit
  have least : 48 ≤ c.toNat := isDigit.1
  have greatest : c.toNat ≤ 57 := isDigit.2
  rw [isPlain_iff, ← Char.ofNat_toNat c]
  exact plain c.toNat (by omega) least

theorem Units.of_digits {digits : List Char} (isDigit : ∀ c ∈ digits, c.isDigit = true) :
    Units digits := by
  induction digits with
  | nil => exact .nil
  | cons c digits ih =>
      obtain ⟨first, others⟩ := List.forall_mem_cons.mp isDigit
      exact .plain (isPlain_of_isDigit first) (ih others)

/-- A word starts with a character that can stand in it. -/
theorem Units.head_wordChar {units : List Char} (formed : Units units) :
    ∀ c ∈ units.head?, isWordChar c = true := by
  intro c first
  cases formed with
  | nil => cases first
  | plain plain _ =>
      obtain rfl := Option.some.inj first
      exact (isPlain_iff.mp plain).1
  | escaped _ =>
      obtain rfl := Option.some.inj first
      decide

/-! ## How tokens start and end -/

/-- The token starts with the character, which tells whether it is blank or a name. -/
structure Token.Starts (token : Token) (c : Char) : Prop where
  head : token.text.toList.head? = some c
  blank : token.kind = .blank ↔ Text.isBlank c = true
  name : token.isName = isWordChar c

/-- The token does not go on with the character. -/
structure Token.EndsBefore (token : Token) (c : Char) : Prop where
  blank : token.kind = .blank → Text.isBlank c = false
  comment : token.kind = .comment → c = '\n' ∨ c = '\r'
  name : token.isName = true → isWordChar c = false

namespace Token

theorem Starts.endsBefore_iff {left right : Token} {c : Char} (starts : right.Starts c) :
    left.EndsBefore c ↔ left.Admits right := by
  constructor
  · intro ends
    constructor
    · intro isBlank alsoBlank
      exact absurd (starts.blank.mp alsoBlank) (by simp [ends.blank isBlank])
    · intro isComment
      have lineEnd := ends.comment isComment
      refine ⟨starts.blank.mpr ?_, c, starts.head, lineEnd⟩
      rcases lineEnd with rfl | rfl <;> decide
    · rintro ⟨leftName, rightName⟩
      rw [starts.name, ends.name leftName] at rightName
      cases rightName
  · intro admits
    constructor
    · intro isBlank
      rw [Bool.eq_false_iff]
      exact mt starts.blank.mpr (admits.blank isBlank)
    · intro isComment
      obtain ⟨-, first, head, lineEnd⟩ := admits.comment isComment
      obtain rfl : c = first := Option.some.inj (starts.head.symm.trans head)
      exact lineEnd
    · intro isName
      rw [Bool.eq_false_iff, ne_eq, ← starts.name]
      exact fun alsoName => admits.name ⟨isName, alsoName⟩

theorem starts_word {kind : TokenKind} {c : Char} {rest : List Char}
    (isName : kind = .word ∨ kind = .number) (wordChar : isWordChar c = true) :
    Starts ⟨kind, String.ofList (c :: rest)⟩ c where
  head := by simp
  blank := by
    have filled : Text.isBlank c = false := by
      by_contra blank
      simp [isWordChar, blank] at wordChar
    rcases isName with rfl | rfl <;> simp [filled]
  name := by rcases isName with rfl | rfl <;> simp [Token.isName, wordChar]

theorem Formed.exists_starts {token : Token} (formed : token.Formed) : ∃ c, token.Starts c := by
  cases formed with
  | @mark kind c isMark =>
      have found := mem_marks_iff.mp isMark
      refine ⟨c, by simp, ?_, ?_⟩
      · constructor
        · rintro rfl
          cases mark_significant found
        · intro blank
          cases (mark_filled found).symm.trans blank
      · rw [punctuation?_ne_name found]
        simp [isWordChar, found]
  | @blank run filled blank =>
      cases run with
      | nil => exact absurd rfl filled
      | cons c rest =>
          have isBlank := blank c List.mem_cons_self
          exact ⟨c, by simp, by simp [isBlank], by simp [Token.isName, isWordChar, isBlank]⟩
  | comment _ =>
      have filled : Text.isBlank '%' = false := by decide
      exact ⟨'%', by simp, by simp [filled], rfl⟩
  | @number digits filled isDigit =>
      cases digits with
      | nil => exact absurd rfl filled
      | cons c rest =>
          have plain := isPlain_of_isDigit (isDigit c List.mem_cons_self)
          exact ⟨c, starts_word (.inr rfl) (isPlain_iff.mp plain).1⟩
  | @word units letter formed =>
      cases units with
      | nil =>
          obtain ⟨c, member, -⟩ := letter
          cases member
      | cons c rest => exact ⟨c, starts_word (.inl rfl) (formed.head_wordChar c rfl)⟩

end Token

theorem Disciplined.exists_starts {token : Token} {rest : List Token}
    (disciplined : Disciplined (token :: rest)) : ∃ c, token.Starts c := by
  cases disciplined with
  | cons formed _ _ => exact formed.exists_starts
  | @unpaired units formed =>
      cases units with
      | nil => exact ⟨'\\', Token.starts_word (.inl rfl) (by decide)⟩
      | cons c units => exact ⟨c, Token.starts_word (.inl rfl) (formed.head_wordChar c rfl)⟩

/-! ## Tokens of a text -/

theorem spanWord_units_append {units : List Char} (formed : Units units) (rest : List Char) :
    spanWord (units ++ rest) = (units ++ (spanWord rest).1, (spanWord rest).2) := by
  induction formed with
  | nil => rfl
  | plain plain _ ih =>
      obtain ⟨wordChar, noEscape⟩ := isPlain_iff.mp plain
      rw [List.cons_append, spanWord_of_wordChar noEscape wordChar, ih]
      rfl
  | escaped _ ih =>
      rw [List.cons_append, List.cons_append, spanWord_of_escape, ih]
      rfl

/-- A word that is split off consists of units, unless its text ends in the middle of one. -/
theorem units_spanWord (chars : List Char) :
    Units (spanWord chars).1 ∨
      ∃ units, Units units ∧ spanWord chars = (units ++ ['\\'], []) := by
  fun_induction spanWord chars with
  | case1 => exact .inl .nil
  | case2 c rest word after split ih =>
      rw [split] at ih
      rcases ih with formed | ⟨units, formed, ends⟩
      · exact .inl (.escaped formed)
      · obtain ⟨rfl, rfl⟩ := Prod.mk.inj ends
        exact .inr ⟨'\\' :: c :: units, .escaped formed, rfl⟩
  | case3 c rest noPair wordChar word after split ih =>
      by_cases escape : c = '\\'
      · cases rest with
        | nil =>
            obtain ⟨rfl, rfl⟩ := Prod.mk.inj split
            exact .inr ⟨[], .nil, by rw [escape]; rfl⟩
        | cons next rest => exact absurd rfl (noPair next rest escape)
      · have plain := isPlain_iff.mpr ⟨wordChar, escape⟩
        rw [split] at ih
        rcases ih with formed | ⟨units, formed, ends⟩
        · exact .inl (.plain plain formed)
        · obtain ⟨rfl, rfl⟩ := Prod.mk.inj ends
          exact .inr ⟨c :: units, .plain plain formed, rfl⟩
  | case4 c rest noPair noWord => exact .inl .nil

/-! ## The first token, by the class of its first character -/

theorem char_cases (c : Char) :
    (∃ kind, punctuation? c = some kind) ∨ c = '%' ∨ Text.isBlank c = true ∨
      isWordChar c = true := by
  cases mark : punctuation? c with
  | some kind => exact .inl ⟨kind, rfl⟩
  | none =>
      by_cases percent : c = '%'
      · exact .inr (.inl percent)
      · cases blank : Text.isBlank c with
        | true => exact .inr (.inr (.inl rfl))
        | false => exact .inr (.inr (.inr (by simp [isWordChar, mark, percent, blank])))

theorem tokenAt_of_mark {c : Char} {kind : TokenKind} (found : punctuation? c = some kind)
    (rest : List Char) : tokenAt c rest = (⟨kind, String.ofList [c]⟩, rest) := by
  simp only [tokenAt, found]

theorem tokenAt_of_percent (rest : List Char) :
    tokenAt '%' rest = (⟨.comment, String.ofList ('%' :: rest.takeWhile isCommentChar)⟩,
      rest.dropWhile isCommentChar) := rfl

theorem tokenAt_of_blank {c : Char} (blank : Text.isBlank c = true) (rest : List Char) :
    tokenAt c rest = (⟨.blank, String.ofList (c :: rest.takeWhile Text.isBlank)⟩,
      rest.dropWhile Text.isBlank) := by
  have noMark : punctuation? c = none := by
    rw [Option.eq_none_iff_forall_ne_some]
    intro kind found
    cases (mark_filled found).symm.trans blank
  have noComment : c ≠ '%' := by
    rintro rfl
    cases blank
  simp only [tokenAt, noMark, if_neg noComment, blank, if_true]

theorem tokenAt_of_wordChar {c : Char} (wordChar : isWordChar c = true) (rest : List Char) :
    tokenAt c rest =
      (⟨wordKind (spanWord (c :: rest)).1, String.ofList (spanWord (c :: rest)).1⟩,
        (spanWord (c :: rest)).2) := by
  simp only [isWordChar, Bool.and_eq_true, Bool.not_eq_true', bne_iff_ne, ne_eq,
    Option.isNone_iff_eq_none] at wordChar
  obtain ⟨⟨filled, noComment⟩, noMark⟩ := wordChar
  simp only [tokenAt, noMark, if_neg noComment, filled, Bool.false_eq_true, if_false]

/-! ## The tokens of a text keep to the discipline -/

theorem formed_wordKind {units : List Char} (filled : units ≠ []) (formed : Units units) :
    Token.Formed ⟨wordKind units, String.ofList units⟩ := by
  unfold wordKind
  split
  · rename_i digits
    exact .number filled (List.all_eq_true.mp digits)
  · rename_i letter
    refine .word ?_ formed
    simpa using letter

theorem wordKind_unpaired (units : List Char) : wordKind (units ++ ['\\']) = .word := by
  rw [wordKind, List.all_append, if_neg]
  simp

theorem tokenAt_formed (c : Char) (rest : List Char) :
    (tokenAt c rest).1.Formed ∨ ∃ units, Units units ∧
      tokenAt c rest = (⟨.word, String.ofList (units ++ ['\\'])⟩, []) := by
  rcases char_cases c with ⟨kind, found⟩ | rfl | blank | wordChar
  · rw [tokenAt_of_mark found]
    exact .inl (.mark (mem_marks_iff.mpr found))
  · rw [tokenAt_of_percent]
    refine .inl (.comment fun c member => ?_)
    simpa [isCommentChar] using List.all_eq_true.mp List.all_takeWhile c member
  · rw [tokenAt_of_blank blank]
    have run : ∀ d ∈ rest.takeWhile Text.isBlank, Text.isBlank d = true :=
      List.all_eq_true.mp List.all_takeWhile
    exact .inl (.blank (List.cons_ne_nil _ _) (List.forall_mem_cons.mpr ⟨blank, run⟩))
  · rw [tokenAt_of_wordChar wordChar]
    rcases units_spanWord (c :: rest) with formed | ⟨units, formed, ends⟩
    · exact .inl (formed_wordKind (spanWord_ne_nil rest wordChar) formed)
    · refine .inr ⟨units, formed, ?_⟩
      rw [ends, wordKind_unpaired]

theorem dropWhile_stops {own : Char → Bool} {chars : List Char} :
    ∀ c ∈ (chars.dropWhile own).head?, own c = false := by
  intro c first
  have stop := List.head?_dropWhile_not own chars
  rw [Option.mem_def.mp first] at stop
  exact stop

theorem tokenAt_ends (c : Char) (rest : List Char) :
    ∀ next ∈ (tokenAt c rest).2.head?, (tokenAt c rest).1.EndsBefore next := by
  intro next first
  rcases char_cases c with ⟨kind, found⟩ | rfl | blank | wordChar
  · rw [tokenAt_of_mark found]
    have noName := punctuation?_ne_name found (String.ofList [c])
    constructor
    · rintro rfl
      cases mark_significant found
    · rintro rfl
      cases mark_significant found
    · intro isName
      rw [noName] at isName
      cases isName
  · rw [tokenAt_of_percent] at first ⊢
    have lineEnd := dropWhile_stops next first
    simp only [isCommentChar, Bool.and_eq_false_iff, bne_eq_false_iff_eq] at lineEnd
    constructor
    · intro isBlank
      cases isBlank
    · intro _
      exact lineEnd
    · intro isName
      cases isName
  · rw [tokenAt_of_blank blank] at first ⊢
    constructor
    · intro _
      exact dropWhile_stops next first
    · intro isComment
      cases isComment
    · intro isName
      cases isName
  · have stops := tokenAt_name_ends rest wordChar next first
    have isName := (tokenAt_isName c rest).trans wordChar
    constructor
    · intro isBlank
      simp [Token.isName, isBlank] at isName
    · intro isComment
      simp [Token.isName, isComment] at isName
    · intro _
      exact stops

theorem starts_tokenAt {c d : Char} {rest : List Char} (starts : (tokenAt c rest).1.Starts d) :
    d = c := by
  have whole := tokenAt_append c rest
  have head := starts.head
  cases text : (tokenAt c rest).1.text.toList with
  | nil =>
      rw [text] at head
      cases head
  | cons first own =>
      rw [text] at head whole
      obtain rfl : first = d := Option.some.inj head
      exact (List.cons.inj whole).1

theorem lexChars_disciplined (chars : List Char) : Disciplined (lexChars chars) := by
  fun_induction lexChars chars with
  | case1 => exact .nil
  | case2 c rest ih =>
      rcases tokenAt_formed c rest with formed | ⟨units, formed, last⟩
      · refine .cons formed ?_ ih
        intro next first
        -- The next token starts with the character at which this one ends.
        have ends := tokenAt_ends c rest
        generalize (tokenAt c rest).2 = after at ends first ih
        cases after with
        | nil => simp [lexChars] at first
        | cons d more =>
            rw [lexChars] at first ih
            obtain rfl := Option.some.inj first
            obtain ⟨e, starts⟩ := ih.exists_starts
            obtain rfl := starts_tokenAt starts
            exact starts.endsBefore_iff.mp (ends e rfl)
      · rw [last, lexChars]
        exact .unpaired formed

/-! ## Disciplined tokens are those of their text -/

theorem spanWord_of_ends {rest : List Char} (ends : ∀ c ∈ rest.head?, isWordChar c = false) :
    spanWord rest = ([], rest) := by
  cases rest with
  | nil => rfl
  | cons c rest => exact spanWord_of_stop (ends c rfl) rest

theorem tokenAt_of_units {c : Char} {units rest : List Char} (formed : Units (c :: units))
    (ends : ∀ next ∈ rest.head?, isWordChar next = false) :
    tokenAt c (units ++ rest) =
      (⟨wordKind (c :: units), String.ofList (c :: units)⟩, rest) := by
  rw [tokenAt_of_wordChar (formed.head_wordChar c rfl), ← List.cons_append,
    spanWord_units_append formed, spanWord_of_ends ends, List.append_nil]

/-- A token in the form of its kind is the first one of every text that goes on with a character
that is not its own. -/
theorem Token.Formed.lexChars_append {token : Token} (formed : token.Formed) {rest : List Char}
    (ends : ∀ next ∈ rest.head?, token.EndsBefore next) :
    lexChars (token.text.toList ++ rest) = token :: lexChars rest := by
  cases formed with
  | @mark kind c isMark =>
      simp only [String.toList_ofList, List.cons_append, List.nil_append]
      rw [lexChars, tokenAt_of_mark (mem_marks_iff.mp isMark)]
  | @blank run filled blank =>
      cases run with
      | nil => exact absurd rfl filled
      | cons c run =>
          obtain ⟨first, others⟩ := List.forall_mem_cons.mp blank
          obtain ⟨taken, left⟩ :=
            Text.takeWhile_append_of_ends others fun next head => (ends next head).blank rfl
          rw [String.toList_ofList, List.cons_append, lexChars, tokenAt_of_blank first, taken, left]
  | @comment line noEnd =>
      have own : ∀ c ∈ line, isCommentChar c = true := by
        intro c member
        simpa [isCommentChar] using noEnd c member
      have stops : ∀ next ∈ rest.head?, isCommentChar next = false := by
        intro next head
        rcases (ends next head).comment rfl with rfl | rfl <;> decide
      obtain ⟨taken, left⟩ := Text.takeWhile_append_of_ends own stops
      rw [String.toList_ofList, List.cons_append, lexChars, tokenAt_of_percent, taken, left]
  | @number digits filled isDigit =>
      cases digits with
      | nil => exact absurd rfl filled
      | cons c digits =>
          have stops : ∀ next ∈ rest.head?, isWordChar next = false :=
            fun next head => (ends next head).name rfl
          have kind : wordKind (c :: digits) = .number := by
            rw [wordKind, if_pos (List.all_eq_true.mpr isDigit)]
          rw [String.toList_ofList, List.cons_append, lexChars,
            tokenAt_of_units (.of_digits isDigit) stops, kind]
  | @word units letter formed =>
      cases units with
      | nil =>
          obtain ⟨c, member, -⟩ := letter
          cases member
      | cons c units =>
          have stops : ∀ next ∈ rest.head?, isWordChar next = false :=
            fun next head => (ends next head).name rfl
          have kind : wordKind (c :: units) = .word := by
            obtain ⟨d, member, noDigit⟩ := letter
            rw [wordKind, if_neg]
            intro digits
            rw [List.all_eq_true.mp digits d member] at noDigit
            cases noDigit
          rw [String.toList_ofList, List.cons_append, lexChars, tokenAt_of_units formed stops, kind]

theorem lexChars_unpaired {units : List Char} (formed : Units units) :
    lexChars (units ++ ['\\']) = [⟨.word, String.ofList (units ++ ['\\'])⟩] := by
  have word : spanWord (units ++ ['\\']) = (units ++ ['\\'], []) :=
    spanWord_units_append formed ['\\']
  have wordChar : ∀ c ∈ (units ++ ['\\']).head?, isWordChar c = true := by
    cases units with
    | nil => simp [show isWordChar '\\' = true by decide]
    | cons c units => exact formed.head_wordChar
  have kind := wordKind_unpaired units
  cases chars : units ++ ['\\'] with
  | nil => simp at chars
  | cons c rest =>
      rw [chars] at word wordChar kind
      rw [lexChars, tokenAt_of_wordChar (wordChar c rfl), word, kind, lexChars]

theorem Disciplined.lexChars_eq {tokens : List Token} (disciplined : Disciplined tokens) :
    lexChars (tokens.flatMap fun token => token.text.toList) = tokens := by
  induction disciplined with
  | nil => rw [List.flatMap_nil, lexChars]
  | unpaired formed =>
      rw [List.flatMap_singleton, String.toList_ofList]
      exact lexChars_unpaired formed
  | @cons token rest formed admits disciplined ih =>
      rw [List.flatMap_cons, formed.lexChars_append, ih]
      intro c first
      cases rest with
      | nil => cases first
      | cons next rest =>
          -- The text behind starts as the next token does, which is what the token admits.
          obtain ⟨d, starts⟩ := disciplined.exists_starts
          have head := starts.head
          have same : c = d := by
            cases text : next.text.toList with
            | nil =>
                rw [text] at head
                cases head
            | cons e own =>
                rw [List.flatMap_cons, text] at first
                rw [text] at head
                exact (Option.some.inj first).symm.trans (Option.some.inj head)
          rw [same]
          exact starts.endsBefore_iff.mpr (admits next rfl)

/-! ## Texts and their tokens -/

/-- A list is that of the tokens of a text if and only if it keeps to the discipline and its texts,
joined, are the text. None of them is empty. -/
theorem lex_eq_iff_disciplined (text : String) (tokens : List Token) :
    (lex text = tokens ↔ Disciplined tokens ∧ String.join (tokens.map Token.text) = text) ∧
      ∀ token ∈ lex text, token.text ≠ "" := by
  refine ⟨?_, fun _ member => text_ne_of_mem_lex member⟩
  constructor
  · rintro rfl
    exact ⟨lexChars_disciplined text.toList, join_lex text⟩
  · rintro ⟨disciplined, rfl⟩
    rw [lex, String.toList_join, List.flatMap_map]
    exact disciplined.lexChars_eq

end TexWorkspace.Bib
