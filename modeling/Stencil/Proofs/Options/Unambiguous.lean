import Stencil.Proofs.Print.RoundTrip
import Stencil.Proofs.Segment.Priority

/-!
# Valid options are the unambiguous ones

`Options.IsUnambiguous` says what makes a configuration clear without checking it, and validation
accepts just that (`validate_eq_ok_iff`). `Options.ReadsOneWay` is what this is good for: of the two
openers at most one stands at a place, so it does not matter which of them is looked for first;
every statement is found under its own word and under no other; and every keyword is read whole.
-/

namespace Stencil

/-- The statement of a family in a role. Loops have no branches. -/
def Keyword.of? (family : Family) (role : Role) : Option Keyword :=
  Keyword.all.find? fun keyword => keyword.family = family ∧ keyword.role = role

theorem Keyword.of?_eq_some_iff {family : Family} {role : Role} {keyword : Keyword} :
    Keyword.of? family role = some keyword ↔ keyword.family = family ∧ keyword.role = role := by
  cases family <;> cases role <;> cases keyword <;> decide

namespace Options

/-- The options leave no doubt about how a template is read. -/
structure IsUnambiguous (options : Options) : Prop where
  nonempty : options.delimiters.AreNonempty
  expression : ¬options.delimiters.expressionStart <+: options.delimiters.statementStart
  statement : ¬options.delimiters.statementStart <+: options.delimiters.expressionStart
  words (keyword : Keyword) : options.keywords.spelling keyword ≠ []
    ∧ ∀ c ∈ options.keywords.spelling keyword, isWord c
  distinct : Function.Injective options.keywords.spelling

/-- A template can be read in one way only. -/
structure ReadsOneWay (options : Options) : Prop where
  /-- Two openers never stand at one place. -/
  oneOpener (text : Text) (offset : Nat) :
    ¬(options.delimiters.expressionStart <+: text.drop offset
      ∧ options.delimiters.statementStart <+: text.drop offset)
  /-- It does not matter which opener would win there. -/
  priority (first : BlockKind) (text : Text) :
    tokenizeFirst options.delimiters first text = tokenize options.delimiters text
  /-- The word of a statement is that of its family and role. -/
  lookup (family : Family) (role : Role) (keyword : Keyword)
      (h : Keyword.of? family role = some keyword) :
    (options.keywords.lookup? (options.keywords.spelling keyword)).map
      (fun found => (found.family, found.role)) = some (family, role)
  /-- No other word is that of a statement. -/
  unknown (word : Text) (h : ∀ keyword, options.keywords.spelling keyword ≠ word) :
    options.keywords.lookup? word = none
  /-- A keyword is the whole name of its statement, alone and in front of what is no word. -/
  whole (keyword : Keyword) (rest : Text) (h : ∀ c ∈ rest.head?, ¬isWord c) :
    Segment.nameAndArgument? (options.keywords.spelling keyword ++ rest)
      = some (options.keywords.spelling keyword, Text.trimStart rest)

end Options

/-! ### What is not at fault -/

/-- Delimiters pass when none is empty and neither opener begins with the other one. Closers are not
compared: which one is looked for is known when a block is open. -/
theorem Delimiters.fault?_eq_none_iff {d : Delimiters} :
    d.fault? = none ↔ d.AreNonempty ∧ ¬d.expressionStart <+: d.statementStart
      ∧ ¬d.statementStart <+: d.expressionStart := by
  refine ⟨fault?_eq_none, fun h => ?_⟩
  obtain ⟨nonempty, expression, statement⟩ := h
  have hfind : d.fields.find? (fun field => field.2.isEmpty) = none := by
    simp only [fields, List.find?_eq_none, List.mem_cons, List.not_mem_nil, or_false,
      forall_eq_or_imp, forall_eq, List.isEmpty_iff]
    exact ⟨(nonempty .expression).1, (nonempty .expression).2, (nonempty .statement).1,
      (nonempty .statement).2⟩
  have apart : d.expressionStart ≠ d.statementStart :=
    fun h => expression (h ▸ List.prefix_rfl)
  simp only [fault?, hfind, List.isPrefixOf_iff_prefix, if_neg apart, if_neg expression,
    if_neg statement]

namespace Keywords

variable {keywords : Keywords} {seen fields : List (Text × Text)}

/-- The converse of `faultAfter?_eq_none`: single words that differ have no fault. -/
theorem faultAfter?_of_nodup (words : ∀ field ∈ fields, Text.isSingleWord field.2 = true)
    (apart : ∀ earlier ∈ seen, ∀ field ∈ fields, earlier.2 ≠ field.2)
    (nodup : (fields.map (·.2)).Nodup) : faultAfter? seen fields = none := by
  induction fields generalizing seen with
  | nil => rfl
  | cons field rest ih =>
      obtain ⟨name, spelling⟩ := field
      obtain ⟨word, words⟩ := List.forall_mem_cons.1 words
      obtain ⟨fresh, nodup⟩ := List.nodup_cons.1 nodup
      have hfind : seen.find? (fun earlier => earlier.2 = spelling) = none := by
        simpa using fun name' other hmem => apart (name', other) hmem (name, spelling) (by simp)
      have hrest : faultAfter? (seen ++ [(name, spelling)]) rest = none := by
        refine ih words ?_ nodup
        intro earlier hearlier field hfield
        rcases List.mem_append.1 hearlier with hearlier | hearlier
        · exact apart earlier hearlier field (List.mem_cons_of_mem _ hfield)
        · rw [List.mem_singleton.1 hearlier]
          exact fun h => fresh (List.mem_map.2 ⟨field, hfield, h.symm⟩)
      simp only [faultAfter?, show Text.isSingleWord spelling = true from word, Bool.not_true,
        Bool.false_eq_true, if_false, hfind, hrest]

theorem isSingleWord_iff {word : Text} :
    Text.isSingleWord word = true ↔ word ≠ [] ∧ ∀ c ∈ word, isWord c := by
  simp [Text.isSingleWord]

/-- Keywords pass when each of them is a single word and no two are the same. -/
theorem fault?_eq_none_iff :
    keywords.fault? = none ↔
      (∀ keyword, keywords.spelling keyword ≠ [] ∧ ∀ c ∈ keywords.spelling keyword, isWord c)
        ∧ Function.Injective keywords.spelling := by
  constructor
  · intro valid
    exact ⟨fun keyword => isSingleWord_iff.1 (isSingleWord_spelling valid keyword),
      spelling_injective valid⟩
  · intro h
    obtain ⟨words, injective⟩ := h
    have nodup : (Keyword.all.map keywords.spelling).Nodup :=
      List.Nodup.map injective (by decide)
    refine faultAfter?_of_nodup ?_ (by simp) (by simpa [fields, Function.comp_def] using nodup)
    intro field hfield
    obtain ⟨keyword, -, rfl⟩ := List.mem_map.1 hfield
    exact isSingleWord_iff.2 (words keyword)

/-- The word at the start of a statement is its keyword, up to the first character of no word. -/
theorem nameAndArgument?_spelling (valid : keywords.fault? = none) (keyword : Keyword) {rest : Text}
    (h : ∀ c ∈ rest.head?, ¬isWord c) :
    Segment.nameAndArgument? (keywords.spelling keyword ++ rest)
      = some (keywords.spelling keyword, Text.trimStart rest) := by
  obtain ⟨ne, word⟩ := (fault?_eq_none_iff.1 valid).1 keyword
  exact Segment.nameAndArgument?_eq_some_iff.2
    ⟨rest, rest.takeWhile isBlank, ⟨rfl, word, h⟩, ne, Text.leads_takeWhile⟩

end Keywords

namespace Options

variable {options : Options}

/-- **What validation looks for**, as a condition on the options: no fault is found in unambiguous
options, and one is found in all others. -/
theorem fault?_eq_none_iff : options.fault? = none ↔ options.IsUnambiguous := by
  have hor : options.fault? = none ↔
      options.delimiters.fault? = none ∧ options.keywords.fault? = none := by simp [fault?]
  rw [hor, Delimiters.fault?_eq_none_iff, Keywords.fault?_eq_none_iff]
  constructor
  · intro h
    obtain ⟨⟨nonempty, expression, statement⟩, words, distinct⟩ := h
    exact ⟨nonempty, expression, statement, words, distinct⟩
  · intro h
    exact ⟨⟨h.nonempty, h.expression, h.statement⟩, h.words, h.distinct⟩

/-- Validating gives back the options it was given, so all that is of interest is when it succeeds.
-/
theorem validate_eq_ok_iff : options.validate = .ok options ↔ options.IsUnambiguous := by
  rw [← fault?_eq_none_iff, validate]
  cases options.fault? <;> simp

/-! ### Reading -/

/-- Of two texts that both begin a third one the shorter begins the other. -/
theorem IsUnambiguous.apart (h : options.IsUnambiguous) (text : Text) :
    ¬(options.delimiters.expressionStart <+: text ∧ options.delimiters.statementStart <+: text) := by
  intro both
  rcases List.prefix_or_prefix_of_prefix both.1 both.2 with hprefix | hprefix
  · exact h.expression hprefix
  · exact h.statement hprefix

/-- Unambiguous options read every text in one way: at one place, at most one opener; for one word,
at most one keyword. -/
theorem IsUnambiguous.readsOneWay (h : options.IsUnambiguous) : options.ReadsOneWay where
  oneOpener text offset := h.apart (text.drop offset)
  priority first text := tokenizeFirst_eq h.apart
  lookup family role keyword hof := by
    have valid := (Options.fault?_eq_none (fault?_eq_none_iff.2 h)).2
    obtain ⟨hfamily, hrole⟩ := Keyword.of?_eq_some_iff.1 hof
    rw [(Keywords.lookup?_eq_some_iff valid).2 rfl, Option.map_some, hfamily, hrole]
  unknown word hword := Keywords.lookup?_eq_none hword
  whole keyword rest hrest :=
    Keywords.nameAndArgument?_spelling (Options.fault?_eq_none (fault?_eq_none_iff.2 h)).2 keyword
      hrest

/-- **Validation** accepts the unambiguous options and no others, and whatever it accepts is read in
one way only. -/
theorem validate_iff_isUnambiguous (options : Options) :
    (options.validate = .ok options ↔ options.IsUnambiguous)
      ∧ (¬options.IsUnambiguous → ∃ fault, options.validate = .error fault)
      ∧ (options.validate = .ok options → options.ReadsOneWay) := by
  refine ⟨validate_eq_ok_iff, fun ambiguous => ?_,
    fun valid => (validate_eq_ok_iff.1 valid).readsOneWay⟩
  rw [← fault?_eq_none_iff] at ambiguous
  obtain ⟨fault, hfault⟩ := Option.ne_none_iff_exists'.1 ambiguous
  exact ⟨fault, by rw [validate, hfault]⟩

/-- Delimiters may be alike, as long as the two openers differ. -/
example :
    Delimiters.fault? ⟨['?', '?'], ['?', '?'], ['?', '%'], ['?', '?']⟩ = none
      ∧ Delimiters.fault? ⟨['?', '?'], ['}'], ['?'], ['}']⟩
          = some (.overlappingOpeners ['?'] ['?', '?']) := by
  decide

end Options

end Stencil
