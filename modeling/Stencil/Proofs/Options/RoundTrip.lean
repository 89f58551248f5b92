import Stencil.Proofs.Options.OfData

/-!
# Options and their data

Reading options from data gives every option the value that the data state for it, or its default,
and refuses what `Options.IsRefused` says and nothing else (`Options.ofEntries_eq_ok_iff_takes`). So
writing the options and reading them again gives them back, and it makes no difference whether a
value that an option has anyway is written out (`Options.ofData_normalForm`).
-/

namespace Stencil

namespace Data

/-! ### Paths through mappings -/

/-- The entries of a mapping, and none of anything else. -/
def entries : Data → List (Data × Data)
  | mapping entries => entries
  | _ => []

/-- The value at the end of a path of keys. -/
def at? : List Text → Data → Option Data
  | [], data => some data
  | key :: path, data => (lookup? data.entries key).bind (at? path)

/-- Does an entry have this key? -/
def hasKey (key : Text) (entry : Data × Data) : Bool :=
  match entry.1 with
  | text name => name = key
  | _ => false

/-- The entries with one more value, which takes the place of that of the same key. -/
def insert (key : Text) (value : Data) : List (Data × Data) → List (Data × Data)
  | [] => [(text key, value)]
  | entry :: rest =>
      if hasKey key entry then (text key, value) :: rest else entry :: insert key value rest

/-- The data with one more value at the end of a path, along which mappings come into being. -/
def set (value : Data) : List Text → Data → Data
  | [], _ => value
  | key :: path, data =>
      mapping (insert key (set value path ((lookup? data.entries key).getD null)) data.entries)

variable {key other : Text} {value : Data} {list : List (Data × Data)}

theorem hasKey_iff {entry : Data × Data} : hasKey key entry ↔ entry.1 = text key := by
  unfold hasKey
  cases entry.1 <;> simp

/-- Only a mapping that is given has entries. -/
theorem entries_eq_nil (given : value.isGiven = false) : value.entries = [] := by
  cases value with
  | mapping entries => simpa [isGiven, Data.entries] using given
  | _ => rfl

theorem lookup?_nil : lookup? [] key = none := rfl

theorem lookup?_cons (entry : Data × Data) :
    lookup? (entry :: list) key = if hasKey key entry then some entry.2 else lookup? list key := by
  have hfind : lookup? (entry :: list) key = ((entry :: list).find? (hasKey key)).map (·.2) := rfl
  rw [hfind, List.find?_cons]
  cases hasKey key entry <;> rfl

/-- What is looked up is the value of an entry. -/
theorem exists_mem_of_lookup? (h : lookup? list key = some value) :
    (text key, value) ∈ list := by
  induction list with
  | nil => cases h
  | cons entry rest ih =>
      rw [lookup?_cons] at h
      split at h
      case isTrue hkey =>
        obtain ⟨name, held⟩ := entry
        obtain rfl : name = text key := hasKey_iff.1 hkey
        obtain rfl : held = value := Option.some.inj h
        exact List.mem_cons_self
      case isFalse => exact List.mem_cons_of_mem _ (ih h)

theorem lookup?_insert_self : lookup? (insert key value list) key = some value := by
  induction list with
  | nil => simp [insert, lookup?_cons, hasKey]
  | cons entry rest ih =>
      rw [insert]
      split
      case isTrue => simp [lookup?_cons, hasKey]
      case isFalse hkey => rw [lookup?_cons, if_neg hkey, ih]

theorem lookup?_insert_of_ne (ne : other ≠ key) :
    lookup? (insert key value list) other = lookup? list other := by
  have hnew : hasKey other (text key, value) = false := by simp [hasKey, ne.symm]
  induction list with
  | nil => simp [insert, lookup?_cons, hnew]
  | cons entry rest ih =>
      rw [insert, lookup?_cons]
      split
      case isTrue hkey =>
        have hold : hasKey other entry = false := by
          obtain ⟨name, held⟩ := entry
          obtain rfl : name = text key := hasKey_iff.1 hkey
          simp [hasKey, ne.symm]
        simp [lookup?_cons, hnew, hold]
      case isFalse => rw [lookup?_cons, ih]

/-- No other keys come in. -/
theorem key_of_mem_insert {entry : Data × Data} (h : entry ∈ insert key value list) :
    entry.1 = text key ∨ entry ∈ list := by
  induction list with
  | nil =>
      obtain rfl := List.mem_singleton.1 h
      exact .inl rfl
  | cons old rest ih =>
      rw [insert] at h
      split at h
      · rcases List.mem_cons.1 h with rfl | h
        · exact .inl rfl
        · exact .inr (List.mem_cons_of_mem _ h)
      · rcases List.mem_cons.1 h with rfl | h
        · exact .inr List.mem_cons_self
        · exact (ih h).imp_right (List.mem_cons_of_mem _)

theorem at?_set_self (path : List Text) (data : Data) :
    (set value path data).at? path = some value := by
  induction path generalizing data with
  | nil => rfl
  | cons key path ih => simp [set, at?, entries, lookup?_insert_self, ih]

/-- Only what lies on the path, or below its end, is changed. -/
theorem at?_set_of_not_prefix {path beside : List Text} {data : Data} (below : ¬path <+: beside)
    (above : ¬beside <+: path) : (set value path data).at? beside = data.at? beside := by
  induction path generalizing beside data with
  | nil => exact absurd List.nil_prefix below
  | cons key path ih =>
      cases beside with
      | nil => exact absurd List.nil_prefix above
      | cons other beside =>
          have step : (set value (key :: path) data).at? (other :: beside)
              = (lookup? (insert key (set value path ((lookup? data.entries key).getD null))
                  data.entries) other).bind (at? beside) := rfl
          rw [step, at?]
          -- Either both paths go on below the same key, or they part here.
          by_cases same : other = key
          · subst same
            simp only [List.cons_prefix_cons, true_and] at below above
            rw [lookup?_insert_self, Option.bind_some, ih below above]
            cases lookup? data.entries other with
            | some value => rfl
            | none =>
                obtain ⟨first, rest, rfl⟩ := List.exists_cons_of_ne_nil
                  (fun h : beside = [] => above (h ▸ List.nil_prefix))
                rfl
          · rw [lookup?_insert_of_ne same]

/-- Only a text is the same key as a text. -/
theorem sameKey_text_iff {key : Data} {name : Text} :
    key.sameKey (text name) ↔ key = text name := by
  cases key with
  | float value =>
      have number : keyNumber? (text name) = none := rfl
      unfold sameKey
      rw [number]
      cases keyNumber? (float value) <;> simp
  | _ => simp [sameKey, keyNumber?]

end Data

namespace Options

/-! ### What a mapping has to be -/

/-- The names of the ten keywords. -/
def keywordNames : List Text := Keyword.all.map Keyword.label

/-- The two groups whose options are texts, with the names in each. -/
def textGroups : List (Text × List Text) :=
  [(delimitersKey, Delimiters.names), (keywordsKey, keywordNames)]

/-- The paths of the fifteen options. -/
def paths : List (List Text) :=
  (textGroups.flatMap fun group => group.2.map fun name => [group.1, name]) ++ [[trimKey]]

/-- What keeps a mapping from being options. -/
inductive IsRefused (entries : List (Data × Data)) : Prop
  /-- An unknown group. -/
  | group (entry : Data × Data) (mem : entry ∈ entries)
      (unknown : ∀ name ∈ groupNames, entry.1 ≠ .text name)
  /-- A group of texts that is given and is no mapping. -/
  | notMapping (group : Text × List Text) (mem : group ∈ textGroups) (value : Data)
      (found : Data.lookup? entries group.1 = some value) (given : value.isGiven)
      (other : ∀ texts, value ≠ .mapping texts)
  /-- Trimming that is neither on nor off. -/
  | notBool (value : Data) (found : Data.lookup? entries trimKey = some value)
      (other : ∀ trim, value ≠ .bool trim)
  /-- An unknown name in a group of texts. -/
  | name (group : Text × List Text) (mem : group ∈ textGroups) (texts : List (Data × Data))
      (found : Data.lookup? entries group.1 = some (.mapping texts)) (entry : Data × Data)
      (inside : entry ∈ texts) (unknown : ∀ name ∈ group.2, entry.1 ≠ .text name)
  /-- A value in a group of texts that is neither nothing nor a text. -/
  | notText (group : Text × List Text) (mem : group ∈ textGroups) (texts : List (Data × Data))
      (found : Data.lookup? entries group.1 = some (.mapping texts)) (name : Text)
      (known : name ∈ group.2) (value : Data) (held : Data.lookup? texts name = some value)
      (present : value ≠ .null) (other : ∀ text, value ≠ .text text)

/-- The entries are texts, or nothing, under known names. -/
structure AreTexts (names : List Text) (entries : List (Data × Data)) : Prop where
  known : ∀ entry ∈ entries, ∃ name ∈ names, entry.1 = .text name
  texts : ∀ name ∈ names, ∀ value, Data.lookup? entries name = some value →
    value = .null ∨ ∃ text, value = .text text

/-- What makes a mapping options. -/
structure IsAccepted (entries : List (Data × Data)) : Prop where
  known : ∀ entry ∈ entries, ∃ name ∈ groupNames, entry.1 = .text name
  groups : ∀ group ∈ textGroups, ∀ value, Data.lookup? entries group.1 = some value →
    value.isGiven → ∃ texts, value = .mapping texts ∧ AreTexts group.2 texts
  trim : ∀ value, Data.lookup? entries trimKey = some value → ∃ trim, value = .bool trim

variable {order : Delimiters.Order} {entries : List (Data × Data)}

theorem areTexts_nil (names : List Text) : AreTexts names [] :=
  ⟨by simp, fun name _ value h => by cases h⟩

/-- A mapping is refused if and only if it is not accepted. -/
theorem isRefused_iff_not_isAccepted : IsRefused entries ↔ ¬IsAccepted entries := by
  constructor
  · intro refused accepted
    cases refused with
    | group entry mem unknown =>
        obtain ⟨name, known, hname⟩ := accepted.known entry mem
        exact unknown name known hname
    | notMapping group mem value found given other =>
        obtain ⟨texts, hvalue, -⟩ := accepted.groups group mem value found given
        exact other texts hvalue
    | notBool value found other =>
        obtain ⟨trim, hvalue⟩ := accepted.trim value found
        exact other trim hvalue
    | name group mem texts found entry inside unknown =>
        have given : (Data.mapping texts).isGiven := by
          simpa [Data.isGiven] using List.ne_nil_of_mem inside
        obtain ⟨texts', same, hknown, -⟩ := accepted.groups group mem _ found given
        obtain rfl := Data.mapping.inj same
        obtain ⟨name, known, hname⟩ := hknown entry inside
        exact unknown name known hname
    | notText group mem texts found name known value held present other =>
        have given : (Data.mapping texts).isGiven := by
          simpa [Data.isGiven] using List.ne_nil_of_mem (Data.exists_mem_of_lookup? held)
        obtain ⟨texts', same, -, htexts⟩ := accepted.groups group mem _ found given
        obtain rfl := Data.mapping.inj same
        obtain rfl | ⟨text, rfl⟩ := htexts name known value held
        · exact present rfl
        · exact other text rfl
  · intro accepted
    by_contra refused
    -- Data that nothing is wrong with has every part that acceptance asks for. Each part, were it
    -- missing, would be one of the faults.
    refine accepted ⟨fun entry mem => ?_, fun group mem value found given => ?_,
      fun value found => ?_⟩
    · by_contra unknown
      exact refused (.group entry mem fun name known hname => unknown ⟨name, known, hname⟩)
    · by_cases mapping : ∃ texts, value = .mapping texts
      · obtain ⟨texts, rfl⟩ := mapping
        refine ⟨texts, rfl, fun entry inside => ?_, fun name known value held => ?_⟩
        · by_contra unknown
          exact refused (.name group mem texts found entry inside fun name known hname =>
            unknown ⟨name, known, hname⟩)
        · by_contra other
          rw [not_or, not_exists] at other
          exact refused (.notText group mem texts found name known value held other.1 other.2)
      · exact absurd (.notMapping group mem value found given (not_exists.1 mapping)) refused
    · by_contra other
      exact refused (.notBool value found (not_exists.1 other))

/-! ### The parts of reading -/

/-- Nothing is left over only if there was nothing. The left side is how unknown names are gathered,
each one once. -/
theorem foldl_once_eq_nil_iff {keys seen : List Data} :
    keys.foldl (fun seen key => if seen.any key.sameKey then seen else seen ++ [key]) seen = []
      ↔ seen = [] ∧ keys = [] := by
  induction keys generalizing seen with
  | nil => simp
  | cons key rest ih =>
      rw [List.foldl_cons, ih]
      split
      case isTrue h =>
        have : seen ≠ [] := by
          rintro rfl
          simp at h
        simp [this]
      case isFalse => simp

/-- A check of names passes when all of them are known. -/
theorem checkKeys_eq_ok_iff {place : Text} {known : List Text} :
    checkKeys place known (entries.map (·.1)) = .ok ()
      ↔ ∀ entry ∈ entries, ∃ name ∈ known, entry.1 = .text name := by
  have names : unknownNames known (entries.map (·.1)) = []
      ↔ ∀ entry ∈ entries, ∃ name ∈ known, entry.1 = .text name := by
    rw [unknownNames, ← List.length_eq_zero_iff, List.length_mergeSort, List.length_map,
      List.length_eq_zero_iff, foldl_once_eq_nil_iff]
    simp [List.filter_eq_nil_iff, Data.sameKey_text_iff]
  rw [← names, checkKeys]
  cases unknownNames known (entries.map (·.1)) <;> simp

/-- A field may hold a text or nothing; a missing one holds nothing. -/
theorem textFault?_eq_none_iff {key : Text} :
    textFault? entries key = none ↔ ∀ value, Data.lookup? entries key = some value →
      value = .null ∨ ∃ text, value = .text text := by
  unfold textFault?
  cases Data.lookup? entries key with
  | none => simp
  | some value => cases value <;> simp

/-- Both parts of the check of a group of texts, which are looked at in any order. -/
theorem areTexts_iff (place : Text) {names listed : List Text} (perm : listed.Perm names) :
    AreTexts names entries ↔ checkKeys place names (entries.map (·.1)) = .ok ()
      ∧ listed.findSome? (textFault? entries) = none := by
  rw [checkKeys_eq_ok_iff, List.findSome?_eq_none_iff]
  simp only [textFault?_eq_none_iff, perm.mem_iff]
  exact ⟨fun h => ⟨h.known, h.texts⟩, fun h => ⟨h.1, h.2⟩⟩

/-- The delimiters that entries say, over the defaults. -/
def delimitersIn (entries : List (Data × Data)) : Delimiters :=
  let defaults : Delimiters := {}
  { expressionStart := textOr entries "expression_start".toList defaults.expressionStart
    expressionEnd := textOr entries "expression_end".toList defaults.expressionEnd
    statementStart := textOr entries "statement_start".toList defaults.statementStart
    statementEnd := textOr entries "statement_end".toList defaults.statementEnd }

/-- The keywords that entries say, over the defaults. -/
def keywordsIn (entries : List (Data × Data)) : Keywords :=
  ⟨fun keyword => textOr entries keyword.label keyword.label⟩

/-- A group of texts is read if both of its checks pass. -/
theorem checkTexts_eq_ok_iff {α : Type} {place : Text} {names listed : List Text}
    (perm : listed.Perm names) {read result : α} :
    (checkKeys place names (entries.map (·.1)) >>= fun _ =>
        match listed.findSome? (textFault? entries) with
        | some fault => throw fault
        | none => pure read : Except OptionFault α) = .ok result
      ↔ AreTexts names entries ∧ read = result := by
  rw [areTexts_iff place perm, and_assoc]
  cases checkKeys place names (entries.map (·.1)) with
  | error fault => simp [bind, Except.bind]
  | ok _ =>
      cases listed.findSome? (textFault? entries) with
      | some fault => simp [bind, Except.bind, throw, throwThe, MonadExceptOf.throw]
      | none => simp [bind, Except.bind]

/-- Which delimiters are read, if any, does not depend on the order of reading. The order is left to
the choice among several faults. -/
theorem delimitersOfEntries_eq_ok_iff {d : Delimiters} :
    Delimiters.ofEntries order entries = .ok d
      ↔ AreTexts Delimiters.names entries ∧ delimitersIn entries = d :=
  checkTexts_eq_ok_iff order.perm

theorem keywordsOfEntries_eq_ok_iff {keywords : Keywords} :
    Keywords.ofEntries entries = .ok keywords
      ↔ AreTexts keywordNames entries ∧ keywordsIn entries = keywords :=
  checkTexts_eq_ok_iff (.refl _)

/-- The entries of the group `key`. A group that is not given has none. -/
def textsIn (entries : List (Data × Data)) (key : Text) : List (Data × Data) :=
  ((Data.lookup? entries key).getD .null).entries

/-- Whether entries ask for trimming. -/
def trimIn (entries : List (Data × Data)) : Bool :=
  (Data.lookup? entries trimKey).any Data.isGiven

/-- A group of texts is a mapping, or is not given. -/
theorem groupOf_eq_ok_iff {key : Text} {texts : List (Data × Data)} :
    groupOf entries key = .ok texts
      ↔ (∀ value, Data.lookup? entries key = some value → value.isGiven →
          ∃ texts, value = .mapping texts) ∧ textsIn entries key = texts := by
  unfold groupOf textsIn
  cases hfound : Data.lookup? entries key with
  | none => simp [Data.entries]
  | some value =>
      cases given : value.isGiven with
      | false =>
          have none : value.entries = [] := Data.entries_eq_nil given
          simp [Option.filter, given, none]
      | true => cases value <;> simp [Option.filter, given, Data.entries]

/-- How to trim is given by a truth value. A null is refused here, though a group may be null. -/
theorem trimOf_eq_ok_iff {trim : Bool} :
    trimOf entries = .ok trim
      ↔ (∀ value, Data.lookup? entries trimKey = some value → ∃ trim, value = .bool trim)
        ∧ trimIn entries = trim := by
  unfold trimOf trimIn
  cases Data.lookup? entries trimKey with
  | none => simp
  | some value => cases value <;> simp [Data.isGiven]

/-- The options that entries say, over the defaults. -/
def optionsIn (entries : List (Data × Data)) : Options where
  delimiters := delimitersIn (textsIn entries delimitersKey)
  keywords := keywordsIn (textsIn entries keywordsKey)
  trim := trimIn entries

/-- A group of texts is read from its entries. -/
theorem areTexts_textsIn_iff {key : Text} {names : List Text} :
    (∀ value, Data.lookup? entries key = some value → value.isGiven →
        ∃ texts, value = .mapping texts ∧ AreTexts names texts)
      ↔ (∀ value, Data.lookup? entries key = some value → value.isGiven →
          ∃ texts, value = .mapping texts) ∧ AreTexts names (textsIn entries key) := by
  unfold textsIn
  cases Data.lookup? entries key with
  | none => simp [Data.entries, areTexts_nil]
  | some value =>
      cases given : value.isGiven with
      | false =>
          have none : value.entries = [] := Data.entries_eq_nil given
          simp [given, none, areTexts_nil]
      | true => cases value <;> simp [given, Data.entries]

/-- An accepted mapping is read as the options that it says. -/
theorem ofEntries_eq_ok_iff {options : Options} :
    ofEntries order entries = .ok options ↔ IsAccepted entries ∧ optionsIn entries = options := by
  have hgroups : (∀ group ∈ textGroups, ∀ value, Data.lookup? entries group.1 = some value →
      value.isGiven → ∃ texts, value = .mapping texts ∧ AreTexts group.2 texts)
      ↔ (groupOf entries delimitersKey = .ok (textsIn entries delimitersKey)
          ∧ AreTexts Delimiters.names (textsIn entries delimitersKey))
        ∧ groupOf entries keywordsKey = .ok (textsIn entries keywordsKey)
          ∧ AreTexts keywordNames (textsIn entries keywordsKey) := by
    simp only [groupOf_eq_ok_iff, and_true]
    rw [← areTexts_textsIn_iff, ← areTexts_textsIn_iff]
    simp [textGroups]
  simp only [ofEntries, bind_eq_ok_iff, pure_eq_ok_iff]
  -- Each step of reading passes under one of the conditions, and gives one part of the options.
  constructor
  · rintro ⟨⟨⟩, hkeys, delimiters, hdelimiters, keywords, hkeywords, trim, htrim, d, hd, k, hk, rfl⟩
    obtain ⟨-, rfl⟩ := groupOf_eq_ok_iff.1 hdelimiters
    obtain ⟨-, rfl⟩ := groupOf_eq_ok_iff.1 hkeywords
    obtain ⟨trims, rfl⟩ := trimOf_eq_ok_iff.1 htrim
    obtain ⟨texts, rfl⟩ := delimitersOfEntries_eq_ok_iff.1 hd
    obtain ⟨texts', rfl⟩ := keywordsOfEntries_eq_ok_iff.1 hk
    have groups := hgroups.2 ⟨⟨hdelimiters, texts⟩, hkeywords, texts'⟩
    exact ⟨⟨checkKeys_eq_ok_iff.1 hkeys, groups, trims⟩, rfl⟩
  · rintro ⟨⟨known, groups, trims⟩, rfl⟩
    obtain ⟨⟨hdelimiters, texts⟩, hkeywords, texts'⟩ := hgroups.1 groups
    exact ⟨(), checkKeys_eq_ok_iff.2 known, _, hdelimiters, _, hkeywords, _,
      trimOf_eq_ok_iff.2 ⟨trims, rfl⟩, _, delimitersOfEntries_eq_ok_iff.2 ⟨texts, rfl⟩, _,
      keywordsOfEntries_eq_ok_iff.2 ⟨texts', rfl⟩, rfl⟩

/-! ### Values and defaults -/

/-- Does a value say something? Nothing and the empty text do not. -/
def isStated : Data → Bool
  | .null => false
  | .text value => !value.isEmpty
  | _ => true

/-- The options take what the data state, and the default of everything else. -/
def Takes (data : Data) (options : Options) : Prop :=
  ∀ path ∈ paths, options.toData.at? path
    = ((data.at? path).filter isStated <|> ({} : Options).toData.at? path)

/-- Neither a delimiter nor a keyword is empty. -/
def AreNonempty (options : Options) : Prop :=
  ∀ field ∈ options.delimiters.fields ++ options.keywords.fields, field.2 ≠ []

/-- The paths are those of the delimiters, of the keywords and of trimming. -/
theorem forall_mem_paths {P : List Text → Prop} :
    (∀ path ∈ paths, P path) ↔ (∀ name ∈ Delimiters.names, P [delimitersKey, name])
      ∧ (∀ keyword : Keyword, P [keywordsKey, keyword.label]) ∧ P [trimKey] := by
  have keywords : (∀ keyword : Keyword, P [keywordsKey, keyword.label])
      ↔ ∀ name ∈ keywordNames, P [keywordsKey, name] := by
    simp only [keywordNames, List.forall_mem_map]
    exact ⟨fun h keyword _ => h keyword, fun h keyword => h keyword keyword.mem_all⟩
  rw [keywords]
  simp only [paths, textGroups, List.forall_mem_append, List.forall_mem_singleton,
    List.flatMap_cons, List.flatMap_nil, List.append_nil, List.forall_mem_map, and_assoc]

variable {options other : Options}

theorem at?_keyword (keyword : Keyword) :
    options.toData.at? [keywordsKey, keyword.label]
      = some (.text (options.keywords.spelling keyword)) := by
  cases keyword <;> rfl

theorem at?_delimiter {field : Text × Text} (mem : field ∈ options.delimiters.fields) :
    options.toData.at? [delimitersKey, field.1] = some (.text field.2) := by
  simp only [Delimiters.fields, List.mem_cons, List.not_mem_nil, or_false] at mem
  rcases mem with rfl | rfl | rfl | rfl
  · rfl
  · rfl
  · rfl
  · rfl

/-- Options are what their data say. -/
theorem eq_of_at?_eq (h : ∀ path ∈ paths, options.toData.at? path = other.toData.at? path) :
    options = other := by
  obtain ⟨hdelimiters, hkeywords, htrim⟩ := forall_mem_paths.1 h
  have expressionStart := hdelimiters "expression_start".toList (by decide)
  have expressionEnd := hdelimiters "expression_end".toList (by decide)
  have statementStart := hdelimiters "statement_start".toList (by decide)
  have statementEnd := hdelimiters "statement_end".toList (by decide)
  ext1
  · exact Delimiters.ext (Data.text.inj (Option.some.inj expressionStart))
      (Data.text.inj (Option.some.inj expressionEnd))
      (Data.text.inj (Option.some.inj statementStart))
      (Data.text.inj (Option.some.inj statementEnd))
  · refine Keywords.ext (funext fun keyword => ?_)
    simpa [at?_keyword] using hkeywords keyword
  · exact Data.bool.inj (Option.some.inj htrim)

theorem at?_pair (key name : Text) :
    (Data.mapping entries).at? [key, name] = Data.lookup? (textsIn entries key) name := by
  unfold textsIn
  cases hfound : Data.lookup? entries key <;>
    simp [Data.at?, Data.entries, hfound, Data.lookup?_nil]

/-- A text is read as it is stated, and the default stands for everything else. -/
theorem text_textOr {names : List Text} (h : AreTexts names entries) {name : Text}
    (mem : name ∈ names) (fallback : Text) :
    some (Data.text (textOr entries name fallback))
      = ((Data.lookup? entries name).filter isStated <|> some (.text fallback)) := by
  unfold textOr
  cases hfound : Data.lookup? entries name with
  | none => rfl
  | some value =>
      obtain rfl | ⟨text, rfl⟩ := h.texts name mem value hfound
      · rfl
      · cases text <;> rfl

/-- What is read from an accepted mapping takes what the mapping states. -/
theorem takes_optionsIn (accepted : IsAccepted entries) :
    Takes (.mapping entries) (optionsIn entries) := by
  have texts (group) (mem : group ∈ textGroups) : AreTexts group.2 (textsIn entries group.1) :=
    (areTexts_textsIn_iff.1 (accepted.groups group mem)).2
  have delimiters := texts (delimitersKey, Delimiters.names) (by simp [textGroups])
  have keywords := texts (keywordsKey, keywordNames) (by simp [textGroups])
  refine forall_mem_paths.2 ⟨fun name mem => ?_, fun keyword => ?_, ?_⟩
  · rw [at?_pair]
    have := fun fallback => text_textOr delimiters mem fallback
    simp only [Delimiters.names, Delimiters.fields, List.map_cons, List.map_nil, List.mem_cons,
      List.not_mem_nil, or_false] at mem
    rcases mem with rfl | rfl | rfl | rfl
    · exact this _
    · exact this _
    · exact this _
    · exact this _
  · rw [at?_pair, at?_keyword, at?_keyword]
    exact text_textOr keywords (List.mem_map_of_mem keyword.mem_all) keyword.label
  · have read : (optionsIn entries).toData.at? [trimKey] = some (.bool (trimIn entries)) := rfl
    have stated : (Data.mapping entries).at? [trimKey] = Data.lookup? entries trimKey := by
      cases hfound : Data.lookup? entries trimKey <;> simp [Data.at?, Data.entries, hfound]
    rw [read, stated, trimIn]
    cases hfound : Data.lookup? entries trimKey with
    | none => rfl
    | some value =>
        obtain ⟨trim, rfl⟩ := accepted.trim value hfound
        rfl

/-- **Reading options** accepts what is not refused, and takes what is stated. -/
theorem ofEntries_eq_ok_iff_takes :
    ofEntries order entries = .ok options
      ↔ ¬IsRefused entries ∧ Takes (.mapping entries) options := by
  rw [ofEntries_eq_ok_iff, isRefused_iff_not_isAccepted, not_not]
  refine and_congr_right fun accepted => ⟨?_, fun takes => ?_⟩
  · rintro rfl
    exact takes_optionsIn accepted
  · refine eq_of_at?_eq fun path mem => ?_
    rw [takes_optionsIn accepted path mem, takes path mem]

theorem ofData_mapping :
    ofData order (.mapping entries) = (ofEntries order entries).mapError .invalid := by
  cases entries with
  | nil =>
      rw [ofEntries_nil]
      rfl
  | cons => rfl

/-- **Options are read exactly from what is not refused**, and then they are the ones that the data
takes. -/
theorem ofData_eq_ok_iff :
    ofData order (.mapping entries) = .ok options
      ↔ ¬IsRefused entries ∧ Takes (.mapping entries) options := by
  rw [ofData_mapping, mapError_eq_ok_iff, ofEntries_eq_ok_iff_takes]

/-! ### Options written out -/

/-- What has no empty text states every option when it is written out. -/
theorem areNonempty_iff :
    options.AreNonempty
      ↔ ∀ path ∈ paths, ∃ value, options.toData.at? path = some value ∧ isStated value := by
  have stated {text : Text} : (∃ value, some (Data.text text) = some value ∧ isStated value)
      ↔ text ≠ [] := by simp [isStated]
  have names : Delimiters.names = options.delimiters.fields.map (·.1) := rfl
  have delimiters : (∀ field ∈ options.delimiters.fields, field.2 ≠ [])
      ↔ ∀ field ∈ options.delimiters.fields, ∃ value,
          options.toData.at? [delimitersKey, field.1] = some value ∧ isStated value := by
    refine forall₂_congr fun field mem => ?_
    rw [at?_delimiter mem, stated]
  have trim : ∃ value, options.toData.at? [trimKey] = some value ∧ isStated value := ⟨_, rfl, rfl⟩
  rw [forall_mem_paths, names, List.forall_mem_map, ← delimiters, AreNonempty,
    List.forall_mem_append, Keywords.fields, List.forall_mem_map]
  simp only [at?_keyword, stated, trim, and_true]
  refine and_congr_right fun _ => ⟨fun h keyword => h keyword keyword.mem_all, fun h keyword _ => ?_⟩
  exact h keyword

/-- What was read from data has no empty text. -/
theorem Takes.areNonempty {data : Data} (takes : Takes data options) : options.AreNonempty := by
  refine areNonempty_iff.2 fun path mem => ?_
  have defaults : AreNonempty {} := by
    unfold AreNonempty
    decide +kernel
  rw [takes path mem]
  cases hstated : (data.at? path).filter isStated with
  | none => exact areNonempty_iff.1 defaults path mem
  | some value =>
      exact ⟨value, rfl, (Option.filter_eq_some_iff.1 hstated).2⟩

/-- Nonempty options take themselves from their data. -/
theorem AreNonempty.takes (nonempty : options.AreNonempty) : Takes options.toData options := by
  intro path mem
  obtain ⟨value, hvalue, stated⟩ := areNonempty_iff.1 nonempty path mem
  rw [hvalue, Option.filter_some, if_pos stated]
  rfl

theorem areTexts_mappingOf (fields : List (Text × Text)) :
    AreTexts (fields.map (·.1)) (mappingOf fields).entries where
  known entry mem := by
    obtain ⟨field, hfield, rfl⟩ := List.mem_map.1 mem
    exact ⟨field.1, List.mem_map_of_mem hfield, rfl⟩
  texts name _ value found := by
    obtain ⟨field, -, heq⟩ := List.mem_map.1 (Data.exists_mem_of_lookup? found)
    exact .inr ⟨field.2, (Prod.ext_iff.1 heq).2.symm⟩

/-- Written options are accepted as a whole. -/
theorem isAccepted_toData (options : Options) : IsAccepted options.toData.entries where
  known entry mem := by
    simp only [toData, Data.entries, List.mem_cons, List.not_mem_nil, or_false] at mem
    rcases mem with rfl | rfl | rfl
    · exact ⟨delimitersKey, by simp [groupNames], rfl⟩
    · exact ⟨keywordsKey, by simp [groupNames], rfl⟩
    · exact ⟨trimKey, by simp [groupNames], rfl⟩
  groups group mem value found _ := by
    simp only [textGroups, List.mem_cons, List.not_mem_nil, or_false] at mem
    rcases mem with rfl | rfl
    · obtain rfl : mappingOf options.delimiters.fields = value := Option.some.inj found
      exact ⟨_, rfl, areTexts_mappingOf options.delimiters.fields⟩
    · obtain rfl : mappingOf options.keywords.fields = value := Option.some.inj found
      have names : keywordNames = options.keywords.fields.map (·.1) := by
        simp [keywordNames, Keywords.fields]
      exact ⟨_, rfl, names ▸ areTexts_mappingOf options.keywords.fields⟩
  trim value found := ⟨options.trim, (Option.some.inj found).symm⟩

/-- **Nonempty options survive** being written out and read. -/
theorem ofData_toData_of_areNonempty (nonempty : options.AreNonempty) :
    ofData order options.toData = .ok options := by
  refine ofData_eq_ok_iff.2 ⟨?_, nonempty.takes⟩
  rw [isRefused_iff_not_isAccepted, not_not]
  exact isAccepted_toData options

/-! ### Filling in -/

/-- The value at a path in the data of options, written into other data. -/
def fill (options : Options) (path : List Text) (data : Data) : Data :=
  match options.toData.at? path with
  | some value => Data.set value path data
  | none => data

theorem AreTexts.insert {names : List Text} (h : AreTexts names entries) {name : Text}
    (mem : name ∈ names) (text : Text) :
    AreTexts names (Data.insert name (.text text) entries) where
  known entry inside :=
    (Data.key_of_mem_insert inside).elim (fun key => ⟨name, mem, key⟩) (h.known entry)
  texts other known value found := by
    by_cases same : other = name
    · subst same
      rw [Data.lookup?_insert_self] at found
      exact .inr ⟨text, (Option.some.inj found).symm⟩
    · rw [Data.lookup?_insert_of_ne same] at found
      exact h.texts other known value found

/-- A group may be exchanged for another one that is accepted. -/
theorem IsAccepted.insert_texts (h : IsAccepted entries) {group : Text × List Text}
    (mem : group ∈ textGroups) {texts : List (Data × Data)} (areTexts : AreTexts group.2 texts) :
    IsAccepted (Data.insert group.1 (.mapping texts) entries) where
  known entry inside := by
    have names : ∀ group ∈ textGroups, group.1 ∈ groupNames := by decide
    exact (Data.key_of_mem_insert inside).elim (fun key => ⟨group.1, names group mem, key⟩)
      (h.known entry)
  groups other known value found given := by
    have keys : ∀ a ∈ textGroups, ∀ b ∈ textGroups, a.1 = b.1 → a = b := by decide
    by_cases same : other.1 = group.1
    · obtain rfl := keys other known group mem same
      rw [Data.lookup?_insert_self] at found
      exact ⟨texts, (Option.some.inj found).symm, areTexts⟩
    · rw [Data.lookup?_insert_of_ne same] at found
      exact h.groups other known value found given
  trim value found := by
    have apart : ∀ group ∈ textGroups, trimKey ≠ group.1 := by decide
    rw [Data.lookup?_insert_of_ne (apart group mem)] at found
    exact h.trim value found

theorem IsAccepted.insert_trim (h : IsAccepted entries) (trim : Bool) :
    IsAccepted (Data.insert trimKey (.bool trim) entries) where
  known entry inside := (Data.key_of_mem_insert inside).elim
    (fun key => ⟨trimKey, by simp [groupNames], key⟩) (h.known entry)
  groups group mem value found given := by
    have apart : ∀ group ∈ textGroups, group.1 ≠ trimKey := by decide
    rw [Data.lookup?_insert_of_ne (apart group mem)] at found
    exact h.groups group mem value found given
  trim value found := by
    rw [Data.lookup?_insert_self] at found
    exact ⟨trim, (Option.some.inj found).symm⟩

/-- Writing one text at its path leaves accepted data accepted. -/
theorem IsAccepted.set_text (h : IsAccepted entries) (group : Text × List Text)
    (mem : group ∈ textGroups) {name : Text} (known : name ∈ group.2) (text : Text) :
    ∃ filled, Data.set (.text text) [group.1, name] (.mapping entries) = .mapping filled
      ∧ IsAccepted filled :=
  ⟨_, rfl, h.insert_texts mem
    ((areTexts_textsIn_iff.1 (h.groups group mem)).2.insert known text)⟩

/-- One more value does not keep a mapping from being options. -/
theorem IsAccepted.fill (h : IsAccepted entries) (options : Options) :
    ∀ path ∈ paths, ∃ filled, Options.fill options path (.mapping entries) = .mapping filled
      ∧ IsAccepted filled := by
  have names : Delimiters.names = options.delimiters.fields.map (·.1) := rfl
  refine forall_mem_paths.2 ⟨fun name mem => ?_, fun keyword => ?_, ?_⟩
  · obtain ⟨field, hfield, rfl⟩ := List.mem_map.1 (names ▸ mem)
    rw [Options.fill, at?_delimiter hfield]
    exact h.set_text (delimitersKey, Delimiters.names) (by simp [textGroups]) mem field.2
  · rw [Options.fill, at?_keyword]
    exact h.set_text (keywordsKey, keywordNames) (by simp [textGroups])
      (List.mem_map_of_mem keyword.mem_all) (options.keywords.spelling keyword)
  · exact ⟨_, rfl, h.insert_trim options.trim⟩

/-- Filling in what the options say anyway changes nothing about the options that are taken. -/
theorem Takes.fill {data : Data} (takes : Takes data options) {path : List Text}
    (mem : path ∈ paths) : Takes (Options.fill options path data) options := by
  obtain ⟨value, hvalue, stated⟩ := areNonempty_iff.1 takes.areNonempty path mem
  -- No option lies on the path to another one.
  have apart : ∀ p ∈ paths, ∀ q ∈ paths, p <+: q → p = q := by decide +kernel
  intro other known
  rw [Options.fill, hvalue]
  by_cases same : other = path
  · subst same
    rw [Data.at?_set_self, hvalue, Option.filter_some, if_pos stated]
    rfl
  · rw [Data.at?_set_of_not_prefix (fun below => same (apart path mem other known below).symm)
      (fun above => same (apart other known path mem above))]
    exact takes other known

/-- **Values that options have anyway** can be written into what they are read from. -/
theorem ofData_foldl_fill (h : ofData order (.mapping entries) = .ok options)
    {chosen : List (List Text)} (hchosen : ∀ path ∈ chosen, path ∈ paths) :
    ofData order (chosen.foldl (fun data path => fill options path data) (.mapping entries))
      = .ok options := by
  induction chosen generalizing entries with
  | nil => exact h
  | cons path rest ih =>
      obtain ⟨mem, hrest⟩ := List.forall_mem_cons.1 hchosen
      obtain ⟨refused, takes⟩ := ofData_eq_ok_iff.1 h
      rw [isRefused_iff_not_isAccepted, not_not] at refused
      -- The data stay accepted and go on saying the same options, which is all that reading needs.
      obtain ⟨filled, hfill, accepted⟩ := refused.fill options path mem
      have takes' := takes.fill mem
      rw [hfill] at takes'
      rw [List.foldl_cons, hfill]
      refine ih (ofData_eq_ok_iff.2 ⟨?_, takes'⟩) hrest
      rwa [isRefused_iff_not_isAccepted, not_not]

/-- **Options and their data**: options without empty texts survive being written out and read. What
is read from a mapping takes the values that the mapping states, and the defaults of all others; it
survives too, and the mapping with any of its values written in is read as the same options. A
mapping is refused for the reasons of `IsRefused`, and for no others. All this holds in whatever
order the delimiters are looked at. -/
theorem ofData_normalForm :
    (∀ options : Options, options.AreNonempty → ofData order options.toData = .ok options)
    ∧ (∀ (entries : List (Data × Data)) (options : Options),
        ofData order (.mapping entries) = .ok options →
        Takes (.mapping entries) options ∧ ofData order options.toData = .ok options
          ∧ ∀ chosen : List (List Text), (∀ path ∈ chosen, path ∈ paths) →
            ofData order (chosen.foldl (fun data path => fill options path data) (.mapping entries))
              = .ok options)
    ∧ ∀ entries : List (Data × Data),
        ((∃ fault, ofData order (.mapping entries) = .error (.invalid fault)) ↔ IsRefused entries)
        ∧ (¬IsRefused entries → ∃ options, ofData order (.mapping entries) = .ok options) := by
  have accepts (entries : List (Data × Data)) (h : ¬IsRefused entries) :
      ∃ options, ofData order (.mapping entries) = .ok options := by
    refine ⟨optionsIn entries, ofData_eq_ok_iff.2 ⟨h, ?_⟩⟩
    rw [isRefused_iff_not_isAccepted, not_not] at h
    exact takes_optionsIn h
  refine ⟨fun _ => ofData_toData_of_areNonempty, fun entries options h => ?_,
    fun entries => ⟨⟨?_, fun refused => ?_⟩, accepts entries⟩⟩
  · have takes := (ofData_eq_ok_iff.1 h).2
    exact ⟨takes, ofData_toData_of_areNonempty takes.areNonempty, fun _ => ofData_foldl_fill h⟩
  · rintro ⟨fault, hfault⟩
    by_contra refused
    obtain ⟨options, hok⟩ := accepts entries refused
    rw [hfault] at hok
    cases hok
  · cases hread : ofEntries order entries with
    | ok options => exact absurd refused (ofEntries_eq_ok_iff_takes.1 hread).1
    | error fault =>
        rw [ofData_mapping, hread]
        exact ⟨fault, rfl⟩

/-- A mapping with a delimiter, an empty text and a group that is not given. -/
theorem ofData_fill_delimiter :
    let entries : List (Data × Data) :=
      [(.text delimitersKey, .mapping [(.text "statement_end".toList, .text "%>".toList),
          (.text "expression_end".toList, .text [])]),
        (.text keywordsKey, .null), (.text trimKey, .bool true)]
    let options : Options := { delimiters := { statementEnd := "%>".toList }, trim := true }
    ofData .listed (.mapping entries) = .ok options ∧ ofData .listed options.toData = .ok options
      ∧ ofData .listed (fill options [keywordsKey, "if".toList]
          (fill options [delimitersKey, "expression_end".toList] (.mapping entries)))
        = .ok options := by
  intro entries options
  have texts : AreTexts Delimiters.names (textsIn entries delimitersKey) := by
    refine ⟨List.forall_mem_cons.2 ⟨⟨_, by decide, rfl⟩,
      List.forall_mem_singleton.2 ⟨_, by decide, rfl⟩⟩, fun name _ value found => .inr ?_⟩
    rcases List.mem_cons.1 (Data.exists_mem_of_lookup? found) with heq | mem
    · exact ⟨_, (Prod.ext_iff.1 heq).2⟩
    · exact ⟨_, (Prod.ext_iff.1 (List.mem_singleton.1 mem)).2⟩
  have accepted : IsAccepted entries := by
    refine ⟨by simp [entries, groupNames], fun group mem value found given => ?_, ?_⟩
    · simp only [textGroups, List.mem_cons, List.not_mem_nil, or_false] at mem
      rcases mem with rfl | rfl
      · exact ⟨_, (Option.some.inj found).symm, texts⟩
      · obtain rfl : Data.null = value := Option.some.inj found
        cases given
    · rintro value ⟨⟩
      exact ⟨true, rfl⟩
  have read : ofData .listed (.mapping entries) = .ok options := by
    rw [ofData_mapping, mapError_eq_ok_iff, ofEntries_eq_ok_iff]
    refine ⟨accepted, Options.ext rfl (Keywords.ext (funext fun keyword => ?_)) rfl⟩
    cases keyword <;> rfl
  obtain ⟨-, survives, filled⟩ := ofData_normalForm.2.1 entries options read
  exact ⟨read, survives,
    filled [[delimitersKey, "expression_end".toList], [keywordsKey, "if".toList]] (by decide)⟩

end Options

end Stencil
