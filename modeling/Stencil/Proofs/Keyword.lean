import Mathlib.Data.List.Nodup
import Stencil.Options.Validate
import Stencil.Token

/-!
# Valid keywords

What it means for keywords to be valid: every spelling is a single word, and no two statements share
one. A word is then the spelling of at most one statement, so looking a word up and spelling a
statement undo each other. Everything about the assembly of blocks is read off this and not off the
search in the table.
-/

namespace Stencil

namespace Keywords

variable {keywords : Keywords}

/-! ### Validity -/

/-- What it takes that no field has a fault, given the fields seen before. The second part is what
makes the induction go through. -/
theorem faultAfter?_eq_none {seen fields : List (Text × Text)} (h : faultAfter? seen fields = none) :
    (∀ field ∈ fields, Text.isSingleWord field.2 = true)
      ∧ (∀ earlier ∈ seen, ∀ field ∈ fields, earlier.2 ≠ field.2)
      ∧ (fields.map (·.2)).Nodup := by
  induction fields generalizing seen with
  | nil => simp
  | cons field rest ih =>
      obtain ⟨name, spelling⟩ := field
      simp only [faultAfter?] at h
      split at h
      · cases h
      · rename_i word
        split at h
        · cases h
        · rename_i fresh
          obtain ⟨words, apart, nodup⟩ := ih h
          have hfresh : ∀ earlier ∈ seen, earlier.2 ≠ spelling := by simpa using fresh
          refine ⟨?_, ?_, ?_⟩
          · simpa using ⟨by simpa using word, by simpa using words⟩
          · intro earlier hearlier field hfield
            rcases List.mem_cons.1 hfield with rfl | hfield
            · exact hfresh earlier hearlier
            · exact apart earlier (List.mem_append_left _ hearlier) field hfield
          · refine List.nodup_cons.2 ⟨fun hmem => ?_, nodup⟩
            obtain ⟨field, hfield, heq⟩ := List.mem_map.1 hmem
            exact apart (name, spelling) (by simp) field hfield heq.symm

/-- Every keyword is a single word, so a statement block that begins with it is read as that
keyword. -/
theorem isSingleWord_spelling (valid : keywords.fault? = none) (keyword : Keyword) :
    Text.isSingleWord (keywords.spelling keyword) = true :=
  (faultAfter?_eq_none valid).1 (keyword.label, keywords.spelling keyword)
    (List.mem_map_of_mem keyword.mem_all)

/-- Keywords can be told apart by their spelling. -/
theorem spelling_injective (valid : keywords.fault? = none) :
    Function.Injective keywords.spelling := by
  have nodup : (Keyword.all.map keywords.spelling).Nodup := by
    simpa [fields, Function.comp_def] using (faultAfter?_eq_none valid).2.2
  exact fun a b h => List.inj_on_of_nodup_map nodup a.mem_all b.mem_all h

@[simp] theorem spelling_inj (valid : keywords.fault? = none) {a b : Keyword} :
    keywords.spelling a = keywords.spelling b ↔ a = b :=
  (spelling_injective valid).eq_iff

/-! ### Looking up -/

/-- A word is looked up to the one statement that it spells. -/
theorem lookup?_eq_some_iff (valid : keywords.fault? = none) {word : Text} {keyword : Keyword} :
    keywords.lookup? word = some keyword ↔ keywords.spelling keyword = word := by
  constructor
  · exact spelling_of_lookup?
  · rintro rfl
    cases hfind : keywords.lookup? (keywords.spelling keyword) with
    | none =>
        have := List.find?_eq_none.1 hfind keyword (List.mem_reverse.2 keyword.mem_all)
        simp at this
    | some found =>
        rw [spelling_injective valid (spelling_of_lookup? hfind)]

/-- A word that spells no statement is not found. -/
theorem lookup?_eq_none {word : Text}
    (h : ∀ keyword, keywords.spelling keyword ≠ word) : keywords.lookup? word = none := by
  rw [Option.eq_none_iff_forall_not_mem]
  exact fun keyword hkeyword => h keyword (spelling_of_lookup? hkeyword)

end Keywords

namespace Token

/-- The token is the statement `keyword`. -/
def Spells (keywords : Keywords) (keyword : Keyword) (token : Token) : Prop :=
  token.kind = .statement (keywords.spelling keyword)

/-- The statement that a token stands for. -/
def keyword? (keywords : Keywords) (token : Token) : Option Keyword :=
  match token.kind with
  | .statement name => keywords.lookup? name
  | _ => none

/-- A statement has a name that is known. Other tokens have nothing to know. -/
def IsKnown (keywords : Keywords) (token : Token) : Prop :=
  ∀ name, token.kind = .statement name → (keywords.lookup? name).isSome

variable {keywords : Keywords} {keyword : Keyword} {token : Token}

theorem Spells.name_eq (h : token.Spells keywords keyword) :
    token.name = keywords.spelling keyword := by
  simp only [name, show token.kind = _ from h]

/-- A token that spells a keyword is looked up as that keyword. -/
theorem Spells.lookup? (valid : keywords.fault? = none) (h : token.Spells keywords keyword) :
    token.keyword? keywords = some keyword := by
  simp only [keyword?, show token.kind = _ from h]
  exact (Keywords.lookup?_eq_some_iff valid).2 rfl

end Token

end Stencil
