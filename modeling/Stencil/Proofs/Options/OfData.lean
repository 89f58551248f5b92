import Stencil.Options.Validate
import Stencil.Proofs.Sequence

/-!
# Options from entries

No entries stand for the default options (`ofEntries_nil`), and trimming is read apart from all
other options: a mapping that asks for it, and is the same in everything else, stands for the same
options with trimming on (`ofEntries_setsTrim`). The mapping that it is compared with has to have a
truth value for trimming, or nothing, since any other value is refused.

In which order the delimiters are looked at makes no difference to the options, and to a refusal
none but which of the delimiters that are no texts is named (`ofEntries_order`).
-/

namespace Stencil

/-- Is this the fault of a delimiter that is no text? -/
def OptionFault.IsOfDelimiter (fault : OptionFault) : Prop :=
  ∃ name ∈ Delimiters.names, ∃ typeName, fault = .notText name typeName

variable {order : Delimiters.Order}

namespace Options

/-! ### No entries -/

theorem checkKeys_nil (place : Text) (known : List Text) : checkKeys place known [] = .ok () := by
  have none : unknownNames known [] = [] := List.mergeSort_nil
  rw [checkKeys, none]

/-- Without entries the delimiters are the standard ones, in whatever order they are read. -/
theorem delimitersOfEntries_nil : Delimiters.ofEntries order [] = .ok {} := by
  have texts : order.names.findSome? (textFault? []) = none :=
    List.findSome?_eq_none_iff.2 fun _ _ => rfl
  unfold Delimiters.ofEntries
  dsimp only
  rw [List.map_nil, checkKeys_nil, texts]
  rfl

theorem keywordsOfEntries_nil : Keywords.ofEntries [] = .ok {} := by
  unfold Keywords.ofEntries
  dsimp only
  rw [List.map_nil, checkKeys_nil]
  rfl

/-- No entries stand for the default options. -/
theorem ofEntries_nil : ofEntries order [] = .ok {} := by
  have delimiters : groupOf [] delimitersKey = .ok [] := rfl
  have keywords : groupOf [] keywordsKey = .ok [] := rfl
  have trim : trimOf [] = .ok false := rfl
  unfold ofEntries
  rw [List.map_nil, checkKeys_nil, delimiters, keywords, trim]
  dsimp only [bind, Except.bind]
  rw [delimitersOfEntries_nil, keywordsOfEntries_nil]
  rfl

/-! ### Trimming -/

/-- Does an entry say something other than whether templates are trimmed? -/
def isBesideTrim (entry : Data × Data) : Bool :=
  !entry.1.sameKey (.text trimKey)

/-- Is the second mapping the first one with trimming asked for? The order of its entries, as far as
they are about trimming, does not matter. -/
structure SetsTrim (entries changed : List (Data × Data)) : Prop where
  beside : changed.filter isBesideTrim = entries.filter isBesideTrim
  trim : Data.lookup? changed trimKey = some (.bool true)

variable {entries changed : List (Data × Data)}

/-- A name other than that of the option is looked up among the other entries. -/
theorem lookup?_filter {key : Text} (ne : key ≠ trimKey) :
    Data.lookup? (entries.filter isBesideTrim) key = Data.lookup? entries key := by
  unfold Data.lookup?
  rw [List.find?_filter]
  congr 2
  funext entry
  obtain ⟨name, value⟩ := entry
  cases name with
  | text name =>
      by_cases h : name = key
      · subst h
        simp [isBesideTrim, Data.sameKey, Data.keyNumber?, ne]
      · simp [h]
  | _ => simp

/-- Setting how to trim changes no other entry. What is read of the groups of texts goes by lookups,
so the next two lemmas follow. -/
theorem SetsTrim.lookup? (h : SetsTrim entries changed) {key : Text} (ne : key ≠ trimKey) :
    Data.lookup? changed key = Data.lookup? entries key := by
  rw [← lookup?_filter ne, h.beside, lookup?_filter ne]

/-- The option itself is a known one. -/
theorem unknownNames_filter :
    unknownNames groupNames ((entries.filter isBesideTrim).map (·.1))
      = unknownNames groupNames (entries.map (·.1)) := by
  have beside : ∀ entry : Data × Data,
      ((!groupNames.any fun name => entry.1.sameKey (.text name)) && isBesideTrim entry)
        = !groupNames.any fun name => entry.1.sameKey (.text name) := by
    intro entry
    simp only [groupNames, isBesideTrim, List.any_cons, List.any_nil]
    cases entry.1.sameKey (.text trimKey) <;> simp
  unfold unknownNames
  rw [List.filter_map, List.filter_map, List.filter_filter]
  simp only [Function.comp_def, beside]

theorem SetsTrim.checkKeys (h : SetsTrim entries changed) (place : Text) :
    Options.checkKeys place groupNames (changed.map (·.1))
      = Options.checkKeys place groupNames (entries.map (·.1)) := by
  unfold Options.checkKeys
  rw [← unknownNames_filter, h.beside, unknownNames_filter]

theorem SetsTrim.groupOf (h : SetsTrim entries changed) (key : Text) (ne : key ≠ trimKey) :
    groupOf changed key = groupOf entries key := by
  unfold Options.groupOf
  rw [h.lookup? ne]

/-- **Trimming is set apart from the other options**, and it is set over what was said about it
before. -/
theorem ofEntries_setsTrim (h : SetsTrim entries changed) {own : Bool}
    (said : trimOf entries = .ok own) :
    ofEntries order changed
      = (fun options => { options with trim := true }) <$> ofEntries order entries := by
  have set : trimOf changed = .ok true := by rw [trimOf, h.trim]
  unfold ofEntries
  rw [h.checkKeys, h.groupOf delimitersKey (by decide),
    h.groupOf keywordsKey (by decide), set, said]
  simp only [map_bind]
  rfl

/-- Whether options are valid has nothing to do with trimming. -/
theorem validate_trim (options : Options) (trim : Bool) :
    { options with trim := trim }.validate
      = (fun options => { options with trim := trim }) <$> options.validate := by
  have same : { options with trim := trim }.fault? = options.fault? := rfl
  unfold validate
  rw [same]
  cases options.fault? <;> rfl

/-! ### Orders -/

/-- A delimiter that is no text is a fault of that delimiter, named by its path. -/
theorem isOfDelimiter_of_textFault? {name : Text} (mem : name ∈ Delimiters.names)
    {fault : OptionFault} (h : textFault? entries name = some fault) : fault.IsOfDelimiter := by
  unfold textFault? at h
  split at h
  · cases h
  · cases h
  · cases h
  · cases h
    exact ⟨name, mem, _, rfl⟩

/-- All delimiters are looked at in every order, so two orders find a fault or none of them does. -/
theorem delimitersOfEntries_order (order other : Delimiters.Order) (entries : List (Data × Data)) :
    BothEnd (SameOrBoth OptionFault.IsOfDelimiter) Eq (Delimiters.ofEntries order entries)
      (Delimiters.ofEntries other entries) := by
  have finds : ∀ {order : Delimiters.Order} {fault : OptionFault},
      order.names.findSome? (textFault? entries) = some fault → fault.IsOfDelimiter := by
    intro order fault h
    obtain ⟨name, mem, hname⟩ := List.exists_of_findSome?_eq_some h
    exact isOfDelimiter_of_textFault? (order.perm.mem_iff.1 mem) hname
  have none_iff : order.names.findSome? (textFault? entries) = none
      ↔ other.names.findSome? (textFault? entries) = none := by
    simp only [List.findSome?_eq_none_iff, order.perm.mem_iff, other.perm.mem_iff]
  unfold Delimiters.ofEntries
  refine (BothEnd.refl SameOrBoth.refl _).bind fun _ _ _ => ?_
  cases first : order.names.findSome? (textFault? entries) with
  | none =>
      rw [none_iff.1 first]
      exact .ok rfl
  | some fault =>
      cases second : other.names.findSome? (textFault? entries) with
      | none =>
          rw [none_iff.2 second] at first
          cases first
      | some found => exact .error (.inr ⟨finds first, finds second⟩)

/-- **The order in which delimiters are looked at** decides nothing but which of those that are no
texts is named. -/
theorem ofEntries_order (order other : Delimiters.Order) (entries : List (Data × Data)) :
    BothEnd (SameOrBoth OptionFault.IsOfDelimiter) Eq (ofEntries order entries)
      (ofEntries other entries) := by
  have same {α : Type} (x : Except OptionFault α) :
      BothEnd (SameOrBoth OptionFault.IsOfDelimiter) Eq x x := .refl SameOrBoth.refl x
  unfold ofEntries
  refine (same _).bind fun _ _ _ => (same _).bind fun delimiters _ eq => ?_
  subst eq
  refine (same _).bind fun keywords _ eq => (same _).bind fun trim _ eq' => ?_
  subst eq eq'
  refine (delimitersOfEntries_order order other delimiters).bind fun d _ eq => ?_
  subst eq
  exact same _

end Options

end Stencil
