import Stencil.Options.Basic

/-!
# Options from data

Data name the options that differ from the defaults. An option without a value, or with the empty
text, is not given; a whole group that is empty is not given either.

Unknown names are reported first, all of one group together and in order. Then the groups have to be
mappings, and trimming a truth value; then the delimiters are read, and at last the keywords.

The four delimiters form a set, which is gone through in an order that nothing lays down
(`Delimiters.Order`). It decides which of several delimiters is reported when they are no texts, and
nothing else.
-/

namespace Stencil

namespace Options

/-! ### Unknown names -/

/-- The keys that are none of the known ones, each once, as texts in order. -/
def unknownNames (known : List Text) (keys : List Data) : List Text :=
  let foreign := keys.filter fun key => !known.any fun name => key.sameKey (.text name)
  let once := foreign.foldl
    (fun seen key => if seen.any key.sameKey then seen else seen ++ [key]) []
  (once.map Data.keyText).mergeSort fun a b => !Text.isBefore b a

/-- Report unknown names among the keys of a group. -/
def checkKeys (place : Text) (known : List Text) (keys : List Data) : Except OptionFault Unit :=
  match unknownNames known keys with
  | [] => .ok ()
  | names => .error (.unknown place names)

/-! ### Texts -/

/-- What is wrong with the value given for an option that is a text. -/
def textFault? (entries : List (Data × Data)) (key : Text) : Option OptionFault :=
  match Data.lookup? entries key with
  | none | some .null | some (.text _) => none
  | some value => some (.notText key value.typeName)

/-- The text given for an option, or its default. -/
def textOr (entries : List (Data × Data)) (key fallback : Text) : Text :=
  match Data.lookup? entries key with
  | some (.text value) => if value.isEmpty then fallback else value
  | _ => fallback

end Options

open Options

namespace Delimiters

/-- The names of the four delimiters, in the order in which options list them. -/
def names : List Text := ({} : Delimiters).fields.map (·.1)

/-- An order in which the four delimiters are looked at. -/
structure Order where
  names : List Text
  perm : names.Perm Delimiters.names

/-- The order in which options list the delimiters. -/
def Order.listed : Order := ⟨Delimiters.names, .refl _⟩

instance : Inhabited Order := ⟨.listed⟩

/-- Delimiters from the entries of a mapping, looked at in some order. -/
def ofEntries (order : Order) (entries : List (Data × Data)) : Except OptionFault Delimiters := do
  let defaults : Delimiters := {}
  checkKeys delimitersKey names (entries.map (·.1))
  match order.names.findSome? (textFault? entries) with
  | some fault => throw fault
  | none =>
      return {
        expressionStart := textOr entries "expression_start".toList defaults.expressionStart
        expressionEnd := textOr entries "expression_end".toList defaults.expressionEnd
        statementStart := textOr entries "statement_start".toList defaults.statementStart
        statementEnd := textOr entries "statement_end".toList defaults.statementEnd }

end Delimiters

/-- Keywords from the entries of a mapping. -/
def Keywords.ofEntries (entries : List (Data × Data)) : Except OptionFault Keywords := do
  let names := Keyword.all.map Keyword.label
  checkKeys keywordsKey names (entries.map (·.1))
  match names.findSome? (textFault? entries) with
  | some fault => throw fault
  | none => return ⟨fun keyword => textOr entries keyword.label keyword.label⟩

namespace Options

/-- The entries of a group of options; a group that is not given has none. -/
def groupOf (entries : List (Data × Data)) (key : Text) :
    Except OptionFault (List (Data × Data)) :=
  match (Data.lookup? entries key).filter Data.isGiven with
  | none => .ok []
  | some (.mapping group) => .ok group
  | some _ => .error (.notMapping key)

/-- Whether templates are trimmed. -/
def trimOf (entries : List (Data × Data)) : Except OptionFault Bool :=
  match Data.lookup? entries trimKey with
  | none => .ok false
  | some (.bool value) => .ok value
  | some value => .error (.notBool trimKey value.typeName)

/-- The names of the three groups of options. -/
def groupNames : List Text := [delimitersKey, keywordsKey, trimKey]

/-- Options from the entries of a mapping. -/
def ofEntries (order : Delimiters.Order) (entries : List (Data × Data)) :
    Except OptionFault Options := do
  checkKeys "options".toList groupNames (entries.map (·.1))
  let delimiters ← groupOf entries delimitersKey
  let keywords ← groupOf entries keywordsKey
  let trim ← trimOf entries
  return ⟨← Delimiters.ofEntries order delimiters, ← Keywords.ofEntries keywords, trim⟩

/-- The keys of data that are given as whole options: a text counts as its characters, and a list
as its elements. -/
def keysOf : Data → Except OptionError (List Data)
  | .mapping entries => .ok (entries.map (·.1))
  | .text value => .ok (value.map fun c => .text [c])
  | .list items =>
      match items.find? fun item => !item.isKey with
      | some item => .error (.notKey item.typeName)
      | none => .ok items
  | data => .error (.notIterable data.typeName)

/-- Options from data. Data that count as not given stand for the defaults. -/
def ofData (order : Delimiters.Order) (data : Data) : Except OptionError Options :=
  if !data.isGiven then .ok {}
  else match data with
    | .mapping entries => (ofEntries order entries).mapError .invalid
    | data => do
        let keys ← keysOf data
        (checkKeys "options".toList groupNames keys).mapError .invalid
        throw (.noLookup data.typeName)

end Options

end Stencil
