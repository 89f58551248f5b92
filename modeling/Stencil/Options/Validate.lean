import Stencil.Options.OfData
import Stencil.Text.Class

/-!
# Valid options

Options are valid when they leave no doubt about how a template is read: no delimiter is empty,
neither opening delimiter begins with the other, and the ten keywords are ten different words.
-/

namespace Stencil

namespace Delimiters

/-- The first fault of the delimiters. -/
def fault? (d : Delimiters) : Option OptionFault :=
  match d.fields.find? fun field => field.2.isEmpty with
  | some (name, _) => some (.emptyDelimiter name)
  | none =>
      let e := d.expressionStart
      let s := d.statementStart
      if e = s then some (.equalOpeners s)
      else if s.isPrefixOf e then some (.overlappingOpeners s e)
      else if e.isPrefixOf s then some (.overlappingOpeners e s)
      else none

end Delimiters

namespace Keywords

/-- The first fault among named keywords, after those of `seen`. -/
def faultAfter? (seen : List (Text × Text)) : List (Text × Text) → Option OptionFault
  | [] => none
  | (name, spelling) :: rest =>
      if !Text.isSingleWord spelling then some (.notWord name spelling)
      else match seen.find? fun earlier => earlier.2 = spelling with
        | some earlier => some (.usedTwice spelling earlier.1 name)
        | none => faultAfter? (seen ++ [(name, spelling)]) rest

/-- The first fault of the keywords. -/
def fault? (keywords : Keywords) : Option OptionFault :=
  faultAfter? [] keywords.fields

end Keywords

namespace Options

/-- The first fault of the options. -/
def fault? (options : Options) : Option OptionFault :=
  options.delimiters.fault? <|> options.keywords.fault?

/-- The options, if they are valid. -/
def validate (options : Options) : Except OptionFault Options :=
  match options.fault? with
  | some fault => .error fault
  | none => .ok options

/-- Valid options from data. -/
def validOfData (order : Delimiters.Order) (data : Data) : Except OptionError Options := do
  let options ← ofData order data
  options.validate.mapError .invalid

/-- What a template may be given as its options. -/
inductive Given
  | nothing
  | options (options : Options)
  | data (data : Data)
  deriving Inhabited

/-- Valid options from what is given, which are the defaults for nothing. -/
def coerce (order : Delimiters.Order) : Given → Except OptionError Options
  | .nothing => .ok {}
  | .options options => options.validate.mapError .invalid
  | .data data => validOfData order data

end Options

end Stencil
