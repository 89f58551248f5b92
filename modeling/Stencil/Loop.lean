import Stencil.Error
import Stencil.Script.Name

/-!
# Headers of loops

The argument of a loop statement names the item, perhaps the index, and gives the collection:
`item, index in collection`. The first ` in ` ends the names and the first comma divides them.
-/

namespace Stencil

/-- The names that a loop binds, and the collection it runs over. -/
structure LoopHeader where
  item : Text
  index : Text
  collection : Text
  deriving Repr, DecidableEq

namespace LoopHeader

/-- The name of the index when the loop gives none. -/
def defaultIndex : Text := ['i', 'n', 'd', 'e', 'x']

/-- The mark between the names and the collection. -/
def inMark : Text := [' ', 'i', 'n', ' ']

/-- May a loop bind this name? It is a word that does not begin with a digit and that the script
language does not reserve. -/
def isLoopName : Text → Bool
  | [] => false
  | c :: rest =>
      isWord c && !isDigit c && rest.all isWord && !Script.isReserved (c :: rest)

/-- The names before the collection: the item, and the index or its default. -/
def namesOf (names : Text) : Text × Text :=
  let cut := Text.breakAt [','] names
  let index := Text.trim cut.2
  (Text.trim cut.1, if index.isEmpty then defaultIndex else index)

/-- Read the argument of the loop statement `keyword`. -/
def ofArgument (keyword argument : Text) : Except StatementFault LoopHeader :=
  match Text.splitAt? inMark argument with
  | none => .error (.loopShape keyword)
  | some (names, after) =>
      let collection := Text.trim after
      if collection.isEmpty then .error (.loopShape keyword)
      else
        let (item, index) := namesOf names
        match [item, index].find? fun name => !isLoopName name with
        | some name => .error (.loopName name keyword)
        | none =>
            if item = index then .error (.loopNamesEqual item keyword)
            else .ok ⟨item, index, collection⟩

end LoopHeader

end Stencil
