import Stencil.Loop

/-!
# Template trees

A compiled template is a list of nodes. Bodies are lists of nodes again, and a body that may be
missing is an option: an `otherwise` that is present but empty is not the same as none.

`Node.foreign` stands for an object that is no template node at all. No compilation produces it; a
tree put together by hand may hold one, and rendering it fails.
-/

namespace Stencil

/-- A node of a compiled template. Sources are ready for evaluation. -/
inductive Node
  | text (text : Text)
  | expression (source : Text)
  /-- The first branch whose condition holds, or else the other body. -/
  | conditional (branches : List (Text × List Node)) (otherwise : Option (List Node))
  /-- The body once for every item of a collection. -/
  | iteration (header : LoopHeader) (body : List Node)
  /-- The last case whose value equals the subject, or else the other body. -/
  | switch (subject : Text) (cases : List (Text × List Node)) (otherwise : Option (List Node))
  | foreign (typeName : Text)
  deriving Repr

namespace Node

/-! ### Literal text -/

mutual

/-- All literal text under a node, in the order of the template. -/
def literals : Node → Text
  | text content => content
  | expression _ => []
  | conditional branches otherwise => literalsOfBranches branches ++ literalsOfOption otherwise
  | iteration _ body => literalsOfList body
  | switch _ cases otherwise => literalsOfBranches cases ++ literalsOfOption otherwise
  | foreign _ => []

/-- All literal text under a list of nodes. -/
def literalsOfList : List Node → Text
  | [] => []
  | node :: rest => literals node ++ literalsOfList rest

/-- All literal text in the bodies of branches. -/
def literalsOfBranches : List (Text × List Node) → Text
  | [] => []
  | (_, body) :: rest => literalsOfList body ++ literalsOfBranches rest

/-- All literal text of a body that may be missing. -/
def literalsOfOption : Option (List Node) → Text
  | none => []
  | some body => literalsOfList body

end

end Node

end Stencil
