import Stencil.Node.Basic
import Stencil.Text.Quoted

/-!
# Outlines of template trees

A tree shown line by line, two spaces of indentation a level. Long literal text is cut after fifty
characters; everything else can be read back from the outline.
-/

namespace Stencil.Node

/-- The indentation of a level. -/
def indentation (level : Nat) : Text :=
  List.replicate (2 * level) ' '

/-- The start of a literal text, as an outline shows it. -/
def preview (text : Text) : Text :=
  if 50 < text.length then text.take 50 ++ ['.', '.', '.'] else text

/-- A branch with its number in the block and its quoted source. -/
def branchLine (label : Text) (level number : Nat) (source : Text) : Text :=
  indentation level ++ label ++ '[' :: Text.ofNat number ++ "] (".toList ++ Text.quoted source
    ++ "):".toList

mutual

/-- The lines that show a node at a level of indentation. -/
def outline (level : Nat) : Node → List Text
  | text content =>
      [indentation level ++ "TextNode(".toList ++ Text.quoted (preview content) ++ [')']]
  | expression source =>
      [indentation level ++ "ExpressionNode(".toList ++ Text.quoted source ++ [')']]
  | conditional branches otherwise =>
      (indentation level ++ "ConditionalNode".toList)
        :: outlineOfBranches "branch".toList level 0 branches
        ++ outlineOfOption "else:".toList level otherwise
  | iteration header body =>
      (indentation level ++ "IterationNode(".toList ++ header.item ++ ", ".toList ++ header.index
          ++ " in ".toList ++ Text.quoted header.collection ++ [')'])
        :: outlineOfList (level + 1) body
  | switch subject cases otherwise =>
      (indentation level ++ "SwitchNode(".toList ++ Text.quoted subject ++ [')'])
        :: outlineOfBranches "case".toList level 0 cases
        ++ outlineOfOption "default:".toList level otherwise
  | foreign typeName => [indentation level ++ typeName]

/-- The lines that show a list of nodes. -/
def outlineOfList (level : Nat) : List Node → List Text
  | [] => []
  | node :: rest => outline level node ++ outlineOfList level rest

/-- The lines that show the branches of a block at `level`, numbered from `number` on. -/
def outlineOfBranches (label : Text) (level number : Nat) : List (Text × List Node) → List Text
  | [] => []
  | (source, body) :: rest =>
      branchLine label (level + 1) number source
        :: outlineOfList (level + 2) body ++ outlineOfBranches label level (number + 1) rest

/-- The lines that show the last body of a block at `level`, if it has one. -/
def outlineOfOption (label : Text) (level : Nat) : Option (List Node) → List Text
  | none => []
  | some body => (indentation (level + 1) ++ label) :: outlineOfList (level + 2) body

end

/-- The outline of a tree as one text. -/
def outlineText (level : Nat) (nodes : List Node) : Text :=
  Text.join ['\n'] (outlineOfList level nodes)

end Stencil.Node
