import Stencil.Keyword
import Stencil.Node.Basic
import Stencil.Script.Source

/-!
# Blocks under assembly

The tokens of a template are put together into a tree from left to right. One block at most is open
at a time: while it is, only statements of its own family are looked at, and everything else is
kept in its body as it stands. When the block is closed, each of its bodies is assembled in the same
way.

`Assembly.move` says what one token does to the block that is open, and `OpenBlock.build` makes the
node of a block that has been closed, given a way to assemble its bodies.

Design points:

* A statement of the open block's family at a greater depth belongs to an inner block of that
  family; it only changes the depth.
* Tokens of a `switch` before its first branch stay in the body, so they begin the body of that
  first branch.
* Whether a branch is the last one is decided by the *word* that began it. It matters only when two
  statements are spelled alike.
-/

namespace Stencil

/-- A block that has been opened and not yet closed. -/
structure OpenBlock where
  family : Family
  /-- The statement that opened the block. -/
  opener : Token
  /-- The statement that began the current branch. -/
  branch : Option Token := none
  /-- The number of open blocks of the family, this one included. -/
  depth : Nat := 1
  /-- The finished branches: the statement that began each, and its body. -/
  branches : List (Token × List Token) := []
  /-- The body of the current branch so far. -/
  body : List Token := []

namespace OpenBlock

/-- The block just opened by a statement. The condition of a conditional is its first branch. -/
def start (family : Family) (opener : Token) : OpenBlock :=
  { family, opener, branch := if family = .conditional then some opener else none }

/-- One more token in the body. -/
def push (block : OpenBlock) (token : Token) : OpenBlock :=
  { block with body := block.body ++ [token] }

/-- The current branch among the finished ones. Without a current branch the body waits for the
first one. -/
def finishBranch (block : OpenBlock) : OpenBlock :=
  match block.branch with
  | none => block
  | some token => { block with branches := block.branches ++ [(token, block.body)], body := [] }

/-- Was the current branch begun by this word? -/
def isInBranch (block : OpenBlock) (word : Text) : Bool :=
  block.branch.any fun token => token.name = word

/-- Begin a branch. After a last branch there is none. -/
def openBranch (keywords : Keywords) (block : OpenBlock) (keyword : Keyword) (token : Token) :
    Except StatementError OpenBlock :=
  let opener := keywords.spelling block.family.opener
  match (block.family.last?.map keywords.spelling).filter block.isInBranch with
  | none => .ok { block.finishBranch with branch := some token }
  | some last =>
      if keyword.role = .lastBranch then .error ⟨.repeatedLast last opener, token⟩
      else .error ⟨.branchAfterLast last opener, token⟩

/-- The branches of a closed block, and the body of its last branch or of a `switch` without cases.
A body that ends a branch of its own is the last of the branches. -/
def parts (keywords : Keywords) (block : OpenBlock) :
    List (Token × List Token) × Option (List Token) :=
  match block.family with
  | .conditional =>
      if block.isInBranch (keywords.spelling .else_) then (block.branches, some block.body)
      else (block.finishBranch.branches, none)
  | .iteration => ([], some block.body)
  | .switch =>
      if block.isInBranch (keywords.spelling .case) then (block.finishBranch.branches, none)
      else (block.branches, some block.body)

/-- The names and the collection of a loop. -/
def header (block : OpenBlock) : Except StatementError LoopHeader :=
  match LoopHeader.ofArgument block.opener.name block.opener.value with
  | .error fault => .error ⟨fault, block.opener⟩
  | .ok header => .ok { header with collection := Script.prepare header.collection }

/-- The node of a closed block. The other body is assembled before the branches, so an error in it
is found first. -/
def build (keywords : Keywords) (assemble : List Token → Except StatementError (List Node))
    (block : OpenBlock) : Except StatementError Node := do
  let branch (part : Token × List Token) : Except StatementError (Text × List Node) := do
    return (Script.prepare part.1.value, ← assemble part.2)
  match block.family with
  | .conditional =>
      let (branches, last) := block.parts keywords
      let otherwise ← last.mapM assemble
      return .conditional (← branches.mapM branch) otherwise
  | .iteration =>
      let header ← block.header
      return .iteration header (← assemble block.body)
  | .switch =>
      let (cases, last) := block.parts keywords
      let otherwise ← last.mapM assemble
      return .switch (Script.prepare block.opener.value) (← cases.mapM branch) otherwise

end OpenBlock

/-- The nodes assembled so far, and the block that is open after them. -/
structure Assembly where
  nodes : List Node := []
  block : Option OpenBlock := none

/-- What a token does to an assembly. -/
inductive Assembly.Move
  /-- The assembly goes on. -/
  | proceed (next : Assembly)
  /-- The open block is closed and waits to be built. -/
  | close (block : OpenBlock)

namespace Assembly

/-- What a statement does to the open block. -/
def moveInBlock (keywords : Keywords) (nodes : List Node) (block : OpenBlock) (keyword : Keyword)
    (token : Token) : Except StatementError Move :=
  let keep (next : OpenBlock) : Move := .proceed ⟨nodes, some next⟩
  if keyword.family ≠ block.family then .ok (keep (block.push token))
  else if keyword.role = .opening then
    .ok (keep { block.push token with depth := block.depth + 1 })
  else if 1 < block.depth then
    if keyword.role = .closing then .ok (keep { block.push token with depth := block.depth - 1 })
    else .ok (keep (block.push token))
  else if keyword.role = .closing then .ok (.close block)
  else (block.openBranch keywords keyword token).map keep

/-- What a token does to an assembly. -/
def move (keywords : Keywords) (state : Assembly) (token : Token) : Except StatementError Move :=
  match token.kind, state.block with
  | .statement name, block =>
      match keywords.lookup? name, block with
      | none, _ => .error ⟨.unknown name, token⟩
      | some keyword, none =>
          if keyword.role = .opening then
            .ok (.proceed { state with block := some (.start keyword.family token) })
          else .error ⟨.missing (keywords.spelling keyword.family.opener), token⟩
      | some keyword, some block => moveInBlock keywords state.nodes block keyword token
  | _, some block => .ok (.proceed { state with block := some (block.push token) })
  | .text, none => .ok (.proceed { state with nodes := state.nodes ++ [.text token.value] })
  | .expression, none =>
      .ok (.proceed
        { state with nodes := state.nodes ++ [.expression (Script.prepare token.value)] })

end Assembly

end Stencil
