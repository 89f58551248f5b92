import Stencil.Block.Basic

/-!
# Assembling a template tree

`assemble` folds the moves of `Stencil.Block.Basic` over a list of tokens and builds each block as
it closes. The bodies of a block are shorter than the list that holds the block, so a number of
levels equal to the number of tokens is always enough.

`assemblyNotices` lists the blocks in the order in which they are built, outer ones first, as far as
the assembly gets.
-/

namespace Stencil

namespace Assembly

/-- One token of an assembly whose closed blocks are built by `build`. -/
def step (keywords : Keywords) (build : OpenBlock → Except StatementError Node)
    (state : Assembly) (token : Token) : Except StatementError Assembly := do
  match ← state.move keywords token with
  | .proceed next => return next
  | .close block => return ⟨state.nodes ++ [← build block], none⟩

/-- The nodes of an assembly at its end, when no block may be open. -/
def finish (keywords : Keywords) (state : Assembly) : Except StatementError (List Node) :=
  match state.block with
  | none => .ok state.nodes
  | some block => .error ⟨.missing (keywords.spelling block.family.closer), block.opener⟩

end Assembly

/-- The tree of a list of tokens whose blocks are nested at most `levels` deep. -/
def assembleWithin (keywords : Keywords) : Nat → List Token → Except StatementError (List Node)
  | 0, _ => .ok []
  | levels + 1, tokens => do
      let build := OpenBlock.build keywords (assembleWithin keywords levels)
      let state ← tokens.foldlM (Assembly.step keywords build) {}
      state.finish keywords

/-- The tree of a list of tokens. -/
def assemble (keywords : Keywords) (tokens : List Token) : Except StatementError (List Node) :=
  assembleWithin keywords (tokens.length + 1) tokens

/-! ### The record of built blocks -/

/-- A block that was built: its family, and where it was opened. -/
structure AssemblyNotice where
  family : Family
  place : Place
  deriving Repr, DecidableEq

namespace AssemblyNotice

/-- The notices of several lists of tokens in turn, up to the first one that fails, and whether all
of them succeeded. -/
def inTurn (notices : List Token → List AssemblyNotice × Bool) :
    List (List Token) → List AssemblyNotice × Bool
  | [] => ([], true)
  | tokens :: rest =>
      match notices tokens with
      | (found, false) => (found, false)
      | (found, true) =>
          let (more, complete) := inTurn notices rest
          (found ++ more, complete)

/-- The notices for a block and its bodies. -/
def ofBlock (keywords : Keywords) (notices : List Token → List AssemblyNotice × Bool)
    (block : OpenBlock) : List AssemblyNotice × Bool :=
  let (branches, last) := block.parts keywords
  let bodies := last.toList ++ branches.map (·.2)
  let (inner, complete) :=
    match block.family, block.header with
    | .iteration, .error _ => ([], false)
    | _, _ => inTurn notices bodies
  (⟨block.family, block.opener.place⟩ :: inner, complete)

/-- The notices of the tokens that follow a state. -/
def scan (keywords : Keywords) (notices : OpenBlock → List AssemblyNotice × Bool) :
    Assembly → List Token → List AssemblyNotice × Bool
  | state, [] => ([], state.block.isNone)
  | state, token :: rest =>
      match state.move keywords token with
      | .error _ => ([], false)
      | .ok (.proceed next) => scan keywords notices next rest
      | .ok (.close block) =>
          match notices block with
          | (found, false) => (found, false)
          | (found, true) =>
              let (more, complete) := scan keywords notices {} rest
              (found ++ more, complete)

/-- The notices of a list of tokens nested at most `levels` deep, and whether it can be
assembled. -/
def within (keywords : Keywords) : Nat → List Token → List AssemblyNotice × Bool
  | 0, _ => ([], true)
  | levels + 1, tokens => scan keywords (ofBlock keywords (within keywords levels)) {} tokens

end AssemblyNotice

/-- The blocks that assembling the tokens builds, in order, as far as it gets. -/
def assemblyNotices (keywords : Keywords) (tokens : List Token) : List AssemblyNotice :=
  (AssemblyNotice.within keywords (tokens.length + 1) tokens).1

end Stencil
