import Stencil.Text.Basic

/-!
# Keywords

The ten statements of a template and the words that stand for them. A statement belongs to a family
of blocks and plays one role in it; a `Keywords` value only says how each statement is spelled.

Two statements may be spelled alike; then the word means the one that comes later in `Keyword.all`.
-/

namespace Stencil

/-- The three families of blocks. -/
inductive Family
  | conditional
  | iteration
  | switch
  deriving Repr, DecidableEq

/-- What a statement does in a block of its family. -/
inductive Role
  | opening
  /-- Begins a further branch. -/
  | branch
  /-- Begins a branch that no other may follow. -/
  | lastBranch
  | closing
  deriving Repr, DecidableEq

/-- The ten statements. -/
inductive Keyword
  | if_
  | elseif
  | else_
  | endif
  | foreach
  | endforeach
  | switch
  | case
  | default
  | endswitch
  deriving Repr, DecidableEq

namespace Keyword

/-- All statements, in the order in which options list them. -/
def all : List Keyword :=
  [if_, elseif, else_, endif, foreach, endforeach, switch, case, default, endswitch]

/-- The family of a statement. -/
def family : Keyword → Family
  | if_ | elseif | else_ | endif => .conditional
  | foreach | endforeach => .iteration
  | switch | case | default | endswitch => .switch

/-- The role of a statement in its family. -/
def role : Keyword → Role
  | if_ | foreach | switch => .opening
  | elseif | case => .branch
  | else_ | default => .lastBranch
  | endif | endforeach | endswitch => .closing

/-- The name of a statement in options, which is also its spelling when options give none. -/
def label : Keyword → Text
  | if_ => ['i', 'f']
  | elseif => ['e', 'l', 's', 'e', 'i', 'f']
  | else_ => ['e', 'l', 's', 'e']
  | endif => ['e', 'n', 'd', 'i', 'f']
  | foreach => ['f', 'o', 'r', 'e', 'a', 'c', 'h']
  | endforeach => ['e', 'n', 'd', 'f', 'o', 'r', 'e', 'a', 'c', 'h']
  | switch => ['s', 'w', 'i', 't', 'c', 'h']
  | case => ['c', 'a', 's', 'e']
  | default => ['d', 'e', 'f', 'a', 'u', 'l', 't']
  | endswitch => ['e', 'n', 'd', 's', 'w', 'i', 't', 'c', 'h']

theorem mem_all (keyword : Keyword) : keyword ∈ all := by
  cases keyword <;> decide

end Keyword

namespace Family

/-- The statement that opens a block of the family. -/
def opener : Family → Keyword
  | conditional => .if_
  | iteration => .foreach
  | switch => .switch

/-- The statement that closes a block of the family. -/
def closer : Family → Keyword
  | conditional => .endif
  | iteration => .endforeach
  | switch => .endswitch

/-- The statement of the last branch, for families with branches. -/
def last? : Family → Option Keyword
  | conditional => some .else_
  | iteration => none
  | switch => some .default

/-- The name of a family in the record of assembled blocks. -/
def label : Family → Text
  | conditional => "conditional".toList
  | iteration => "iteration".toList
  | switch => "switch".toList

end Family

/-- How the ten statements are spelled. -/
@[ext] structure Keywords where
  spelling : Keyword → Text := Keyword.label

namespace Keywords

/-- The statement that a word stands for: of those spelled so, the last one. -/
def lookup? (keywords : Keywords) (word : Text) : Option Keyword :=
  Keyword.all.reverse.find? fun keyword => keywords.spelling keyword = word

/-- The spellings of all statements, in order. -/
def words (keywords : Keywords) : List Text :=
  Keyword.all.map keywords.spelling

theorem spelling_of_lookup? {keywords : Keywords} {word : Text} {keyword : Keyword}
    (h : keywords.lookup? word = some keyword) : keywords.spelling keyword = word := by
  simpa using List.find?_some h

end Keywords

end Stencil
