import Stencil.Yaml.Plain
import Stencil.Yaml.Quoted

/-!
# Documents

The tree of data that a document stands for. `read?` reads one document made of block mappings and
block lists, of mappings and lists in brackets, and of plain and quoted scalars; a document in JSON
is a special case. Anchors, tags, directives, keys marked as such and scalars kept line by line are
not read.

Design points:

* Blocks are nested by columns. The entries of a mapping or of a list begin at one column, and what
  belongs to an entry begins further to the right. A list that is the value of an entry of a mapping
  may begin at the column of that entry.
* A key is a scalar that is followed by a colon on its own line. It opens a mapping only where a
  line, or an entry of a list, begins.
* The keys of a mapping are different.
-/

namespace Stencil.Yaml

/-- The greatest distance between the start of a key and its colon. -/
def keyLimit : Nat := 1024

/-- Can what began at one place be a key, if its colon is at another? -/
def isKeyUpTo (start colon : Cursor) : Bool :=
  start.line = colon.line && start.rest.length ≤ colon.rest.length + keyLimit

/-- A scalar. -/
def scalar? (frame : Frame) (cursor : Cursor) : Option (Data × Cursor) :=
  if cursor.startsWith '"' then
    (quoted? '"' cursor).map fun (text, after) => (.text text, after)
  else if cursor.startsWith '\'' then
    (quoted? '\'' cursor).map fun (text, after) => (.text text, after)
  else if mayBeginPlain frame.inBrackets cursor.rest then
    let (text, after) := plain frame cursor
    some (ofPlain text, after)
  else none

/-- Are the keys of some entries different scalars? -/
def areKeys : List (Data × Data) → Bool
  | [] => true
  | (key, _) :: rest => key.isKey && !(rest.any fun entry => key.sameKey entry.1) && areKeys rest

/-- A mapping with these entries. -/
def mapping? (entries : List (Data × Data)) : Option Data :=
  if areKeys entries then some (.mapping entries) else none

/-! ### Brackets -/

mutual

/-- A node inside brackets, nested at most `depth` deep. -/
def inner? : Nat → Cursor → Option (Data × Cursor)
  | 0, _ => none
  | depth + 1, cursor => do
      if cursor.startsWith '[' then
        let (items, after) ← items? depth ((cursor.advance 1).next true)
        return (.list items, after)
      else if cursor.startsWith '{' then
        let (entries, after) ← entries? depth ((cursor.advance 1).next true)
        return (← mapping? entries, after)
      else scalar? .brackets cursor

/-- The value after a colon inside brackets, or nothing before a comma or the closing bracket. -/
def innerValue? (close : Char) : Nat → Cursor → Option (Data × Cursor)
  | 0, _ => none
  | depth + 1, cursor =>
      if cursor.startsWith ',' || cursor.startsWith close then some (.null, cursor)
      else inner? depth cursor

/-- The items of a list up to its closing bracket. An item with a colon is a mapping of one
entry. -/
def items? : Nat → Cursor → Option (List Data × Cursor)
  | 0, _ => none
  | depth + 1, cursor => do
      if cursor.startsWith ']' then return ([], cursor.advance 1)
      let (node, after) ← inner? depth cursor
      let colon := after.next true
      let (item, after) ←
        if colon.hasSign ':' && isKeyUpTo cursor colon then do
          let (value, after) ← innerValue? ']' depth ((colon.advance 1).next true)
          pure (← mapping? [(node, value)], after)
        else pure (node, after)
      let after := after.next true
      if after.startsWith ',' then
        let (more, last) ← items? depth ((after.advance 1).next true)
        return (item :: more, last)
      else if after.startsWith ']' then return ([item], after.advance 1)
      else none

/-- The entries of a mapping up to its closing bracket. -/
def entries? : Nat → Cursor → Option (List (Data × Data) × Cursor)
  | 0, _ => none
  | depth + 1, cursor => do
      if cursor.startsWith '}' then return ([], cursor.advance 1)
      let (key, after) ←
        if cursor.startsWith ':' then some (.null, cursor) else inner? depth cursor
      let colon := after.next true
      let (value, after) ←
        if colon.startsWith ':' && isKeyUpTo cursor colon then
          innerValue? '}' depth ((colon.advance 1).next true)
        else some (.null, after)
      let after := after.next true
      if after.startsWith ',' then
        let (more, last) ← entries? depth ((after.advance 1).next true)
        return ((key, value) :: more, last)
      else if after.startsWith '}' then return ([(key, value)], after.advance 1)
      else none

end

/-! ### Blocks -/

/-- A node that is written without a block of its own. -/
def leaf? (depth least : Nat) (cursor : Cursor) : Option (Data × Cursor) :=
  if cursor.startsWith '[' || cursor.startsWith '{' then inner? depth cursor
  else scalar? (.block least) cursor

/-- A key with the cursor after its colon. -/
def key? (depth least : Nat) (cursor : Cursor) : Option (Data × Cursor) := do
  let (key, after) ← leaf? depth least cursor
  let colon := after.next false
  if colon.hasSign ':' && isKeyUpTo cursor colon then some (key, colon.advance 1) else none

mutual

/-- A node whose lines begin at the column `least` or to the right of it. Only a node that is first
on its line, or first in an entry of a list, may be a block. -/
def node? (isFirst : Bool) (least : Nat) : Nat → Cursor → Option (Data × Cursor)
  | 0, _ => none
  | depth + 1, cursor => do
      if cursor.hasSign '-' then
        if isFirst then
          let (items, after) ← blockItems? false cursor.column depth cursor
          return (.list items, after)
        else none
      else if isFirst && (key? depth least cursor).isSome then
        let (entries, after) ← blockEntries? cursor.column depth cursor
        return (← mapping? entries, after)
      else leaf? depth least cursor
  termination_by structural depth => depth

/-- What belongs to an entry of a list at a column. -/
def itemNode? (column : Nat) : Nat → Cursor → Option (Data × Cursor)
  | 0, _ => none
  | depth + 1, cursor =>
      let start := (cursor.advance 1).next false
      if start.atEnd || (start.line ≠ cursor.line && start.column ≤ column) then some (.null, start)
      else node? true (column + 1) depth start
  termination_by structural depth => depth

/-- The items of a list whose entries begin at a column. A list that `shares` its column with the
mapping around it ends at the next key. -/
def blockItems? (shares : Bool) (column : Nat) : Nat → Cursor → Option (List Data × Cursor)
  | 0, _ => none
  | depth + 1, cursor => do
      let (item, after) ← itemNode? column depth cursor
      let following := after.next false
      if following.atEnd || following.column < column then return ([item], following)
      else if column < following.column then none
      else if following.hasSign '-' then
        let (more, last) ← blockItems? shares column depth following
        return (item :: more, last)
      else if shares then return ([item], following)
      else none
  termination_by structural depth => depth

/-- The value of an entry of a mapping at a column; the cursor is after the colon. -/
def entryValue? (column : Nat) : Nat → Cursor → Option (Data × Cursor)
  | 0, _ => none
  | depth + 1, cursor => do
      let start := cursor.next false
      if start.atEnd then return (.null, start)
      else if start.line = cursor.line then node? false (column + 1) depth start
      else if column < start.column then node? true (column + 1) depth start
      else if start.column = column && start.hasSign '-' then
        let (items, after) ← blockItems? true column depth start
        return (.list items, after)
      else return (.null, start)
  termination_by structural depth => depth

/-- The entries of a mapping whose keys begin at a column. -/
def blockEntries? (column : Nat) : Nat → Cursor → Option (List (Data × Data) × Cursor)
  | 0, _ => none
  | depth + 1, cursor => do
      let (key, afterColon) ← key? depth (column + 1) cursor
      let (value, after) ← entryValue? column depth afterColon
      let following := after.next false
      if following.atEnd || following.column < column then return ([(key, value)], following)
      else if column < following.column then none
      else
        let (more, last) ← blockEntries? column depth following
        return ((key, value) :: more, last)
  termination_by structural depth => depth

end

/-! ### Whole documents -/

/-- May the character stand in a document? -/
def isAllowed (c : Char) : Bool :=
  let code := c.toNat
  c = '\t' || c = '\n' || (0x20 ≤ code && code ≤ 0x7e) || code = 0x85
    || (0xa0 ≤ code && code ≠ 0xfffe && code ≠ 0xffff)

/-- A text without the mark for the order of bytes. -/
def withoutMark : Text → Text
  | '\ufeff' :: rest => rest
  | text => text

/-- Is nothing left after the document? -/
def isFinished (cursor : Cursor) : Bool :=
  let last := if cursor.atEndMarker then (cursor.advance 3).next false else cursor
  last.rest.isEmpty

/-- The data of the only document in a text. -/
def read? (text : Text) : Option Data :=
  if !text.all isAllowed then none
  else
    let first := Cursor.next ⟨withoutMark text, 0, 0⟩ false
    let isMarked := first.atStartMarker
    let start := if isMarked then (first.advance 3).next false else first
    if start.atEnd then if isFinished start then some .null else none
    else do
      let isFirst := !isMarked || start.line ≠ first.line
      let (data, after) ← node? isFirst 0 (4 * text.length + 8) start
      if isFinished (after.next false) then some data else none

/-- A reader of documents: the data that a text stands for, or why it stands for none. -/
abbrev Reader := Text → Except Text Data

/-- The reader of the documents that `read?` reads. -/
def read : Reader := fun text =>
  match read? text with
  | none => .error "not a readable document".toList
  | some data => .ok data

end Stencil.Yaml
