import Stencil.Proofs.Script.Follow.Method
import Stencil.Proofs.Script.Mentioned
import Stencil.Script.Run

/-!
# Scripts over copies of their variables

A script that starts with copies of its variables, in a store that holds a copy of what they hold,
does there what it does with the variables themselves. Of the variables only those matter that the
script mentions.
-/

namespace Stencil.Script

open Eval

variable {ρ : Address ↪ Address} {base store mirror : Store} {names : List Text}
  {locals mirrored : Locals}

/-- The variables have copies, as far as names are concerned: the same names have no value, and the
same ones are own variables. -/
structure Locals.Mirrors (ρ : Address ↪ Address) (names : List Text) (locals mirror : Locals) :
    Prop where
  values : ∀ name ∈ names,
    Table.get? mirror.values name = (Table.get? locals.values name).map (Value.rename ρ)
  own : ∀ name ∈ names, mirror.own.contains name = locals.own.contains name

namespace Locals.Mirrors

variable (h : Locals.Mirrors ρ names locals mirrored)
include h

theorem put (name : Text) (value : Value) :
    Locals.Mirrors ρ names (locals.put name value) (mirrored.put name (value.rename ρ)) where
  values other hother := by
    rw [Locals.put, Locals.put, Table.get?_put, Table.get?_put, h.values other hother]
    split <;> rfl
  own := h.own

theorem without (name : Text) :
    Locals.Mirrors ρ names (locals.without name) (mirrored.without name) where
  values other hother := by
    rw [Locals.without, Locals.without, Table.get?_without, Table.get?_without,
      h.values other hother]
    split <;> rfl
  own := h.own

/-- A name that was mentioned is read with the same outcome. Names that were not mentioned may
differ between the two sides. -/
theorem follows_read {name : Text} (hname : name ∈ names) :
    Copies ρ base (Value.rename ρ) (locals.read name) (mirrored.read name) := by
  unfold Locals.read
  rw [h.values name hname, h.own name hname]
  cases Table.get? locals.values name with
  | some value => exact follows_pure rfl
  | none =>
      dsimp only [Option.map_none]
      split
      · exact follows_throw _
      split
      · exact follows_pure rfl
      · cases Builtin.ofName? name with
        | none => exact follows_throw _
        | some function => exact follows_pure rfl

end Locals.Mirrors

theorem Constant.rename_value (constant : Constant) : constant.value.rename ρ = constant.value := by
  cases constant <;> rfl

/-! ### Expressions -/

mutual

/-- **Expressions are followed**, one case for each form; the five lemmas behind it are those for
lists of expressions, on which the recursion goes along. -/
theorem Expr.follows_eval (h : Locals.Mirrors ρ names locals mirrored) :
    (expr : Expr) → expr.mentioned ⊆ names →
    Copies ρ base (Value.rename ρ) (expr.eval locals) (expr.eval mirrored)
  | .constant c, _ => by
      rw [Expr.eval, Expr.eval]
      exact follows_pure c.rename_value.symm
  | .name name, hnames => h.follows_read (hnames List.mem_cons_self)
  | .tuple items, hnames => by
      refine (follows_evalAll h items hnames).bindCopy fun values => ?_
      exact follows_pure (by rw [Value.rename, Value.renameAll_eq_map])
  | .list items, hnames =>
      (follows_evalAll h items hnames).bindCopy fun values => follows_newList values
  | .set items, hnames => by
      refine (follows_evalAll h items hnames).bindCopy fun values => ?_
      refine (follows_forIn values fun value => ?_).bindSame fun _ => follows_newSet values
      exact (follows_checkKey value).bindSame fun _ => follows_pure rfl
  | .dict entries, hnames => by
      refine (follows_evalEntries h entries hnames).bindCopy fun table => ?_
      refine (follows_forIn table fun entry => ?_).bindSame fun _ => ?_
      · exact (follows_checkKey entry.1).bindSame fun _ => follows_pure rfl
      · rw [Entries.rename, Table.ofEntries_image keepsKeys_rename]
        exact follows_newDict _
  | .subscript object index, hnames => by
      obtain ⟨hobject, hindex⟩ := List.append_subset.1 hnames
      refine (object.follows_eval h hobject).bindCopy fun object => ?_
      refine (index.follows_eval h hindex).bindCopy fun index => ?_
      exact Operation.follows_subscript object index
  | .slice start stop step, hnames => by
      obtain ⟨hbounds, hstep⟩ := List.append_subset.1 hnames
      obtain ⟨hstart, hstop⟩ := List.append_subset.1 hbounds
      refine (follows_evalOption h start hstart).bindCopy fun start => ?_
      refine (follows_evalOption h stop hstop).bindCopy fun stop => ?_
      exact (follows_evalOption h step hstep).bindCopy fun step => follows_pure rfl
  | .attribute object name, hnames =>
      (object.follows_eval h hnames).bindCopy fun object => Call.follows_member object name
  | .call function arguments named, hnames => by
      obtain ⟨hpositional, hnamed⟩ := List.append_subset.1 hnames
      obtain ⟨hfunction, harguments⟩ := List.append_subset.1 hpositional
      refine (function.follows_eval h hfunction).bindCopy fun function => ?_
      refine (follows_evalAll h arguments harguments).bindCopy fun positional => ?_
      refine (follows_evalNamed h named hnamed).bindCopy fun named => ?_
      exact Call.follows_call ⟨positional, named⟩ function
  | .binary operator left right, hnames => by
      obtain ⟨hleft, hright⟩ := List.append_subset.1 hnames
      refine (left.follows_eval h hleft).bindCopy fun left => ?_
      refine (right.follows_eval h hright).bindCopy fun right => ?_
      exact Operation.follows_binary operator _ left right
  | .negative operand, hnames =>
      (operand.follows_eval h hnames).bindCopy fun value =>
        copies_ofExcept (Arithmetic.negate_rename value)
  | .positive operand, hnames =>
      (operand.follows_eval h hnames).bindCopy fun value =>
        copies_ofExcept (Arithmetic.keepSign_rename value)
  | .not operand, hnames => by
      refine (operand.follows_eval h hnames).bindCopy fun value => ?_
      exact follows_get fun mirrors => follows_pure (by rw [mirrors.isTrue, Value.rename])
  | .and left right, hnames => by
      obtain ⟨hleft, hright⟩ := List.append_subset.1 hnames
      refine (left.follows_eval h hleft).bindCopy fun value => ?_
      refine follows_get fun mirrors => ?_
      rw [mirrors.isTrue]
      split
      · exact right.follows_eval h hright
      · exact follows_pure rfl
  | .or left right, hnames => by
      obtain ⟨hleft, hright⟩ := List.append_subset.1 hnames
      refine (left.follows_eval h hleft).bindCopy fun value => ?_
      refine follows_get fun mirrors => ?_
      rw [mirrors.isTrue]
      split
      · exact follows_pure rfl
      · exact right.follows_eval h hright
  | .compare first rest, hnames => by
      obtain ⟨hfirst, hrest⟩ := List.append_subset.1 hnames
      refine (first.follows_eval h hfirst).bindCopy fun value => ?_
      exact follows_evalComparisons h rest hrest value
  | .choice condition ifTrue ifFalse, hnames => by
      obtain ⟨hfirst, hfalse⟩ := List.append_subset.1 hnames
      obtain ⟨hcondition, htrue⟩ := List.append_subset.1 hfirst
      refine (condition.follows_eval h hcondition).bindCopy fun value => ?_
      refine follows_get fun mirrors => ?_
      rw [mirrors.isTrue]
      split
      · exact ifTrue.follows_eval h htrue
      · exact ifFalse.follows_eval h hfalse

theorem follows_evalAll (h : Locals.Mirrors ρ names locals mirrored) :
    (items : List Expr) → mentionedAll items ⊆ names →
    Copies ρ base (List.map (Value.rename ρ)) (evalAll locals items) (evalAll mirrored items)
  | [], _ => follows_pure rfl
  | item :: rest, hnames => by
      obtain ⟨hitem, hrest⟩ := List.append_subset.1 hnames
      refine (item.follows_eval h hitem).bindCopy fun value => ?_
      exact (follows_evalAll h rest hrest).bindCopy fun values => follows_pure rfl

theorem follows_evalNamed (h : Locals.Mirrors ρ names locals mirrored) :
    (items : List (Text × Expr)) → mentionedNamed items ⊆ names →
    Copies ρ base (List.map (Prod.map id (Value.rename ρ))) (evalNamed locals items)
      (evalNamed mirrored items)
  | [], _ => follows_pure rfl
  | (_, item) :: rest, hnames => by
      obtain ⟨hitem, hrest⟩ := List.append_subset.1 hnames
      refine (item.follows_eval h hitem).bindCopy fun value => ?_
      exact (follows_evalNamed h rest hrest).bindCopy fun values => follows_pure rfl

theorem follows_evalEntries (h : Locals.Mirrors ρ names locals mirrored) :
    (entries : List (Expr × Expr)) → mentionedEntries entries ⊆ names →
    Copies ρ base (Entries.rename ρ) (evalEntries locals entries) (evalEntries mirrored entries)
  | [], _ => follows_pure rfl
  | (key, item) :: rest, hnames => by
      obtain ⟨hentry, hrest⟩ := List.append_subset.1 hnames
      obtain ⟨hkey, hitem⟩ := List.append_subset.1 hentry
      refine (key.follows_eval h hkey).bindCopy fun key => ?_
      refine (item.follows_eval h hitem).bindCopy fun value => ?_
      exact (follows_evalEntries h rest hrest).bindCopy fun entries => follows_pure rfl

theorem follows_evalOption (h : Locals.Mirrors ρ names locals mirrored) :
    (item : Option Expr) → mentionedOption item ⊆ names →
    Copies ρ base (Value.rename ρ) (evalOption locals item) (evalOption mirrored item)
  | none, _ => follows_pure rfl
  | some item, hnames => item.follows_eval h hnames

theorem follows_evalComparisons (h : Locals.Mirrors ρ names locals mirrored) :
    (rest : List (Comparison × Expr)) →
    mentionedComparisons rest ⊆ names → (left : Value) →
    Copies ρ base (Value.rename ρ) (evalComparisons locals left rest)
      (evalComparisons mirrored (left.rename ρ) rest)
  | [], _, left => follows_pure rfl
  | (comparison, item) :: rest, hnames, left => by
      obtain ⟨hitem, hrest⟩ := List.append_subset.1 hnames
      rw [evalComparisons, evalComparisons]
      refine (item.follows_eval h hitem).bindCopy fun right => ?_
      refine (Operation.follows_compare comparison left right).bindSame fun holds => ?_
      cases rest with
      | nil => exact follows_pure rfl
      | cons next rest =>
          dsimp only
          split
          · exact follows_evalComparisons h (next :: rest) hrest right
          · exact follows_pure rfl

end

/-! ### Places -/

mutual

theorem Target.follows_assign : (target : Target) → target.mentioned ⊆ names →
    {locals mirrored : Locals} → Locals.Mirrors ρ names locals mirrored → (value : Value) →
    Follows ρ base (Locals.Mirrors ρ names) (target.assign locals value)
      (target.assign mirrored (value.rename ρ))
  | .name name, _, _, _, h, value => follows_pure (h.put name value)
  | .subscript object index, hnames, _, _, h, value => by
      obtain ⟨hobject, hindex⟩ := List.append_subset.1 hnames
      refine (object.follows_eval h hobject).bindCopy fun object => ?_
      refine (index.follows_eval h hindex).bindCopy fun index => ?_
      exact (Operation.follows_assign object index value).bindSame fun _ => follows_pure h
  | .attribute object member, hnames, _, _, h, _ => by
      refine (object.follows_eval h hnames).bindCopy fun object => ?_
      rw [Value.typeName_rename]
      exact follows_throw _
  | .items targets, hnames, _, _, h, value => by
      refine (Operation.follows_unpack targets.length value).bindCopy fun values => ?_
      exact follows_assignAll targets hnames h values

/-- Targets are assigned from left to right, so a later one sees what an earlier one has changed. -/
theorem follows_assignAll : (targets : List Target) → mentionedTargets targets ⊆ names →
    {locals mirrored : Locals} → Locals.Mirrors ρ names locals mirrored → (values : List Value) →
    Follows ρ base (Locals.Mirrors ρ names) (assignAll locals values targets)
      (assignAll mirrored (values.map (Value.rename ρ)) targets)
  | [], _, _, _, h, values => by
      cases values with
      | nil => exact follows_pure h
      | cons _ _ => exact follows_pure h
  | target :: targets, hnames, _, _, h, values => by
      obtain ⟨htarget, htargets⟩ := List.append_subset.1 hnames
      cases values with
      | nil => exact follows_pure h
      | cons value values =>
          exact (target.follows_assign htarget h value).bind fun _ _ h =>
            follows_assignAll targets htargets h values

end

theorem follows_assignEach (h : Locals.Mirrors ρ names locals mirrored) (value : Value)
    (targets : List Target) (hnames : mentionedTargets targets ⊆ names) :
    Follows ρ base (Locals.Mirrors ρ names) (assignEach locals value targets)
      (assignEach mirrored (value.rename ρ) targets) := by
  induction targets generalizing locals mirrored with
  | nil => exact follows_pure h
  | cons target rest ih =>
      obtain ⟨htarget, hrest⟩ := List.append_subset.1 hnames
      exact (target.follows_assign htarget h value).bind fun locals mirrored h => ih h hrest

mutual

theorem Target.follows_delete {locals mirrored : Locals} (h : Locals.Mirrors ρ names locals mirrored) :
    (target : Target) → target.mentioned ⊆ names →
    Follows ρ base (Locals.Mirrors ρ names) (target.delete locals) (target.delete mirrored)
  | .name name, hnames => by
      rw [Target.delete, Target.delete, Table.has_eq_isSome_get?, Table.has_eq_isSome_get?,
        h.values name (hnames List.mem_cons_self), Option.isSome_map]
      split
      · exact follows_pure (h.without name)
      · exact follows_throw _
  | .subscript object index, hnames => by
      obtain ⟨hobject, hindex⟩ := List.append_subset.1 hnames
      refine (object.follows_eval h hobject).bindCopy fun object => ?_
      refine (index.follows_eval h hindex).bindCopy fun index => ?_
      exact (Operation.follows_delete object index).bindSame fun _ => follows_pure h
  | .attribute object member, hnames => by
      refine (object.follows_eval h hnames).bindCopy fun object => ?_
      rw [Value.typeName_rename]
      exact follows_throw _
  | .items targets, hnames => follows_deleteAll h targets hnames

theorem follows_deleteAll {locals mirrored : Locals} (h : Locals.Mirrors ρ names locals mirrored) :
    (targets : List Target) → mentionedTargets targets ⊆ names →
    Follows ρ base (Locals.Mirrors ρ names) (deleteAll locals targets) (deleteAll mirrored targets)
  | [], _ => follows_pure h
  | target :: rest, hnames => by
      obtain ⟨htarget, hrest⟩ := List.append_subset.1 hnames
      exact (target.follows_delete h htarget).bind fun locals mirrored h =>
        follows_deleteAll h rest hrest

end

/-- An assignment with an operator reads the target, evaluates the value and writes, in this order.
-/
theorem Target.follows_update (h : Locals.Mirrors ρ names locals mirrored) (operator : Operator)
    (value : Expr) (hvalue : value.mentioned ⊆ names) :
    (target : Target) → target.mentioned ⊆ names →
    Follows ρ base (Locals.Mirrors ρ names) (target.update locals operator value)
      (target.update mirrored operator value)
  | .name n, hnames => by
      refine (h.follows_read (hnames List.mem_cons_self)).bindCopy fun old => ?_
      refine (value.follows_eval h hvalue).bindCopy fun operand => ?_
      refine (Operation.follows_update operator old operand).bindCopy fun result => ?_
      exact follows_pure (h.put n result)
  | .subscript object index, hnames => by
      obtain ⟨hobject, hindex⟩ := List.append_subset.1 hnames
      refine (object.follows_eval h hobject).bindCopy fun object => ?_
      refine (index.follows_eval h hindex).bindCopy fun index => ?_
      refine (Operation.follows_subscript object index).bindCopy fun old => ?_
      refine (value.follows_eval h hvalue).bindCopy fun operand => ?_
      refine (Operation.follows_update operator old operand).bindCopy fun result => ?_
      exact (Operation.follows_assign object index result).bindSame fun _ => follows_pure h
  | .attribute object member, hnames => by
      refine (object.follows_eval h hnames).bindCopy fun object => ?_
      refine (Call.follows_member object member).bindCopy fun _ => ?_
      rw [Value.typeName_rename]
      exact follows_throw _
  | .items _, _ => follows_pure h

/-! ### Loops -/

/-- The end of a statement with the addresses in its result renamed. -/
def Flow.rename (ρ : Address ↪ Address) : Flow → Flow
  | .next => .next
  | .leaveLoop => .leaveLoop
  | .continueLoop => .continueLoop
  | .result value => .result (value.rename ρ)

/-- Two statements end the same way, with copies of the variables. -/
def EndsAlike (ρ : Address ↪ Address) (names : List Text) (ends copied : Flow × Locals) : Prop :=
  copied.1 = ends.1.rename ρ ∧ Locals.Mirrors ρ names ends.2 copied.2

/-- A round of a loop over values, on copies. -/
abbrev RoundFollows (ρ : Address ↪ Address) (base : Store) (names : List Text)
    (round : Locals → Value → Eval (Flow × Locals)) : Prop :=
  ∀ {locals mirrored : Locals}, Locals.Mirrors ρ names locals mirrored → ∀ value : Value,
    Follows ρ base (EndsAlike ρ names) (round locals value) (round mirrored (value.rename ρ))

/-- What a script does after a part of it that may go on with the variables, or end. -/
abbrev NextFollows (ρ : Address ↪ Address) (base : Store) (names : List Text)
    (next : Locals → Eval (Flow × Locals)) : Prop :=
  ∀ {locals mirrored : Locals}, Locals.Mirrors ρ names locals mirrored →
    Follows ρ base (EndsAlike ρ names) (next locals) (next mirrored)

/-- What comes after a loop depends on how the loop ended, and on nothing else of it. -/
theorem follows_afterLoop {otherwise : Locals → Eval (Flow × Locals)}
    (hotherwise : NextFollows ρ base names otherwise) (flow : Flow)
    (h : Locals.Mirrors ρ names locals mirrored) :
    Follows ρ base (EndsAlike ρ names) (afterLoop otherwise flow locals)
      (afterLoop otherwise (flow.rename ρ) mirrored) := by
  cases flow with
  | next | continueLoop => exact hotherwise h
  | leaveLoop => exact follows_pure ⟨rfl, h⟩
  | result value => exact follows_pure ⟨rfl, h⟩

section

variable {round : Locals → Value → Eval (Flow × Locals)}
  (hround : RoundFollows ρ base names round)
include hround

theorem follows_visitAll (h : Locals.Mirrors ρ names locals mirrored) (visits : List Visit) :
    Follows ρ base (EndsAlike ρ names) (visitAll round locals visits)
      (visitAll round mirrored (visits.map (Visit.rename ρ))) := by
  induction visits generalizing locals mirrored with
  | nil => exact follows_pure ⟨rfl, h⟩
  | cons visit rest ih =>
      refine (Visit.follows_item? visit).bindCopy fun item => ?_
      cases item with
      | none => exact ih h
      | some value =>
          refine (hround h value).bind fun ends copied alike => ?_
          obtain ⟨flow, locals⟩ := ends
          obtain ⟨flow', mirrored⟩ := copied
          obtain ⟨rfl, h⟩ := alike
          cases flow with
          | next | continueLoop => exact ih h
          | leaveLoop | result value => exact follows_pure ⟨rfl, h⟩

/-- Stretches are gone through one after another. What the next one comes by is found when it
begins, in stores that mirror each other by then. -/
theorem follows_visitEach (h : Locals.Mirrors ρ names locals mirrored) (stretches : List Stretch) :
    Follows ρ base (EndsAlike ρ names) (visitEach round locals stretches)
      (visitEach round mirrored (stretches.map (Stretch.rename ρ))) := by
  induction stretches generalizing locals mirrored with
  | nil => exact follows_pure ⟨rfl, h⟩
  | cons stretch rest ih =>
      -- What there is to visit is read off the store and its mirror when the stretch begins.
      refine follows_get fun {store _} mirrors => ?_
      rw [Stretch.visits_rename mirrors]
      refine (follows_visitAll hround h _).bind fun ends copied alike => ?_
      obtain ⟨flow, locals⟩ := ends
      obtain ⟨flow', mirrored⟩ := copied
      obtain ⟨rfl, h⟩ := alike
      cases flow with
      | next | continueLoop => exact ih h
      | leaveLoop | result value => exact follows_pure ⟨rfl, h⟩

/-- A loop over a list asks for the next item each time; the induction is on the bound of rounds. -/
theorem follows_visitList (address : Address) (limit index : Nat)
    (h : Locals.Mirrors ρ names locals mirrored) :
    Follows ρ base (EndsAlike ρ names) (visitList round address limit index locals)
      (visitList round (ρ address) limit index mirrored) := by
  induction limit generalizing index locals mirrored with
  | zero => exact follows_pure ⟨rfl, h⟩
  | succ limit ih =>
      refine follows_get fun {store _} mirrors => ?_
      rw [mirrors.list, List.getElem?_map]
      cases (store.list address)[index]? with
      | none => exact follows_pure ⟨rfl, h⟩
      | some value =>
          refine (hround h value).bind fun ends copied alike => ?_
          obtain ⟨flow, locals⟩ := ends
          obtain ⟨flow', mirrored⟩ := copied
          obtain ⟨rfl, h⟩ := alike
          cases flow with
          | next | continueLoop => exact ih (index + 1) h
          | leaveLoop | result value => exact follows_pure ⟨rfl, h⟩

theorem follows_visit (collection : Value) (h : Locals.Mirrors ρ names locals mirrored) :
    Follows ρ base (EndsAlike ρ names) (visit round collection locals)
      (visit round (collection.rename ρ) mirrored) := by
  have visited : Follows ρ base (EndsAlike ρ names) (visitValue round collection locals)
      (visitValue round (collection.rename ρ) mirrored) := by
    refine follows_get fun {store _} mirrors => ?_
    rw [Stretch.ofValue?_rename mirrors, Value.typeName_rename]
    cases Stretch.ofValue? store collection with
    | none => exact follows_throw _
    | some stretches => exact follows_visitEach hround h stretches
  cases collection with
  | list address => exact follows_visitList hround address _ _ h
  | _ => exact visited

end

theorem follows_roundsWhile {condition : Locals → Eval Bool} {round : Locals → Eval (Flow × Locals)}
    (hcondition : ∀ {locals mirrored : Locals}, Locals.Mirrors ρ names locals mirrored →
      Follows ρ base Eq (condition locals) (condition mirrored))
    (hround : NextFollows ρ base names round) (limit : Nat)
    (h : Locals.Mirrors ρ names locals mirrored) :
    Follows ρ base (EndsAlike ρ names) (roundsWhile condition round limit locals)
      (roundsWhile condition round limit mirrored) := by
  induction limit generalizing locals mirrored with
  | zero => exact follows_pure ⟨rfl, h⟩
  | succ limit ih =>
      refine (hcondition h).bindSame fun holds => ?_
      cases holds with
      | false => exact follows_pure ⟨rfl, h⟩
      | true =>
          refine (hround h).bind fun ends copied alike => ?_
          obtain ⟨flow, locals⟩ := ends
          obtain ⟨flow', mirrored⟩ := copied
          obtain ⟨rfl, h⟩ := alike
          cases flow with
          | next | continueLoop => exact ih h
          | leaveLoop | result value => exact follows_pure ⟨rfl, h⟩

/-! ### Statements -/

mutual

/-- **Statements are followed**, one case for each form. Loops hand their bodies on as computations,
which are followed by the induction. -/
theorem Statement.follows_run : (statement : Statement) → statement.mentioned ⊆ names →
    {locals mirrored : Locals} → Locals.Mirrors ρ names locals mirrored →
    Follows ρ base (EndsAlike ρ names) (statement.run locals) (statement.run mirrored)
  | .expression value, hnames, _, _, h => by
      rw [Statement.run, Statement.run]
      exact (value.follows_eval h hnames).bindCopy fun _ => follows_pure ⟨rfl, h⟩
  | .assign targets value, hnames, _, _, h => by
      obtain ⟨hvalue, htargets⟩ := List.append_subset.1 hnames
      rw [Statement.run, Statement.run]
      refine (value.follows_eval h hvalue).bindCopy fun value => ?_
      exact (follows_assignEach h value targets htargets).bind fun _ _ h => follows_pure ⟨rfl, h⟩
  | .update target operator value, hnames, _, _, h => by
      obtain ⟨htarget, hvalue⟩ := List.append_subset.1 hnames
      rw [Statement.run, Statement.run]
      exact (target.follows_update h operator value hvalue htarget).bind fun _ _ h =>
        follows_pure ⟨rfl, h⟩
  | .delete targets, hnames, _, _, h => by
      rw [Statement.run, Statement.run]
      exact (follows_deleteAll h targets hnames).bind fun _ _ h => follows_pure ⟨rfl, h⟩
  | .branch condition body otherwise, hnames, _, _, h => by
      obtain ⟨hfirst, hotherwise⟩ := List.append_subset.1 hnames
      obtain ⟨hcondition, hbody⟩ := List.append_subset.1 hfirst
      rw [Statement.run, Statement.run]
      refine (condition.follows_eval h hcondition).bindCopy fun value => ?_
      refine follows_get fun mirrors => ?_
      rw [mirrors.isTrue]
      split
      · exact follows_runAll body hbody h
      · exact follows_runAll otherwise hotherwise h
  | .loop target collection body otherwise, hnames, _, _, h => by
      obtain ⟨hparts, hotherwise⟩ := List.append_subset.1 hnames
      obtain ⟨hhead, hbody⟩ := List.append_subset.1 hparts
      obtain ⟨htarget, hcollection⟩ := List.append_subset.1 hhead
      rw [Statement.run, Statement.run]
      refine (collection.follows_eval h hcollection).bindCopy fun collection => ?_
      refine Follows.bind (follows_visit (fun h value => ?_) collection h) fun ends copied alike => ?_
      · exact (target.follows_assign htarget h value).bind fun _ _ h => follows_runAll body hbody h
      · obtain ⟨flow, locals⟩ := ends
        obtain ⟨flow', mirrored⟩ := copied
        obtain ⟨rfl, h⟩ := alike
        exact follows_afterLoop (follows_runAll otherwise hotherwise) flow h
  | .repeatWhile condition body otherwise, hnames, _, _, h => by
      obtain ⟨hparts, hotherwise⟩ := List.append_subset.1 hnames
      obtain ⟨hcondition, hbody⟩ := List.append_subset.1 hparts
      rw [Statement.run, Statement.run]
      refine Follows.bind (follows_roundsWhile (fun h => ?_) (follows_runAll body hbody) _ h)
        fun ends copied alike => ?_
      · refine (condition.follows_eval h hcondition).bindCopy fun value => ?_
        exact follows_get fun mirrors => follows_pure (mirrors.isTrue value).symm
      · obtain ⟨flow, locals⟩ := ends
        obtain ⟨flow', mirrored⟩ := copied
        obtain ⟨rfl, h⟩ := alike
        exact follows_afterLoop (follows_runAll otherwise hotherwise) flow h
  | .breakLoop, _, _, _, h | .continueLoop, _, _, _, h | .pass, _, _, _, h => by
      rw [Statement.run, Statement.run]
      exact follows_pure ⟨rfl, h⟩
  | .result value, hnames, _, _, h => by
      rw [Statement.run, Statement.run]
      exact (follows_evalOption h value hnames).bindCopy fun _ => follows_pure ⟨rfl, h⟩

theorem follows_runAll : (statements : List Statement) → mentionedStatements statements ⊆ names →
    {locals mirrored : Locals} → Locals.Mirrors ρ names locals mirrored →
    Follows ρ base (EndsAlike ρ names) (runAll statements locals) (runAll statements mirrored)
  | [], _, _, _, h => by
      rw [runAll, runAll]
      exact follows_pure ⟨rfl, h⟩
  | statement :: rest, hnames, _, _, h => by
      obtain ⟨hstatement, hrest⟩ := List.append_subset.1 hnames
      rw [runAll, runAll]
      refine (statement.follows_run hstatement h).bind fun ends copied alike => ?_
      obtain ⟨flow, locals⟩ := ends
      obtain ⟨flow', mirrored⟩ := copied
      obtain ⟨rfl, h⟩ := alike
      cases flow with
      | next => exact follows_runAll rest hrest h
      | leaveLoop | continueLoop | result value => exact follows_pure ⟨rfl, h⟩

end

/-- A script over copies of the variables that it mentions has a copy of its result. -/
theorem follows_runScript (h : Locals.Mirrors ρ names locals mirrored) (statements : List Statement)
    (hnames : mentionedStatements statements ⊆ names) :
    Copies ρ base (Value.rename ρ) (runScript statements locals) (runScript statements mirrored) := by
  refine (follows_runAll statements hnames h).bind fun ends copied alike => ?_
  obtain ⟨flow, locals⟩ := ends
  obtain ⟨flow', mirrored⟩ := copied
  obtain ⟨rfl, h⟩ := alike
  cases flow with
  | result value => exact follows_pure rfl
  | next | leaveLoop | continueLoop => exact follows_pure rfl

end Stencil.Script
