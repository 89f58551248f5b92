import Stencil.Proofs.Script.Follow
import Stencil.Script.Format

/-!
# Formatting copies of values

A text filled with copies of values is the text filled with the values.
-/

namespace Stencil.Script

open Eval

variable {ρ : Address ↪ Address} {base : Store}

/-! ### Results of arithmetic -/

namespace Arithmetic

/-- What is computed from numbers alone is in no cell. -/
def IsBare (result : Except Fault Value) : Prop :=
  ∀ ρ : Address ↪ Address, result = result.map (Value.rename ρ)

theorem isBare_error (fault : Fault) : IsBare (.error fault) := fun _ => rfl

theorem isBare_float (x : Float) : IsBare (.ok (.float x)) := fun _ => rfl

theorem isBare_int (n : Int) : IsBare (.ok (.int n)) := fun _ => rfl

theorem isBare_bind {α : Type} (result : Except Fault α) {next : α → Except Fault Value}
    (h : ∀ a, IsBare (next a)) : IsBare (result >>= next) := by
  cases result with
  | error fault => exact isBare_error fault
  | ok a => exact h a

theorem isBare_power (x y : Float) : IsBare (power x y) := by
  unfold power
  dsimp only
  split
  · exact isBare_error _
  · split
    · exact fun _ => rfl
    · split
      · exact isBare_error _
      · exact isBare_float _

theorem isBare_onFloats (operator : Operator) (x y : Float) : IsBare (onFloats operator x y) := by
  cases operator with
  | add | sub | mul => exact isBare_float _
  | pow => exact isBare_power x y
  | div | floorDiv | mod =>
      unfold onFloats
      dsimp only
      split
      · exact isBare_error _
      · exact isBare_float _

theorem isBare_quotient (m n : Int) : IsBare (quotient m n) := by
  unfold quotient
  dsimp only
  split
  · exact isBare_error _
  · exact isBare_float _

theorem isBare_integerPower (m : Int) (n : Nat) : IsBare (integerPower m n) := by
  unfold integerPower
  split
  · exact isBare_int _
  · split
    · exact isBare_error _
    · exact isBare_int _

/-- Arithmetic of integers ends in a value without addresses; the same is said of all the other
operations on numbers above and below. -/
theorem isBare_onIntegers (operator : Operator) (m n : Int) :
    IsBare (onIntegers operator m n) := by
  cases operator with
  | add | sub | mul => exact isBare_int _
  | div =>
      unfold onIntegers
      dsimp only
      split
      · exact isBare_error _
      · exact isBare_quotient m n
  | floorDiv | mod =>
      unfold onIntegers
      dsimp only
      split
      · exact isBare_error _
      · exact isBare_int _
  | pow =>
      unfold onIntegers
      dsimp only
      split
      · exact isBare_bind _ fun x => isBare_bind _ fun y => isBare_power x y
      · exact isBare_integerPower _ _

theorem isBare_onNumbers (operator : Operator) (a b : Value) :
    IsBare (onNumbers operator a b) := by
  unfold onNumbers
  split
  · exact isBare_bind _ fun y => isBare_onFloats operator _ y
  · exact isBare_bind _ fun x => isBare_onFloats operator x _
  · exact isBare_onIntegers operator _ _

theorem isBare_truncate (x : Float) : IsBare (truncate x) := by
  unfold truncate
  cases Binary.ofFloat? x with
  | none =>
      dsimp only
      split
      · exact isBare_error _
      · exact isBare_error _
  | some b => exact isBare_int _

theorem negate_rename (value : Value) :
    negate (value.rename ρ) = (negate value).map (Value.rename ρ) := by
  have typed := Value.typeName_rename (ρ := ρ) value
  cases value with
  | float x | bool b | int n => rfl
  | _ => exact congrArg (fun name => Except.error (Fault.typeNamed _ name)) typed

theorem keepSign_rename (value : Value) :
    keepSign (value.rename ρ) = (keepSign value).map (Value.rename ρ) := by
  have typed := Value.typeName_rename (ρ := ρ) value
  cases value with
  | float x | bool b | int n => rfl
  | _ => exact congrArg (fun name => Except.error (Fault.typeNamed _ name)) typed

theorem absolute_rename (value : Value) :
    absolute (value.rename ρ) = (absolute value).map (Value.rename ρ) := by
  have typed := Value.typeName_rename (ρ := ρ) value
  cases value with
  | float x | bool b | int n => rfl
  | _ => exact congrArg (fun name => Except.error (Fault.typeNamed _ name)) typed

end Arithmetic

namespace Format

/-! ### One value -/

/-- One value put into a text. Only `%s` and `%r` look at more than a number, and they go by the
written form. -/
theorem follows_piece (style : Style) (letter : Char) (offset : Nat) (value : Value) :
    Follows ρ base Eq (piece style letter offset value)
      (piece style letter offset (value.rename ρ)) := by
  have typed := Value.typeName_rename (ρ := ρ) value
  unfold piece
  dsimp only
  cases integerLetter? letter with
  | some written =>
      obtain ⟨mark, radix⟩ := written
      cases value with
      | float x =>
          dsimp only [Value.rename]
          split
          · refine (follows_ofExcept _).bindSame fun whole => ?_
            split
            · exact follows_ofExcept _
            · exact follows_throw _
          · exact follows_throw _
      | bool b | int n => exact follows_ofExcept _
      | _ => exact follows_throw_of_eq (congrArg (Fault.typeBare _) typed)
  | none =>
      dsimp only
      split
      · exact (follows_ask fun mirrors => mirrors.str value).bindSame fun text => follows_pure rfl
      split
      · exact (follows_ask fun mirrors => mirrors.repr value).bindSame fun text => follows_pure rfl
      split
      · exact (follows_ask fun mirrors => mirrors.repr value).bindSame fun text => follows_pure rfl
      split
      · have coded : ∀ n : Int, Follows ρ base Eq
            (if 0 ≤ n && n < 0x110000 then return { body := [Char.ofNat n.toNat] }
              else throw (.overflow "%c arg not in range(0x110000)") : Eval Piece)
            (if 0 ≤ n && n < 0x110000 then return { body := [Char.ofNat n.toNat] }
              else throw (.overflow "%c arg not in range(0x110000)")) := by
          intro n
          split
          · exact follows_pure rfl
          · exact follows_throw _
        cases value with
        | text t =>
            rw [Value.rename]
            split
            · exact follows_pure rfl
            · exact coded _
            · exact follows_throw _
        | bool b | int n => exact coded _
        | _ => exact follows_throw _
      split
      · rw [Value.isNumber_rename]
        split
        · rw [Value.rename_of_isNumber ‹_›]
          exact (follows_ofExcept _).bindSame fun x => follows_pure rfl
        · exact follows_throw_of_eq (congrArg (Fault.typeBare _) typed)
      · exact follows_throw _

/-! ### Values for places -/

/-- The values for the places of a text with the addresses in them renamed. -/
def Values.rename (ρ : Address ↪ Address) (values : Values) : Values :=
  ⟨values.next.map (Value.rename ρ), values.mapping.map (Value.rename ρ)⟩

theorem follows_take (values : Values) :
    Copies ρ base (Prod.map (Value.rename ρ) (Values.rename ρ)) values.take
      (values.rename ρ).take := by
  obtain ⟨next, mapping⟩ := values
  cases next with
  | nil => exact follows_throw _
  | cons value rest => exact follows_pure rfl

/-- A width or a precision may be taken from the values, which are then one fewer. -/
theorem follows_amount (kind : Amount) (values : Values) (text : Text) :
    Copies ρ base (Prod.map id (Prod.map id (Values.rename ρ))) (amount kind values text)
      (amount kind (values.rename ρ) text) := by
  have checked : ∀ (n : Int) {next : Int → Eval (Option Int × Text × Values)}
      {next' : Int → Eval (Option Int × Text × Values)},
      (∀ n, Copies ρ base (Prod.map id (Prod.map id (Values.rename ρ))) (next n) (next' n)) →
      Copies ρ base (Prod.map id (Prod.map id (Values.rename ρ)))
        ((if Nat.pow 2 30 < n.natAbs then throw .memory else return n : Eval Int) >>= next)
        ((if Nat.pow 2 30 < n.natAbs then throw .memory else return n : Eval Int) >>= next') := by
    intro n next next' h
    split
    · exact follows_throw _
    · exact h n
  unfold amount
  dsimp only
  split
  · refine (follows_take values).bindCopy fun taken => ?_
    obtain ⟨value, values⟩ := taken
    dsimp only [Prod.map]
    rw [Value.integer?_rename]
    cases value.integer? with
    | none => exact follows_throw _
    | some n =>
        dsimp only
        split
        · exact follows_throw _
        · exact checked n fun n => follows_pure rfl
  · split
    · exact follows_pure rfl
    · split
      · exact follows_throw _
      · exact checked _ fun n => follows_pure rfl

theorem follows_lookup (values : Values) (key : Text) :
    Copies ρ base (Values.rename ρ) (values.lookup key) ((values.rename ρ).lookup key) := by
  obtain ⟨next, mapping⟩ := values
  unfold Values.lookup Values.rename
  dsimp only
  cases mapping with
  | none => exact follows_throw _
  | some value =>
      cases value with
      | mapping chain =>
          refine (follows_scope chain).bindCopy fun layers => ?_
          have found : (Layers.rename ρ layers).get? (.text key)
              = (layers.get? (.text key)).map (Value.rename ρ) :=
            Scope.get?_image keepsKeys_rename (.text key)
          rw [found]
          cases layers.get? (.text key) with
          | none => exact follows_missing (.text key)
          | some value => exact follows_pure rfl
      | _ => exact follows_throw _

/-! ### Places -/

theorem follows_keyed (values : Values) (text : Text) :
    Copies ρ base (Prod.map id (Values.rename ρ)) (keyed values text)
      (keyed (values.rename ρ) text) := by
  have isNone : (values.rename ρ).mapping.isNone = values.mapping.isNone := Option.isNone_map
  unfold keyed
  split
  · rw [isNone]
    split
    · exact follows_throw _
    · split
      · exact (follows_lookup values _).bindCopy fun values => follows_pure rfl
      · exact follows_throw _
  · exact follows_pure rfl

theorem follows_styled (values : Values) (text : Text) :
    Copies ρ base (Prod.map id (Prod.map id (Values.rename ρ))) (styled values text)
      (styled (values.rename ρ) text) := by
  unfold styled
  refine (follows_amount widthAmount values _).bindCopy fun sized => ?_
  obtain ⟨width, text, values⟩ := sized
  dsimp only [Prod.map, id]
  split
  · exact (follows_amount precisionAmount values _).bindCopy fun sized => follows_pure rfl
  · exact follows_pure rfl

theorem follows_place (size : Nat) (values : Values) (text : Text) :
    Copies ρ base (Prod.map id (Prod.map id (Values.rename ρ))) (place size values text)
      (place size (values.rename ρ) text) := by
  unfold place
  split
  · exact follows_pure rfl
  · refine (follows_keyed values text).bindCopy fun keyed => ?_
    obtain ⟨text, values⟩ := keyed
    refine (follows_styled values text).bindCopy fun styled => ?_
    obtain ⟨style, text, values⟩ := styled
    dsimp only [Prod.map, id]
    split
    · exact follows_throw _
    · refine (follows_take values).bindCopy fun taken => ?_
      exact (follows_piece _ _ _ taken.1).bindSame fun piece => follows_pure rfl

/-- Filling in goes from left to right and hands on the values that are left. -/
theorem follows_fill (size limit : Nat) (values : Values) (text : Text) :
    Copies ρ base (Prod.map id (Values.rename ρ)) (fill size limit values text)
      (fill size limit (values.rename ρ) text) := by
  induction limit generalizing values text with
  | zero => exact follows_pure rfl
  | succ limit ih =>
      rw [fill, fill]
      split
      · exact follows_pure rfl
      · refine (follows_place size values _).bindCopy fun placed => ?_
        obtain ⟨written, rest, values⟩ := placed
        exact (ih values rest).bindCopy fun filled => follows_pure rfl

theorem isIndexed_rename (value : Value) : isIndexed (value.rename ρ) = isIndexed value := by
  cases value <;> rfl

theorem ofValue_rename (value : Value) :
    Values.ofValue (value.rename ρ) = (Values.ofValue value).rename ρ := by
  cases value with
  | tuple items => simp [Values.ofValue, Values.rename, isIndexed]
  | _ => rfl

/-- A text filled with the copy of a value. -/
theorem follows_format (text : Text) (value : Value) :
    Copies ρ base (Value.rename ρ) (format text value) (format text (value.rename ρ)) := by
  unfold format
  rw [ofValue_rename, isIndexed_rename]
  refine (follows_fill _ _ (Values.ofValue value) text).bindCopy fun filled => ?_
  have isEmpty : (filled.2.rename ρ).next.isEmpty = filled.2.next.isEmpty := List.isEmpty_map
  dsimp only [Prod.map]
  rw [isEmpty]
  split
  · exact follows_pure rfl
  · exact follows_throw _

end Format

end Stencil.Script
