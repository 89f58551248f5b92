import Stencil.Proofs.Render.Append

/-!
# Computations with and without a record

`Render.Runs run recorded state result sources` says that a computation comes to a result, and that
the same computation with a record comes to the same result and notes the sources. There is one
lemma for each thing that a render does, with the part of the tree that it looks at and nothing
else: what is not mentioned in a lemma has no influence on the run.

For a `switch` these are the sources of all cases and of the subject, in order, and then one body
(`evaluatesFirst_switch`).
-/

namespace Stencil

variable {State Scope Value Failure : Type}

namespace Render

/-- The end of a computation, with a record beside the state. -/
def beside {Error α : Type} (record : List Text) :
    EStateM.Result Error State α → EStateM.Result Error (State × List Text) α
  | .ok a state => .ok a (state, record)
  | .error error state => .error error (state, record)

/-- The computation comes to the result, and with a record it notes the sources. -/
structure Runs {α : Type} (run : Render State Value Failure α)
    (recorded : Render (State × List Text) Value Failure α) (state : State)
    (result : EStateM.Result (RenderError Failure Value) State α) (sources : List Text) : Prop where
  plain : run state = result
  recorded : ∀ record, recorded (state, record) = beside (record ++ sources) result

variable {α β : Type} {e : Evaluator State Scope Value Failure} {scope : Scope}
variable {state mid last : State} {sources more : List Text} {source : Text} {value subject : Value}

/-! ### Steps -/

namespace Runs

variable {run : Render State Value Failure α} {run' : Render (State × List Text) Value Failure α}
variable {next : α → Render State Value Failure β}
variable {next' : α → Render (State × List Text) Value Failure β}
variable {result : EStateM.Result (RenderError Failure Value) State β} {a : α}
variable {error : RenderError Failure Value} {failure : Failure}

theorem pure : Runs (Pure.pure a : Render State Value Failure α) (Pure.pure a) state
    (.ok a state) [] :=
  ⟨rfl, fun record => by rw [List.append_nil]; rfl⟩

theorem throw : Runs (MonadExcept.throw error : Render State Value Failure α)
    (MonadExcept.throw error) state (.error error state) [] :=
  ⟨rfl, fun record => by rw [List.append_nil]; rfl⟩

theorem bind_ok (h : Runs run run' state (.ok a mid) sources)
    (hnext : Runs (next a) (next' a) mid result more) :
    Runs (run >>= next) (run' >>= next') state result (sources ++ more) where
  plain := by rw [Render.bind_ok h.plain, hnext.plain]
  recorded record := by
    rw [Render.bind_ok (h.recorded record), hnext.recorded, List.append_assoc]

theorem bind_error (h : Runs run run' state (.error error mid) sources) :
    Runs (run >>= next) (run' >>= next') state (.error error mid) sources where
  plain := Render.bind_error h.plain
  recorded record := Render.bind_error (h.recorded record)

/-- What is made of the result of a computation changes nothing else. -/
theorem bind_pure (f : α → β) {result : EStateM.Result (RenderError Failure Value) State α}
    (h : Runs run run' state result sources) :
    Runs (run >>= fun a => Pure.pure (f a)) (run' >>= fun a => Pure.pure (f a)) state
      ((run >>= fun a => Pure.pure (f a)) state) sources where
  plain := rfl
  recorded record := by
    have hplain := h.plain
    have hrecorded := h.recorded record
    cases result with
    | ok a last =>
        rw [Render.bind_ok hplain, Render.bind_ok hrecorded]
        rfl
    | error error last =>
        rw [Render.bind_error hplain, Render.bind_error hrecorded]
        rfl

/-- Evaluating is the one thing that leaves a source in the record. -/
theorem value_ok (h : e.evaluate source scope state = .ok value mid) :
    Runs (Render.value e source scope) (Render.value e.recorded source scope) state
      (.ok value mid) [source] where
  plain := by simp only [Render.value, h]
  recorded record := by
    simp only [Render.value, Evaluator.recorded, Evaluator.noting, h]
    rfl

/-- The source that fails is recorded too. -/
theorem value_error (h : e.evaluate source scope state = .error failure mid) :
    Runs (Render.value e source scope) (Render.value e.recorded source scope) state
      (.error (.failed failure) mid) [source] where
  plain := by simp only [Render.value, h]
  recorded record := by
    simp only [Render.value, Evaluator.recorded, Evaluator.noting, h]
    rfl

/-- A question is answered in the state as it is and leaves nothing in the record. -/
theorem ask (question : State → Except Failure α) :
    Runs (Render.ask question : Render State Value Failure α)
      (Render.ask fun state => question state.1) state (settle (question state) state) [] where
  plain := ask_eq question state
  recorded record := by
    rw [ask_eq, List.append_nil]
    cases question state <;> rfl

theorem shown (source : Text) (scope : Scope) (state : State) :
    Runs (Render.shown e source scope) (Render.shown e.recorded source scope) state
      (Render.shown e source scope state) [source] := by
  cases h : e.evaluate source scope state with
  | ok value mid =>
      have display : Runs (Render.ask (fun state => e.display state value) : Render _ Value _ _)
          (Render.ask fun state => e.recorded.display state value) mid _ [] := ask _
      have run : Runs (Render.shown e source scope) (Render.shown e.recorded source scope) state
          _ _ := (value_ok h).bind_ok display
      exact run.plain ▸ run
  | error failure mid =>
      have run : Runs (Render.shown e source scope) (Render.shown e.recorded source scope) state
          _ _ := (value_error h).bind_error
      exact run.plain ▸ run

/-! ### Conditionals -/

variable {otherwise body : Body State Scope Value Failure}
variable {otherwise' body' : Body (State × List Text) Scope Value Failure}
variable {branches : List (Text × Body State Scope Value Failure)}
variable {branches' : List (Text × Body (State × List Text) Scope Value Failure)}
variable {shown : EStateM.Result (RenderError Failure Value) State Text}

/-- A condition that fails ends the choice. -/
theorem choose_error (h : e.evaluate source scope state = .error failure mid) :
    Runs (choose e otherwise ((source, body) :: branches) scope)
      (choose e.recorded otherwise' ((source, body') :: branches') scope) state
      (.error (.failed failure) mid) [source] :=
  (value_error h).bind_error

/-- What a value counts as is asked behind the evaluation, and nothing is noted for it. -/
theorem test {answer : Except Failure Bool} (h : e.isTrue mid value = answer) :
    Runs (Render.ask (fun state => e.isTrue state value) : Render State Value Failure Bool)
      (Render.ask fun state => e.recorded.isTrue state value) mid (settle answer mid) [] :=
  h ▸ ask fun state => e.isTrue state value

/-- A condition whose value has no truth ends the choice as well. Its source has been evaluated by
then. -/
theorem choose_test_error (h : e.evaluate source scope state = .ok value mid)
    (fails : e.isTrue mid value = .error failure) :
    Runs (choose e otherwise ((source, body) :: branches) scope)
      (choose e.recorded otherwise' ((source, body') :: branches') scope) state
      (.error (.failed failure) mid) [source] :=
  (value_ok h).bind_ok (test fails).bind_error

/-- The first source with a true value leaves all that follows without influence. -/
theorem choose_true (h : e.evaluate source scope state = .ok value mid)
    (holds : e.isTrue mid value = .ok true)
    (hbody : Runs (body scope) (body' scope) mid shown sources) :
    Runs (choose e otherwise ((source, body) :: branches) scope)
      (choose e.recorded otherwise' ((source, body') :: branches') scope) state shown
      (source :: sources) :=
  (value_ok h).bind_ok ((test holds).bind_ok hbody)

theorem choose_false (h : e.evaluate source scope state = .ok value mid)
    (fails : e.isTrue mid value = .ok false)
    (hrest : Runs (choose e otherwise branches scope) (choose e.recorded otherwise' branches' scope)
      mid shown sources) :
    Runs (choose e otherwise ((source, body) :: branches) scope)
      (choose e.recorded otherwise' ((source, body') :: branches') scope) state shown
      (source :: sources) :=
  (value_ok h).bind_ok ((test fails).bind_ok hrest)

/-! ### Loops -/

variable {header : LoopHeader} {collection item : Value} {index : Nat} {before text : Text}
variable {inner : Scope} {entered : State}

theorem enter_recorded {record : List Text}
    (henter : e.enter scope header.item item header.index index state = (inner, entered)) :
    e.recorded.enter scope header.item item header.index index (state, record)
      = (inner, (entered, record)) := by
  simp only [Evaluator.recorded, Evaluator.noting, henter]

/-- A loop ends where the collection has no item any more. It is asked again in each round, as the
body may change it. -/
theorem eachItem_none (h : e.item? state collection index = none) :
    Runs (eachItem e header body collection scope index before)
      (eachItem e.recorded header body' collection scope index before) state
      (.ok before state) [] where
  plain := Render.eachItem_none h
  recorded record := by
    rw [List.append_nil]
    exact Render.eachItem_none h

/-- A round that fails ends the loop, with what the rounds before it have recorded. -/
theorem eachItem_error (h : e.item? state collection index = some item)
    (henter : e.enter scope header.item item header.index index state = (inner, entered))
    (hbody : Runs (body inner) (body' inner) entered (.error error last) sources) :
    Runs (eachItem e header body collection scope index before)
      (eachItem e.recorded header body' collection scope index before) state
      (.error error last) sources where
  plain := Render.eachItem_error h henter hbody.plain
  recorded record := Render.eachItem_error h (enter_recorded henter) (hbody.recorded record)

/-- One round, and then the others. -/
theorem eachItem_ok (h : e.item? state collection index = some item)
    (henter : e.enter scope header.item item header.index index state = (inner, entered))
    (hbody : Runs (body inner) (body' inner) entered (.ok text mid) sources)
    (hrest : Runs (eachItem e header body collection scope (index + 1) (before ++ text))
      (eachItem e.recorded header body' collection scope (index + 1) (before ++ text)) mid shown
      more) :
    Runs (eachItem e header body collection scope index before)
      (eachItem e.recorded header body' collection scope index before) state shown
      (sources ++ more) where
  plain := by rw [Render.eachItem_ok h henter hbody.plain, hrest.plain]
  recorded record := by
    have hitem : e.recorded.item? (state, record) collection index = some item := h
    rw [Render.eachItem_ok hitem (enter_recorded henter) (hbody.recorded record), hrest.recorded,
      List.append_assoc]

theorem repeatOver_error (h : e.evaluate header.collection scope state = .error failure mid) :
    Runs (repeatOver e header body scope) (repeatOver e.recorded header body' scope) state
      (.error (.failed failure) mid) [header.collection] :=
  (value_error h).bind_error

/-- What is no sequence is refused after it was evaluated, before the first round. -/
theorem repeatOver_notSequence (h : e.evaluate header.collection scope state = .ok collection mid)
    (no : e.isSequence collection = false) :
    Runs (repeatOver e header body scope) (repeatOver e.recorded header body' scope) state
      (.error (.notSequence header.collection collection) mid) [header.collection] := by
  have no : ¬e.isSequence collection = true := by simp [no]
  have hvalue := value_ok h
  refine ⟨?_, fun record => ?_⟩
  · exact (Render.bind_ok hvalue.plain).trans (congrFun (if_neg no) mid)
  · exact (Render.bind_ok (hvalue.recorded record)).trans (congrFun (if_neg no) _)

theorem repeatOver_sequence (h : e.evaluate header.collection scope state = .ok collection mid)
    (yes : e.isSequence collection = true)
    (hrounds : Runs (eachItem e header body collection scope 0 [])
      (eachItem e.recorded header body' collection scope 0 []) mid shown sources) :
    Runs (repeatOver e header body scope) (repeatOver e.recorded header body' scope) state shown
      (header.collection :: sources) := by
  refine (value_ok h).bind_ok ⟨?_, fun record => ?_⟩
  · exact (congrFun (if_pos yes) mid).trans hrounds.plain
  · exact (congrFun (if_pos yes) (mid, record)).trans (hrounds.recorded record)

/-! ### Lists of nodes -/

variable {node : Node} {nodes : List Node} {error : RenderError Failure Value}

theorem renderList_error
    (h : Runs (node.render e scope) (node.render e.recorded scope) state (.error error mid)
      sources) :
    Runs (Node.renderList e (node :: nodes) scope)
      (Node.renderList e.recorded (node :: nodes) scope) state (.error error mid) sources :=
  h.bind_error

theorem renderList_ok
    (h : Runs (node.render e scope) (node.render e.recorded scope) state (.ok text mid) sources)
    (hrest : Runs (Node.renderList e nodes scope) (Node.renderList e.recorded nodes scope) mid shown
      more) :
    Runs (Node.renderList e (node :: nodes) scope)
      (Node.renderList e.recorded (node :: nodes) scope) state (textBehind text shown)
      (sources ++ more) where
  plain := by rw [Node.renderList_cons_ok h.plain, hrest.plain]
  recorded record := by
    rw [Node.renderList_cons_ok (h.recorded record), hrest.recorded, List.append_assoc]
    cases shown <;> rfl

end Runs

/-! ### Switches -/

/-- The element of the last mark, or else the other one. -/
def lastMarked (otherwise : α) : List Bool → List α → α
  | mark :: marks, a :: rest => lastMarked (if mark then a else otherwise) marks rest
  | _, _ => otherwise

/-- Marking goes by position, so it can be done before or after something is made of the elements.
-/
theorem lastMarked_map (f : α → β) (otherwise : α) (marks : List Bool) (elements : List α) :
    lastMarked (f otherwise) marks (elements.map f) = f (lastMarked otherwise marks elements) := by
  induction marks generalizing otherwise elements with
  | nil => rfl
  | cons mark marks ih =>
      cases elements with
      | nil => rfl
      | cons a rest =>
          rw [List.map_cons, lastMarked, lastMarked, ← apply_ite f]
          exact ih _ rest

/-- What is picked is one of the elements, or the one that stands in for them. -/
theorem lastMarked_mem (otherwise : α) (marks : List Bool) (elements : List α) :
    lastMarked otherwise marks elements ∈ otherwise :: elements := by
  induction marks generalizing otherwise elements with
  | nil => exact List.mem_cons_self
  | cons mark marks ih =>
      cases elements with
      | nil => exact List.mem_cons_self
      | cons a rest =>
          have hrest := ih (if mark then a else otherwise) rest
          rw [lastMarked]
          cases mark <;>
            simp only [List.mem_cons, Bool.false_eq_true, if_false, if_true] at hrest ⊢ <;> tauto

/-- Which of the values equal the subject. -/
def marks (e : Evaluator State Scope Value Failure) (state : State) (subject : Value)
    (values : List Value) : Except Failure (List Bool) :=
  values.mapM fun value => e.areEqual state value subject

/-- The values of sources, in order. -/
def values (e : Evaluator State Scope Value Failure) (sources : List Text) (scope : Scope) :
    Render State Value Failure (List Value) :=
  sources.mapM fun source => Render.value e source scope

variable {cases : List (Text × Body State Scope Value Failure)}
variable {otherwise : Body State Scope Value Failure} {found : List Value}

theorem values_cons : values e (source :: sources) scope = (do
    let value ← Render.value e source scope
    let more ← values e sources scope
    return value :: more) :=
  List.mapM_cons ..

/-- A source that fails leaves those behind it without influence. -/
theorem values_error {error : RenderError Failure Value} {common : List Text}
    (h : common <+: sources) (hfails : values e common scope state = .error error last) :
    values e sources scope state = .error error last := by
  obtain ⟨rest, rfl⟩ := h
  rw [values, List.mapM_append]
  exact bind_error hfails

/-- The values of the cases can be found first and paired with the bodies afterwards, as no body is
run meanwhile. -/
theorem caseValues_eq : caseValues e cases scope =
    values e (cases.map (·.1)) scope >>= fun found => pure (found.zip (cases.map (·.2))) := by
  induction cases with
  | nil => rfl
  | cons case rest ih =>
      rw [caseValues, ih, List.map_cons, values_cons]
      simp only [bind_assoc, pure_bind, List.map_cons, List.zip_cons_cons]

/-- **Which body a `switch` takes**: that of the last case that is marked. All cases are compared,
so a comparison that fails ends the `switch` even if an earlier case is equal. -/
theorem lastEqual_eq (e : Evaluator State Scope Value Failure) (state : State) (subject : Value)
    (otherwise : Body State Scope Value Failure) {bodies : List (Body State Scope Value Failure)}
    (hlength : found.length = bodies.length) :
    lastEqual e subject otherwise (found.zip bodies) state
      = settle ((marks e state subject found).map fun marks => lastMarked otherwise marks bodies)
          state := by
  induction found generalizing otherwise bodies with
  | nil =>
      obtain rfl := List.length_eq_zero_iff.1 hlength.symm
      rfl
  | cons value rest ih =>
      cases bodies with
      | nil => cases hlength
      | cons body bodies =>
          rw [List.zip_cons_cons, lastEqual, marks, List.mapM_cons]
          cases hequal : e.areEqual state value subject with
          | error failure =>
              have hask : (ask fun state => e.areEqual state value subject : Render _ Value _ _)
                  state = .error (.failed failure) state := by rw [ask_eq, hequal]; rfl
              rw [bind_error hask]
              rfl
          | ok isEqual =>
              have hask : (ask fun state => e.areEqual state value subject : Render _ Value _ _)
                  state = .ok isEqual state := by rw [ask_eq, hequal]; rfl
              rw [bind_ok hask, ih _ (Nat.succ.inj hlength), marks]
              cases rest.mapM fun value => e.areEqual state value subject <;> rfl

/-- The values of sources come to the same with a record, which notes the sources up to the first
one that fails. -/
theorem exists_runs_values (e : Evaluator State Scope Value Failure) (sources : List Text)
    (scope : Scope) (state : State) : ∃ noted,
    Runs (values e sources scope) (values e.recorded sources scope) state
        (values e sources scope state) noted
      ∧ noted <+: sources
      ∧ ∀ found last, values e sources scope state = .ok found last →
          noted = sources ∧ found.length = sources.length := by
  induction sources generalizing state with
  | nil =>
      refine ⟨[], .pure, List.prefix_rfl, ?_⟩
      rintro _ _ ⟨⟩
      exact ⟨rfl, rfl⟩
  | cons source rest ih =>
      rw [values_cons, values_cons]
      cases hvalue : e.evaluate source scope state with
      | error failure mid =>
          have run := Runs.value_error hvalue
          rw [bind_error run.plain]
          exact ⟨[source], run.bind_error, ⟨rest, rfl⟩, nofun⟩
      | ok value mid =>
          have run := Runs.value_ok hvalue
          obtain ⟨noted, hrest, hprefix, hok⟩ := ih mid
          rw [bind_ok run.plain]
          refine ⟨source :: noted, run.bind_ok (hrest.bind_pure (value :: ·)),
            List.cons_prefix_cons.2 ⟨rfl, hprefix⟩, ?_⟩
          intro found last hfound
          obtain ⟨more, left, hmore, hfound⟩ := exists_of_bind_ok hfound
          cases hfound
          obtain ⟨rfl, hlength⟩ := hok more last hmore
          exact ⟨rfl, congrArg Nat.succ hlength⟩

theorem runs_values (h : values e sources scope state = .ok found mid) :
    Runs (values e sources scope) (values e.recorded sources scope) state (.ok found mid) sources
      ∧ found.length = sources.length := by
  obtain ⟨noted, run, -, hok⟩ := exists_runs_values e sources scope state
  obtain ⟨rfl, hlength⟩ := hok found mid h
  exact ⟨h ▸ run, hlength⟩

/-- Sources that begin with a failing list come to the same failure and note the same. -/
theorem exists_runs_values_error {error : RenderError Failure Value} {common : List Text}
    (h : values e common scope state = .error error last) : ∃ noted, ∀ sources, common <+: sources →
      Runs (values e sources scope) (values e.recorded sources scope) state (.error error last)
        noted := by
  obtain ⟨noted, run, -, -⟩ := exists_runs_values e common scope state
  rw [h] at run
  refine ⟨noted, fun sources hprefix => ⟨values_error hprefix h, fun record => ?_⟩⟩
  exact values_error hprefix (run.recorded record)

end Render

namespace Node

open Render

variable {e : Evaluator State Scope Value Failure} {scope : Scope} {state mid last : State}
variable {subject : Text} {value : Value} {cases : List (Text × List Node)}
variable {otherwise : Option (List Node)} {found : List Value}

theorem renderBranches_eq :
    renderBranches e cases = cases.map fun case => (case.1, renderList e case.2) := by
  induction cases with
  | nil => rfl
  | cons case rest ih => rw [renderBranches, ih, List.map_cons]

theorem renderOption_eq : renderOption e otherwise = renderList e (otherwise.getD []) := by
  cases otherwise <;> rfl

/-- The body of the last case whose value equals the subject. -/
def renderCase (e : Evaluator State Scope Value Failure) (cases : List (Text × List Node))
    (otherwise : Option (List Node)) (scope : Scope) (found : List Value) (subject : Value) :
    Render State Value Failure Text := do
  let body ← lastEqual e subject (renderOption e otherwise)
    (found.zip ((cases.map (·.2)).map (renderList e)))
  body scope

/-- A `switch` evaluates the sources of its cases in order, then the subject, and then one body. -/
theorem render_switch : render e (.switch subject cases otherwise) scope = (do
    let found ← values e (cases.map (·.1)) scope
    let subject ← Render.value e subject scope
    renderCase e cases otherwise scope found subject) := by
  rw [render, select, caseValues_eq, renderBranches_eq, List.map_map, List.map_map]
  simp only [bind_assoc, pure_bind, renderCase, List.map_map, Function.comp_def]

theorem renderCase_error {failure : Failure} (hlength : found.length = cases.length)
    (hmarks : marks e state value found = .error failure) :
    renderCase e cases otherwise scope found value state = .error (.failed failure) state := by
  have hequal : lastEqual e value (renderOption e otherwise)
      (found.zip ((cases.map (·.2)).map (renderList e))) state
      = .error (.failed failure) state := by
    rw [lastEqual_eq e state value _ (by simpa using hlength), hmarks]
    rfl
  exact bind_error hequal

theorem renderCase_ok {marked : List Bool} (hlength : found.length = cases.length)
    (hmarks : marks e state value found = .ok marked) :
    renderCase e cases otherwise scope found value state
      = renderList e (lastMarked (otherwise.getD []) marked (cases.map (·.2))) scope state := by
  have hequal : lastEqual e value (renderOption e otherwise)
      (found.zip ((cases.map (·.2)).map (renderList e))) state
      = .ok (renderList e (lastMarked (otherwise.getD []) marked (cases.map (·.2)))) state := by
    rw [lastEqual_eq e state value _ (by simpa using hlength), hmarks, renderOption_eq]
    exact congrArg (EStateM.Result.ok · state) (lastMarked_map (renderList e) _ marked _)
  exact bind_ok hequal

end Node

namespace Render.Runs

variable {e : Evaluator State Scope Value Failure} {scope : Scope} {state mid last : State}
variable {subject : Text} {value : Value} {cases : List (Text × List Node)}
variable {otherwise : Option (List Node)} {found : List Value} {noted sources : List Text}
variable {marked : List Bool} {failure : Failure} {error : RenderError Failure Value}
variable {result : EStateM.Result (RenderError Failure Value) State Text}

/-- A `switch` with a source that fails: what follows this source has no influence. -/
theorem switch_error
    (h : Runs (values e (cases.map (·.1)) scope) (values e.recorded (cases.map (·.1)) scope) state
      (.error error last) noted) :
    Runs (Node.render e (.switch subject cases otherwise) scope)
      (Node.render e.recorded (.switch subject cases otherwise) scope) state (.error error last)
      noted := by
  rw [Node.render_switch, Node.render_switch]
  exact h.bind_error

/-- The subject comes after all the case values, and so do its faults. -/
theorem switch_subject_error
    (h : Runs (values e (cases.map (·.1)) scope) (values e.recorded (cases.map (·.1)) scope) state
      (.ok found mid) noted)
    (hsubject : e.evaluate subject scope mid = .error failure last) :
    Runs (Node.render e (.switch subject cases otherwise) scope)
      (Node.render e.recorded (.switch subject cases otherwise) scope) state
      (.error (.failed failure) last) (noted ++ [subject]) := by
  rw [Node.render_switch, Node.render_switch]
  exact h.bind_ok (value_error hsubject).bind_error

theorem renderCase_error (hlength : found.length = cases.length)
    (hmarks : marks e last value found = .error failure) :
    Runs (Node.renderCase e cases otherwise scope found value)
      (Node.renderCase e.recorded cases otherwise scope found value) last
      (.error (.failed failure) last) [] where
  plain := Node.renderCase_error hlength hmarks
  recorded record := by
    have hmarks : marks e.recorded (last, record) value found = .error failure := hmarks
    rw [Node.renderCase_error hlength hmarks, List.append_nil]
    rfl

theorem renderCase_ok (hlength : found.length = cases.length)
    (hmarks : marks e last value found = .ok marked)
    (hbody : Runs
      (Node.renderList e (lastMarked (otherwise.getD []) marked (cases.map (·.2))) scope)
      (Node.renderList e.recorded (lastMarked (otherwise.getD []) marked (cases.map (·.2))) scope)
      last result sources) :
    Runs (Node.renderCase e cases otherwise scope found value)
      (Node.renderCase e.recorded cases otherwise scope found value) last result sources where
  plain := by rw [Node.renderCase_ok hlength hmarks, hbody.plain]
  recorded record := by
    have hmarks : marks e.recorded (last, record) value found = .ok marked := hmarks
    rw [Node.renderCase_ok hlength hmarks, hbody.recorded]

/-- A `switch` whose sources have values goes on with the body of the last case. -/
theorem switch_ok
    (h : Runs (values e (cases.map (·.1)) scope) (values e.recorded (cases.map (·.1)) scope) state
      (.ok found mid) noted)
    (hsubject : e.evaluate subject scope mid = .ok value last)
    (hcase : Runs (Node.renderCase e cases otherwise scope found value)
      (Node.renderCase e.recorded cases otherwise scope found value) last result sources) :
    Runs (Node.render e (.switch subject cases otherwise) scope)
      (Node.render e.recorded (.switch subject cases otherwise) scope) state result
      (noted ++ subject :: sources) := by
  rw [Node.render_switch, Node.render_switch]
  exact h.bind_ok ((value_ok hsubject).bind_ok hcase)

end Render.Runs

/-- Before one of the bodies of a `switch` is rendered, the sources of all its cases are evaluated
in order and then its subject, each once. A failure on the way ends the render. -/
def Node.EvaluatesFirst (e : Evaluator State Scope Value Failure) (subject : Text)
    (cases : List (Text × List Node)) (otherwise : Option (List Node)) : Prop :=
  ∀ scope state record,
    (∃ error last noted, noted <+: cases.map (·.1) ++ [subject]
        ∧ Node.render e.recorded (.switch subject cases otherwise) scope (state, record)
          = .error error (last, record ++ noted))
      ∨ ∃ last, ∃ body ∈ otherwise.getD [] :: cases.map (·.2),
          Node.render e.recorded (.switch subject cases otherwise) scope (state, record)
            = Node.renderList e.recorded body scope (last, record ++ (cases.map (·.1) ++ [subject]))

/-- **A `switch` evaluates first** and renders then. -/
theorem evaluatesFirst_switch (e : Evaluator State Scope Value Failure) (subject : Text)
    (cases : List (Text × List Node)) (otherwise : Option (List Node)) :
    Node.EvaluatesFirst e subject cases otherwise := by
  intro scope state record
  obtain ⟨noted, hvalues, hprefix, hok⟩ :=
    Render.exists_runs_values e (cases.map (·.1)) scope state
  -- The stages in their order: the values of the cases, the subject, the comparisons. A stage that
  -- fails leaves the sources so far as a beginning of all of them.
  cases hfound : Render.values e (cases.map (·.1)) scope state with
  | error error last =>
      rw [hfound] at hvalues
      refine .inl ⟨error, last, noted, hprefix.trans (List.prefix_append ..), ?_⟩
      exact hvalues.switch_error.recorded record
  | ok found mid =>
      rw [hfound] at hvalues
      obtain ⟨rfl, hlength⟩ := hok found mid hfound
      rw [List.length_map] at hlength
      cases hsubject : e.evaluate subject scope mid with
      | error failure last =>
          have run : Render.Runs (Node.render e (.switch subject cases otherwise) scope) _ state
              _ _ := hvalues.switch_subject_error hsubject
          exact .inl ⟨_, last, _, List.prefix_rfl, run.recorded record⟩
      | ok value last =>
          cases hmarks : Render.marks e last value found with
          | error failure =>
              have run : Render.Runs (Node.render e (.switch subject cases otherwise) scope) _ state
                  _ _ := hvalues.switch_ok hsubject (.renderCase_error hlength hmarks)
              exact .inl ⟨_, last, _, List.prefix_rfl, run.recorded record⟩
          | ok marked =>
              refine .inr ⟨last, _, Render.lastMarked_mem _ marked _, ?_⟩
              have hrecorded := (Render.Runs.value_ok hsubject).recorded
                (record ++ cases.map (·.1))
              rw [Node.render_switch, Render.bind_ok (hvalues.recorded record),
                Render.bind_ok hrecorded, ← List.append_assoc]
              exact Node.renderCase_ok hlength hmarks

end Stencil
