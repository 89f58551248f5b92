import Stencil.Template

/-!
# Sessions

A session is a template together with the state that it renders in. Calls on the template come one
after another, and each finds what the calls before it left, whether or not they failed:

* a new text replaces the tree, if it compiles;
* a scope replaces the one that was given before, and so does a scope that comes with a render, even
  if that render fails or there is nothing to render;
* a render leaves the state in which it ended.
-/

namespace Stencil

/-- Why no template could be made. -/
inductive ConstructError
  | options (error : OptionError)
  | compile (error : CompileError)

/-- What a template can be asked to do. -/
inductive Call (Scope : Type)
  | setText (text : Text)
  | setScope (scope : Scope)
  | render (scope : Option Scope)

/-- Why a call failed. -/
inductive CallError (Failure Value : Type)
  | compile (error : CompileError)
  | render (error : RenderError Failure Value)

/-- A template, and the state that it renders in. -/
structure Session (State Scope : Type) where
  template : Template Scope
  state : State

namespace Session

variable {State Scope Value Failure : Type}

/-- A new template with a new scope. -/
def construct (order : Delimiters.Order) (newScope : State → Scope × State)
    (given : Options.Given) (text : Option Text) (state : State) :
    Except ConstructError (Session State Scope) := do
  let options ← (Options.coerce order given).mapError .options
  let (scope, state) := newScope state
  let template ← (Template.create options text scope).mapError .compile
  return { template, state }

/-- The answer to a call, which is a text only for a render, and the session after it. -/
def answer (e : Evaluator State Scope Value Failure) (session : Session State Scope) :
    Call Scope → Except (CallError Failure Value) Text × Session State Scope
  | .setText text =>
      match session.template.setText text with
      | .ok template => (.ok [], { session with template })
      | .error error => (.error (.compile error), session)
  | .setScope scope => (.ok [], { session with template := session.template.setScope scope })
  | .render scope =>
      let template := session.template.withScope scope
      match template.render e session.state with
      | .ok text state => (.ok text, { template, state })
      | .error error state => (.error (.render error), { template, state })

/-- The session after several calls. -/
def run (e : Evaluator State Scope Value Failure) (session : Session State Scope)
    (calls : List (Call Scope)) : Session State Scope :=
  calls.foldl (fun session call => (answer e session call).2) session

/-- The same session with a record of the evaluated sources. -/
def recording (session : Session State Scope) : Session (State × List Text) Scope :=
  { session with state := (session.state, []) }

end Session

end Stencil
