import Stencil.Block.Assemble
import Stencil.Options.Validate
import Stencil.Render.Basic
import Stencil.Segment
import Stencil.Text.Lines

/-!
# Templates

A template keeps the tree that it was last compiled to, the options that it was made with, and the
scope that it renders in. A text that does not compile leaves the template as it was, and a template
without a tree renders to nothing.
-/

namespace Stencil

/-- The text that is read: trimmed if the options say so. -/
def Options.prepare (options : Options) (text : Text) : Text :=
  if options.trim then Text.trimLines text else text

/-- Compile a text to a tree. -/
def compile (options : Options) (text : Text) : Except CompileError (List Node) :=
  match tokenize options.delimiters (options.prepare text) with
  | .error error => .error (.delimiter error)
  | .ok tokens =>
      match assemble options.keywords tokens with
      | .error error => .error (.statement error)
      | .ok nodes => .ok nodes

/-- A template that is ready to be rendered. -/
structure Template (Scope : Type) where
  options : Options
  /-- The tree of the last text that compiled. -/
  nodes : Option (List Node) := none
  /-- The scope to render in. -/
  scope : Scope

namespace Template

variable {Scope : Type}

/-- Replace the tree by that of another text. -/
def setText (template : Template Scope) (text : Text) : Except CompileError (Template Scope) :=
  (compile template.options text).map fun nodes => { template with nodes := some nodes }

/-- A new template. Without a text, or with an empty one, it has no tree. -/
def create (options : Options) (text : Option Text) (scope : Scope) :
    Except CompileError (Template Scope) :=
  match text with
  | none | some [] => .ok { options, scope }
  | some text => setText { options, scope } text

/-- Replace the scope. -/
def setScope (template : Template Scope) (scope : Scope) : Template Scope :=
  { template with scope }

/-- The template after a render, which keeps a scope that is given to it. -/
def withScope (template : Template Scope) (scope : Option Scope) : Template Scope :=
  match scope with
  | none => template
  | some scope => template.setScope scope

/-- Render the tree in the scope of the template. -/
def render {State Value Failure : Type} (e : Evaluator State Scope Value Failure)
    (template : Template Scope) : Render State Value Failure Text :=
  match template.nodes with
  | none => pure []
  | some nodes => Node.renderList e nodes template.scope

/-- Compile a text and render it once in a scope. -/
def renderOnce {State Value Failure : Type} (e : Evaluator State Scope Value Failure)
    (options : Options) (text : Text) (scope : Scope) :
    Except CompileError (Render State Value Failure Text) :=
  (create options (some text) scope).map fun template => template.render e

end Template

end Stencil
