import Stencil.Proofs.Render.Trace
import Stencil.Proofs.Sequence
import Stencil.Script.Host
import Stencil.Session

/-!
# Sessions

What is known about a template after any calls on it, failed ones included. The options are those
that it was made with; the tree is that of the last text that compiled; the scope is the one that
was given last, in the state that the evaluations since then have made of it.

Every part is an invariant: one lemma says what a call does to it, and the statement about all calls
follows by induction on their list. `Session.Lifecycle` puts the parts together.
-/

namespace Stencil

section

variable {State Scope Value Failure : Type}

namespace Call

/-- The text that a call wants to be compiled. -/
def text? : Call Scope → Option Text
  | setText text => some text
  | _ => none

/-- The scope that a call gives to the template. -/
def scope? : Call Scope → Option Scope
  | setText _ => none
  | setScope scope => some scope
  | render scope => scope

end Call

/-! ### Trees -/

/-- A text compiles to a tree: it is trimmed if the options say so, cut into tokens, and assembled. -/
def Compiles (options : Options) (text : Text) (nodes : List Node) : Prop :=
  ∃ tokens,
    tokenize options.delimiters (if options.trim then Text.trimLines text else text) = .ok tokens
      ∧ assemble options.keywords tokens = .ok nodes

/-- The tree of the last of several texts that compiles. -/
def IsLatestTree (options : Options) (texts : List Text) : Option (List Node) → Prop
  | none => ∀ text ∈ texts, ∀ nodes, ¬ Compiles options text nodes
  | some nodes => ∃ earlier text later, texts = earlier ++ text :: later
      ∧ Compiles options text nodes ∧ ∀ text ∈ later, ∀ nodes, ¬ Compiles options text nodes

variable {options : Options} {text : Text} {nodes : List Node} {texts : List Text}

/-- A text is compiled to one tree or to none. -/
theorem compile_eq_ok_iff : compile options text = .ok nodes ↔ Compiles options text nodes := by
  unfold compile Compiles Options.prepare
  cases tokenize options.delimiters (if options.trim then Text.trimLines text else text) with
  | error error => simp
  | ok tokens => cases h : assemble options.keywords tokens <;> simp [h]

theorem not_compiles_of_error {error : CompileError} (h : compile options text = .error error) :
    ∀ nodes, ¬ Compiles options text nodes := by
  intro nodes hnodes
  rw [compile_eq_ok_iff.2 hnodes] at h
  cases h

/-- The tree after one more text: its own if it compiles, and otherwise the one before it. -/
theorem IsLatestTree.compiled {tree : Option (List Node)} (h : IsLatestTree options texts tree) :
    IsLatestTree options (texts ++ [text])
      (match compile options text with
        | .ok nodes => some nodes
        | .error _ => tree) := by
  cases hcompile : compile options text with
  | ok nodes => exact ⟨texts, text, [], rfl, compile_eq_ok_iff.1 hcompile, by simp⟩
  | error error =>
      have fails := not_compiles_of_error hcompile
      cases tree with
      | none => exact List.forall_mem_append.2 ⟨h, by simpa using fails⟩
      | some nodes =>
          obtain ⟨earlier, last, later, rfl, hlast, hlater⟩ := h
          refine ⟨earlier, last, later ++ [text], by simp, hlast, ?_⟩
          exact List.forall_mem_append.2 ⟨hlater, by simpa using fails⟩

/-- A template that is made has the options and the scope it was given, and the tree of its text, if
that is not empty. -/
theorem Template.create_eq_ok {text : Option Text} {scope : Scope} {template : Template Scope}
    (h : Template.create options text scope = .ok template) :
    template.options = options ∧ template.scope = scope
      ∧ IsLatestTree template.options (text.toList.filter (!·.isEmpty)) template.nodes := by
  unfold Template.create at h
  split at h
  · cases h
    exact ⟨rfl, rfl, by simp [IsLatestTree]⟩
  · cases h
    exact ⟨rfl, rfl, by simp [IsLatestTree]⟩
  · rename_i text nonempty
    unfold Template.setText at h
    obtain ⟨nodes, hcompile, rfl⟩ := map_eq_ok_iff.1 h
    refine ⟨rfl, rfl, [], text, [], ?_, compile_eq_ok_iff.1 hcompile, by simp⟩
    cases text with
    | nil => exact absurd rfl nonempty
    | cons c text => rfl

/-! ### Renders that end -/

/-- The render of a template ends: with some bound on the rounds of its loops it comes to the same. -/
def Template.Ends (e : Evaluator State Scope Value Failure) (template : Template Scope)
    (state : State) : Prop :=
  ∃ rounds, template.render (e.limited rounds) state = template.render e state

/-- Rendering moves the state only by evaluating sources in the scope of the template. -/
theorem Template.exists_evaluates {e : Evaluator State Scope Value Failure}
    {template : Template Scope} {state : State} {record : List Text}
    (h : template.Ends e.recorded (state, record)) :
    ∃ sources last, Render.after (template.render e.recorded (state, record))
        = (last, record ++ sources) ∧ Evaluates e template.scope state sources last := by
  obtain ⟨rounds, hrounds⟩ := h
  rw [← hrounds]
  unfold Template.render
  cases template.nodes with
  | none => exact traces_pure [] state record
  | some nodes => exact tracesBody_renderList nodes template.scope state record

namespace Session

variable {e : Evaluator State Scope Value Failure} {session : Session State Scope}
variable {call : Call Scope} {calls : List (Call Scope)}

/-- Every render among the calls ends. -/
def Ends (e : Evaluator State Scope Value Failure) : Session State Scope → List (Call Scope) → Prop
  | _, [] => True
  | session, call :: rest =>
      (∀ scope, call = .render scope →
          (session.template.withScope scope).Ends e session.state)
        ∧ Ends e (session.answer e call).2 rest

/-! ### One call -/

theorem withScope_eq (template : Template Scope) (scope : Option Scope) :
    template.withScope scope = { template with scope := scope.getD template.scope } := by
  cases scope <;> rfl

theorem answer_render_eq (scope : Option Scope) :
    (session.answer e (.render scope)).2 =
      ⟨session.template.withScope scope,
        Render.after ((session.template.withScope scope).render e session.state)⟩ := by
  rw [answer]
  cases (session.template.withScope scope).render e session.state <;> rfl

/-- Setting a text touches nothing but the tree. Whether it fails is seen in the answer. -/
theorem answer_setText_eq (text : Text) :
    (session.answer e (.setText text)).2 =
      { session with
        template.nodes :=
          match compile session.template.options text with
          | .ok nodes => some nodes
          | .error _ => session.template.nodes } := by
  rw [answer, Template.setText]
  cases compile session.template.options text <;> rfl

@[simp] theorem options_answer :
    (session.answer e call).2.template.options = session.template.options := by
  cases call with
  | setText text => rw [answer_setText_eq]
  | setScope scope => rfl
  | render scope => rw [answer_render_eq, withScope_eq]

@[simp] theorem scope_answer :
    (session.answer e call).2.template.scope = call.scope?.getD session.template.scope := by
  cases call with
  | setText text =>
      rw [answer_setText_eq]
      rfl
  | setScope scope => rfl
  | render scope =>
      rw [answer_render_eq, withScope_eq]
      rfl

/-- Only a call with a text changes the tree. -/
theorem nodes_answer :
    (session.answer e call).2.template.nodes =
      match call.text? with
      | none => session.template.nodes
      | some text =>
          match compile session.template.options text with
          | .ok nodes => some nodes
          | .error _ => session.template.nodes := by
  cases call with
  | setText text =>
      rw [answer_setText_eq]
      rfl
  | setScope scope => rfl
  | render scope =>
      rw [answer_render_eq, withScope_eq]
      rfl

/-- A text that does not compile changes nothing at all. -/
theorem answer_setText_of_error {text : Text} {error : CallError Failure Value}
    (h : (session.answer e (.setText text)).1 = .error error) :
    (session.answer e (.setText text)).2 = session := by
  rw [answer] at h ⊢
  cases hset : session.template.setText text with
  | ok template =>
      rw [hset] at h
      cases h
  | error error => rfl

/-- Without a tree there is nothing to evaluate, and the scope is kept all the same. -/
theorem answer_render_of_none (h : session.template.nodes = none) (scope : Option Scope) :
    session.answer e (.render scope) =
      (.ok [], { session with template := session.template.withScope scope }) := by
  have hnodes : (session.template.withScope scope).nodes = none := by rw [withScope_eq, h]
  rw [answer, Template.render, hnodes]
  rfl

/-! ### All calls -/

theorem run_cons : session.run e (call :: calls) = (session.answer e call).2.run e calls :=
  rfl

theorem run_append (more : List (Call Scope)) :
    session.run e (calls ++ more) = (session.run e calls).run e more :=
  List.foldl_append ..

theorem options_run : (session.run e calls).template.options = session.template.options := by
  induction calls generalizing session with
  | nil => rfl
  | cons call rest ih => rw [run_cons, ih, options_answer]

theorem scope_run :
    (session.run e calls).template.scope
      = (calls.filterMap Call.scope?).getLast?.getD session.template.scope := by
  induction calls generalizing session with
  | nil => rfl
  | cons call rest ih =>
      rw [run_cons, ih, scope_answer, List.filterMap_cons]
      cases call.scope? with
      | none => rfl
      | some scope => simp [List.getLast?_cons]

/-- The tree is that of the last text that compiled. The induction is on the calls, and an error in
the midst of them changes nothing (`IsLatestTree.compiled`). -/
theorem isLatestTree_run
    (h : IsLatestTree session.template.options texts session.template.nodes) :
    IsLatestTree session.template.options (texts ++ calls.filterMap Call.text?)
      (session.run e calls).template.nodes := by
  induction calls generalizing session texts with
  | nil => rwa [List.filterMap_nil, List.append_nil]
  | cons call rest ih =>
      have same : (session.answer e call).2.template.options = session.template.options :=
        options_answer
      rw [run_cons, ← same]
      cases htext : call.text? with
      | none =>
          rw [List.filterMap_cons_none htext]
          refine ih ?_
          rwa [nodes_answer, htext, options_answer]
      | some text =>
          rw [List.filterMap_cons_some htext, List.append_cons]
          refine ih ?_
          rw [nodes_answer, htext, options_answer]
          exact h.compiled

/-! ### What happens to the state -/

variable {recorded : Session (State × List Text) Scope}

/-- A call evaluates in the scope that the template has after it. -/
theorem exists_evaluates_answer
    (h : ∀ scope, call = .render scope →
      (recorded.template.withScope scope).Ends e.recorded recorded.state) :
    ∃ sources, (recorded.answer e.recorded call).2.state.2 = recorded.state.2 ++ sources
      ∧ Evaluates e (recorded.answer e.recorded call).2.template.scope recorded.state.1 sources
          (recorded.answer e.recorded call).2.state.1 := by
  cases call with
  | setText text =>
      rw [answer_setText_eq]
      exact ⟨[], (List.append_nil _).symm, .nothing⟩
  | setScope scope => exact ⟨[], (List.append_nil _).symm, .nothing⟩
  | render scope =>
      obtain ⟨sources, last, hafter, hsources⟩ := Template.exists_evaluates (h scope rfl)
      rw [answer_render_eq, hafter]
      exact ⟨sources, rfl, hsources⟩

/-- Calls that give no scope evaluate in the scope that there is. -/
theorem exists_evaluates_of_none (hnone : ∀ call ∈ calls, call.scope? = none)
    (h : recorded.Ends e.recorded calls) :
    ∃ sources, (recorded.run e.recorded calls).state.2 = recorded.state.2 ++ sources
      ∧ Evaluates e recorded.template.scope recorded.state.1 sources
          (recorded.run e.recorded calls).state.1 := by
  induction calls generalizing recorded with
  | nil => exact ⟨[], (List.append_nil _).symm, .nothing⟩
  | cons call rest ih =>
      obtain ⟨hcall, hrest⟩ := List.forall_mem_cons.1 hnone
      obtain ⟨sources, hrecord, hsources⟩ := exists_evaluates_answer h.1
      obtain ⟨more, hlast, hmore⟩ := ih hrest h.2
      have same : (recorded.answer e.recorded call).2.template.scope = recorded.template.scope := by
        rw [scope_answer, hcall]
        rfl
      rw [same] at hsources hmore
      refine ⟨sources ++ more, ?_, hsources.append hmore⟩
      rw [run_cons, hlast, hrecord, List.append_assoc]

/-- Calls of which at most the first gives a scope evaluate in the scope that they end with. -/
theorem exists_evaluates_run (hnone : ∀ call ∈ calls.tail, call.scope? = none)
    (h : recorded.Ends e.recorded calls) :
    ∃ sources, (recorded.run e.recorded calls).state.2 = recorded.state.2 ++ sources
      ∧ Evaluates e (recorded.run e.recorded calls).template.scope recorded.state.1 sources
          (recorded.run e.recorded calls).state.1 := by
  cases calls with
  | nil => exact ⟨[], (List.append_nil _).symm, .nothing⟩
  | cons call rest =>
      obtain ⟨sources, hrecord, hsources⟩ := exists_evaluates_answer h.1
      have hrest : ∀ call ∈ rest, call.scope? = none := hnone
      obtain ⟨more, hlast, hmore⟩ := exists_evaluates_of_none hrest h.2
      have kept : rest.filterMap Call.scope? = [] := List.filterMap_eq_nil_iff.2 hrest
      rw [run_cons, scope_run, kept]
      refine ⟨sources ++ more, ?_, hsources.append hmore⟩
      rw [hlast, hrecord, List.append_assoc]

/-! ### From the beginning -/

/-- What is known about a template that was made from options and a text, after any calls on it. The
sources that are evaluated are recorded. -/
structure Lifecycle (e : Evaluator State Scope Value Failure) (order : Delimiters.Order)
    (given : Options.Given) (text : Option Text) (start : Session (State × List Text) Scope) : Prop where
  /-- The options stay those that the template was made with. -/
  options (calls : List (Call Scope)) :
    Options.coerce order given = .ok (start.run e.recorded calls).template.options
  /-- The tree is that of the last text that compiled. An empty text is none for a new template. -/
  tree (calls : List (Call Scope)) :
    IsLatestTree (start.run e.recorded calls).template.options
      (text.toList.filter (!·.isEmpty) ++ calls.filterMap Call.text?)
      (start.run e.recorded calls).template.nodes
  /-- The scope is the one that was given last. -/
  scope (calls : List (Call Scope)) :
    (start.run e.recorded calls).template.scope
      = (calls.filterMap Call.scope?).getLast?.getD start.template.scope
  /-- From the call on that gave the scope, what happens to the state is that the sources recorded
  since are evaluated in this scope. -/
  history (earlier later : List (Call Scope)) (given : ∀ call ∈ later.tail, call.scope? = none)
      (ends : (start.run e.recorded earlier).Ends e.recorded later) :
    ∃ sources,
      (start.run e.recorded (earlier ++ later)).state.2
          = (start.run e.recorded earlier).state.2 ++ sources
        ∧ Evaluates e (start.run e.recorded (earlier ++ later)).template.scope
            (start.run e.recorded earlier).state.1 sources
            (start.run e.recorded (earlier ++ later)).state.1
  /-- A text that does not compile changes nothing. -/
  failed_text (calls : List (Call Scope)) (text : Text) (error : CallError Failure Value) :
    ((start.run e.recorded calls).answer e.recorded (.setText text)).1 = .error error →
      ((start.run e.recorded calls).answer e.recorded (.setText text)).2
        = start.run e.recorded calls
  /-- A render leaves the options and the tree as they are, whether or not it fails. -/
  render (calls : List (Call Scope)) (scope : Option Scope) :
    ((start.run e.recorded calls).answer e.recorded (.render scope)).2.template.options
        = (start.run e.recorded calls).template.options
      ∧ ((start.run e.recorded calls).answer e.recorded (.render scope)).2.template.nodes
        = (start.run e.recorded calls).template.nodes
  /-- Without a tree the text is empty, and nothing is evaluated. -/
  no_tree (calls : List (Call Scope)) (scope : Option Scope) :
    (start.run e.recorded calls).template.nodes = none →
      (start.run e.recorded calls).answer e.recorded (.render scope)
        = (.ok [], { start.run e.recorded calls with
            template := (start.run e.recorded calls).template.withScope scope })

variable {order : Delimiters.Order} {given : Options.Given} {text : Option Text}

/-- The life of a template from where it stands; that it was made by the constructor comes in below.
-/
theorem lifecycle_of_start {start : Session (State × List Text) Scope}
    (options : Options.coerce order given = .ok start.template.options)
    (tree : IsLatestTree start.template.options (text.toList.filter (!·.isEmpty))
      start.template.nodes) : Lifecycle e order given text start where
  options calls := by rw [options_run, options]
  tree calls := by
    rw [options_run]
    exact isLatestTree_run tree
  scope calls := scope_run
  history earlier later none ends := by
    rw [run_append]
    exact exists_evaluates_run none ends
  failed_text calls text error h := answer_setText_of_error h
  render calls scope := ⟨options_answer, nodes_answer⟩
  no_tree calls scope h := answer_render_of_none h scope

variable {newScope : State → Scope × State} {state : State} {start : Session State Scope}

/-- What a new template is. -/
theorem construct_eq_ok (h : construct order newScope given text state = .ok start) :
    Options.coerce order given = .ok start.template.options
      ∧ IsLatestTree start.template.options (text.toList.filter (!·.isEmpty)) start.template.nodes
      ∧ newScope state = (start.template.scope, start.state) := by
  unfold construct at h
  simp only [bind_eq_ok_iff, mapError_eq_ok_iff, pure_eq_ok_iff] at h
  obtain ⟨options, hoptions, template, hcreate, rfl⟩ := h
  obtain ⟨rfl, hscope, htree⟩ := Template.create_eq_ok hcreate
  exact ⟨hoptions, htree, by rw [hscope]⟩

end Session

end

/-! ### Over a store -/

namespace Script

variable {evaluate : Text → Chain → EStateM Failure Store Value}

theorem scope_emptyScope (store : Store) :
    (emptyScope store).2.scope (emptyScope store).1 = [[]] := by
  simp [emptyScope, Store.alloc, Store.scope, Store.dict]

/-- Entering the body of a loop changes nothing that is in the store. -/
theorem cells_enter (chain : Chain) (item index : Text) (value : Value) (count : Nat)
    (store : Store) {address : Address} (h : address < store.cells.size) :
    ((evaluatorOf evaluate).enter chain item value index count store).2.cells[address]?
      = store.cells[address]? := by
  simp only [evaluatorOf, enterLoop, Store.alloc]
  exact Array.getElem?_push_lt h |>.trans (by simp [h])

/-- **The life of a template** over a store, with any way to evaluate sources: whatever is called and
whatever fails, `Session.Lifecycle` says what the template is afterwards. It begins with a new
dictionary without entries, and in its history entering a loop changes no dictionary that is there,
so that only the evaluations do. -/
theorem lifecycle_of_construct {order : Delimiters.Order} {given : Options.Given}
    {text : Option Text} {store : Store} {start : Session Store Chain}
    (h : Session.construct order emptyScope given text store = .ok start) :
    Session.Lifecycle (evaluatorOf evaluate) order given text start.recording
      ∧ start.template.scope = [store.cells.size]
      ∧ start.state.scope start.template.scope = [[]]
      ∧ ∀ chain item value index count (state : Store) address, address < state.cells.size →
          ((evaluatorOf evaluate).enter chain item value index count state).2.cells[address]?
            = state.cells[address]? := by
  obtain ⟨options, tree, hscope⟩ := Session.construct_eq_ok h
  have hempty := scope_emptyScope store
  rw [hscope] at hempty
  refine ⟨Session.lifecycle_of_start options tree, ?_, hempty, ?_⟩
  · exact (congrArg Prod.fst hscope).symm
  · exact fun chain item value index count state address haddress =>
      cells_enter chain item index value count state haddress

/-- The template of a loop, over an item that is not used. -/
def loopTemplate : Template Chain where
  options := {}
  nodes := some [.iteration ⟨['i'], ['n'], Script.prepare ['x']⟩ [.text ['a']]]
  scope := [0]

/-- A loop of one round, for any evaluator that behaves like one. -/
theorem render_loopTemplate {State Value Failure : Type} {e : Evaluator State Chain Value Failure}
    {state next : State} {collection item : Value}
    (hvalue : e.evaluate (Script.prepare ['x']) [0] state = .ok collection next)
    (hsequence : e.isSequence collection) (hfirst : e.item? next collection 0 = some item)
    (hsecond : ∀ later, e.item? later collection 1 = none) :
    loopTemplate.render e state = .ok ['a'] (e.enter [0] ['i'] item ['n'] 0 next).2 := by
  have hcollection : Render.value e (Script.prepare ['x']) [0] state = .ok collection next := by
    rw [Render.value, hvalue]
  have taken {yes no : Render State Value Failure Text} :
      (if e.isSequence collection then yes else no) next = yes next := by
    rw [hsequence]
    rfl
  have hrounds : Render.repeatOver e ⟨['i'], ['n'], Script.prepare ['x']⟩
        (Node.renderList e [.text ['a']]) [0] state
      = .ok ['a'] (e.enter [0] ['i'] item ['n'] 0 next).2 := by
    refine (Render.bind_ok hcollection).trans (taken.trans ?_)
    rw [Render.eachItem_ok hfirst rfl rfl, Render.eachItem_none (hsecond _)]
    rfl
  show (Render.repeatOver e ⟨['i'], ['n'], Script.prepare ['x']⟩
    (Node.renderList e [.text ['a']]) [0] >>= _) state = _
  rw [Render.bind_ok hrounds]
  rfl

/-- A loop over the only item of a tuple: it compiles, and its render ends. -/
theorem lifecycle_of_construct_loop :
    let text := "{%foreach i,n in x%}a{%endforeach%}".toList
    let e := evaluatorOf fun _ _ store => .ok (.tuple [.int 1]) store
    ∃ start, Session.construct .listed emptyScope .nothing (some text) {} = .ok start
      ∧ Session.Lifecycle e .listed .nothing (some text) start.recording
      ∧ start.recording.Ends e.recorded [.render none] := by
  intro text e
  have hcompile : compile {} text
      = .ok [.iteration ⟨['i'], ['n'], Script.prepare ['x']⟩ [.text ['a']]] :=
    compile_eq_ok_iff.2
      ⟨[⟨.statement Keyword.foreach.label, "i,n in x".toList, {}⟩, ⟨.text, ['a'], ⟨20, 1, 21⟩⟩,
        ⟨.statement Keyword.endforeach.label, [], ⟨21, 1, 22⟩⟩], by decide +kernel, rfl⟩
  have made : Session.construct .listed emptyScope .nothing (some text) {}
      = .ok ⟨loopTemplate, ⟨#[.dict []]⟩⟩ := by
    show ((Template.setText ⟨{}, none, [0]⟩ text).mapError ConstructError.compile >>= _) = _
    rw [Template.setText, hcompile]
    rfl
  refine ⟨_, made, (lifecycle_of_construct made).1, fun scope h => ?_, trivial⟩
  cases h
  have limited : loopTemplate.render (e.recorded.limited 2) (⟨#[.dict []]⟩, []) = _ :=
    render_loopTemplate rfl rfl rfl fun _ => rfl
  have whole : loopTemplate.render e.recorded (⟨#[.dict []]⟩, []) = _ :=
    render_loopTemplate rfl rfl rfl fun _ => rfl
  exact ⟨2, limited.trans whole.symm⟩

end Script

end Stencil
