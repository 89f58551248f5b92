import Stencil.CommandLine.Run
import Stencil.Proofs.Culprit
import Stencil.Proofs.Options.OfData

/-!
# Runs agree with the library

A run succeeds just when all its stages do, and then it writes what the library makes of the same
text, options and variables; otherwise it writes the problem of the first stage that fails, and
nothing else (`run_agrees`). Stages are told apart by judgments: `Yields` when all of them succeed,
and `FailsAt` for the first one that does not.

Two ways lead to trimming, a flag and an option. They come to the same as long as the options have a
truth value, or nothing, to say about it; what else they say is refused, with the flag as well as
without it. And two runs that meet the same delimiters need not meet them in the same order, so that
either may name another one of those that are no texts; nothing else depends on the order
(`run_order`). Both are shown at fixed inputs (`run_ne_run`).
-/

namespace Stencil

open Script (Store)

/-- What the library makes of a text with variables: the text is compiled and rendered once, in a
scope of the variables and nothing else. -/
def renderTemplate (options : Options) (text : Text) (entries : List (Data × Data)) :
    Except CommandLine.Problem Text := do
  let scope := Store.ofVariables entries
  let render ← (Template.renderOnce Script.language options text scope.1).mapError .compile
  match render.run scope.2 with
  | .ok text _ => return text
  | .error error _ => throw (.render error)

/-- Is the problem with a file that a delimiter is no text? -/
def FileError.IsOfDelimiter (error : FileError) : Prop :=
  ∃ fault : OptionFault, fault.IsOfDelimiter ∧ error = .options fault

namespace CommandLine

variable {request other : Request} {inputs others : Inputs}

/-! ### Stages -/

/-- The stages that come before rendering: the text of the template is read, then the options, and
the text compiles to a tree. -/
structure Compiles (request : Request) (inputs : Inputs) (text : Text) (options : Options)
    (nodes : List Node) : Prop where
  read : templateText request inputs = .ok text
  loaded : requestedOptions request inputs = .ok options
  tree : compile options text = .ok nodes

/-- The problem of the first stage that fails, if that is before rendering. -/
inductive FailsToCompile (request : Request) (inputs : Inputs) : Problem → Prop
  | template {error : FileError} (failed : templateText request inputs = .error error) :
      FailsToCompile request inputs (.file error)
  | options {text : Text} {error : FileError} (read : templateText request inputs = .ok text)
      (failed : requestedOptions request inputs = .error error) :
      FailsToCompile request inputs (.file error)
  | tree {text : Text} {options : Options} {error : CompileError}
      (read : templateText request inputs = .ok text)
      (loaded : requestedOptions request inputs = .ok options)
      (failed : compile options text = .error error) : FailsToCompile request inputs (.compile error)

/-- The problem of the first stage that fails. -/
inductive FailsAt (request : Request) (inputs : Inputs) : Problem → Prop
  | before {problem : Problem} (failed : FailsToCompile request inputs problem) :
      FailsAt request inputs problem
  | loading {text : Text} {options : Options} {nodes : List Node} {error : FileError}
      (action : request.action = .render) (compiles : Compiles request inputs text options nodes)
      (failed : requestedVariables request inputs = .error error) :
      FailsAt request inputs (.file error)
  | rendering {text : Text} {options : Options} {nodes : List Node} {entries : List (Data × Data)}
      {problem : Problem} (action : request.action = .render)
      (compiles : Compiles request inputs text options nodes)
      (loaded : requestedVariables request inputs = .ok entries)
      (failed : renderTemplate options text entries = .error problem) :
      FailsAt request inputs problem

/-- All stages succeed, and this is what they come to. -/
inductive Yields (request : Request) (inputs : Inputs) : Text → Prop
  | outline {text : Text} {options : Options} {nodes : List Node} (action : request.action = .check)
      (compiles : Compiles request inputs text options nodes) :
      Yields request inputs (Node.outlineText 0 nodes ++ ['\n'])
  | rendered {text output : Text} {options : Options} {nodes : List Node}
      {entries : List (Data × Data)} (action : request.action = .render)
      (compiles : Compiles request inputs text options nodes)
      (loaded : requestedVariables request inputs = .ok entries)
      (result : renderTemplate options text entries = .ok output) : Yields request inputs output

/-! ### Templates of runs -/

/-- The entries of the file of options that a request names; without a file there are none. -/
def configuredEntries (request : Request) (inputs : Inputs) :
    Except FileError (List (Data × Data)) :=
  match request.config with
  | none | some [] => .ok []
  | some path =>
      match inputs.files.text? path with
      | none => .error (.noOptions path)
      | some contents => Files.entriesOf inputs.read path contents

/-- Valid options from entries of a file. -/
def optionsOf (order : Delimiters.Order) (entries : List (Data × Data)) :
    Except FileError Options := do
  let options ← (Options.ofEntries order entries).mapError .options
  options.validate.mapError .options

theorem optionsOf_nil {order : Delimiters.Order} : optionsOf order [] = .ok {} := by
  rw [optionsOf, Options.ofEntries_nil]
  rfl

/-- Options are read from entries, also where there is no file to read them from. -/
theorem configuredOptions_eq (request : Request) (inputs : Inputs) :
    configuredOptions request inputs
      = configuredEntries request inputs >>= optionsOf inputs.order := by
  unfold configuredOptions configuredEntries
  cases request.config with
  | none => exact optionsOf_nil.symm
  | some path =>
      cases path with
      | nil => exact optionsOf_nil.symm
      | cons c path =>
          unfold Files.options
          cases hcontents : inputs.files.text? (c :: path) with
          | none => simp [hcontents, bind, Except.bind]
          | some contents =>
              simp only [Option.isNone_some, Bool.false_eq_true, if_false, Option.bind_some,
                hcontents, Option.map_some]
              rfl

/-- The options of a run are valid. -/
theorem fault?_of_requestedOptions {options : Options}
    (h : requestedOptions request inputs = .ok options) : options.fault? = none := by
  obtain ⟨configured, hconfigured, rfl⟩ := map_eq_ok_iff.1 h
  rw [configuredOptions_eq] at hconfigured
  obtain ⟨entries, -, hentries⟩ := bind_eq_ok_iff.1 hconfigured
  obtain ⟨parsed, -, hparsed⟩ := bind_eq_ok_iff.1 hentries
  have accepted : Options.coerce inputs.order (.options parsed) = .ok configured :=
    mapError_eq_ok_iff.2 (mapError_eq_ok_iff.1 hparsed)
  have valid : configured.fault? = none := Options.fault?_of_coerce accepted
  exact valid

/-- An empty text compiles to the empty tree. -/
theorem compile_nil {options : Options} (valid : options.fault? = none) :
    compile options [] = .ok [] := by
  have nonempty := (Delimiters.fault?_eq_none (Options.fault?_eq_none valid).1).1
  have prepared : options.prepare [] = [] := by
    unfold Options.prepare
    split <;> rfl
  have cut : Segment.cut options.delimiters [] = .ok [] := by
    rw [Segment.cut,
      Segment.cutFrom_of_none ((Segment.nextBlock?_eq_none_iff nonempty).2 Delimiters.unopened_nil)]
    rfl
  rw [compile, prepared, tokenize, cut]
  rfl

/-- A text that compiles makes the same template in every scope. An empty text has no tree, which
counts as the empty one. -/
theorem exists_create {options : Options} (valid : options.fault? = none) {text : Text}
    {nodes : List Node} (h : compile options text = .ok nodes) :
    ∃ tree : Option (List Node), tree.getD [] = nodes
      ∧ ∀ {Scope : Type} (scope : Scope),
          Template.create options (some text) scope = .ok ⟨options, tree, scope⟩ := by
  cases text with
  | nil =>
      rw [compile_nil valid] at h
      cases h
      exact ⟨none, rfl, fun _ => rfl⟩
  | cons c text =>
      refine ⟨some nodes, rfl, fun scope => ?_⟩
      show Template.setText { options, scope } (c :: text) = _
      rw [Template.setText, h]
      rfl

/-- A template that does not compile is never made, whatever it would have been rendered in. -/
theorem create_error {Scope : Type} {options : Options} (valid : options.fault? = none)
    {text : Text} {error : CompileError} (h : compile options text = .error error) (scope : Scope) :
    Template.create options (some text) scope = .error error := by
  cases text with
  | nil =>
      rw [compile_nil valid] at h
      cases h
  | cons c text =>
      show Template.setText { options, scope } (c :: text) = _
      rw [Template.setText, h]
      rfl

/-- Either all stages before rendering succeed, or one of them is the first that fails. -/
theorem compiles_or_fails (request : Request) (inputs : Inputs) :
    (∃ text options nodes, Compiles request inputs text options nodes)
      ∨ ∃ problem, FailsToCompile request inputs problem := by
  cases htemplate : templateText request inputs with
  | error error => exact .inr ⟨_, .template htemplate⟩
  | ok text =>
      cases hoptions : requestedOptions request inputs with
      | error error => exact .inr ⟨_, .options htemplate hoptions⟩
      | ok options =>
          cases htree : compile options text with
          | error error => exact .inr ⟨_, .tree htemplate hoptions htree⟩
          | ok nodes => exact .inl ⟨text, options, nodes, htemplate, hoptions, htree⟩

/-- The problem of a text that does not compile is reported by both actions, since it is found
before they part. -/
theorem FailsToCompile.compiled {problem : Problem} (h : FailsToCompile request inputs problem) :
    compiled request inputs = .error problem := by
  unfold CommandLine.compiled sources
  cases h with
  | template failed =>
      rw [failed]
      rfl
  | options read failed =>
      rw [read, failed]
      rfl
  | tree read loaded failed =>
      rw [read, loaded]
      show (Template.create _ _ _).mapError Problem.compile = _
      rw [create_error (fault?_of_requestedOptions loaded) failed]
      rfl

/-- After a text has compiled, only making the template is left, which cannot fail any more
(`exists_create`). -/
theorem Compiles.compiled {text : Text} {options : Options} {nodes : List Node}
    (h : Compiles request inputs text options nodes) :
    compiled request inputs
      = (Template.create options (some text) []).mapError Problem.compile := by
  unfold CommandLine.compiled sources
  rw [h.read, h.loaded]
  rfl

/-- What is rendered in the scope of variables is what the library makes of them. -/
theorem Compiles.result_render {text : Text} {options : Options} {nodes : List Node}
    {entries : List (Data × Data)} (action : request.action = .render)
    (h : Compiles request inputs text options nodes)
    (loaded : requestedVariables request inputs = .ok entries) :
    result request inputs = renderTemplate options text entries := by
  obtain ⟨tree, -, created⟩ := exists_create (fault?_of_requestedOptions h.loaded) h.tree
  unfold result prepared renderTemplate Template.renderOnce
  dsimp only
  rw [action, h.compiled, loaded, created, created]
  rfl

theorem Compiles.result_check {text : Text} {options : Options} {nodes : List Node}
    (action : request.action = .check) (h : Compiles request inputs text options nodes) :
    result request inputs = .ok (Node.outlineText 0 nodes ++ ['\n']) := by
  obtain ⟨tree, rfl, created⟩ := exists_create (fault?_of_requestedOptions h.loaded) h.tree
  unfold result
  rw [action, h.compiled, created]
  rfl

/-- The result is that of the stages: what they yield, or the problem of the first that fails. -/
theorem result_of_yields {output : Text} (h : Yields request inputs output) :
    result request inputs = .ok output := by
  cases h with
  | outline action compiles => exact compiles.result_check action
  | rendered action compiles loaded result =>
      rw [compiles.result_render action loaded, result]

@[inherit_doc result_of_yields]
theorem result_of_failsAt {problem : Problem} (h : FailsAt request inputs problem) :
    result request inputs = .error problem := by
  cases h with
  | before failed =>
      unfold result prepared
      rw [failed.compiled]
      cases request.action <;> rfl
  | loading action compiles failed =>
      obtain ⟨tree, -, created⟩ :=
        exists_create (fault?_of_requestedOptions compiles.loaded) compiles.tree
      unfold result prepared
      rw [action, compiles.compiled, created, failed]
      rfl
  | rendering action compiles loaded failed =>
      rw [compiles.result_render action loaded, failed]

/-- A run yields something or fails. -/
theorem yields_or_failsAt (request : Request) (inputs : Inputs) :
    (∃ output, Yields request inputs output) ∨ ∃ problem, FailsAt request inputs problem := by
  rcases compiles_or_fails request inputs with ⟨text, options, nodes, compiles⟩ | ⟨problem, failed⟩
  · cases action : request.action with
    | check => exact .inl ⟨_, .outline action compiles⟩
    | render =>
        cases loaded : requestedVariables request inputs with
        | error error => exact .inr ⟨_, .loading action compiles loaded⟩
        | ok entries =>
            cases hrender : renderTemplate options text entries with
            | error problem => exact .inr ⟨_, .rendering action compiles loaded hrender⟩
            | ok output => exact .inl ⟨_, .rendered action compiles loaded hrender⟩
  · exact .inr ⟨problem, .before failed⟩

/-- What a request answers, read off the stages. Both directions follow from the two lemmas above,
as a request succeeds or fails. -/
theorem result_eq_ok_iff {output : Text} :
    result request inputs = .ok output ↔ Yields request inputs output := by
  refine ⟨fun h => ?_, result_of_yields⟩
  rcases yields_or_failsAt request inputs with ⟨found, yields⟩ | ⟨problem, fails⟩
  · rw [result_of_yields yields] at h
    cases h
    exact yields
  · rw [result_of_failsAt fails] at h
    cases h

/-- Which problem a request ends with, read off the stages. -/
theorem result_eq_error_iff {problem : Problem} :
    result request inputs = .error problem ↔ FailsAt request inputs problem := by
  refine ⟨fun h => ?_, result_of_failsAt⟩
  rcases yields_or_failsAt request inputs with ⟨output, yields⟩ | ⟨found, fails⟩
  · rw [result_of_yields yields] at h
    cases h
  · rw [result_of_failsAt fails] at h
    cases h
    exact fails

/-! ### Runs without a record -/

/-- No record of the run is asked for. -/
structure IsQuiet (request : Request) (inputs : Inputs) : Prop where
  flag : request.debug = false
  surroundings : inputs.debug = false

/-- Arguments ask for a run without a record of it. -/
structure Asks (arguments : List Text) (request : Request) (inputs : Inputs) : Prop
    extends IsQuiet request inputs where
  read : Request.read arguments = .ok request

/-- What a quiet run comes to depends on its result only. -/
theorem IsQuiet.run_eq (quiet : IsQuiet request inputs) :
    run request inputs = match result request inputs with
      | .ok output => .ok ⟨0, output, []⟩
      | .error problem => match problem.breakdown? with
          | some fault => .error fault
          | none => .ok ⟨2, [], problemLine problem⟩ := by
  unfold run
  rw [quiet.flag, quiet.surroundings]
  rfl

/-- Success writes the answer and nothing else. -/
theorem IsQuiet.run_eq_zero_iff (quiet : IsQuiet request inputs) {output errors : Text} :
    run request inputs = .ok ⟨0, output, errors⟩ ↔ errors = [] ∧ Yields request inputs output := by
  rw [quiet.run_eq, ← result_eq_ok_iff]
  cases result request inputs with
  | ok found => simp [eq_comm, and_comm]
  | error problem => cases h : problem.breakdown? <;> simp [h]

/-- Failure writes the line of its problem and no answer. -/
theorem IsQuiet.run_eq_two_iff (quiet : IsQuiet request inputs) {output errors : Text} :
    run request inputs = .ok ⟨2, output, errors⟩ ↔ output = [] ∧ ∃ problem,
      FailsAt request inputs problem ∧ problem.breakdown? = none ∧ errors = problemLine problem := by
  rw [quiet.run_eq]
  simp only [← result_eq_error_iff]
  cases result request inputs with
  | ok found => simp
  | error problem => cases h : problem.breakdown? <;> simp [h, eq_comm]

/-- There is no third way to end. -/
theorem IsQuiet.code_eq (quiet : IsQuiet request inputs) {outcome : Outcome}
    (h : run request inputs = .ok outcome) : outcome.code = 0 ∨ outcome.code = 2 := by
  rw [quiet.run_eq] at h
  split at h
  · cases h
    exact .inl rfl
  · split at h
    · cases h
    · cases h
      exact .inr rfl

/-- What fails before rendering never breaks down. -/
theorem FailsToCompile.breakdown? {problem : Problem} (h : FailsToCompile request inputs problem) :
    problem.breakdown? = none := by
  cases h <;> rfl

/-! ### Two runs -/

/-- Do the surroundings of two runs agree on the standard input, on how documents are read, and on
the files at some paths? -/
structure Inputs.AgreeOn (paths : List Text) (inputs others : Inputs) : Prop where
  standardInput : others.standardInput = inputs.standardInput
  read : others.read = inputs.read
  files : ∀ path ∈ paths, others.files.text? path = inputs.files.text? path

/-- Two runs read the same template with the same options. All else may differ. -/
structure SharesTemplate (request other : Request) (inputs others : Inputs) : Prop where
  template : other.template = request.template
  config : other.config = request.config
  trim : other.trim = request.trim
  surroundings : inputs.AgreeOn (request.template :: request.config.toList) others

/-- Two runs are the same but for how their options are given. -/
structure SharesAllButOptions (request other : Request) (inputs others : Inputs) : Prop where
  action : other.action = request.action
  template : other.template = request.template
  context : other.context = request.context
  surroundings : inputs.AgreeOn (request.template :: request.context.toList) others

variable {paths : List Text}

/-- The order in which delimiters are looked at is left open. -/
theorem Inputs.AgreeOn.inOrder (agree : inputs.AgreeOn paths others) (order : Delimiters.Order) :
    inputs.AgreeOn paths { others with order } :=
  ⟨agree.standardInput, agree.read, agree.files⟩

/-- Inputs that agree on the template's path give the same text. The two lemmas below say so of the
options and of the variables. -/
theorem Inputs.AgreeOn.templateText (agree : inputs.AgreeOn paths others)
    (same : other.template = request.template) (mem : request.template ∈ paths) :
    templateText other others = templateText request inputs := by
  unfold CommandLine.templateText
  rw [same, agree.standardInput, agree.files _ mem]

theorem Inputs.AgreeOn.configuredEntries (agree : inputs.AgreeOn paths others)
    (same : other.config = request.config) (mem : ∀ path ∈ request.config, path ∈ paths) :
    configuredEntries other others = configuredEntries request inputs := by
  unfold CommandLine.configuredEntries
  rw [same, agree.read]
  cases hconfig : request.config with
  | none => rfl
  | some path =>
      cases path with
      | nil => rfl
      | cons c path =>
          dsimp only
          rw [agree.files _ (mem _ hconfig)]

theorem Inputs.AgreeOn.requestedVariables (agree : inputs.AgreeOn paths others)
    (same : other.context = request.context) (mem : ∀ path ∈ request.context, path ∈ paths) :
    requestedVariables other others = requestedVariables request inputs := by
  unfold CommandLine.requestedVariables Files.variablesIn
  rw [same, agree.read]
  cases hcontext : request.context with
  | none => rfl
  | some path =>
      cases path with
      | nil => rfl
      | cons c path =>
          dsimp only
          rw [agree.files _ (mem _ hcontext)]

/-- Runs with the same template and the same options fail alike before they render. -/
theorem FailsToCompile.congr {problem : Problem} (h : FailsToCompile request inputs problem)
    (template : templateText other others = templateText request inputs)
    (options : requestedOptions other others = requestedOptions request inputs) :
    FailsToCompile other others problem := by
  cases h with
  | template failed => exact .template (template.trans failed)
  | options read failed => exact .options (template.trans read) (options.trans failed)
  | tree read loaded failed => exact .tree (template.trans read) (options.trans loaded) failed

/-- Runs with the same stages have the same result. -/
theorem result_congr (action : other.action = request.action)
    (template : templateText other others = templateText request inputs)
    (options : requestedOptions other others = requestedOptions request inputs)
    (context : requestedVariables other others = requestedVariables request inputs) :
    result other others = result request inputs := by
  unfold result prepared compiled sources
  rw [action, template, options, context]

/-- **The flag and the option are one.** -/
theorem requestedOptions_setsTrim {entries changed : List (Data × Data)} {own : Bool}
    (order : others.order = inputs.order) (flag : request.trim = true)
    (given : configuredEntries request inputs = .ok entries)
    (instead : configuredEntries other others = .ok changed)
    (sets : Options.SetsTrim entries changed) (said : Options.trimOf entries = .ok own) :
    requestedOptions other others = requestedOptions request inputs := by
  have changedOptions : optionsOf inputs.order changed
      = (fun options => { options with trim := true }) <$> optionsOf inputs.order entries := by
    unfold optionsOf
    rw [Options.ofEntries_setsTrim sets said]
    cases Options.ofEntries inputs.order entries with
    | error fault => rfl
    | ok options =>
        show (Options.validate { options with trim := true }).mapError FileError.options = _
        rw [Options.validate_trim]
        show _ = _ <$> options.validate.mapError FileError.options
        cases options.validate <;> rfl
  unfold requestedOptions
  rw [configuredOptions_eq, configuredOptions_eq, given, instead, flag, order]
  show Except.map _ (optionsOf _ changed) = Except.map _ (optionsOf _ entries)
  rw [changedOptions]
  cases optionsOf inputs.order entries with
  | error error => rfl
  | ok options =>
      show Except.ok _ = Except.ok _
      simp

/-! ### Orders -/

/-- Is the problem that a delimiter is no text? -/
def Problem.IsOfDelimiter (problem : Problem) : Prop :=
  ∃ error : FileError, error.IsOfDelimiter ∧ problem = .file error

/-- Two runs end in the same way, but for which of several delimiters that are no texts is named. -/
inductive SameUpToDelimiter : Except Script.Fault Outcome → Except Script.Fault Outcome → Prop
  | same (ending : Except Script.Fault Outcome) : SameUpToDelimiter ending ending
  | named {fault other : OptionFault} (first : fault.IsOfDelimiter) (second : other.IsOfDelimiter) :
      SameUpToDelimiter (.ok ⟨2, [], problemLine (.file (.options fault))⟩)
        (.ok ⟨2, [], problemLine (.file (.options other))⟩)

/-- Two runs end in the same way as far as the order goes in which each looks at the delimiters. -/
structure EndAlike (request other : Request) (inputs others : Inputs) : Prop where
  upToDelimiter : SameUpToDelimiter (run request inputs) (run other others)
  inOneOrder : others.order = inputs.order → run other others = run request inputs

/-- In another order the options of a file are the same, or both readings fail at a delimiter. -/
theorem optionsOf_order (order other : Delimiters.Order) (entries : List (Data × Data)) :
    BothEnd (SameOrBoth FileError.IsOfDelimiter) Eq (optionsOf order entries)
      (optionsOf other entries) := by
  have read := Options.ofEntries_order order other entries
  refine (read.mapError fun _ _ => SameOrBoth.map fun fault h => ⟨fault, h, rfl⟩).bind ?_
  rintro options _ rfl
  exact .refl SameOrBoth.refl _

/-- What differs between two orders is settled before the template is looked at. -/
theorem compiled_order (request : Request) (inputs : Inputs) (order : Delimiters.Order) :
    BothEnd (SameOrBoth Problem.IsOfDelimiter) Eq (compiled request inputs)
      (compiled request { inputs with order }) := by
  have configured : BothEnd (SameOrBoth FileError.IsOfDelimiter) Eq
      (configuredOptions request inputs) (configuredOptions request { inputs with order }) := by
    rw [configuredOptions_eq, configuredOptions_eq]
    refine BothEnd.bind (.refl SameOrBoth.refl (configuredEntries request inputs)) ?_
    rintro entries _ rfl
    exact optionsOf_order _ _ entries
  have requested : BothEnd (SameOrBoth FileError.IsOfDelimiter) Eq
      (requestedOptions request inputs) (requestedOptions request { inputs with order }) :=
    configured.map fun _ _ eq => by rw [eq]
  have read : BothEnd (SameOrBoth FileError.IsOfDelimiter) Eq (sources request inputs)
      (sources request { inputs with order }) := by
    refine BothEnd.bind (.refl SameOrBoth.refl (templateText request inputs)) ?_
    rintro text _ rfl
    exact requested.bind fun _ _ eq => eq ▸ .refl SameOrBoth.refl _
  refine (read.mapError fun _ _ => SameOrBoth.map fun error h => ⟨error, h, rfl⟩).bind ?_
  rintro found _ rfl
  exact .refl SameOrBoth.refl _

/-- Only the template is read with an eye on delimiters, so a result depends on the order as far as
its template does. -/
theorem result_order (request : Request) (inputs : Inputs) (order : Delimiters.Order) :
    BothEnd (SameOrBoth Problem.IsOfDelimiter) Eq (result request inputs)
      (result request { inputs with order }) := by
  have compiles := compiled_order request inputs order
  unfold result
  cases request.action with
  | check => exact compiles.map fun _ _ eq => by rw [eq]
  | render =>
      have prepares : BothEnd (SameOrBoth Problem.IsOfDelimiter) Eq (prepared request inputs)
          (prepared request { inputs with order }) := by
        refine compiles.bind ?_
        rintro template _ rfl
        exact .refl SameOrBoth.refl _
      refine prepares.bind ?_
      rintro pair _ rfl
      exact .refl SameOrBoth.refl _

/-- A run is as quiet in one order as in another. -/
theorem IsQuiet.inOrder (quiet : IsQuiet request inputs) (order : Delimiters.Order) :
    IsQuiet request { inputs with order } :=
  ⟨quiet.flag, quiet.surroundings⟩

/-- **A run in another order** of the delimiters names another one of them, or comes to the same. -/
theorem run_order (quiet : IsQuiet request inputs) (order : Delimiters.Order) :
    SameUpToDelimiter (run request inputs) (run request { inputs with order }) := by
  have still := quiet.inOrder order
  have results := result_order request inputs order
  rw [quiet.run_eq, still.run_eq]
  generalize result request inputs = first, result request { inputs with order } = second at results
  cases results with
  | ok same =>
      rw [same]
      exact .same _
  | error related =>
      rcases related with rfl | ⟨⟨_, ⟨_, first, rfl⟩, rfl⟩, ⟨_, ⟨_, second, rfl⟩, rfl⟩⟩
      · exact .same _
      · exact .named first second

/-- Two runs end alike if the second would end as the first does in the order of the first. -/
theorem EndAlike.of_order (quiet : IsQuiet other others)
    (same : run other { others with order := inputs.order } = run request inputs) :
    EndAlike request other inputs others where
  upToDelimiter := same ▸ run_order (quiet.inOrder inputs.order) others.order
  inOneOrder eq := by
    rw [← same, ← eq]

/-- A value for trimming that is no truth value is refused, whatever the flag says. -/
theorem FailsToCompile.of_trimOf {entries : List (Data × Data)}
    (given : configuredEntries request inputs = .ok entries)
    (refused : ∀ own, Options.trimOf entries ≠ .ok own) :
    ∃ problem, FailsToCompile request inputs problem := by
  rcases compiles_or_fails request inputs with ⟨text, options, nodes, compiles⟩ | fails
  · obtain ⟨configured, hconfigured, -⟩ := map_eq_ok_iff.1 compiles.loaded
    rw [configuredOptions_eq, given] at hconfigured
    obtain ⟨parsed, hparsed, -⟩ := bind_eq_ok_iff.1 (show optionsOf _ entries = _ from hconfigured)
    obtain ⟨_, -, hchecked⟩ := bind_eq_ok_iff.1 (mapError_eq_ok_iff.1 hparsed)
    obtain ⟨_, -, hdelimiters⟩ := bind_eq_ok_iff.1 hchecked
    obtain ⟨_, -, hkeywords⟩ := bind_eq_ok_iff.1 hdelimiters
    obtain ⟨own, said, -⟩ := bind_eq_ok_iff.1 hkeywords
    exact absurd said (refused own)
  · exact fails

/-- **A run agrees with the library and writes nothing partial.** Without a record of itself,
* it ends with code 0 just when all its stages succeed, and then it writes what they come to and no
  errors: for a check the outline of the tree, and for a render what the library makes of the text,
  the variables and the options of the run, which the library accepts as they are;
* when it ends with code 2, it writes nothing but the line for the problem of the first stage that
  failed, and it has no other code;
* when a check fails, rendering the same template with the same options fails with the same line,
  whatever else there is;
* the flag for trimming comes to the same as the option, for options that have a truth value for it
  or none; any other value is refused.

Two runs that come to the same do so in one order of the delimiters. In different orders they may
name different ones of those that are no texts. -/
theorem run_agrees {arguments : List Text} (asks : Asks arguments request inputs) :
    (∀ output errors, run request inputs = .ok ⟨0, output, errors⟩
        ↔ errors = [] ∧ Yields request inputs output)
      ∧ (∀ options, requestedOptions request inputs = .ok options →
          Options.coerce inputs.order (.options options) = .ok options)
      ∧ (∀ output errors, run request inputs = .ok ⟨2, output, errors⟩
        ↔ output = [] ∧ ∃ problem, FailsAt request inputs problem ∧ problem.breakdown? = none
          ∧ errors = "error: ".toList ++ Text.trimEnd problem.message ++ ['\n'])
      ∧ (∀ outcome, run request inputs = .ok outcome → outcome.code = 0 ∨ outcome.code = 2)
      ∧ (request.action = .check → ∀ outcome, run request inputs = .ok outcome → outcome.code ≠ 0 →
          ∀ (arguments : List Text) (other : Request) (others : Inputs),
            Asks arguments other others → other.action = .render →
            SharesTemplate request other inputs others → EndAlike request other inputs others)
      ∧ (∀ entries, configuredEntries request inputs = .ok entries →
          ((∃ own, Options.trimOf entries = .ok own) → request.trim = true →
            ∀ (arguments : List Text) (other : Request) (others : Inputs)
              (changed : List (Data × Data)), Asks arguments other others →
              SharesAllButOptions request other inputs others →
              configuredEntries other others = .ok changed → Options.SetsTrim entries changed →
              EndAlike request other inputs others)
          ∧ ((∀ own, Options.trimOf entries ≠ .ok own) →
            ∃ errors, run request inputs = .ok ⟨2, [], errors⟩)) := by
  -- A text that does not compile ends every request in the same way. Three of the six parts go by
  -- this.
  have fails : ∀ {request : Request} {inputs : Inputs} {problem : Problem},
      IsQuiet request inputs → FailsToCompile request inputs problem →
      run request inputs = .ok ⟨2, [], problemLine problem⟩ := fun quiet failed =>
    quiet.run_eq_two_iff.2 ⟨rfl, _, .before failed, failed.breakdown?, rfl⟩
  have quiet := asks.toIsQuiet
  refine ⟨fun _ _ => quiet.run_eq_zero_iff, ?accepted, fun _ _ => quiet.run_eq_two_iff,
    fun _ => quiet.code_eq, ?check, fun entries given => ⟨?trim, ?refused⟩⟩
  case accepted =>
    intro options loaded
    have valid := fault?_of_requestedOptions loaded
    have validated : options.validate = .ok options := by rw [Options.validate, valid]
    exact mapError_eq_ok_iff.2 validated
  case check =>
    intro check outcome ended nonzero _ other others asksOther _ shares
    rcases compiles_or_fails request inputs with ⟨text, options, nodes, compiles⟩ | ⟨problem, failed⟩
    · have zero := quiet.run_eq_zero_iff.2 ⟨rfl, .outline check compiles⟩
      rw [zero] at ended
      cases ended
      exact absurd rfl nonzero
    · -- In the order of the check, the stages before rendering are the same.
      have agree := shares.surroundings.inOrder inputs.order
      have sameTemplate := agree.templateText shares.template List.mem_cons_self
      have sameEntries := agree.configuredEntries shares.config fun path mem =>
        List.mem_cons_of_mem _ (Option.mem_toList.2 mem)
      have sameOptions : requestedOptions other { others with order := inputs.order }
          = requestedOptions request inputs := by
        unfold requestedOptions
        rw [configuredOptions_eq, configuredOptions_eq, sameEntries, shares.trim]
      have quietOther := asksOther.toIsQuiet
      refine .of_order quietOther ?_
      rw [fails quiet failed]
      exact fails (quietOther.inOrder inputs.order) (failed.congr sameTemplate sameOptions)
  case trim =>
    intro said flag _ other others changed asksOther shares instead sets
    obtain ⟨own, said⟩ := said
    have agree := shares.surroundings.inOrder inputs.order
    have sameTemplate := agree.templateText shares.template List.mem_cons_self
    have sameContext := agree.requestedVariables shares.context fun path mem =>
      List.mem_cons_of_mem _ (Option.mem_toList.2 mem)
    have sameOptions : requestedOptions other { others with order := inputs.order }
        = requestedOptions request inputs :=
      requestedOptions_setsTrim rfl flag given instead sets said
    have same := result_congr shares.action sameTemplate sameOptions sameContext
    have quietOther := asksOther.toIsQuiet
    refine .of_order quietOther ?_
    rw [quiet.run_eq, (quietOther.inOrder inputs.order).run_eq, same]
  case refused =>
    intro refused
    obtain ⟨problem, failed⟩ := FailsToCompile.of_trimOf given refused
    exact ⟨_, fails quiet failed⟩

/-- A template whose tree is shown with the flag and with the option. -/
theorem run_agrees_trimmed :
    let inputs : Inputs := {
      files := fun path => if path = ['t'] then some " a\n b".toList
        else if path = ['c'] then some "trim_result: true".toList else none
      read := fun _ => .ok (.mapping [(.text Options.trimKey, .bool true)]) }
    let flagged : List Text := ["check", "t", "--trim"].map String.toList
    let configured : List Text := ["check", "t", "--config", "c"].map String.toList
    ∃ request other, Asks flagged request inputs ∧ Asks configured other inputs
      ∧ run request inputs = .ok ⟨0, "TextNode('ab')\n".toList, []⟩
      ∧ run other inputs = run request inputs := by
  intro inputs flagged configured
  have asks : Asks flagged ⟨.check, ['t'], none, none, true, false⟩ inputs :=
    ⟨⟨rfl, rfl⟩, by decide +kernel⟩
  have asksOther : Asks configured ⟨.check, ['t'], some ['c'], none, false, false⟩ inputs :=
    ⟨⟨rfl, rfl⟩, by decide +kernel⟩
  refine ⟨_, _, asks, asksOther, ?_, ?_⟩
  · have tokens : tokenize {} ['a', 'b'] = .ok [⟨.text, ['a', 'b'], ⟨0, 1, 1⟩⟩] := by decide +kernel
    have tree : compile { trim := true } " a\n b".toList = .ok [.text ['a', 'b']] := by
      rw [compile, show Options.prepare { trim := true } " a\n b".toList = ['a', 'b'] from rfl, tokens]
      rfl
    exact ((run_agrees asks).1 _ _).2 ⟨rfl, .outline rfl ⟨rfl, rfl, tree⟩⟩
  · exact (((run_agrees asks).2.2.2.2.2 [] rfl).1 ⟨false, rfl⟩ rfl configured _ inputs
      [(.text Options.trimKey, .bool true)] asksOther ⟨rfl, rfl, rfl, rfl, rfl, fun _ _ => rfl⟩ rfl
      ⟨rfl, rfl⟩).inOneOrder rfl

/-- Two ways in which runs differ. The flag does not mend a value that is no truth value, and the
option does, since it replaces the value. And of two delimiters that are no texts, a check names the
one that it meets first, while a render that goes through them in another order names the other. -/
theorem run_ne_run :
    let inputs (config : String) : Inputs := {
      files := fun path =>
        if path = ['t'] then some ['a'] else if path = ['c'] then some config.toList else none }
    let flagged : List Text := ["check", "t", "--trim", "--config", "c"].map String.toList
    let plain : List Text := ["check", "t", "--config", "c"].map String.toList
    let rendered : List Text := ["render", "t", "--config", "c"].map String.toList
    let wrong : Inputs := inputs "trim_result: 1"
    let right : Inputs := inputs "trim_result: true"
    let mistyped : Inputs := inputs "delimiters:\n  expression_start: 1\n  statement_start: 2"
    let reversed : Inputs :=
      { mistyped with order := ⟨Delimiters.names.reverse, List.reverse_perm _⟩ }
    (∃ request other, Asks flagged request wrong ∧ Asks plain other right
        ∧ request.trim = true ∧ SharesAllButOptions request other wrong right
        ∧ run request wrong = .ok ⟨2, [], "error: trim_result: expected bool, got int\n".toList⟩
        ∧ run other right = .ok ⟨0, "TextNode('a')\n".toList, []⟩)
      ∧ ∃ request other, Asks plain request mistyped ∧ Asks rendered other reversed
        ∧ request.action = .check ∧ other.action = .render
        ∧ SharesTemplate request other mistyped reversed
        ∧ run request mistyped
          = .ok ⟨2, [], "error: expression_start: expected string, got int\n".toList⟩
        ∧ run other reversed
          = .ok ⟨2, [], "error: statement_start: expected string, got int\n".toList⟩ := by
  intro inputs flagged plain rendered wrong right mistyped reversed
  refine ⟨⟨⟨.check, ['t'], some ['c'], none, true, false⟩,
    ⟨.check, ['t'], some ['c'], none, false, false⟩, ⟨⟨rfl, rfl⟩, ?_⟩, ⟨⟨rfl, rfl⟩, ?_⟩, rfl,
    ⟨rfl, rfl, rfl, rfl, rfl, ?_⟩, ?_, ?_⟩, ⟨.check, ['t'], some ['c'], none, false, false⟩,
    ⟨.render, ['t'], some ['c'], none, false, false⟩, ⟨⟨rfl, rfl⟩, ?_⟩, ⟨⟨rfl, rfl⟩, ?_⟩, rfl, rfl,
    ⟨rfl, rfl, rfl, rfl, rfl, fun _ _ => rfl⟩, ?_, ?_⟩
  · decide +kernel
  · decide +kernel
  · intro path mem
    rw [List.mem_singleton.1 mem]
    rfl
  · decide +kernel
  · decide +kernel
  · decide +kernel
  · decide +kernel
  · decide +kernel
  · decide +kernel

end CommandLine

end Stencil
