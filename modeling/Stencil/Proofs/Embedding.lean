import Stencil.Proofs.Print.RoundTrip
import Stencil.Proofs.Render.Append
import Stencil.Proofs.Script.Inline
import Stencil.Proofs.Session

/-!
# Expressions in templates

An expression on one line keeps its meaning in a template, whatever stands in its literals, as long
as no closing delimiter and no semicolon occurs in it: the block around it is cut where it was put,
its source is the one that returns the expression, and that source has the value of the expression
(`renderOnce_embedded`). A semicolon makes the source a script, also when it stands in a literal
(`renderOnce_semicolon`).

Design points:

* A conditional is followed by any text that closes it. What it is compiled to begins with a node
  whose first branch has the expression for its condition, and that is all the expression has to do
  with it.
* A scope may hold any keys but the name of a constant, which no variable can have.
-/

namespace Stencil

open Segment (Cutting Shape)

/-! ### Blocks around a text -/

namespace Derives

variable {keywords : Keywords} {token : Token} {rest : List Token} {nodes : List Node}

/-- What begins with a conditional is read as a conditional. -/
theorem exists_conditional (valid : keywords.fault? = none) (opens : token.Spells keywords .if_)
    (h : Derives keywords (token :: rest) (.items nodes)) :
    ∃ body branches otherwise more,
      nodes = .conditional ((Script.prepare token.value, body) :: branches) otherwise :: more := by
  -- A statement spells one keyword only, so no other block begins with this token.
  have other : ∀ {keyword : Keyword}, keyword ≠ .if_ → ¬token.Spells keywords keyword :=
    fun hne h => hne (Option.some.inj ((h.lookup? valid).symm.trans (opens.lookup? valid)))
  generalize htokens : token :: rest = tokens at h
  cases h with
  | nil => cases htokens
  | text kind =>
      obtain ⟨rfl, -⟩ := List.cons.inj htokens
      cases opens.symm.trans kind
  | expression kind =>
      obtain ⟨rfl, -⟩ := List.cons.inj htokens
      cases opens.symm.trans kind
  | conditional =>
      obtain ⟨rfl, -⟩ := List.cons.inj htokens
      exact ⟨_, _, _, _, rfl⟩
  | iteration opens =>
      obtain ⟨rfl, -⟩ := List.cons.inj htokens
      exact absurd opens (other (by decide))
  | switch opens | switchDefault opens | switchCases opens =>
      obtain ⟨rfl, -⟩ := List.cons.inj htokens
      exact absurd opens (other (by decide))

/-- A conditional with one branch, and nothing behind it. -/
theorem oneBranch {closer : Token} (opens : token.Spells keywords .if_)
    (body : Derives keywords rest (.items nodes)) (closes : closer.Spells keywords .endif) :
    Derives keywords (token :: (rest ++ [closer]))
      (.items [.conditional [(Script.prepare token.value, nodes)] none]) := by
  simpa using Derives.conditional opens body .noBranch .noLast closes .nil

end Derives

/-- A template that begins with the block that shows a text. -/
def Options.showing (options : Options) (text rest : Text) : Text :=
  options.delimiters.opener .expression
    ++ (' ' :: text ++ ' ' :: (options.delimiters.closer .expression ++ rest))

/-- A template that begins with a conditional on a text. -/
def Options.asking (options : Options) (text rest : Text) : Text :=
  options.delimiters.opener .statement
    ++ (' ' :: (options.keywords.spelling .if_ ++ ' ' :: text)
      ++ ' ' :: (options.delimiters.closer .statement ++ rest))

/-- The statement that closes a conditional. -/
def Options.endif (options : Options) : Text :=
  Shape.source options.delimiters (.ofStatement (options.keywords.spelling .endif) [])

theorem Options.areNonempty_of_valid {options : Options} (valid : options.fault? = none) :
    options.delimiters.AreNonempty :=
  (Delimiters.fault?_eq_none (Options.fault?_eq_none valid).1).1

/-- A blank is no part of a plain closer, so it can stand in front of one. -/
theorem Delimiters.ArePlain.not_mem_closer {d : Delimiters} (plain : d.ArePlain) (kind : BlockKind) :
    ' ' ∉ d.closer kind :=
  fun h => (plain ' ' ⟨kind, .inr h⟩).2.1 (by decide)

section

variable {options : Options} {text rest : Text} {kind : BlockKind} {shapes : List Shape}
variable {nodes body : List Node}

/-- Without trimming, compiling is cutting and assembling. -/
theorem compile_untrimmed_iff (untrimmed : options.trim = false) :
    compile options text = .ok nodes ↔ ∃ tokens, tokenize options.delimiters text = .ok tokens
      ∧ assemble options.keywords tokens = .ok nodes := by
  rw [compile_eq_ok_iff, Compiles, if_neg (by simp [untrimmed])]

variable (valid : options.fault? = none) (plain : options.delimiters.ArePlain)

include valid plain

/-- No closing delimiter comes up where a text is put behind a blank. -/
theorem unclosed_append {lead : Text} (clear : options.delimiters.IsClear lead)
    (unclosed : options.delimiters.Unclosed text) :
    options.delimiters.Unclosed (lead ++ ' ' :: text) := by
  intro kind h
  rcases Text.isInfix_append_cons (plain.not_mem_closer kind) h with hlead | htext
  · exact clear.unclosed (Options.areNonempty_of_valid valid) kind hlead
  · exact unclosed kind htext

/-- The word `if` and blanks bring no closer into the text. -/
theorem unclosed_asking (unclosed : options.delimiters.Unclosed text) :
    options.delimiters.Unclosed (' ' :: (options.keywords.spelling .if_ ++ ' ' :: text)) := by
  have word := Keywords.isSingleWord_spelling (Options.fault?_eq_none valid).2 .if_
  simp only [Text.isSingleWord, Bool.and_eq_true, List.all_eq_true] at word
  have clear : options.delimiters.IsClear (' ' :: options.keywords.spelling .if_) :=
    (clear_blank plain).append (plain.isClear fun c hc => .inl (word.2 c hc))
  exact unclosed_append valid plain clear unclosed

/-- A block ends at the closing delimiter that was put behind it with a blank in between. -/
theorem firstCut_padded (unclosed : options.delimiters.Unclosed text) :
    Text.FirstCut (options.delimiters.closer kind)
      (text ++ ' ' :: (options.delimiters.closer kind ++ rest)) (text ++ [' ']) rest :=
  Text.firstCut_append_cons (Options.areNonempty_of_valid valid kind).2 (plain.not_mem_closer kind)
    (unclosed kind)

theorem cutting_padded (unclosed : options.delimiters.Unclosed text)
    (more : Cutting options.delimiters rest shapes) :
    Cutting options.delimiters
      (options.delimiters.opener kind
        ++ (text ++ ' ' :: (options.delimiters.closer kind ++ rest)))
      (.block kind (text ++ [' ']) :: shapes) :=
  .block (fun _ => Delimiters.not_expressionStart (Options.fault?_eq_none valid).1)
    (firstCut_padded valid plain unclosed) more

/-- The tokens of a template begin with that of its first block, whatever stands behind it. -/
theorem exists_tokens_padded (unclosed : options.delimiters.Unclosed text) {token : Token}
    (yields : Segment.Yields ⟨{}, .block kind (text ++ [' '])⟩ (some token)) {tokens : List Token}
    (h : tokenize options.delimiters (options.delimiters.opener kind
      ++ (text ++ ' ' :: (options.delimiters.closer kind ++ rest))) = .ok tokens) :
    ∃ more, tokens = token :: more := by
  have nonempty := Options.areNonempty_of_valid valid
  have round : Segment.Round options.delimiters _ [] kind _ (text ++ [' ']) rest :=
    ⟨(List.nil_append _).symm, Delimiters.unopened_nil, Delimiters.unclosed_nil nonempty,
      fun _ => Delimiters.not_expressionStart (Options.fault?_eq_none valid).1,
      firstCut_padded valid plain unclosed⟩
  -- The first round of the cutting takes the block; whether the rest can be cut is not asked here.
  obtain ⟨segments, hcut, rfl⟩ := map_eq_ok_iff.1 h
  rw [Segment.cut, Segment.cutFrom_of_round nonempty round] at hcut
  obtain ⟨more, -, rfl⟩ := map_eq_ok_iff.1 hcut
  exact ⟨_, List.filterMap_cons_some yields.token?_eq⟩

/-! ### Compiled blocks -/

variable (untrimmed : options.trim = false) (unclosed : options.delimiters.Unclosed text)
variable (visible : Text.trim text ≠ [])

include untrimmed unclosed visible

/-- A block that shows something, and nothing else. -/
theorem compile_showing :
    compile options (options.showing text [])
      = .ok [.expression (Script.prepare (Text.trim text))] := by
  have hkeywords := (Options.fault?_eq_none valid).2
  have trimmed : Text.Trimmed text (Text.trim text) := Text.trimmed_trim
  have clear : options.delimiters.IsClear [] := by simp [Delimiters.IsClear]
  have inside : options.delimiters.Unclosed (' ' :: text) :=
    unclosed_append valid plain clear unclosed
  have htokens := (tokenize_eq_ok_iff (Options.areNonempty_of_valid valid)).2
    ⟨_, cutting_padded valid plain inside .nil, .cons (.expression trimmed.padded visible) .nil⟩
  have derives : Derives options.keywords [⟨.expression, Text.trim text, {}⟩]
      (.items [.expression (Script.prepare (Text.trim text))]) :=
    .expression rfl .nil
  exact (compile_untrimmed_iff untrimmed).2 ⟨_, htokens, derives.assemble hkeywords⟩

/-- What begins with a condition is compiled to a conditional on it. -/
theorem exists_of_compile_asking (h : compile options (options.asking text rest) = .ok nodes) :
    ∃ body branches otherwise more,
      nodes = .conditional ((Script.prepare (Text.trim text), body) :: branches) otherwise
        :: more := by
  have hkeywords := (Options.fault?_eq_none valid).2
  have trimmed : Text.Trimmed text (Text.trim text) := Text.trimmed_trim
  have word := Keywords.isSingleWord_spelling hkeywords .if_
  obtain ⟨tokens, htokens, hnodes⟩ := (compile_untrimmed_iff untrimmed).1 h
  obtain ⟨more, rfl⟩ := exists_tokens_padded valid plain (unclosed_asking valid plain unclosed)
    (Segment.yields_padded word trimmed visible) htokens
  have opens : Token.Spells options.keywords .if_
      ⟨.statement (options.keywords.spelling .if_), Text.trim text, {}⟩ := rfl
  exact (derives_of_assemble hkeywords hnodes).exists_conditional hkeywords opens

/-- A condition around a printed body. -/
theorem compile_asking (printable : Phrase.IsPrintable options.delimiters (.items body)) :
    compile options (options.asking text (print options body ++ (options.endif ++ [])))
      = .ok [.conditional [(Script.prepare (Text.trim text), body)] none] := by
  have hkeywords := (Options.fault?_eq_none valid).2
  have trimmed : Text.Trimmed text (Text.trim text) := Text.trimmed_trim
  have word := Keywords.isSingleWord_spelling hkeywords .if_
  have clear : options.delimiters.IsClear [] := by simp [Delimiters.IsClear]
  -- The body is cut as it was printed, in front of the closing statement and behind the opening one.
  have close := cutting_statement valid plain .endif clear .nil
  have inner := cutting_written valid plain printable close noLiteral_block
  have cutting : Cutting options.delimiters
      (options.asking text (print options body ++ (options.endif ++ []))) _ :=
    cutting_padded valid plain (unclosed_asking valid plain unclosed) inner
  have htokens := (tokenize_eq_ok_iff (Options.areNonempty_of_valid valid)).2
    ⟨_, cutting, Segment.image_iff.2 rfl⟩
  refine (compile_untrimmed_iff untrimmed).2 ⟨_, htokens, ?_⟩
  rw [← Segment.tokens, Segment.tokens_cons_of_yields (Segment.yields_padded word trimmed visible),
    Segment.tokens_append, tokens_statement valid .endif rfl]
  have opens : Token.Spells options.keywords .if_
      ⟨.statement (options.keywords.spelling .if_), Text.trim text, {}⟩ := rfl
  refine Derives.assemble hkeywords ?_
  exact Derives.oneBranch opens (derives_written valid printable _) rfl

end

namespace Script

variable {found : Expr} {text : Text}

/-- The text is an expression, and it can stand in a block of the default delimiters: it is one line
without a semicolon and without a closing delimiter. -/
structure Expr.Fits (found : Expr) (text : Text) : Prop where
  ofText?_eq : Expr.ofText? text = some found
  line : '\n' ∉ text
  noReturn : '\r' ∉ text
  noSemicolon : ';' ∉ text
  unclosed : ({} : Delimiters).Unclosed text

/-- What the block of an expression is rendered to: the text of its value. -/
def Expr.shown (found : Expr) (text : Text) : Stencil.Body Store Chain Value Failure :=
  fun chain store =>
    match found.valueIn chain store with
    | .ok value store =>
        match store.display value with
        | .ok shown => .ok shown store
        | .error fault => .error (.failed (.outside fault)) store
    | .error fault store => .error (.failed (.evaluation (returning (Text.trim text)) fault)) store

/-- What a conditional on an expression is rendered to: one body if its value counts as true, and
the other if not. -/
def Expr.chosen (found : Expr) (text : Text) (body otherwise : Stencil.Body Store Chain Value Failure) :
    Stencil.Body Store Chain Value Failure :=
  fun chain store =>
    match found.valueIn chain store with
    | .ok value store => if store.isTrue value then body chain store else otherwise chain store
    | .error fault store => .error (.failed (.evaluation (returning (Text.trim text)) fault)) store

namespace Expr.Fits

variable (fits : found.Fits text) {chain : Chain} {store : Store}
variable (plain : .text constantName ∉ (store.scope chain).keys)

include fits plain

/-- The source that returns an expression has the expression's value, and changes the store as
evaluating it does. -/
theorem value_eq :
    Render.value language (returning (Text.trim text)) chain store =
      match found.valueIn chain store with
      | .ok value store => .ok value store
      | .error fault store =>
          .error (.failed (.evaluation (returning (Text.trim text)) fault)) store := by
  have hvalue : language.evaluate (returning (Text.trim text)) chain store
      = found.valueOf text chain store :=
    evaluate_returning fits.ofText?_eq fits.line fits.noReturn plain
  rw [Render.value, hvalue, Expr.valueOf]
  cases found.valueIn chain store <;> rfl

/-- **A block shows the text of the value** of its expression. -/
theorem render_expression :
    Node.render language (.expression (returning (Text.trim text))) chain store
      = found.shown text chain store := by
  have hvalue := fits.value_eq plain
  rw [Node.render, Render.shown, Expr.shown]
  cases heval : found.valueIn chain store with
  | error fault after =>
      rw [heval] at hvalue
      exact Render.bind_error hvalue
  | ok value after =>
      rw [heval] at hvalue
      rw [Render.bind_ok hvalue, Render.ask_eq]
      show Render.settle ((after.display value).mapError Failure.outside) after = _
      cases hshown : after.display value with
      | error fault => simp [hshown, Except.mapError, Render.settle]
      | ok shown => simp [hshown, Except.mapError, Render.settle]

/-- **A conditional is decided by the value** of its expression. -/
theorem render_conditional (body : List Node) (branches : List (Text × List Node))
    (otherwise : Option (List Node)) :
    Node.render language
        (.conditional ((returning (Text.trim text), body) :: branches) otherwise) chain store
      = found.chosen text (Node.renderList language body)
          (Node.render language (.conditional branches otherwise)) chain store := by
  have hvalue := fits.value_eq plain
  rw [Node.render, Node.renderBranches, Render.choose, Expr.chosen]
  cases heval : found.valueIn chain store with
  | error fault after =>
      rw [heval] at hvalue
      exact Render.bind_error hvalue
  | ok value after =>
      rw [heval] at hvalue
      rw [Render.bind_ok hvalue]
      show (if after.isTrue value then _ else _ : Render Store Value Failure Text) after = _
      by_cases holds : after.isTrue value
      · rw [if_pos holds]
        exact (if_pos holds).symm
      · rw [if_neg holds, Node.render]
        exact (if_neg holds).symm

end Expr.Fits

/-- A text that compiles to one node is rendered like the node. -/
theorem renderOnce_of_compile {options : Options} {node : Node} {chain : Chain} {store : Store}
    (ne : text ≠ []) (h : compile options text = .ok [node]) :
    ∃ render, Template.renderOnce language options text chain = .ok render
      ∧ render store = Node.render language node chain store := by
  have hcreate : Template.create options (some text) chain
      = .ok { options, nodes := some [node], scope := chain } := by
    obtain ⟨c, rest, rfl⟩ := List.exists_cons_of_ne_nil ne
    show (compile options (c :: rest)).map _ = _
    rw [h]
    rfl
  refine ⟨Node.renderList language [node] chain, ?_, by rw [Node.renderList_singleton]⟩
  rw [Template.renderOnce, hcreate]
  rfl

/-- A block fails with an evaluation just when the evaluation of its expression fails. -/
theorem shown_eq_error_iff {chain : Chain} {store : Store} :
    (∃ source fault after,
        found.shown text chain store = .error (.failed (.evaluation source fault)) after)
      ↔ ∃ fault after, found.valueIn chain store = .error fault after := by
  rw [Expr.shown]
  cases found.valueIn chain store with
  | error fault after => simp
  | ok value after => cases hshown : after.display value <;> simp [hshown]

/-- **Every expression on one line can stand in a template**, unless it holds a semicolon or a
closing delimiter. The block that shows it is rendered to the text of its value, or fails with its
error; and a conditional on it is rendered to its body just when the value counts as true, whatever
the body is and whatever follows. -/
theorem renderOnce_embedded (fits : found.Fits text) (chain : Chain) (store : Store)
    (plain : .text constantName ∉ (store.scope chain).keys) :
    (∃ render, Template.renderOnce language {} (['{', '{', ' '] ++ text ++ [' ', '}', '}']) chain
          = .ok render
        ∧ render store = found.shown text chain store
        ∧ ((∃ source fault after, render store = .error (.failed (.evaluation source fault)) after)
          ↔ ∃ fault after, found.valueIn chain store = .error fault after))
    ∧ (∀ body, Phrase.IsPrintable {} (.items body) →
        ∃ render, Template.renderOnce language {}
            (['{', '%', ' ', 'i', 'f', ' '] ++ text ++ [' ', '%', '}'] ++ print {} body
              ++ "{% endif %}".toList) chain = .ok render
          ∧ render store
            = found.chosen text (Node.renderList language body) (fun _ => pure []) chain store)
    ∧ ∀ rest nodes,
        compile {} (['{', '%', ' ', 'i', 'f', ' '] ++ text ++ [' ', '%', '}'] ++ rest) = .ok nodes →
        ∃ body branches otherwise more,
          nodes = .conditional ((returning (Text.trim text), body) :: branches) otherwise :: more
          ∧ Node.render language
              (.conditional ((returning (Text.trim text), body) :: branches) otherwise) chain store
            = found.chosen text (Node.renderList language body)
                (Node.render language (.conditional branches otherwise)) chain store := by
  have valid : ({} : Options).fault? = none := by decide
  have delimiters : ({} : Options).delimiters.ArePlain := Delimiters.arePlain_default
  have visible := Expr.trim_ne_nil fits.ofText?_eq fits.line
  have hprepare := prepare_trim fits.line fits.noSemicolon
  refine ⟨?_, ?_, ?_⟩
  -- The delimiters are written out in the statement, as a reader of templates sees them.
  · have htext : ['{', '{', ' '] ++ text ++ [' ', '}', '}'] = Options.showing {} text [] := by
      rw [List.append_assoc]
      rfl
    have hcompile := compile_showing valid delimiters rfl fits.unclosed visible
    rw [hprepare, ← htext] at hcompile
    obtain ⟨render, hrender, hresult⟩ := renderOnce_of_compile (by simp) hcompile
    rw [fits.render_expression plain] at hresult
    refine ⟨render, hrender, hresult, ?_⟩
    rw [hresult]
    exact shown_eq_error_iff
  · intro body printable
    have htext : ['{', '%', ' ', 'i', 'f', ' '] ++ text ++ [' ', '%', '}'] ++ print {} body
          ++ "{% endif %}".toList
        = Options.asking {} text (print {} body ++ (Options.endif {} ++ [])) := by
      rw [List.append_assoc, List.append_assoc, List.append_assoc, List.append_nil]
      rfl
    have hcompile := compile_asking valid delimiters rfl fits.unclosed visible printable
    rw [hprepare, ← htext] at hcompile
    obtain ⟨render, hrender, hresult⟩ := renderOnce_of_compile (by simp) hcompile
    rw [fits.render_conditional plain] at hresult
    exact ⟨render, hrender, hresult⟩
  · intro rest nodes h
    have htext : ['{', '%', ' ', 'i', 'f', ' '] ++ text ++ [' ', '%', '}'] ++ rest
        = Options.asking {} text rest := by
      rw [List.append_assoc, List.append_assoc]
      rfl
    rw [htext] at h
    obtain ⟨body, branches, otherwise, more, rfl⟩ :=
      exists_of_compile_asking valid delimiters rfl fits.unclosed visible h
    rw [hprepare]
    exact ⟨body, branches, otherwise, more, rfl, fits.render_conditional plain body branches otherwise⟩

/-- The text that a render ends with, if it does not fail. -/
def shownText? : EStateM.Result (RenderError Failure Value) Store Text → Option Text
  | .ok shown _ => some shown
  | .error _ _ => none

/-- The text that an expression writes out. -/
def Expr.text? : Expr → Option Text
  | .constant (.text value) => some value
  | _ => none

theorem ofText?_of_text? {value : Text} (h : (Expr.ofText? text).bind Expr.text? = some value) :
    Expr.ofText? text = some (.constant (.text value)) := by
  obtain ⟨found, hfound, hvalue⟩ := Option.bind_eq_some_iff.1 h
  rw [hfound]
  unfold Expr.text? at hvalue
  split at hvalue
  · cases hvalue
    rfl
  · cases hvalue

theorem not_mem_keys_emptyScope (key : Value) (store : Store) :
    key ∉ ((emptyScope store).2.scope (emptyScope store).1).keys := by
  rw [scope_emptyScope]
  exact List.not_mem_nil

/-- A literal with a closing brace and the beginning of a block in it is shown as it stands. -/
theorem renderOnce_embedded_literal :
    let text : Text := ['"', '}', ' ', '{', '{', '"']
    let shown : Text := ['}', ' ', '{', '{']
    let found : Expr := .constant (.text shown)
    found.Fits text ∧ .text constantName ∉ ((emptyScope {}).2.scope (emptyScope {}).1).keys
      ∧ (∃ render, Template.renderOnce language {}
            (['{', '{', ' '] ++ text ++ [' ', '}', '}']) (emptyScope {}).1 = .ok render
          ∧ render (emptyScope {}).2 = .ok shown (emptyScope {}).2)
      ∧ ∃ render, Template.renderOnce language {}
            (['{', '%', ' ', 'i', 'f', ' '] ++ text ++ [' ', '%', '}'] ++ print {} [.text ['y']]
              ++ "{% endif %}".toList) (emptyScope {}).1 = .ok render
          ∧ render (emptyScope {}).2 = .ok ['y'] (emptyScope {}).2 := by
  intro text shown found
  have fits : found.Fits text := by
    refine ⟨ofText?_of_text? (by decide +kernel), by decide, by decide, by decide, ?_⟩
    intro kind
    cases kind <;> decide
  have plain := not_mem_keys_emptyScope (.text constantName) {}
  obtain ⟨⟨render, hrender, hshown, -⟩, conditional, -⟩ :=
    renderOnce_embedded fits (emptyScope {}).1 (emptyScope {}).2 plain
  have clear : ({} : Delimiters).IsClear ['y'] :=
    Delimiters.arePlain_default.isClear fun c hc => .inl (by
      rw [List.mem_singleton.1 hc]
      decide)
  obtain ⟨body, hbody, hchosen⟩ :=
    conditional [.text ['y']] (.text (by decide) clear (by simp) .nil)
  exact ⟨fits, plain, ⟨render, hrender, hshown⟩, body, hbody, hchosen⟩

/-- With a semicolon in its literal an expression is a script, which returns nothing. -/
theorem renderOnce_semicolon :
    let text := "'a;b'".toList
    let found : Expr := .constant (.text "a;b".toList)
    Expr.ofText? text = some found ∧ '\n' ∉ text ∧ '\r' ∉ text ∧ ({} : Delimiters).Unclosed text
      ∧ .text constantName ∉ ((emptyScope {}).2.scope (emptyScope {}).1).keys
      ∧ found.shown text (emptyScope {}).1 (emptyScope {}).2 = .ok "a;b".toList (emptyScope {}).2
      ∧ (Template.renderOnce language {} (['{', '{', ' '] ++ text ++ [' ', '}', '}'])
          (emptyScope {}).1).toOption.bind (fun render => shownText? (render (emptyScope {}).2))
        = some [] := by
  refine ⟨ofText?_of_text? (by decide +kernel), by decide, by decide, ?_, ?_, rfl,
    by decide +kernel⟩
  · intro kind
    cases kind <;> decide
  · exact not_mem_keys_emptyScope (.text constantName) {}

end Script

end Stencil
