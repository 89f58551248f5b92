import Stencil.Proofs.Block.Fault
import Stencil.Proofs.Options.Unambiguous
import Stencil.Proofs.Segment.Fault
import Stencil.Template

/-!
# Errors point at their culprit

A text that does not compile has an error that can be found in it. The token of the error says where
it stands in the text that is read, and the message names what is missing or wrong at this token
(`CompileError.IsIn`). This holds of every text, under all options that a template can be made with
(`setText_error_isIn`).
-/

namespace Stencil

/-- The error stands in the text, which is read under the options. That of a statement is one of the
tokens of the text. -/
def CompileError.IsIn (options : Options) (text : Text) : CompileError → Prop
  | .delimiter error => error.IsIn options.delimiters text
  | .statement error => ∃ tokens, tokenize options.delimiters text = .ok tokens
      ∧ error.IsIn options.keywords tokens ∧ error.token.IsStatementOf options.delimiters text

/-- Only statements are at fault. -/
theorem StatementFault.IsOf.exists_kind {keywords : Keywords} {tokens : List Token} {token : Token}
    {fault : StatementFault} (h : fault.IsOf keywords tokens token) :
    ∃ name, token.kind = .statement name := by
  cases fault with
  | unknown name => exact ⟨name, h.1⟩
  | missing word =>
      obtain ⟨keyword, spells, -⟩ := h
      exact ⟨_, spells⟩
  | repeatedLast last opener =>
      obtain ⟨keyword, earlier, spells, -⟩ := h
      exact ⟨_, spells⟩
  | branchAfterLast last opener =>
      obtain ⟨keyword, final, earlier, spells, -⟩ := h
      exact ⟨_, spells⟩
  | loopShape | loopName | loopNamesEqual => exact ⟨_, h.1⟩

/-- **Options that are accepted** are valid, however they are given. -/
theorem Options.fault?_of_coerce {order : Delimiters.Order} {given : Given} {options : Options}
    (h : coerce order given = .ok options) : options.fault? = none := by
  have of_validate : ∀ {found : Options}, found.validate = .ok options → options.fault? = none := by
    intro found hfound
    unfold validate at hfound
    split at hfound
    · cases hfound
    · rename_i none_
      cases hfound
      exact none_
  cases given with
  | nothing =>
      cases h
      decide
  | options found => exact of_validate (mapError_eq_ok_iff.1 h)
  | data data =>
      obtain ⟨found, -, hfound⟩ := bind_eq_ok_iff.1 h
      exact of_validate (mapError_eq_ok_iff.1 hfound)

theorem compile_error_isIn {options : Options} (valid : options.fault? = none) {text : Text}
    {error : CompileError} (h : compile options text = .error error) :
    error.IsIn options (options.prepare text) := by
  obtain ⟨hdelimiters, hkeywords⟩ := Options.fault?_eq_none valid
  have nonempty := (Delimiters.fault?_eq_none hdelimiters).1
  unfold compile at h
  cases htokens : tokenize options.delimiters (options.prepare text) with
  | error found =>
      rw [htokens] at h
      cases h
      exact (tokenize_eq_error_iff nonempty).1 htokens
  | ok tokens =>
      rw [htokens] at h
      dsimp only at h
      cases hassemble : assemble options.keywords tokens with
      | ok nodes =>
          rw [hassemble] at h
          cases h
      | error found =>
          rw [hassemble] at h
          cases h
          have isIn := isIn_of_assemble_error hkeywords hassemble
          obtain ⟨name, kind⟩ := isIn.fault.exists_kind
          have stands := isStatementOf_of_mem_tokenize nonempty htokens isIn.mem kind
          exact ⟨tokens, htokens, isIn, stands⟩

/-- **Every error of a text points at its culprit**, in the text after it was trimmed if the options
say so. -/
theorem setText_error_isIn {Scope : Type} {order : Delimiters.Order} {given : Options.Given}
    {template : Template Scope} (accepted : Options.coerce order given = .ok template.options)
    {text : Text} {error : CompileError} (h : template.setText text = .error error) :
    error.IsIn template.options (template.options.prepare text) := by
  have hcompile : compile template.options text = .error error := by
    unfold Template.setText at h
    cases hfound : compile template.options text <;> rw [hfound] at h <;> cases h
    rfl
  exact compile_error_isIn (Options.fault?_of_coerce accepted) hcompile

/-- A case in a conditional, found when the body of the conditional is put together. -/
theorem setText_error_isIn_inner :
    let template : Template Unit := { options := { trim := true }, scope := () }
    let text : Text := " a\n {% if x %} {% case 1 %}\n{% endif %}".toList
    let error : CompileError := .statement
      ⟨.missing Keyword.switch.label, ⟨.statement Keyword.case.label, ['1'], ⟨12, 1, 13⟩⟩⟩
    Options.coerce .listed (.options template.options) = .ok template.options
      ∧ template.setText text = .error error
      ∧ error.IsIn template.options (template.options.prepare text) := by
  intro template text error
  have accepted : Options.coerce .listed (.options template.options) = .ok template.options := rfl
  have htokens : tokenize template.options.delimiters (template.options.prepare text) = .ok
      [⟨.text, ['a'], ⟨0, 1, 1⟩⟩, ⟨.statement Keyword.if_.label, ['x'], ⟨1, 1, 2⟩⟩,
        ⟨.text, [' '], ⟨11, 1, 12⟩⟩, ⟨.statement Keyword.case.label, ['1'], ⟨12, 1, 13⟩⟩,
        ⟨.statement Keyword.endif.label, [], ⟨24, 1, 25⟩⟩] := by
    decide +kernel
  have refused : template.setText text = .error error := by
    rw [Template.setText, compile, htokens]
    rfl
  exact ⟨accepted, refused, setText_error_isIn accepted refused⟩

end Stencil
