import Stencil.Proofs.Segment.Tokens

/-!
# Where tokens stand

A token remembers the place of its segment, and a segment begins where all segments before it end.
So what a token was read from is found in the text behind as many characters as its place says
(`isStatementOf_of_mem_tokenize`).
-/

namespace Stencil

/-- The piece stands in the text at the place. -/
def Text.StandsAt (piece text : Text) (place : Place) : Prop :=
  ∃ before after, text = before ++ (piece ++ after) ∧ place = Place.after {} before

/-- The token is the statement of a block that stands in the text at its place: its name is the
first word of the block. -/
def Token.IsStatementOf (d : Delimiters) (text : Text) (token : Token) : Prop :=
  ∃ before inside raw after, text = before ++ (d.statementStart ++ inside)
    ∧ token.place = Place.after {} before
    ∧ Text.FirstCut d.statementEnd inside raw after
    ∧ Segment.nameAndArgument? (Text.trim raw) = some (token.name, token.value)

namespace Segment

variable {d : Delimiters} {text : Text} {shapes : List Shape} {place : Place} {segment : Segment}

/-- A segment of a cutting begins where the segments before it end. -/
theorem Cutting.exists_of_mem (h : Cutting d text shapes) (hmem : segment ∈ placed d place shapes) :
    ∃ before rest, text = before ++ rest ∧ segment.place = place.after before
      ∧ ∀ kind raw, segment.shape = .block kind raw → ∃ inside after,
          rest = d.opener kind ++ inside ∧ Text.FirstCut (d.closer kind) inside raw after := by
  induction h generalizing place with
  | nil => cases hmem
  | @literal text rest shapes ne unopened unclosed apart more ih =>
      rcases List.mem_cons.1 hmem with rfl | hmem
      · exact ⟨[], text ++ rest, rfl, rfl, nofun⟩
      · obtain ⟨before, rest, rfl, hplace, hblock⟩ := ih hmem
        refine ⟨text ++ before, rest, (List.append_assoc ..).symm, ?_, hblock⟩
        rw [hplace, Place.after_append, Shape.source]
  | @block kind raw inside rest shapes opened closed more ih =>
      rcases List.mem_cons.1 hmem with rfl | hmem
      · refine ⟨[], d.opener kind ++ inside, rfl, rfl, ?_⟩
        rintro _ _ ⟨⟩
        exact ⟨inside, rest, rfl, closed⟩
      · obtain ⟨before, rest, rfl, hplace, hblock⟩ := ih hmem
        refine ⟨Shape.source d (.block kind raw) ++ before, rest, ?_, ?_, hblock⟩
        · rw [closed.text_eq]
          simp [Shape.source]
        · rw [hplace, Place.after_append]

end Segment

/-- **A statement stands where its token says.** -/
theorem isStatementOf_of_mem_tokenize {d : Delimiters} (valid : d.AreNonempty) {text : Text}
    {tokens : List Token} (h : tokenize d text = .ok tokens) {token : Token} (hmem : token ∈ tokens)
    {name : Text} (kind : token.kind = .statement name) : token.IsStatementOf d text := by
  obtain ⟨shapes, cutting, image⟩ := (tokenize_eq_ok_iff valid).1 h
  rw [Segment.image_iff.1 image] at hmem
  obtain ⟨segment, hsegment, htoken⟩ := List.mem_filterMap.1 hmem
  obtain ⟨before, rest, rfl, hplace, hblock⟩ := cutting.exists_of_mem hsegment
  cases Segment.yields_iff.2 htoken with
  | literal => cases kind
  | expression => cases kind
  | @statement place raw content name rest blanks argument trimmed word ne space =>
      obtain ⟨inside, after, rfl, closed⟩ := hblock .statement raw rfl
      refine ⟨before, inside, raw, after, rfl, hplace, closed, ?_⟩
      rw [Text.trim_eq_iff.2 trimmed]
      exact Segment.nameAndArgument?_eq_some_iff.2 ⟨rest, blanks, word, ne, space⟩

end Stencil
