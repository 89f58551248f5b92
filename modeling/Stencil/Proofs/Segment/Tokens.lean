import Stencil.Proofs.Segment.Cut
import Stencil.Proofs.Sequence
import Stencil.Proofs.Text.Trim

/-!
# Tokens are the image of a cutting

`Segment.Yields segment token?` says which token a segment gives, if any, and `Segment.Image` goes
through the shapes of a cutting and adds up their tokens and their places. With the cutting itself
this is all that tokenizing a template does (`tokenize_iff_cutting`).
-/

namespace Stencil

namespace Segment

/-- The token that a segment gives, if any. -/
inductive Yields : Segment → Option Token → Prop
  /-- A literal is taken as it stands. -/
  | literal {place text} : Yields ⟨place, .literal text⟩ (some ⟨.text, text, place⟩)
  | blank {place kind raw} (blank : ∀ c ∈ raw, isBlank c) : Yields ⟨place, .block kind raw⟩ none
  | expression {place raw content} (trimmed : Text.Trimmed raw content) (ne : content ≠ []) :
      Yields ⟨place, .block .expression raw⟩ (some ⟨.expression, content, place⟩)
  /-- The longest word at the start of a statement is its name, and its argument begins behind the
  blanks that follow. -/
  | statement {place raw content name rest blanks argument} (trimmed : Text.Trimmed raw content)
      (word : Text.Leads isWord content name rest) (ne : name ≠ [])
      (space : Text.Leads isBlank rest blanks argument) :
      Yields ⟨place, .block .statement raw⟩ (some ⟨.statement name, argument, place⟩)
  | nameless {place raw c rest} (trimmed : Text.Trimmed raw (c :: rest)) (noWord : ¬isWord c) :
      Yields ⟨place, .block .statement raw⟩ none

/-- The tokens of a cutting of a text that begins at `place`. -/
inductive Image (d : Delimiters) : Place → List Shape → List Token → Prop
  | nil {place} : Image d place [] []
  | cons {place shape found shapes tokens} (yields : Yields ⟨place, shape⟩ found)
      (more : Image d (place.after (shape.source d)) shapes tokens) :
      Image d place (shape :: shapes) (found.toList ++ tokens)

variable {d : Delimiters} {segment : Segment} {found : Option Token} {place : Place}
variable {shapes : List Shape} {tokens : List Token} {raw content : Text} {kind : BlockKind}

/-! ### One segment -/

/-- A block vanishes if it is blank. -/
theorem trim_eq_nil_iff : Text.trim raw = [] ↔ ∀ c ∈ raw, isBlank c := by
  rw [Text.trim_eq_iff]
  constructor
  · rintro ⟨⟨left, right, rfl, hleft, hright⟩, -, -⟩ c hc
    rw [List.append_nil] at hc
    rcases List.mem_append.1 hc with hc | hc
    · exact hleft c hc
    · exact hright c hc
  · exact fun h => ⟨⟨raw, [], by simp, h, by simp⟩, by simp, by simp⟩

/-- A statement block vanishes too if it does not begin with a word. -/
theorem nameAndArgument?_eq_none_iff (h : content ≠ []) :
    nameAndArgument? content = none ↔ ∃ c rest, content = c :: rest ∧ ¬isWord c := by
  obtain ⟨c, rest, rfl⟩ := List.exists_cons_of_ne_nil h
  by_cases hc : isWord c = true <;> simp [nameAndArgument?, hc]

/-- The name is the longest word at the front, and the blanks behind it belong to nobody. -/
theorem nameAndArgument?_eq_some_iff {name argument : Text} :
    nameAndArgument? content = some (name, argument) ↔
      ∃ rest blanks, Text.Leads isWord content name rest ∧ name ≠ []
        ∧ Text.Leads isBlank rest blanks argument := by
  constructor
  · intro h
    simp only [nameAndArgument?] at h
    split at h
    · cases h
    · rename_i hname
      cases h
      exact ⟨_, _, Text.leads_takeWhile, by simpa using hname, Text.leads_takeWhile⟩
  · intro h
    obtain ⟨rest, blanks, word, ne, space⟩ := h
    obtain ⟨rfl, rfl⟩ := word.eq
    obtain ⟨-, rfl⟩ := space.eq
    simp only [nameAndArgument?]
    rw [if_neg (by simpa using ne)]
    rfl

theorem token?_block (h : Text.trim raw ≠ []) :
    token? ⟨place, .block kind raw⟩ =
      match kind with
      | .expression => some ⟨.expression, Text.trim raw, place⟩
      | .statement => (nameAndArgument? (Text.trim raw)).map fun (name, argument) =>
          ⟨.statement name, argument, place⟩ := by
  have hne : ¬(Text.trim raw).isEmpty := by simpa using h
  cases kind with
  | expression => exact if_neg hne
  | statement => exact if_neg hne

/-- What a segment yields, as a relation, is what the function finds. -/
theorem Yields.token?_eq (h : Yields segment found) : segment.token? = found := by
  cases h with
  | literal => rfl
  | blank blank =>
      have := trim_eq_nil_iff.2 blank
      simp [token?, this]
  | expression trimmed ne =>
      obtain rfl := Text.trim_eq_iff.2 trimmed
      rw [token?_block ne]
  | @statement place raw content name rest blanks argument trimmed word ne space =>
      obtain rfl := Text.trim_eq_iff.2 trimmed
      have hne : Text.trim raw ≠ [] := by
        rw [word.text_eq]
        simp [ne]
      rw [token?_block hne, nameAndArgument?_eq_some_iff.2 ⟨_, _, word, ne, space⟩]
      rfl
  | nameless trimmed noWord =>
      have hcontent := Text.trim_eq_iff.2 trimmed
      rw [token?_block (by simp [hcontent]), hcontent,
        (nameAndArgument?_eq_none_iff (by simp)).2 ⟨_, _, rfl, noWord⟩]
      rfl

/-- Every segment yields something: the cases are those of `token?`. -/
theorem yields_token? (segment : Segment) : Yields segment segment.token? := by
  obtain ⟨place, shape⟩ := segment
  cases shape with
  | literal text => exact .literal
  | block kind raw =>
      by_cases hempty : Text.trim raw = []
      · have : token? ⟨place, .block kind raw⟩ = none := by simp [token?, hempty]
        rw [this]
        exact .blank (trim_eq_nil_iff.1 hempty)
      · rw [token?_block hempty]
        cases kind with
        | expression => exact .expression Text.trimmed_trim hempty
        | statement =>
            cases hname : nameAndArgument? (Text.trim raw) with
            | none =>
                obtain ⟨c, rest, hcontent, noWord⟩ := (nameAndArgument?_eq_none_iff hempty).1 hname
                exact .nameless (hcontent ▸ Text.trimmed_trim) noWord
            | some split =>
                obtain ⟨name, argument⟩ := split
                obtain ⟨rest, blanks, word, ne, space⟩ := nameAndArgument?_eq_some_iff.1 hname
                exact .statement Text.trimmed_trim word ne space

/-- The token of a segment is the one that it yields. -/
theorem yields_iff : Yields segment found ↔ segment.token? = found := by
  constructor
  · exact Yields.token?_eq
  · intro h
    rw [← h]
    exact yields_token? segment

/-! ### All segments -/

theorem image_iff :
    Image d place shapes tokens ↔ tokens = (placed d place shapes).filterMap Segment.token? := by
  constructor
  · intro h
    induction h with
    | nil => rfl
    | cons yields _ ih =>
        rw [placed, List.filterMap_cons, yields_iff.1 yields, ih]
        cases ‹Option Token› <;> rfl
  · rintro rfl
    induction shapes generalizing place with
    | nil => exact .nil
    | cons shape shapes ih =>
        have := Image.cons (yields_iff.2 (rfl : token? ⟨place, shape⟩ = _)) ih
        rw [placed, List.filterMap_cons]
        cases hfound : token? ⟨place, shape⟩ <;> simpa [hfound] using this

end Segment

/-- **Tokens come from a cutting**: a text has tokens exactly if it can be cut, and they are the
image of its pieces, each at its place. Delimiters are not empty here, as an empty opener would cut
nothing off. -/
theorem tokenize_eq_ok_iff {d : Delimiters} (valid : d.AreNonempty) {text : Text}
    {tokens : List Token} :
    tokenize d text = .ok tokens ↔
      ∃ shapes, Segment.Cutting d text shapes ∧ Segment.Image d {} shapes tokens := by
  have hmap : tokenize d text = List.filterMap Segment.token? <$> Segment.cut d text := rfl
  rw [hmap, map_eq_ok_iff]
  simp only [Segment.cut, Segment.cutFrom_eq_ok_iff valid, Segment.image_iff]
  constructor
  · intro h
    obtain ⟨segments, ⟨shapes, hshapes, rfl⟩, rfl⟩ := h
    exact ⟨shapes, hshapes, rfl⟩
  · intro h
    obtain ⟨shapes, hshapes, rfl⟩ := h
    exact ⟨_, ⟨shapes, hshapes, rfl⟩, rfl⟩

/-- **Tokenizing** succeeds just when the template has a cutting. It has one at most, which makes up
the whole template, and the tokens are its image. -/
theorem tokenize_iff_cutting {d : Delimiters} (valid : d.AreNonempty) (text : Text) :
    (∀ tokens, tokenize d text = .ok tokens ↔
        ∃ shapes, Segment.Cutting d text shapes ∧ Segment.Image d {} shapes tokens)
      ∧ ((∃ tokens, tokenize d text = .ok tokens) ↔ ∃ shapes, Segment.Cutting d text shapes)
      ∧ (∀ shapes others, Segment.Cutting d text shapes → Segment.Cutting d text others →
          shapes = others)
      ∧ ∀ shapes, Segment.Cutting d text shapes →
          shapes.flatMap (Segment.Shape.source d) = text := by
  refine ⟨fun tokens => tokenize_eq_ok_iff valid, ?_, fun shapes others h h' => h.unique valid h',
    fun shapes h => h.flatMap_source⟩
  simp only [tokenize_eq_ok_iff valid]
  constructor
  · intro h
    obtain ⟨tokens, shapes, hshapes, -⟩ := h
    exact ⟨shapes, hshapes⟩
  · intro h
    obtain ⟨shapes, hshapes⟩ := h
    exact ⟨_, shapes, hshapes, Segment.image_iff.2 rfl⟩

/-- Delimiters that share characters: the closing delimiter of the expression is looked for behind
its opening one only, and the statement that follows has no blank around its name. -/
theorem tokenize_iff_cutting_overlap :
    let d : Delimiters := ⟨['<', '<'], ['<'], ['<'], ['>']⟩
    d.AreNonempty ∧
      ∃ shapes, Segment.Cutting d ['a', '<', '<', 'b', '<', '<', 'c', '>'] shapes
        ∧ Segment.Image d {} shapes
          [⟨.text, ['a'], ⟨0, 1, 1⟩⟩, ⟨.expression, ['b'], ⟨1, 1, 2⟩⟩,
            ⟨.statement ['c'], [], ⟨5, 1, 6⟩⟩] := by
  have valid : Delimiters.AreNonempty ⟨['<', '<'], ['<'], ['<'], ['>']⟩ := by
    intro kind
    cases kind <;> decide
  exact ⟨valid, ((tokenize_iff_cutting valid _).1 _).1 (by decide +kernel)⟩

end Stencil
