import Stencil.Proofs.Place
import Stencil.Proofs.Segment.Fault

/-!
# The order of tokens

Every segment of a cutting has a character, so the segments of a text begin one behind the other, and
so do the tokens that they yield (`pairwise_placed`). The place of a token, and that of the delimiter
at fault when there are no tokens, is that of a character of the text (`isIn_of_tokenize`).
-/

namespace Stencil

namespace Segment

variable {d : Delimiters} {text : Text} {shapes : List Shape} {place : Place} {segment : Segment}
variable {token : Token}

theorem Cutting.source_ne_nil (valid : d.AreNonempty) (h : Cutting d text shapes) :
    ∀ shape ∈ shapes, shape.source d ≠ [] := by
  induction h with
  | nil => exact List.forall_mem_nil _
  | literal ne _ _ _ _ ih => exact List.forall_mem_cons.2 ⟨ne, ih⟩
  | @block kind _ _ _ _ _ _ _ ih =>
      refine List.forall_mem_cons.2 ⟨?_, ih⟩
      simp [Shape.source, (valid kind).1]

/-- A segment begins in front of a character of the text. -/
theorem exists_of_mem_placed (nonempty : ∀ shape ∈ shapes, shape.source d ≠ [])
    (h : segment ∈ placed d place shapes) :
    ∃ front rest, shapes.flatMap (Shape.source d) = front ++ rest ∧ rest ≠ []
      ∧ segment.place = place.after front := by
  induction shapes generalizing place with
  | nil => cases h
  | cons shape shapes ih =>
      obtain ⟨first, others⟩ := List.forall_mem_cons.1 nonempty
      rcases List.mem_cons.1 h with rfl | h
      · exact ⟨[], _, rfl, List.append_ne_nil_of_left_ne_nil first _, rfl⟩
      · obtain ⟨front, rest, hsource, hrest, hplace⟩ := ih others h
        refine ⟨shape.source d ++ front, rest, ?_, hrest, ?_⟩
        · rw [List.flatMap_cons, hsource, List.append_assoc]
        · rw [hplace, Place.after_append]

/-- Each segment begins behind the ones before it. -/
theorem pairwise_placed (nonempty : ∀ shape ∈ shapes, shape.source d ≠ []) :
    (placed d place shapes).Pairwise fun segment later =>
      ∃ between, between ≠ [] ∧ later.place = segment.place.after between := by
  induction shapes generalizing place with
  | nil => exact .nil
  | cons shape shapes ih =>
      obtain ⟨first, others⟩ := List.forall_mem_cons.1 nonempty
      refine .cons (fun later hlater => ?_) (ih others)
      obtain ⟨front, rest, -, -, hplace⟩ := exists_of_mem_placed others hlater
      refine ⟨shape.source d ++ front, List.append_ne_nil_of_left_ne_nil first _, ?_⟩
      rw [hplace, Place.after_append]

/-- A token has the place of its segment. -/
theorem place_eq_of_token? (h : segment.token? = some token) : token.place = segment.place := by
  cases yields_iff.2 h <;> rfl

end Segment

variable {d : Delimiters} {text : Text} {tokens : List Token}

/-- The place of every token is that of a character, and the places are in order. -/
theorem isIn_of_tokenize_ok (valid : d.AreNonempty) (h : tokenize d text = .ok tokens) :
    (∀ token ∈ tokens, token.place.IsIn text)
      ∧ tokens.Pairwise fun token later =>
          ∃ between, between ≠ [] ∧ later.place = token.place.after between := by
  obtain ⟨shapes, cutting, image⟩ := (tokenize_eq_ok_iff valid).1 h
  have nonempty := cutting.source_ne_nil valid
  rw [Segment.image_iff.1 image]
  constructor
  · intro token hmem
    obtain ⟨segment, hsegment, htoken⟩ := List.mem_filterMap.1 hmem
    obtain ⟨front, rest, hsource, hrest, hplace⟩ := Segment.exists_of_mem_placed nonempty hsegment
    rw [cutting.flatMap_source] at hsource
    rw [Segment.place_eq_of_token? htoken]
    exact Place.isIn_iff.2 ⟨front, rest, hsource, hrest, hplace⟩
  · refine (Segment.pairwise_placed nonempty).filterMap _ ?_
    intro segment later behind token htoken token' htoken'
    rwa [Segment.place_eq_of_token? htoken, Segment.place_eq_of_token? htoken']

/-- The delimiter at fault stands in the text. -/
theorem isIn_of_tokenize_error {error : DelimiterError} (valid : d.AreNonempty)
    (h : tokenize d text = .error error) : error.token.place.IsIn text := by
  obtain ⟨stands, done, rest, before, rounds, blocked, -⟩ := (tokenize_eq_error_iff valid).1 h
  obtain ⟨front, behind, htext, hplace⟩ := stands
  have nonempty : error.token.value ≠ [] := by
    cases blocked with
    | literal => exact (valid _).2
    | block => exact (valid _).1
  exact Place.isIn_iff.2 ⟨front, _, htext, List.append_ne_nil_of_left_ne_nil nonempty _, hplace⟩

/-- **Lines and columns locate the tokens of a text**, and the delimiter at fault when there are
none: all of them are places of characters, and such a place is told by its line and its column. The
tokens come in the order of their offsets, which is that of their lines and columns. -/
theorem isIn_of_tokenize {d : Delimiters} (valid : d.AreNonempty) (text : Text) :
    (∀ tokens, tokenize d text = .ok tokens →
        (∀ token ∈ tokens, token.place.IsIn text)
          ∧ tokens.Pairwise fun token later =>
              token.place.offset < later.place.offset ∧ token.place.IsBefore later.place)
      ∧ (∀ error, tokenize d text = .error error → error.token.place.IsIn text)
      ∧ ∀ place other : Place, place.IsIn text → other.IsIn text →
          (place.offset < other.offset ↔ place.IsBefore other)
            ∧ (place.line = other.line → place.column = other.column → place = other) := by
  refine ⟨fun tokens h => ?_, fun error h => isIn_of_tokenize_error valid h,
    fun place other h h' => ⟨h.offset_lt_iff h', h.eq_of_line_eq h'⟩⟩
  obtain ⟨located, ordered⟩ := isIn_of_tokenize_ok valid h
  refine ⟨located, ordered.imp ?_⟩
  rintro token later ⟨between, nonempty, hplace⟩
  rw [hplace]
  exact ⟨Place.offset_lt_after nonempty, Place.isBefore_after nonempty⟩

/-- Line feeds at the start and at the end, two in a row, and in a delimiter, a block and its end;
and a closing delimiter that stands alone at the start of a line. -/
theorem isIn_of_tokenize_lines :
    let d : Delimiters := { expressionStart := ['{', '\n'], expressionEnd := ['\n', '}'] }
    let text : Text := "\n\na\x7b\nx\n\x7d\n\x7b%if\ny%\x7d\n".toList
    let tokens : List Token :=
      [⟨.text, ['\n', '\n', 'a'], ⟨0, 1, 1⟩⟩, ⟨.expression, ['x'], ⟨3, 3, 2⟩⟩,
        ⟨.text, ['\n'], ⟨8, 5, 2⟩⟩, ⟨.statement ['i', 'f'], ['y'], ⟨9, 6, 1⟩⟩,
        ⟨.text, ['\n'], ⟨17, 7, 4⟩⟩]
    let wrong : Text := "a\n\n%\x7d".toList
    let error : DelimiterError := ⟨['{', '%'], ⟨.text, ['%', '}'], ⟨3, 3, 1⟩⟩⟩
    d.AreNonempty ∧ tokenize d text = .ok tokens ∧ (∀ token ∈ tokens, token.place.IsIn text)
      ∧ (tokens.Pairwise fun token later =>
          token.place.offset < later.place.offset ∧ token.place.IsBefore later.place)
      ∧ tokenize d wrong = .error error ∧ error.token.place.IsIn wrong := by
  intro d text tokens wrong error
  have valid : d.AreNonempty := by
    intro kind
    cases kind <;> decide
  have accepted : tokenize d text = .ok tokens := by decide +kernel
  have refused : tokenize d wrong = .error error := by decide +kernel
  obtain ⟨located, ordered⟩ := (isIn_of_tokenize valid text).1 tokens accepted
  exact ⟨valid, accepted, located, ordered, refused,
    (isIn_of_tokenize valid wrong).2.1 error refused⟩

end Stencil
