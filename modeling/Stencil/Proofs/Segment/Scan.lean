import Mathlib.Algebra.Order.BigOperators.Group.List
import Stencil.Files
import Stencil.Proofs.Options.OfData
import Stencil.Proofs.Options.Unambiguous
import Stencil.Proofs.Segment.Order

/-!
# The rounds of a scan

Tokenizing is a loop without a bound: as long as text remains, `Scan.round` takes the literal text
in front of the next block and the block itself. `Segment.cutFrom` stops by itself where a round
takes nothing; the loop has no such check, so only the delimiters keep it from going on forever.

Every round that goes on takes both delimiters of a block, so with delimiters that have characters
half as many rounds as there are characters are enough (`run_eq_result`). Whatever way options come
from, their delimiters do have characters (`IsAccepted.areNonempty`): an empty text in data stands
for the default, and validation refuses one that was put into options by hand.
-/

namespace Stencil

/-- The delimiters of options that a template accepts, of options in a file, or read from data. -/
inductive Delimiters.IsAccepted : Delimiters → Prop
  | coerced {order given options} (h : Options.coerce order given = .ok options) :
      IsAccepted options.delimiters
  | loaded {order files path read options} (h : Files.options order files path read = .ok options) :
      IsAccepted options.delimiters
  | ofEntries {order entries d} (h : Delimiters.ofEntries order entries = .ok d) : IsAccepted d

/-- Where the scanning of a text stands: the text that remains, the place where it begins, and the
tokens of the text before it. -/
structure Scan where
  place : Place := {}
  rest : Text
  tokens : List Token := []

namespace Scan

/-- What a round comes to. -/
inductive Round
  | proceed (next : Scan)
  | stop (result : Except DelimiterError (List Token))

/-- One round: the next block and the literal text before it, or the literal text that is left when
there is none. -/
def round (d : Delimiters) (scan : Scan) : Round :=
  match Segment.nextBlock? d scan.rest with
  | none =>
      match Segment.ofLiteral d scan.place scan.rest with
      | .error error => .stop (.error error)
      | .ok last => .stop (.ok (scan.tokens ++ last.filterMap Segment.token?))
  | some (before, kind, inside) =>
      match Segment.ofLiteral d scan.place before with
      | .error error => .stop (.error error)
      | .ok lead =>
          let start := scan.place.after before
          match Text.splitAt? (d.closer kind) inside with
          | none => .stop (.error ⟨d.closer kind, ⟨.text, d.opener kind, start⟩⟩)
          | some (raw, rest) =>
              let found := lead ++ [⟨start, .block kind raw⟩]
              .proceed ⟨start.after (d.opener kind ++ raw ++ d.closer kind), rest,
                scan.tokens ++ found.filterMap Segment.token?⟩

/-- What the loop comes to, if it ends within a number of rounds. -/
def run (d : Delimiters) : Nat → Scan → Option (Except DelimiterError (List Token))
  | rounds, scan =>
      if scan.rest.isEmpty then some (.ok scan.tokens)
      else match rounds with
        | 0 => none
        | rounds + 1 =>
            match scan.round d with
            | .stop result => some result
            | .proceed next => run d rounds next

/-- The loop gets from the start of a text to this point. -/
inductive Reaches (d : Delimiters) (text : Text) : Scan → Prop
  | start : Reaches d text { rest := text }
  | round {scan next} (before : Reaches d text scan) (more : scan.rest ≠ [])
      (goesOn : scan.round d = .proceed next) : Reaches d text next

/-- The tokens so far and those of a cutting of what remains. -/
def result (d : Delimiters) (scan : Scan) : Except DelimiterError (List Token) :=
  (Segment.cutFrom d scan.place scan.rest).map
    fun found => scan.tokens ++ found.filterMap Segment.token?

variable {d : Delimiters} {scan next : Scan} {text : Text} {rounds : Nat}

/-! ### One round -/

/-- **What a round does**: it stops with the result, or it takes a block and the literal text before
it, and leaves the result as it is. -/
theorem round_cases (valid : d.AreNonempty) (scan : Scan) :
    scan.round d = .stop (scan.result d)
      ∨ ∃ next before kind inside raw, scan.round d = .proceed next
          ∧ next.result d = scan.result d
          ∧ Segment.Round d scan.rest before kind inside raw next.rest
          ∧ next.place = scan.place.after (before ++ (d.opener kind ++ raw ++ d.closer kind)) := by
  have hresult : scan.result d = (Segment.cutFrom d scan.place scan.rest).map
      fun found => scan.tokens ++ found.filterMap Segment.token? := rfl
  rw [Segment.cutFrom] at hresult
  cases hnext : Segment.nextBlock? d scan.rest with
  | none =>
      simp only [hnext] at hresult
      refine .inl ?_
      rw [hresult, round, hnext]
      cases Segment.ofLiteral d scan.place scan.rest <;> rfl
  | some block =>
      obtain ⟨before, kind, inside⟩ := block
      simp only [hnext] at hresult
      cases hlead : Segment.ofLiteral d scan.place before with
      | error error =>
          refine .inl ?_
          simp only [hlead, Except.map] at hresult
          simp only [round, hnext, hlead, hresult]
      | ok lead =>
          simp only [hlead] at hresult
          cases hclose : Text.splitAt? (d.closer kind) inside with
          | none =>
              refine .inl ?_
              simp only [hclose, Except.map] at hresult
              simp only [round, hnext, hlead, hclose, hresult]
          | some cut =>
              obtain ⟨raw, rest⟩ := cut
              obtain ⟨text_eq, unopened, opened⟩ := (Segment.nextBlock?_eq_some_iff valid).1 hnext
              have takes : Segment.Round d scan.rest before kind inside raw rest :=
                ⟨text_eq, unopened, ((Segment.ofLiteral_eq_ok_iff valid).1 hlead).1, opened,
                  Text.splitAt?_eq_some_iff.1 hclose⟩
              let block : Segment := ⟨scan.place.after before, .block kind raw⟩
              have hround : scan.round d =
                  .proceed ⟨(scan.place.after before).after (d.opener kind ++ raw ++ d.closer kind),
                    rest, scan.tokens ++ (lead ++ [block]).filterMap Segment.token?⟩ := by
                simp only [round, hnext, hlead, hclose, block]
              refine .inr ⟨_, before, kind, inside, raw, hround, ?_, takes,
                (Place.after_append ..).symm⟩
              -- Taking the block and cutting what follows it is cutting with the block in front.
              simp only [hclose, if_pos (takes.length_lt valid)] at hresult
              rw [hresult, result]
              cases Segment.cutFrom d _ rest with
              | error error => rfl
              | ok more => simp [Except.map, block, ← List.filterMap_append]

/-- A round that goes on takes a literal and a block. -/
theorem exists_round (valid : d.AreNonempty) (h : scan.round d = .proceed next) :
    ∃ before kind inside raw, Segment.Round d scan.rest before kind inside raw next.rest
      ∧ next.place = scan.place.after (before ++ (d.opener kind ++ raw ++ d.closer kind)) := by
  rcases round_cases valid scan with hstop | ⟨_, before, kind, inside, raw, hgo, -, takes, place⟩
  · rw [h] at hstop
    cases hstop
  · rw [h] at hgo
    cases hgo
    exact ⟨before, kind, inside, raw, takes, place⟩

/-- A round takes at least the delimiters of its block. -/
theorem length_of_round {before inside raw rest : Text} {kind : BlockKind}
    (h : Segment.Round d text before kind inside raw rest) :
    rest.length + ((d.opener kind).length + (d.closer kind).length) ≤ text.length := by
  rw [h.text_eq, h.closed.text_eq]
  simp only [List.length_append]
  omega

/-- A round moves on by at least two characters, one for each of its delimiters. -/
theorem two_le_length (valid : d.AreNonempty) (kind : BlockKind) :
    2 ≤ (d.opener kind).length + (d.closer kind).length := by
  have opener := List.length_pos_iff.2 (valid kind).1
  have closer := List.length_pos_iff.2 (valid kind).2
  omega

/-! ### All rounds -/

theorem result_of_nil (valid : d.AreNonempty) (h : scan.rest = []) :
    scan.result d = .ok scan.tokens := by
  have none : Segment.nextBlock? d [] = none :=
    (Segment.nextBlock?_eq_none_iff valid).2 Delimiters.unopened_nil
  rw [result, h, Segment.cutFrom_of_none none]
  simp [Segment.ofLiteral, Except.map]

/-- **The loop ends** within half as many rounds as there are characters, with the tokens of a
cutting. -/
theorem run_eq_result (valid : d.AreNonempty) (enough : scan.rest.length ≤ 2 * rounds) :
    scan.run d rounds = some (scan.result d) := by
  induction rounds generalizing scan with
  | zero =>
      have nothing : scan.rest = [] := List.eq_nil_of_length_eq_zero (by omega)
      rw [run, if_pos (by simp [nothing]), result_of_nil valid nothing]
  | succ rounds ih =>
      by_cases nothing : scan.rest = []
      · rw [run, if_pos (by simp [nothing]), result_of_nil valid nothing]
      · rw [run, if_neg (by simpa using nothing)]
        rcases round_cases valid scan with hstop | ⟨next, _, kind, _, _, hgo, same, takes, -⟩
        · rw [hstop]
        · have shorter := length_of_round takes
          have two := two_le_length valid kind
          rw [hgo, ← same]
          exact ih (by omega)

/-- What is left at a point of the loop stands in the text there. -/
theorem Reaches.exists_append (valid : d.AreNonempty) (h : Reaches d text scan) :
    ∃ done, text = done ++ scan.rest ∧ scan.place = Place.after {} done := by
  induction h with
  | start => exact ⟨[], rfl, rfl⟩
  | round before more goesOn ih =>
      obtain ⟨done, rfl, hplace⟩ := ih
      obtain ⟨before, kind, inside, raw, takes, next⟩ := exists_round valid goesOn
      refine ⟨done ++ (before ++ (d.opener kind ++ raw ++ d.closer kind)), ?_, ?_⟩
      · rw [takes.text_eq, takes.closed.text_eq]
        simp
      · rw [next, hplace, ← Place.after_append]

end Scan

/-! ### Options -/

namespace Options

variable {entries : List (Data × Data)} {options valid : Options}

/-- A text that is given empty counts as not given, so the standard one stays. -/
theorem textOr_ne_nil {key fallback : Text} (h : fallback ≠ []) :
    textOr entries key fallback ≠ [] := by
  unfold textOr
  split
  · split
    · exact h
    · simp_all
  · exact h

/-- Validated delimiters are not empty. This is the first of three ways to get delimiters; the
standard ones and those read from data are the others. -/
theorem areNonempty_of_validate (h : options.validate = .ok valid) :
    valid.delimiters.AreNonempty := by
  unfold validate at h
  cases hfault : options.fault? with
  | some fault => simp [hfault] at h
  | none =>
      simp only [hfault, Except.ok.injEq] at h
      exact h ▸ (fault?_eq_none_iff.1 hfault).nonempty

end Options

theorem Delimiters.areNonempty_default : Delimiters.AreNonempty {} := by
  intro kind
  cases kind <;> decide

/-- Delimiters that are read from data are not empty, although nothing checks it: an empty text is
replaced by the standard one. -/
theorem Delimiters.areNonempty_of_ofEntries {order : Delimiters.Order}
    {entries : List (Data × Data)} {d : Delimiters} (h : Delimiters.ofEntries order entries = .ok d) :
    d.AreNonempty := by
  unfold Delimiters.ofEntries at h
  obtain ⟨-, -, h⟩ := bind_eq_ok_iff.1 h
  split at h
  · cases h
  · cases h
    intro kind
    cases kind <;> exact ⟨Options.textOr_ne_nil (by decide), Options.textOr_ne_nil (by decide)⟩

/-- **Accepted delimiters have characters**, whatever way the options come from. -/
theorem Delimiters.IsAccepted.areNonempty {d : Delimiters} (h : d.IsAccepted) :
    d.AreNonempty := by
  cases h with
  | @coerced order given options h =>
      cases given with
      | nothing =>
          cases h
          exact areNonempty_default
      | options options => exact Options.areNonempty_of_validate (mapError_eq_ok_iff.1 h)
      | data data =>
          obtain ⟨options, -, h⟩ := bind_eq_ok_iff.1 h
          exact Options.areNonempty_of_validate (mapError_eq_ok_iff.1 h)
  | @loaded order files path read options h =>
      unfold Files.options at h
      split at h
      · cases h
        exact areNonempty_default
      · obtain ⟨entries, -, h⟩ := bind_eq_ok_iff.1 h
        obtain ⟨options, -, h⟩ := bind_eq_ok_iff.1 h
        exact Options.areNonempty_of_validate (mapError_eq_ok_iff.1 h)
  | ofEntries h => exact areNonempty_of_ofEntries h

/-- There are no more tokens than characters. -/
theorem length_le_of_tokenize {d : Delimiters} (valid : d.AreNonempty) {text : Text}
    {tokens : List Token} (h : tokenize d text = .ok tokens) : tokens.length ≤ text.length := by
  obtain ⟨shapes, cutting, image⟩ := (tokenize_eq_ok_iff valid).1 h
  have nonempty : ∀ length ∈ shapes.map fun shape => (shape.source d).length, 1 ≤ length := by
    simpa [Nat.one_le_iff_ne_zero] using cutting.source_ne_nil valid
  calc tokens.length
    _ ≤ (Segment.placed d {} shapes).length := by
        rw [Segment.image_iff.1 image]
        exact List.length_filterMap_le ..
    _ = (shapes.map fun shape => (shape.source d).length).length := by
        rw [← List.length_map Segment.shape, Segment.map_shape_placed, List.length_map]
    _ ≤ (shapes.map fun shape => (shape.source d).length).sum :=
        List.length_le_sum_of_one_le _ nonempty
    _ = text.length := by rw [← List.length_flatMap, cutting.flatMap_source]

/-- **Tokenizing ends** on every text, with the delimiters of any accepted options. A round that goes
on gets behind the two delimiters of a block, which are two characters at least; the loop never gets
behind the end of the text; it ends within half as many rounds as there are characters, and one; and
there are no more tokens than characters. -/
theorem tokenize_ends {d : Delimiters} (accepted : d.IsAccepted) (text : Text) :
    (∀ scan next, Scan.Reaches d text scan → scan.rest ≠ [] → scan.round d = .proceed next →
        ∃ kind, 2 ≤ (d.opener kind).length + (d.closer kind).length
          ∧ scan.place.offset + ((d.opener kind).length + (d.closer kind).length)
            ≤ next.place.offset)
      ∧ (∀ scan, Scan.Reaches d text scan →
          scan.place.offset ≤ text.length ∧ scan.rest = text.drop scan.place.offset.toNat)
      ∧ Scan.run d (text.length / 2 + 1) { rest := text } = some (tokenize d text)
      ∧ ∀ tokens, tokenize d text = .ok tokens → tokens.length ≤ text.length := by
  have valid := accepted.areNonempty
  refine ⟨fun scan next _ _ goesOn => ?_, fun scan reaches => ?_, ?_,
    fun tokens => length_le_of_tokenize valid⟩
  · obtain ⟨before, kind, inside, raw, -, hplace⟩ := Scan.exists_round valid goesOn
    refine ⟨kind, Scan.two_le_length valid kind, ?_⟩
    rw [hplace, Place.offset_after]
    simp only [List.length_append]
    omega
  · obtain ⟨done, rfl, hplace⟩ := reaches.exists_append valid
    rw [hplace, Place.offset_after]
    simp
  · have whole : Scan.result d { rest := text } = tokenize d text := by
      simp [Scan.result, tokenize, Segment.cut]
    rw [← whole]
    exact Scan.run_eq_result valid (by dsimp only; omega)

/-- Delimiters of one character, one that is given as the empty text, and a block with nothing in it,
which is as short as a round can be. -/
theorem tokenize_ends_blank :
    let entries : List (Data × Data) :=
      [(.text "statement_start".toList, .text ['<']), (.text "expression_end".toList, .text []),
        (.text "statement_end".toList, .text ['>'])]
    let d : Delimiters := { statementStart := ['<'], statementEnd := ['>'] }
    let text : Text := "<><if a>".toList
    let tokens : List Token := [⟨.statement "if".toList, ['a'], ⟨2, 1, 3⟩⟩]
    Delimiters.ofEntries .listed entries = .ok d ∧ tokenize d text = .ok tokens
      ∧ Scan.run d 5 { rest := text } = some (.ok tokens) ∧ tokens.length ≤ 8 := by
  intro entries d text tokens
  have read : Delimiters.ofEntries .listed entries = .ok d := by decide +kernel
  have found : tokenize d text = .ok tokens := by decide +kernel
  obtain ⟨-, -, ends, few⟩ := tokenize_ends (.ofEntries read) text
  have size : text.length = 8 := by decide
  rw [found, size] at ends
  exact ⟨read, found, ends, size ▸ few tokens found⟩

end Stencil
