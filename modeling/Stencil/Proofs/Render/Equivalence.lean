import Stencil.Proofs.Render.Rounds

/-!
# Rendering over layers is rendering over one flat map

The two renderers are compared for evaluators that use a scope as a map (`MapEvaluator`). They end
alike whatever the tree, the loops in it and the map at the beginning are, and whether or not some
evaluation fails (`alike_renderList`).
-/

namespace Stencil

variable {K V World Failure : Type} [BEq K]

/-! ### Trees -/

section

variable (e : MapEvaluator K V World Failure)

mutual

/-- Every node, rendered with layers, does what it does with one flat map. The recursion is that of
the tree, and loops are the one case with something to show (`refines_repeatOver`). -/
theorem refinesBody_render [EquivBEq K] :
    ∀ node, RefinesBody e (Node.render e.layered.recorded node) (Node.renderFlat e node)
  | .text _ => fun _ _ => refines_pure rfl
  | .expression source => refinesBody_shown source
  | .conditional branches otherwise =>
      refinesBody_choose (refinesBody_renderOption otherwise) (refinesBranches_render branches)
  | .iteration _ body => refinesBody_repeatOver (refinesBody_renderList body)
  | .switch subject cases otherwise =>
      refinesBody_select subject (refinesBody_renderOption otherwise) (refinesBranches_render cases)
  | .foreign _ => fun _ _ => refines_throw _

theorem refinesBody_renderList [EquivBEq K] :
    ∀ nodes, RefinesBody e (Node.renderList e.layered.recorded nodes) (Node.renderFlatList e nodes)
  | [] => fun _ _ => refines_pure rfl
  | node :: rest => by
      intro chain loops
      refine refines_bind (refinesBody_render node chain loops) ?_
      intro first _ rfl
      refine refines_bind (refinesBody_renderList rest chain loops) ?_
      intro more _ rfl
      exact refines_pure rfl

theorem refinesBranches_render [EquivBEq K] :
    ∀ branches : List (Text × List Node),
      RefinesBranches e (Node.renderBranches e.layered.recorded branches)
        (Node.renderFlatBranches e branches)
  | [] => .nil
  | (_, body) :: rest => .cons ⟨rfl, refinesBody_renderList body⟩ (refinesBranches_render rest)

theorem refinesBody_renderOption [EquivBEq K] :
    ∀ body, RefinesBody e (Node.renderOption e.layered.recorded body) (Node.renderFlatOption e body)
  | none => fun _ _ => refines_pure rfl
  | some body => refinesBody_renderList body

end

end

/-! ### Loops -/

/-- A loop of the reference ends where its last round ends, with the names of the loop put back. -/
theorem after_forEach {e : MapEvaluator K V World Failure} {header : LoopHeader}
    (body : Render (Flat K V World) V Failure Text) {flat collected : Flat K V World}
    {collection : V}
    (hvalue : Render.value e.flat header.collection () flat = .ok collection collected)
    (hsequence : e.isSequence collection) :
    Render.after (e.forEach header body flat) =
      (Render.after (e.eachRound header collection (e.items collected.world collection) body
        (e.items collected.world collection) 0 collected)).restore
        (e.loopNames header) collected.context := by
  rw [MapEvaluator.forEach, Render.bind_ok hvalue, if_pos hsequence]
  exact after_restoring

/-! ### Whole renders -/

/-- The ends of a render over layers that began with one table, and of one over a flat map: the same
world, the same sources in the same order, and the same map. -/
structure SameEnd (state : (World × Tables K V) × List Text) (flat : Flat K V World) : Prop where
  world : state.1.1 = flat.world
  sources : state.2 = flat.sources
  context : ∀ key, Table.get? (state.1.2.getD 0 []) key = Table.get? flat.context key
  size : List.length (state.1.2.getD 0 []) = List.length flat.context

variable [EquivBEq K]

/-- Outside of loops there is one layer, so the layers and the flat map hold the same. -/
theorem SameEnd.of_simulates {state : (World × Tables K V) × List Text} {flat : Flat K V World}
    (h : Simulates [0] [] state flat) : SameEnd state flat := by
  have hcontext : ∀ key, Scope.get? [state.1.2.getD 0 []] key = Table.get? flat.context key :=
    h.shows.represents.get?_eq
  refine ⟨h.world, h.sources, ?_, ?_⟩
  · intro key
    rw [← hcontext, Scope.get?_cons, Scope.get?_nil, Option.or_none]
  · have hsize := Scope.size_eq h.shows.areMaps h.shows.isMap hcontext
    have hlayers : state.1.2.layers [0] = [state.1.2.getD 0 []] := rfl
    rw [← hsize, hlayers]
    simp [Scope.size, Scope.keys, Table.keys]

/-- **Layers are one flat map.** From any map a tree is rendered over layers as it is over the flat
map, if no collection is changed while a loop runs over it. Hence any loop, whatever loops it is
inside, leaves under the names that it binds what was there when its collection had been evaluated,
and under all other names what was there at the end of its last round. -/
theorem alike_renderList (e : MapEvaluator K V World Failure) (nodes : List Node) (world : World)
    (context : Table K V) (hmap : Table.IsMap context)
    (hsteady : (Render.after (Node.renderFlatList e nodes () { world, context })).IsSteady e) :
    Alike Eq SameEnd (Node.renderList e.layered.recorded nodes [0] ((world, [context]), []))
        (Node.renderFlatList e nodes () { world, context }) ∧
      ∀ header body chain loops state flat collection collected,
        Simulates chain loops state flat →
        Render.value e.flat header.collection () flat = .ok collection collected →
        e.isSequence collection →
        let items := e.items collected.world collection
        let ended := Render.after
          (e.eachRound header collection items (Node.renderFlatList e body ()) items 0 collected)
        ended.IsSteady e →
        ∀ key, Scope.get? ((Render.after (Node.render e.layered.recorded (.iteration header body)
            chain state)).1.2.layers chain) key =
          if (e.loopNames header).any (· == key) then Table.get? collected.context key
          else Table.get? ended.context key := by
  constructor
  · have hstart : Simulates [0] [] ((world, [context]), []) { world, context } :=
      ⟨rfl, rfl, .start hmap⟩
    exact ((refinesBody_renderList e nodes [0] []).alike _ _ hstart hsteady).imp .of_simulates
  · intro header body chain loops state flat collection collected hsim hvalue hsequence items ended
      hended key
    -- In the reference a loop ends by giving its names their old values back, and so do the layers.
    have hafter := after_forEach (Node.renderFlatList e body ()) hvalue hsequence
    have hsteady :
        (Render.after (Node.renderFlat e (.iteration header body) () flat)).IsSteady e := by
      rw [Node.renderFlat, hafter]
      exact hended
    have hlast := ((refinesBody_render e (.iteration header body) chain loops).alike state flat hsim
      hsteady).sim_after
    rw [hlast.shows.represents.get?_eq, Node.renderFlat, hafter]
    exact Table.get?_restore

/-- A language for the next theorem, with lists of numbers as values. The source `+x` adds the
numbers of `x` to the total `t`, and any other source is the name of a variable. -/
def totals : MapEvaluator Text (List Nat) Unit Text where
  evaluate source _ :=
    match source with
    | '+' :: name => .get? ['t'] fun total => .get? name fun found =>
        let sum := total.getD [] ++ found.getD []
        .put ['t'] sum (.done (.ok sum, ()))
    | name => .get? name fun found => .done (found.elim (.error name) .ok, ())
  isTrue _ value := .ok !value.isEmpty
  areEqual _ a b := .ok (a == b)
  display _ value := .ok (value.flatMap fun n => Nat.toDigits 10 n)
  isSequence _ := true
  items _ value := value.map ([·])
  name := id
  count n := [n]

/-- Nested loops that bind the same names, one of which the map has before, and a failure after. -/
theorem alike_renderList_nested :
    let header : LoopHeader := ⟨['x'], ['i'], ['l']⟩
    let nodes := [Node.iteration header [.expression ['+', 'x'],
      .iteration header [.expression ['+', 'i']], .expression ['x']], .expression ['y']]
    let context : Table Text (List Nat) := [(['l'], [7, 8]), (['x'], [5])]
    ∃ state, Node.renderList totals.layered.recorded nodes [0] (((), [context]), [])
        = .error (.failed ['y']) state ∧
      Table.get? (state.1.2.getD 0 []) ['x'] = some [5] ∧
      Table.get? (state.1.2.getD 0 []) ['i'] = none ∧
      Table.get? (state.1.2.getD 0 []) ['t'] = some [7, 0, 1, 8, 0, 1] := by
  intro header nodes context
  have hmap : Table.IsMap context := by decide
  have hsteady : (Render.after (Node.renderFlatList totals nodes ()
      { world := (), context })).IsSteady totals := by decide +kernel
  have halike := (alike_renderList totals nodes () context hmap hsteady).1
  have hflat : (match Node.renderFlatList totals nodes () { world := (), context } with
      | .error (.failed failure) flat => some (failure, flat.context)
      | _ => none) = some (['y'], [(['l'], [7, 8]), (['x'], [5]), (['t'], [7, 0, 1, 8, 0, 1])]) := by
    decide +kernel
  split at hflat
  · rename_i failure flat heq
    obtain ⟨hfailure, hcontext⟩ := Prod.mk.inj (Option.some.inj hflat)
    rw [heq, hfailure] at halike
    obtain ⟨state, hrun, hsame⟩ := halike.exists_of_error
    refine ⟨state, hrun, ?_, ?_, ?_⟩ <;> rw [hsame.context, hcontext] <;> rfl
  · cases hflat

end Stencil
