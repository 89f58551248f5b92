import Stencil.Proofs.Block.Contents
import Stencil.Proofs.Loop
import Stencil.Proofs.Script.Names

/-!
# The names of loops

The parser and the evaluator have each their own idea of a name: a loop may bind words that do not
begin with a digit, and variables of scripts are identifiers. `Script.Binds` says where the two meet.
In the body of an assembled loop, wherever in the tree it is and whatever lies around it, a name that
is an identifier stands for the item or the index (`binds_of_assemble`).

The one identifier for which this is not so is `context`. It never becomes a variable, because
scripts reach their scope by it.
-/

namespace Stencil

/-! ### Headers -/

namespace LoopHeader

/-- The names of a header are different, and a loop may bind them. -/
structure IsNamed (header : LoopHeader) : Prop where
  item : isLoopName header.item
  index : isLoopName header.index
  distinct : header.item ≠ header.index

/-- The names of a loop that is accepted are words, and not the same word. -/
theorem isNamed_of_ofArgument {keyword argument : Text} {header : LoopHeader}
    (h : ofArgument keyword argument = .ok header) : header.IsNamed := by
  unfold ofArgument at h
  split at h
  · cases h
  · dsimp only at h
    split at h
    · cases h
    · split at h
      · cases h
      · rename_i allowed
        split at h
        · cases h
        · rename_i distinct
          cases h
          -- Only here both checks have been passed: no name is refused, and the two differ.
          have names := List.find?_eq_none.1 allowed
          refine ⟨?_, ?_, distinct⟩
          · simpa using names _ List.mem_cons_self
          · simpa using names _ (List.mem_cons_of_mem _ List.mem_cons_self)

end LoopHeader

/-- The names of every loop in an assembled tree are different, and a loop may bind them. -/
theorem isNamed_of_assemble {keywords : Keywords} {tokens : List Token} {nodes body : List Node}
    {header : LoopHeader} (h : assemble keywords tokens = .ok nodes)
    (loop : .iteration header body ∈ Node.preorderOfList nodes) : header.IsNamed := by
  have all : ∀ node ∈ Node.preorderOfList nodes,
      ∀ header body, node = .iteration header body → header.IsNamed := by
    refine forall_mem_preorder ?_ ?_ ?_ h
    · intro content header body heq
      cases heq
    · intro source header body heq
      cases heq
    · intro block tokens node _ hbuild header body heq
      subst heq
      cases hfamily : block.family with
      | conditional =>
          obtain ⟨otherwise, trees, -, -, heq⟩ := (OpenBlock.build_conditional hfamily rfl).1 hbuild
          cases heq
      | iteration =>
          obtain ⟨found, tree, hfound, -, heq⟩ := (OpenBlock.build_iteration hfamily).1 hbuild
          cases heq
          -- Preparing the collection leaves the names as they are.
          have named := LoopHeader.isNamed_of_ofArgument hfound
          exact ⟨named.item, named.index, named.distinct⟩
      | switch =>
          obtain ⟨otherwise, trees, -, -, heq⟩ := (OpenBlock.build_switch hfamily rfl).1 hbuild
          cases heq
  exact all _ loop header body rfl

namespace Script

/-! ### The scope of a loop body -/

variable {header : LoopHeader} {value : Value} {count : Nat} {chain : Chain} {store : Store}

/-- The variables that the body of a loop sees. -/
def bodyScope (header : LoopHeader) (value : Value) (count : Nat) (chain : Chain)
    (store : Store) : Scope Value Value :=
  let entered := enterLoop chain header.item value header.index count store
  entered.2.scope entered.1

/-- In the body both names have their values. The index is looked up past the item, which is where
the names have to differ. -/
theorem get?_bodyScope (named : header.IsNamed) :
    (bodyScope header value count chain store).get? (.text header.item) = some value
      ∧ (bodyScope header value count chain store).get? (.text header.index)
          = some (.int count) := by
  have distinct := named.distinct
  have hbindings : Table.ofEntries
      [(Value.text header.item, value), (Value.text header.index, Value.int count)]
        = [(.text header.item, value), (.text header.index, .int count)] := by
    simp [Table.ofEntries, Table.put, text_beq_text, distinct]
  -- The innermost layer is the new one; what the others are does not matter.
  have hscope : bodyScope header value count chain store
      = [(.text header.item, value), (.text header.index, .int count)]
        :: (enterLoop chain header.item value header.index count store).2.scope chain := by
    rw [bodyScope, enterLoop, hbindings]
    simp [Store.alloc, Store.scope, Store.dict]
  rw [hscope]
  constructor
  · rw [Scope.get?_cons, Table.get?_cons, if_pos text_beq_self, Option.some_or]
  · rw [Scope.get?_cons, Table.get?_cons, if_neg (by simpa [text_beq_text] using distinct),
      Table.get?_cons, if_pos text_beq_self, Option.some_or]

/-- The name for the scope is no variable, so it is passed the scope. -/
theorem get?_arguments_scopeName {scope : Scope Value Value} :
    (arguments scope chain).get? scopeName = some (.mapping chain) := by
  have other : ∀ entry ∈ (parameters scope).filterMap (fun name =>
      (scope.get? (.text name)).map fun value => (name, value)), ¬(entry.1 == scopeName) := by
    intro entry hentry
    obtain ⟨name, hname, hentry⟩ := List.mem_filterMap.1 hentry
    obtain ⟨value, -, rfl⟩ := Option.map_eq_some_iff.1 hentry
    have parameter := (mem_parameters.1 hname).2
    simp only [isParameter, Bool.and_eq_true, decide_eq_true_eq] at parameter
    simpa using parameter.2
  rw [arguments, Table.get?, List.find?_append, List.find?_eq_none.2 other]
  simp

theorem scopeName_not_mem_parameters {scope : Scope Value Value} :
    scopeName ∉ parameters scope := by
  intro h
  have parameter := (mem_parameters.1 h).2
  simp [isParameter] at parameter

/-! ### Where parser and evaluator meet -/

/-- What the names of a loop stand for in its body. -/
structure Binds (header : LoopHeader) : Prop where
  distinct : header.item ≠ header.index
  /-- Both names are words, do not begin with a decimal digit, and are not reserved. -/
  words (name : Text) (mem : name ∈ [header.item, header.index]) :
    name ≠ [] ∧ (∀ c ∈ name, isWord c) ∧ (∀ c ∈ name.head?, ¬isDigit c) ∧ ¬isReserved name
  /-- A name that is an identifier is a variable of scripts, unless it is the one for the scope. -/
  mem_parameters (name : Text) (mem : name ∈ [header.item, header.index]) (identifier : isName name)
      (other : name ≠ scopeName) (value : Value) (count : Nat) (chain : Chain) (store : Store) :
    name ∈ parameters (bodyScope header value count chain store)
  /-- The source that consists of the name of the item yields the item. -/
  item (identifier : isName header.item) (other : header.item ≠ scopeName) (value : Value)
      (count : Nat) (chain : Chain) (store : Store)
      (noConstant : .text constantName ∉ (bodyScope header value count chain store).keys) :
    let entered := enterLoop chain header.item value header.index count store
    evaluate (prepare header.item) entered.1 entered.2 = .ok value entered.2
  /-- The source that consists of the name of the index yields the number of the round. -/
  index (identifier : isName header.index) (other : header.index ≠ scopeName) (value : Value)
      (count : Nat) (chain : Chain) (store : Store)
      (noConstant : .text constantName ∉ (bodyScope header value count chain store).keys) :
    let entered := enterLoop chain header.item value header.index count store
    evaluate (prepare header.index) entered.1 entered.2 = .ok (.int count) entered.2
  /-- The name for the scope is never a variable, and yields the scope. -/
  scope (value : Value) (count : Nat) (chain : Chain) (store : Store) :
    scopeName ∉ parameters (bodyScope header value count chain store)
  scope_value (value : Value) (count : Nat) (chain : Chain) (store : Store)
      (noConstant : .text constantName ∉ (bodyScope header value count chain store).keys) :
    let entered := enterLoop chain header.item value header.index count store
    evaluate (prepare scopeName) entered.1 entered.2 = .ok (.mapping entered.1) entered.2

/-- No name of a loop begins with a digit. A superscript two is no digit in this sense, but no name
of a variable either. -/
theorem head_of_isLoopName {name : Text} (h : LoopHeader.isLoopName name) :
    ∀ c ∈ name.head?, ¬isDigit c := by
  cases name with
  | nil => cases h
  | cons first rest =>
      intro c hc
      obtain rfl : first = c := Option.some.inj hc
      simp only [LoopHeader.isLoopName, Bool.and_eq_true, Bool.not_eq_true'] at h
      simp [h.1.1.2]

/-- A key with a value is a variable, if scripts can name it. -/
theorem mem_parameters_of_get? {scope : Scope Value Value} {name : Text} (identifier : isName name)
    (plain : ¬isReserved name) (other : name ≠ scopeName)
    (h : scope.get? (.text name) = some value) : name ∈ parameters scope := by
  refine Script.mem_parameters.2 ⟨text_mem_keys_iff_exists.2 ⟨value, h⟩, ?_⟩
  simp [isParameter, identifier, plain, other]

/-- The source that consists of the name of a variable yields what the innermost layer has for it. -/
theorem evaluate_of_get? {name : Text} (identifier : isName name) (plain : ¬isReserved name)
    (other : name ≠ scopeName) (noConstant : .text constantName ∉ (store.scope chain).keys)
    (h : (store.scope chain).get? (.text name) = some value) :
    evaluate (prepare name) chain store = .ok value store := by
  have parameter := mem_parameters_of_get? identifier plain other h
  exact evaluate_name identifier plain noConstant ((get?_arguments parameter).trans h)

/-- The names of a loop are variables of its body, as far as they are names that scripts can write.
-/
theorem binds_of_isNamed (named : header.IsNamed) : Binds header where
  distinct := named.distinct
  words name mem := by
    have allowed : LoopHeader.isLoopName name := by
      rcases List.mem_pair.1 mem with rfl | rfl
      · exact named.item
      · exact named.index
    obtain ⟨nonempty, word, plain⟩ := LoopHeader.isLoopName_word allowed
    exact ⟨nonempty, word, head_of_isLoopName allowed, plain⟩
  mem_parameters name mem identifier other value count chain store := by
    obtain ⟨hitem, hindex⟩ := get?_bodyScope named
    rcases List.mem_pair.1 mem with rfl | rfl
    · exact mem_parameters_of_get? identifier (LoopHeader.isLoopName_word named.item).2.2 other hitem
    · exact mem_parameters_of_get? identifier (LoopHeader.isLoopName_word named.index).2.2 other
        hindex
  item identifier other value count chain store noConstant :=
    evaluate_of_get? identifier (LoopHeader.isLoopName_word named.item).2.2 other noConstant
      (get?_bodyScope named).1
  index identifier other value count chain store noConstant :=
    evaluate_of_get? identifier (LoopHeader.isLoopName_word named.index).2.2 other noConstant
      (get?_bodyScope named).2
  scope value count chain store := scopeName_not_mem_parameters
  scope_value value count chain store noConstant :=
    evaluate_name (by decide) (by decide) noConstant get?_arguments_scopeName

end Script

/-- **The names of a loop reach its body.** This holds for the loops of an assembled tree, wherever
they are in it. -/
theorem binds_of_assemble {keywords : Keywords} {tokens : List Token} {nodes body : List Node}
    {header : LoopHeader} (h : assemble keywords tokens = .ok nodes)
    (loop : .iteration header body ∈ Node.preorderOfList nodes) : Script.Binds header :=
  Script.binds_of_isNamed (isNamed_of_assemble h loop)

/-- A loop inside a conditional, the item of which hides a key of the outer layer. -/
theorem binds_of_assemble_hiding :
    let tokens : List Token :=
      [⟨.statement Keyword.if_.label, ['p'], {}⟩,
        ⟨.statement Keyword.foreach.label, ['é', ',', 'i', ' ', 'i', 'n', ' ', 'x'], {}⟩,
        ⟨.expression, ['é'], {}⟩, ⟨.statement Keyword.endforeach.label, [], {}⟩,
        ⟨.statement Keyword.endif.label, [], {}⟩]
    let header : LoopHeader := ⟨['é'], ['i'], Script.prepare ['x']⟩
    let body : List Node := [.expression (Script.prepare ['é'])]
    let nodes : List Node := [.conditional [(Script.prepare ['p'], [.iteration header body])] none]
    let store : Script.Store := ⟨#[.dict [(.text ['é'], .int 1)]]⟩
    let entered := Script.enterLoop [0] ['é'] (.int 7) ['i'] 2 store
    assemble {} tokens = .ok nodes ∧ .iteration header body ∈ Node.preorderOfList nodes
      ∧ Script.Binds header
      ∧ Script.evaluate (Script.prepare ['é']) entered.1 entered.2 = .ok (.int 7) entered.2
      ∧ Script.evaluate (Script.prepare ['i']) entered.1 entered.2 = .ok (.int 2) entered.2 := by
  intro tokens header body nodes store entered
  have h : assemble {} tokens = .ok nodes := rfl
  have loop : .iteration header body ∈ Node.preorderOfList nodes := by
    simp [nodes, Node.preorderOfList, Node.preorder, Node.preorderOfBranches]
  have binds : Script.Binds header := binds_of_assemble h loop
  have noConstant : .text Script.constantName
      ∉ (Script.bodyScope header (.int 7) 2 [0] store).keys := by
    rw [Script.text_mem_keys]
    decide
  exact ⟨h, loop, binds, binds.item (by decide) (by decide) (.int 7) 2 [0] store noConstant,
    binds.index (by decide) (by decide) (.int 7) 2 [0] store noConstant⟩

/-- The name for the scope as the item of a loop: the source that consists of it yields the scope. -/
theorem evaluate_item_scopeName :
    let tokens : List Token :=
      [⟨.statement Keyword.foreach.label, Script.scopeName ++ [' ', 'i', 'n', ' ', 'x'], {}⟩,
        ⟨.statement Keyword.endforeach.label, [], {}⟩]
    let header : LoopHeader := ⟨Script.scopeName, LoopHeader.defaultIndex, Script.prepare ['x']⟩
    let entered := Script.enterLoop [0] header.item (.int 7) header.index 0 ⟨#[.dict []]⟩
    assemble {} tokens = .ok [.iteration header []]
      ∧ Script.isName header.item
      ∧ header.item ∉ Script.parameters (entered.2.scope entered.1)
      ∧ Script.evaluate (Script.prepare header.item) entered.1 entered.2
          = .ok (.mapping entered.1) entered.2
      ∧ Script.Value.mapping entered.1 ≠ .int 7 := by
  intro tokens header entered
  have noConstant : .text Script.constantName ∉ (entered.2.scope entered.1).keys := by
    rw [Script.text_mem_keys]
    decide
  exact ⟨rfl, by decide, Script.scopeName_not_mem_parameters,
    Script.evaluate_name (by decide) (by decide) noConstant Script.get?_arguments_scopeName,
    Script.Value.noConfusion⟩

end Stencil
