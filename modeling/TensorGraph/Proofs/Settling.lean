import TensorGraph.Proofs.Shapes

/-!
# Preparing in dependency order

Nodes are prepared in the order of the list. If that is an order of their dependencies, a shape that
has been found is not touched any more: nodes that come later resize other tensors. So after one
pass all nodes are *settled* (`settled_of_prepare`): their outputs have the shapes that their rules
give them. A second pass then changes nothing (`prepare_of_settled`), and a node stays settled as
long as what its rule reads and the shape of its output do not change.
-/

namespace TensorGraph

/-! ## Dependency order -/

section Order

variable {α β : Type} {inputs outputs : α → List Nat} {inputs' outputs' : β → List Nat}

/-- Steps are in dependency order: none reads what it computes itself or what a later one
computes. -/
structure InOrder (inputs outputs : α → List Nat) (steps : List α) : Prop where
  own : ∀ a ∈ steps, ∀ id ∈ inputs a, id ∉ outputs a
  later : steps.Pairwise fun a b => ∀ id ∈ inputs a, id ∉ outputs b

/-- The first step reads nothing that a later one computes. -/
theorem InOrder.head_later {a : α} {steps : List α} (h : InOrder inputs outputs (a :: steps)) :
    ∀ id ∈ inputs a, id ∉ steps.flatMap outputs := by
  intro id inside written
  obtain ⟨b, later, written⟩ := List.mem_flatMap.mp written
  exact (List.pairwise_cons.mp h.later).1 b later id inside written

theorem InOrder.tail {a : α} {steps : List α} (h : InOrder inputs outputs (a :: steps)) :
    InOrder inputs outputs steps :=
  ⟨fun b later => h.own b (List.mem_cons_of_mem _ later), (List.pairwise_cons.mp h.later).2⟩

instance (steps : List α) : Decidable (InOrder inputs outputs steps) :=
  decidable_of_iff (_ ∧ _) ⟨fun ⟨own, later⟩ => ⟨own, later⟩, fun ⟨own, later⟩ => ⟨own, later⟩⟩

/-- Only what the steps read and compute matters. -/
theorem InOrder.of_forall₂ {steps : List α} {steps' : List β} (h : InOrder inputs outputs steps)
    (same : List.Forall₂ (fun a b => inputs a = inputs' b ∧ outputs a = outputs' b) steps steps') :
    InOrder inputs' outputs' steps' := by
  induction same with
  | nil => exact ⟨by simp, .nil⟩
  | @cons a b steps steps' first rest ih =>
      have tail := ih h.tail
      refine ⟨?_, List.pairwise_cons.mpr ⟨?_, tail.later⟩⟩
      · intro c inside
        rcases List.mem_cons.mp inside with rfl | inside
        · rw [← first.1, ← first.2]
          exact h.own a List.mem_cons_self
        · exact tail.own c inside
      · intro c inside id read
        obtain ⟨d, inside', _, outputs⟩ := exists_left_of_forall₂ rest inside
        rw [← first.1] at read
        rw [← outputs]
        exact (List.pairwise_cons.mp h.later).1 d inside' id read

end Order

/-! ## Settled nodes -/

/-- The output of the node may be changed and has the shape that the shape rule gives it. -/
def Node.Settled (g : Graph) (node : Node) : Prop :=
  ∃ output tensor, node.outputs = [output] ∧ g.changeable output = .ok tensor ∧
    Builtin.outputShape g node = .ok tensor.shape

instance (g : Graph) (node : Node) : Decidable (node.Settled g) :=
  decidable_of_iff (∃ output ∈ node.outputs, ∃ tensor ∈ (g.changeable output).toOption,
      node.outputs = [output] ∧ Builtin.outputShape g node = .ok tensor.shape) <| by
    constructor
    · rintro ⟨output, -, tensor, free, outputs, shape⟩
      exact ⟨output, tensor, outputs, toOption_eq_some.mp free, shape⟩
    · rintro ⟨output, tensor, outputs, free, shape⟩
      exact ⟨output, by simp [outputs], tensor, toOption_eq_some.mpr free, outputs, shape⟩

section Settled

variable {g g' : Graph} {node : Node} {nodes : List Node}

/-- A node stays settled if what its shape rule reads and the shape of its output are kept. -/
theorem Node.Settled.of_seesSame (settled : node.Settled g) (same : node.SeesSame g g')
    (kept : ∀ id ∈ node.outputs, g'.shape id = g.shape id) : node.Settled g' := by
  obtain ⟨output, tensor, outputs, free, shape⟩ := settled
  obtain ⟨tensor', free'⟩ := same.frame.changeable_isSome free
  have shapes := kept output (by rw [outputs]; exact List.mem_singleton_self output)
  rw [Graph.shape_of_changeable free, Graph.shape_of_changeable free', Except.ok.injEq] at shapes
  exact ⟨output, tensor', outputs, free', by rw [Builtin.outputShape_congr same, shape, shapes]⟩

/-- Resizing a tensor ends with a tensor of the shape. -/
theorem Graph.resize_eq_some {id : Nat} {shape : Shape}
    (h : (Graph.resize id shape).outcome g = (some (), g')) :
    ∃ tensor, g'.changeable id = .ok tensor ∧ tensor.shape = shape := by
  simp only [Graph.resize, Action.outcome_bind, Action.outcome_get, Action.proceed_some,
    Action.outcome_lift, Action.proceed_toOption] at h
  obtain ⟨tensor, free, h⟩ := h
  split at h
  next same =>
    cases h
    exact ⟨tensor, free, same⟩
  next =>
    simp only [Action.outcome_bind, Action.outcome_record, Action.proceed_some,
      Action.outcome_lift, Action.proceed_toOption, Action.outcome_set, Prod.mk.injEq] at h
    obtain ⟨resized, made, -, rfl⟩ := h
    obtain ⟨entry, found, constant, rfl⟩ := changeable_eq_ok.mp free
    refine ⟨resized, changeable_eq_ok.mpr ⟨{ entry with tensor := resized }, ?_, constant, rfl⟩,
      (Tensor.resize_eq_ok made).2⟩
    rw [getElem?_put, if_pos rfl, found]
    rfl

/-- Where preparing succeeds, the only output has the shape of the rule. -/
theorem Builtin.prepare_eq_some (h : (prepare node).outcome g = (some (), g')) :
    ∃ output tensor, node.outputs = [output] ∧ g'.changeable output = .ok tensor ∧
      outputShape g node = .ok tensor.shape := by
  simp only [prepare, Action.outcome_bind, Action.outcome_get, Action.proceed_some,
    Action.outcome_lift, Action.proceed_toOption, Node.output_eq_ok] at h
  obtain ⟨shape, found, output, out, h⟩ := h
  obtain ⟨output', outputs⟩ := one_output found
  obtain rfl : output' = output := by simpa [outputs] using out
  obtain ⟨tensor, free, rfl⟩ := Graph.resize_eq_some h
  exact ⟨output', tensor, outputs, free, found⟩

/-- Preparing a settled node changes nothing. -/
theorem Node.Settled.prepare (settled : node.Settled g) :
    (Builtin.prepare node).outcome g = (some (), g) := by
  obtain ⟨output, tensor, outputs, free, shape⟩ := settled
  simp [Builtin.prepare, Graph.resize, shape, Node.output, outputs, checked, free]

/-- Preparing settled nodes changes nothing. -/
theorem prepare_of_settled (settled : ∀ node ∈ nodes, node.Settled g) :
    (forM nodes Builtin.prepare).outcome g = (some (), g) :=
  Action.outcome_forM_fixed fun node inside => (settled node inside).prepare

/-- Preparing nodes touches nothing but their outputs. -/
theorem prepare_touches (nodes : List Node) :
    (forM nodes Builtin.prepare).KeepsTo (Graph.Touches (nodes.flatMap Node.outputs)) :=
  .forM fun node inside => (Builtin.prepare_keepsTo node).mono fun _ _ h =>
    h.mono fun _ written => List.mem_flatMap.mpr ⟨node, inside, written⟩

/-- Preparing nodes in the order of their dependencies does not change what the first one sees. -/
theorem seesSame_of_prepare {g₁ : Graph}
    (ordered : InOrder Node.inputs Node.outputs (node :: nodes))
    (first : (Builtin.prepare node).outcome g = (some (), g₁))
    (rest : (forM nodes Builtin.prepare).outcome g₁ = (some (), g')) : node.SeesSame g g' := by
  have touched := (Builtin.prepare_keepsTo node).related first
  have touched' := (prepare_touches nodes).related rest
  have unchanged (id : Nat) (inside : id ∈ node.inputs) : g'.tensors[id]? = g.tensors[id]? := by
    rw [touched'.elsewhere id (ordered.head_later id inside),
      touched.elsewhere id (ordered.own node List.mem_cons_self id inside)]
  refine ⟨touched.toSameFrame.trans touched'.toSameFrame, fun id inside => ?_,
    fun id inside => unchanged id (node.parameterInputs_subset inside)⟩
  exact Graph.shape_congr (unchanged id inside)

/-- Each node of the list is settled, unless a later one computes its output again. -/
def Graph.LastSettled (g : Graph) : List Node → Prop
  | [] => True
  | node :: nodes =>
    (node.outputs ⊆ nodes.flatMap Node.outputs ∨ node.Settled g) ∧ LastSettled g nodes

theorem Graph.LastSettled.of_all (settled : ∀ node ∈ nodes, node.Settled g) :
    g.LastSettled nodes := by
  induction nodes with
  | nil => trivial
  | cons node nodes ih =>
      exact ⟨.inr (settled node List.mem_cons_self),
        ih fun other later => settled other (List.mem_cons_of_mem _ later)⟩

/-- Nodes stay settled while values are filled in that are no parameters. -/
theorem Graph.LastSettled.of_fills {ids : List Nat} (settled : g.LastSettled nodes)
    (filled : Fills ids g g')
    (given : ∀ node ∈ nodes, ∀ id ∈ node.parameterInputs, id ∉ ids) : g'.LastSettled nodes := by
  induction nodes with
  | nil => trivial
  | cons node nodes ih =>
      refine ⟨settled.1.imp_right fun settled => ?_,
        ih settled.2 fun other later => given other (List.mem_cons_of_mem _ later)⟩
      exact settled.of_seesSame (.of_fills filled (given node List.mem_cons_self))
        fun id _ => filled.shape_eq id

/-- Preparing nodes in the order of their dependencies settles the last node that computes a
tensor. -/
theorem lastSettled_of_prepare (ordered : InOrder Node.inputs Node.outputs nodes)
    (done : (forM nodes Builtin.prepare).outcome g = (some (), g')) : g'.LastSettled nodes := by
  induction nodes generalizing g with
  | nil => trivial
  | cons node nodes ih =>
      rw [List.forM_cons, Action.outcome_bind] at done
      obtain ⟨⟨⟩, g₁, first, rest⟩ := Action.proceed_eq_some done
      refine ⟨?_, ih ordered.tail rest⟩
      have same := seesSame_of_prepare ordered first rest
      have touched := (prepare_touches nodes).related rest
      obtain ⟨output, tensor, outputs, free, shape⟩ := Builtin.prepare_eq_some first
      by_cases again : output ∈ nodes.flatMap Node.outputs
      · left
        rw [outputs]
        exact List.cons_subset.mpr ⟨again, List.nil_subset _⟩
      · right
        obtain ⟨tensor', free'⟩ := touched.toSameFrame.changeable_isSome free
        have kept := Graph.shape_of_changeable free
        rw [Graph.shape, Graph.tensor, Graph.entry, ← touched.elsewhere output again] at kept
        have shapes := Except.ok.inj (kept.symm.trans (Graph.shape_of_changeable free'))
        exact ⟨output, tensor', outputs, free',
          by rw [Builtin.outputShape_congr same, shape, shapes]⟩

/-- Preparing nodes in the order of their dependencies settles all of them, provided that nodes with
a common output agree on its shape in the end. -/
theorem settled_of_prepare (ordered : InOrder Node.inputs Node.outputs nodes)
    (agree : ∀ node ∈ nodes, ∀ other ∈ nodes, ∀ id ∈ node.outputs, id ∈ other.outputs →
      ∀ shape shape', Builtin.outputShape g' node = .ok shape →
        Builtin.outputShape g' other = .ok shape' → shape = shape')
    (done : (forM nodes Builtin.prepare).outcome g = (some (), g')) :
    ∀ node ∈ nodes, node.Settled g' := by
  have last := lastSettled_of_prepare ordered done
  induction nodes generalizing g with
  | nil => simp
  | cons node nodes ih =>
      rw [List.forM_cons, Action.outcome_bind] at done
      obtain ⟨⟨⟩, g₁, first, rest⟩ := Action.proceed_eq_some done
      have others := ih ordered.tail (fun a inside b inside' => agree a
        (List.mem_cons_of_mem _ inside) b (List.mem_cons_of_mem _ inside')) rest last.2
      have settled : node.Settled g' := by
        rcases last.1 with again | settled
        · -- a later node has given the output its shape
          obtain ⟨output, tensor, outputs, -, shape⟩ := Builtin.prepare_eq_some first
          rw [← Builtin.outputShape_congr (seesSame_of_prepare ordered first rest)] at shape
          have again : output ∈ nodes.flatMap Node.outputs := again (by simp [outputs])
          obtain ⟨other, inside, written⟩ := List.mem_flatMap.mp again
          obtain ⟨output', tensor', outputs', free', shape'⟩ := others other inside
          obtain rfl : output = output' := by simpa [outputs'] using written
          refine ⟨output, tensor', outputs, free', ?_⟩
          rw [shape, Except.ok.injEq]
          exact agree node List.mem_cons_self other (List.mem_cons_of_mem _ inside) output
            (by simp [outputs]) (by simp [outputs']) _ _ shape shape'
        · exact settled
      intro a inside
      rcases List.mem_cons.mp inside with rfl | inside
      · exact settled
      · exact others a inside

end Settled

end TensorGraph
