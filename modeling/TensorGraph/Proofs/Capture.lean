import TensorGraph.Interpreter
import TensorGraph.Proofs.Frame

/-!
# What a descriptor knows of its node

Capturing a node copies its tensors and decodes its parameter block. The host decodes the block as
well, every time it needs a parameter. Both ways lead to the same parameters, as far as the engine
uses them: that is what the lemmas about `Descriptor.Captures` say.

The engine runs a captured node if the first input is in single precision and a matrix product has
the adjoint flags that its kernel is made for (`Descriptor.Runnable`). It supports no other nodes.
-/

namespace TensorGraph.Substitution

/-- A kind stands for one operator, and no other kind does. -/
theorem Kind.ofOperator?_eq_some {operator : Operator} {kind : Kind} :
    Kind.ofOperator? operator = some kind ↔ operator = kind.operator := by
  constructor
  · intro h
    cases operator <;> cases h <;> rfl
  · rintro rfl
    exact Kind.ofOperator?_operator kind

/-- Every kind reads something. -/
theorem Arity.pos_of_accepts {kind : Kind} {n : Nat} (h : kind.inputArity.accepts n = true) :
    0 < n := by
  cases kind <;> simp [Kind.inputArity, Arity.accepts] at h <;> omega

namespace Descriptor

@[simp] theorem input_eq_ok {d : Descriptor} {i id : Nat} :
    d.input i = .ok id ↔ d.inputs[i]? = some id := checked_eq_ok

@[simp] theorem primaryInput_eq_ok {d : Descriptor} {id : Nat} :
    d.primaryInput = .ok id ↔ d.inputs[0]? = some id := checked_eq_ok

@[simp] theorem output_eq_ok {d : Descriptor} {id : Nat} :
    d.output = .ok id ↔ d.outputs[0]? = some id := by
  rw [← List.head?_eq_getElem?]
  exact checked_eq_ok

@[simp] theorem shapeOf_eq_ok {g : Graph} {id : Nat} {shape : Shape} :
    shapeOf g id = .ok shape ↔ g.shape id = .ok shape := during_eq_ok

/-! ## Captured nodes -/

/-- The descriptor is the one of the node. -/
structure Captures (d : Descriptor) (node : Node) : Prop where
  operator : node.operator = d.kind.operator
  inputs : d.inputs = node.inputs
  outputs : d.outputs = node.outputs
  inputArity : d.kind.inputArity.accepts node.inputs.length = true
  outputArity : node.outputs.length = d.kind.outputArity
  decoded : decode? d.kind node.parameters = some (d.activation, d.parameters)

theorem malformed_eq_ok {α : Type} {problem : GraphMalformation} {a : α} :
    malformed problem = .ok a ↔ False := refuse_eq_ok

theorem ofNode_eq_ok {node : Node} {d : Descriptor} : ofNode node = .ok d ↔ d.Captures node := by
  -- operator, numbers of inputs and outputs, and parameters are looked at in this order
  unfold ofNode
  cases found : Kind.ofOperator? node.operator with
  | none =>
      constructor
      · intro h
        cases h
      · intro captures
        rw [captures.operator, Kind.ofOperator?_operator] at found
        cases found
  | some kind =>
      rw [Kind.ofOperator?_eq_some] at found
      simp only [bind_eq_ok, Except.ok.injEq, exists_eq_left']
      constructor
      · intro h
        split at h
        · simp only [bind_eq_ok, malformed_eq_ok, false_and, exists_false] at h
        next arity =>
          simp only [not_or, Bool.not_eq_false, ne_eq, Decidable.not_not] at arity
          split at h
          next decoded =>
            cases h
            exact ⟨found, rfl, rfl, arity.1, arity.2, decoded⟩
          · simp only [malformed_eq_ok] at h
          · cases h
      · rintro ⟨operator, inputs, outputs, inputArity, outputArity, decoded⟩
        obtain rfl : kind = d.kind := by
          rw [found] at operator
          have same := congrArg Kind.ofOperator? operator
          rwa [Kind.ofOperator?_operator, Kind.ofOperator?_operator, Option.some.injEq] at same
        rw [if_neg (by simp [inputArity, outputArity]), decoded]
        simp [← inputs, ← outputs]

section Captures

variable {d : Descriptor} {node : Node}

theorem Captures.activation_eq (h : d.Captures node) : d.activation = Builtin.activation node := by
  obtain ⟨kind, activation, parameters, inputs, outputs⟩ := d
  have decoded := h.decoded
  unfold Builtin.activation
  cases block : node.parameters with
  | none =>
      simp only [block, decode?, Option.some.injEq, Prod.mk.injEq] at decoded
      exact decoded.1.symm
  | some p =>
      rw [block] at decoded
      cases kind <;> cases p <;> cases decoded <;> rfl

/-- Both read the windows of a pooling node alike. -/
theorem Captures.poolGeometry_eq (h : d.Captures node)
    (pooling : d.kind = .averagePool2d ∨ d.kind = .maxPool2d) :
    d.poolGeometry = .ok (Builtin.poolParameters node).geometry ∧
      d.activation = (Builtin.poolParameters node).activation := by
  obtain ⟨kind, activation, parameters, inputs, outputs⟩ := d
  have decoded := h.decoded
  unfold Builtin.poolParameters
  cases block : node.parameters with
  | none =>
      rw [block] at decoded
      rcases pooling with rfl | rfl <;> cases decoded <;> exact ⟨rfl, rfl⟩
  | some p =>
      rw [block] at decoded
      rcases pooling with rfl | rfl <;> cases p <;> cases decoded <;> exact ⟨rfl, rfl⟩

/-- Both read the adjoint flags of a matrix product alike. -/
theorem Captures.adjoints_eq (h : d.Captures node) (product : d.kind = .batchMatMul) :
    d.adjoints = .ok (Builtin.adjoints node) := by
  obtain ⟨kind, activation, parameters, inputs, outputs⟩ := d
  have decoded := h.decoded
  unfold Builtin.adjoints
  cases block : node.parameters with
  | none =>
      rw [block] at decoded
      cases product
      cases decoded
      rfl
  | some p =>
      rw [block] at decoded
      cases product
      cases p <;> cases decoded
      rfl

/-- Both read the declared index type alike. -/
theorem Captures.declaredType_eq (h : d.Captures node)
    (reduction : d.kind = .argMax ∨ d.kind = .argMin) :
    d.declaredType = .ok (Builtin.declaredType? node) := by
  obtain ⟨kind, activation, parameters, inputs, outputs⟩ := d
  have decoded := h.decoded
  unfold Builtin.declaredType?
  cases block : node.parameters with
  | none =>
      rw [block] at decoded
      rcases reduction with rfl | rfl <;> cases decoded <;> rfl
  | some p =>
      rw [block] at decoded
      rcases reduction with rfl | rfl <;> cases p <;> cases decoded <;> rfl

theorem Captures.input_eq (h : d.Captures node) (i : Nat) : d.input i = node.input i := by
  rw [Descriptor.input, Node.input, h.inputs]

theorem Captures.output_eq (h : d.Captures node) : d.output = node.output 0 := by
  rw [Descriptor.output, Node.output, h.outputs, List.head?_eq_getElem?]

/-! The numbers of tensors of a captured node are those of its kind. -/

/-- A captured node computes one tensor. -/
theorem Captures.one_output (h : d.Captures node) :
    ∃ output, node.outputs = [output] ∧ d.outputs = [output] := by
  obtain ⟨output, outputs⟩ := List.length_eq_one_iff.mp h.outputArity
  exact ⟨output, outputs, h.outputs.trans outputs⟩

theorem Captures.some_inputs (h : d.Captures node) :
    ∃ a others, node.inputs = a :: others ∧ d.inputs = a :: others := by
  obtain ⟨a, others, inputs⟩ := List.exists_cons_of_length_pos (Arity.pos_of_accepts h.inputArity)
  exact ⟨a, others, inputs, h.inputs.trans inputs⟩

theorem Captures.input_count {n : Nat} (h : d.Captures node)
    (arity : d.kind.inputArity = .exactly n) : node.inputs.length = n := by
  have accepted := h.inputArity
  rw [arity] at accepted
  exact beq_iff_eq.mp accepted

theorem Captures.one_input (h : d.Captures node) (arity : d.kind.inputArity = .exactly 1) :
    ∃ a, node.inputs = [a] ∧ d.inputs = [a] := by
  obtain ⟨a, inputs⟩ := List.length_eq_one_iff.mp (h.input_count arity)
  exact ⟨a, inputs, h.inputs.trans inputs⟩

theorem Captures.two_inputs (h : d.Captures node) (arity : d.kind.inputArity = .exactly 2) :
    ∃ a b, node.inputs = [a, b] ∧ d.inputs = [a, b] := by
  obtain ⟨a, b, inputs⟩ := List.length_eq_two.mp (h.input_count arity)
  exact ⟨a, b, inputs, h.inputs.trans inputs⟩

theorem Captures.three_inputs (h : d.Captures node) (arity : d.kind.inputArity = .exactly 3) :
    ∃ a b c, node.inputs = [a, b, c] ∧ d.inputs = [a, b, c] := by
  obtain ⟨a, b, c, inputs⟩ := List.length_eq_three.mp (h.input_count arity)
  exact ⟨a, b, c, inputs, h.inputs.trans inputs⟩

end Captures

/-! ## Supported nodes -/

/-- The engine can run the descriptor: it is in single precision, and a product has the only flags
that its kernel knows. -/
structure Runnable (g : Graph) (d : Descriptor) : Prop where
  single : ∃ id, d.inputs.head? = some id ∧ g.type id = .ok .f32
  adjoint : d.kind = .batchMatMul → d.parameters = .batchMatMul false true

/-- What the engine can run reads single precision first. -/
theorem Runnable.first_input {g : Graph} {d : Descriptor} {node : Node} (runnable : d.Runnable g)
    (h : d.Captures node) : ∃ a, node.inputs[0]? = some a ∧ g.type a = .ok .f32 := by
  obtain ⟨a, first, single⟩ := runnable.single
  rw [h.inputs, List.head?_eq_getElem?] at first
  exact ⟨a, first, single⟩

def Replaces (g : Graph) (d : Descriptor) (id : Nat) : Prop :=
  ∃ node, g.nodes[id]? = some node ∧ d.Captures node ∧ d.Runnable g

theorem Runnable.of_sameFrame {g g' : Graph} {d : Descriptor}
    (h : d.Runnable g) (frame : Graph.SameFrame g g') : d.Runnable g' := by
  obtain ⟨id, first, single⟩ := h.single
  exact ⟨⟨id, first, by rw [frame.type_eq, single]⟩, h.adjoint⟩

theorem Replaces.of_sameFrame {g g' : Graph} {d : Descriptor} {id : Nat}
    (h : d.Replaces g id) (frame : Graph.SameFrame g g') : d.Replaces g' id := by
  obtain ⟨node, found, captures, runnable⟩ := h
  exact ⟨node, by rw [frame.nodes, found], captures, runnable.of_sameFrame frame⟩

end Descriptor

/-- What the engine supports it can run, once it is captured. -/
theorem runnable_of_supports {options : Options} {g : Graph} {id : Nat} {node : Node}
    {d : Descriptor} (supported : supports options g id = true) (found : g.nodes[id]? = some node)
    (captures : d.Captures node) : d.Runnable g := by
  unfold supports rejection? at supported
  rw [found] at supported
  simp only [captures.operator, Kind.ofOperator?_operator] at supported
  obtain ⟨primary, others, inputs⟩ := List.exists_cons_of_length_pos
    (Arity.pos_of_accepts captures.inputArity)
  -- each branch but the last one is a reason not to support the node
  split at supported
  · cases supported
  split at supported
  · cases supported
  rw [inputs, List.headD_cons] at supported
  split at supported
  · cases supported
  next entry present =>
    split at supported
    · cases supported
    next single =>
      simp only [Kind.inputTypes, List.mem_singleton, Decidable.not_not] at single
      constructor
      · refine ⟨primary, by rw [captures.inputs, inputs]; rfl, ?_⟩
        exact Graph.type_eq_ok.mpr ⟨entry, present, single⟩
      · intro product
        have decoded := captures.decoded
        rw [if_pos product] at supported
        split at supported
        next block =>
          rw [block, product] at decoded
          simp only [Descriptor.decode?, Option.some.injEq, Prod.mk.injEq] at decoded
          exact decoded.2.symm
        all_goals cases supported

/-! ## Captured regions -/

/-- A node is captured if there is one and its operator, parameters and numbers of tensors are those
of a kind. -/
theorem Region.outcome_captureNode {g : Graph} {id : Nat} {d : Descriptor} :
    (Region.captureNode g id).outcome () = (some d, ()) ↔
      ∃ node, g.nodes[id]? = some node ∧ d.Captures node := by
  unfold Region.captureNode
  cases found : g.nodes[id]? with
  | none => simp [Descriptor.malformed]
  | some node =>
      simp only [Action.outcome_bind, Action.outcome_lift, Action.outcome_record,
        Action.outcome_pure, Action.proceed_some, Option.some.injEq, exists_eq_left',
        ← Descriptor.ofNode_eq_ok, ← toOption_eq_some]
      cases (Descriptor.ofNode node).toOption <;> simp

/-- The descriptors of a captured region are those of its nodes, one by one. -/
theorem Region.outcome_capture {g : Graph} {nodes : List Nat} {region : Region} :
    (Region.capture g nodes).outcome () = (some region, ()) ↔
      region.nodes = nodes ∧ List.Forall₂
        (fun id d => ∃ node, g.nodes[id]? = some node ∧ d.Captures node)
        nodes region.descriptors := by
  simp only [← Region.outcome_captureNode, ← Action.outcome_mapM_eq_some]
  unfold Region.capture
  simp only [Action.outcome_bind, Action.outcome_record, Action.outcome_pure, Action.proceed_some]
  obtain ⟨descriptors, captured⟩ := region
  rcases (nodes.mapM (Region.captureNode g)).outcome () with ⟨_ | found, ⟨⟩⟩
  · simp
  · simp [eq_comm, and_comm]

end TensorGraph.Substitution
