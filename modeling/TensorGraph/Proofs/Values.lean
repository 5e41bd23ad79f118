import TensorGraph.Proofs.Kernels
import TensorGraph.Proofs.Shapes

/-!
# The host and the engine agree on values

A captured node that the engine can run has its first input in single precision. If the node is
also well typed, the engine's checks pass, and what remains is the kernel: both sides call the same
one with the same operands (`outcome_evaluate_eq`). The engine succeeds on no other nodes
(`Descriptor.wellTyped_of_evaluate`), so one of its evaluations stands for the type checks that the
host has made before.
-/

namespace TensorGraph

open Substitution (Descriptor Kind)

section

variable {g : Graph} {node : Node} {d : Descriptor}

/-! ## The host -/

theorem outcome_inputType {a : Nat} {type : ElementType} (first : node.inputs[0]? = some a)
    (found : g.type a = .ok type) : (Builtin.inputType node).outcome g = (some type, g) := by
  simp [Builtin.inputType, Node.input, first, found, checked]

/-- The type of the first input decides on the arithmetic of a function of one operand. -/
theorem outcome_evaluateFloatUnary {a : Nat} {type : ElementType}
    {arithmetic : FloatLike type.Element} (first : node.inputs[0]? = some a)
    (found : g.type a = .ok type) (float : type.floatLike? = some arithmetic)
    (kernel : (type : ElementType) → FloatLike type.Element →
      Grid type.Element → Grid type.Element → Written Unit type.Element) :
    (Builtin.evaluateFloatUnary node kernel).outcome g =
      (Builtin.evaluateUnary node type (kernel type arithmetic)).outcome g := by
  simp only [Builtin.evaluateFloatUnary, Action.outcome_bind, outcome_inputType first found,
    Action.proceed_some, Action.outcome_lift, Builtin.floatLike, toOption_require, float]

theorem outcome_evaluateFloatBinary {a : Nat} {type : ElementType}
    {arithmetic : FloatLike type.Element} (first : node.inputs[0]? = some a)
    (found : g.type a = .ok type) (float : type.floatLike? = some arithmetic)
    (kernel : (type : ElementType) → FloatLike type.Element →
      Grid type.Element → Grid type.Element → Grid type.Element →
      Except Fault (Grid type.Element)) :
    (Builtin.evaluateFloatBinary node kernel).outcome g =
      (Builtin.evaluateBinary node type (kernel type arithmetic)).outcome g := by
  simp only [Builtin.evaluateFloatBinary, Action.outcome_bind, outcome_inputType first found,
    Action.proceed_some, Action.outcome_lift, Builtin.floatLike, toOption_require, float]

/-- Sums and products of floating-point numbers are like the other functions of pairs. -/
theorem outcome_evaluateArithmetic {a : Nat} {type : ElementType}
    {arithmetic : FloatLike type.Element} (first : node.inputs[0]? = some a)
    (found : g.type a = .ok type) (float : type.floatLike? = some arithmetic)
    (wrapping : {α : Type} → [Number α] → Grid α → Grid α → Grid α → Except Fault (Grid α))
    (clamped : {α : Type} → [FloatLike α] → ClampRange α →
      Grid α → Grid α → Grid α → Except Fault (Grid α)) :
    (Builtin.evaluateArithmetic node wrapping clamped).outcome g =
      (Builtin.evaluateFloatBinary node fun _ _ =>
        clamped (Builtin.activation node).range).outcome g := by
  rw [Builtin.evaluateArithmetic, Action.outcome_bind, outcome_inputType first found,
    Action.proceed_some]
  cases type
  case f16 | f32 | f64 => rfl
  all_goals cases float

/-! ## Operands -/

/-- Of one operand, the engine runs the kernel that the host runs in single precision. -/
theorem runUnary_eq (h : d.Captures node)
    (kernel : Grid Numeric.Single → Grid Numeric.Single → Written Unit Numeric.Single) :
    d.runUnary kernel = Builtin.evaluateUnary node .f32 kernel := by
  unfold Descriptor.runUnary Builtin.evaluateUnary
  simp only [h.input_eq, h.output_eq]

theorem runBinary_eq (h : d.Captures node)
    (kernel : Grid Numeric.Single → Grid Numeric.Single → Grid Numeric.Single →
      Except Fault (Grid Numeric.Single)) :
    d.runBinary kernel = Builtin.evaluateBinary node .f32 kernel := by
  unfold Descriptor.runBinary Builtin.evaluateBinary
  simp only [h.input_eq, h.output_eq]

/-! ## Kernels -/

/-- The index types that the engine has kernels for. -/
def IndexTyped (g : Graph) (node : Node) : Prop :=
  node.operator = .argMax ∨ node.operator = .argMin → ∃ output type,
    node.outputs[0]? = some output ∧ g.type output = .ok type ∧ (type = .i32 ∨ type = .i64)

theorem outcome_runAddN (h : d.Captures node) (runnable : d.Runnable g) :
    d.runAddN.outcome g = (Builtin.evaluateAddN node).outcome g := by
  obtain ⟨a, first, single⟩ := runnable.first_input h
  simp only [Descriptor.runAddN, Builtin.evaluateAddN, Action.outcome_bind,
    outcome_inputType first single, h.output_eq, h.inputs]
  rfl

theorem outcome_runMatrixProduct (h : d.Captures node) (runnable : d.Runnable g)
    (kind : d.kind = .batchMatMul) :
    d.runMatrixProduct.outcome g = (Builtin.evaluateMatrixProduct node).outcome g := by
  obtain ⟨a, first, single⟩ := runnable.first_input h
  have flags : d.adjoints = .ok (false, true) := by
    rw [Descriptor.adjoints, runnable.adjoint kind]
  have flags' : Builtin.adjoints node = (false, true) :=
    Except.ok.inj ((h.adjoints_eq kind).symm.trans flags)
  have arithmetic : Builtin.floatLike .f32 = .ok inferInstance := rfl
  simp [Descriptor.runMatrixProduct, Builtin.evaluateMatrixProduct,
    outcome_inputType first single, arithmetic, flags, flags', h.output_eq, h.input_eq]

theorem outcome_runArgExtremum (h : d.Captures node) (runnable : d.Runnable g)
    (indices : IndexTyped g node) (kind : d.kind = .argMax ∨ d.kind = .argMin) (largest : Bool) :
    (d.runArgExtremum largest).outcome g =
      (Builtin.evaluateArgExtremum node largest).outcome g := by
  obtain ⟨a, first, single⟩ := runnable.first_input h
  have axis : (d.reductionAxis g).toOption = (Builtin.reductionAxis g node).toOption := by
    ext axis
    rw [toOption_eq_some, toOption_eq_some, reductionAxis_agrees h]
  obtain ⟨output, type, out, found, index⟩ := indices (by
    rw [h.operator]
    rcases kind with kind | kind <;> rw [kind] <;> simp [Kind.operator])
  have out' : node.output 0 = .ok output := Node.output_eq_ok.mpr out
  have number : (ElementType.number? .f32).isSome = true := rfl
  rcases index with rfl | rfl <;>
    simp [Descriptor.runArgExtremum, Builtin.evaluateArgExtremum, outcome_inputType first single,
      axis, number, h.output_eq, h.input_eq, out', found]

theorem outcome_runBatchToSpace (h : d.Captures node) (runnable : d.Runnable g) :
    d.runBatchToSpace.outcome g = (Builtin.evaluateBatchToSpace node).outcome g := by
  obtain ⟨a, first, single⟩ := runnable.first_input h
  have parameters : (d.batchToSpaceParameters g).toOption =
      (Builtin.batchToSpaceParameters g node).toOption := by
    ext parameters
    rw [toOption_eq_some, toOption_eq_some, batchToSpaceParameters_agree h.inputs]
  simp only [Descriptor.runBatchToSpace, Builtin.evaluateBatchToSpace, Action.outcome_bind,
    Action.outcome_get, Action.outcome_lift, Action.proceed_some, outcome_inputType first single,
    parameters, runUnary_eq h]

/-- The engine and the host fill the output alike, once the engine's checks have passed. -/
theorem outcome_run (h : d.Captures node) (runnable : d.Runnable g) (indices : IndexTyped g node) :
    d.run.outcome g = (Builtin.evaluate node).outcome g := by
  obtain ⟨a, first, single⟩ := runnable.first_input h
  have type := outcome_inputType first single
  have unary := outcome_evaluateFloatUnary first single rfl
  have binary := outcome_evaluateFloatBinary first single rfl
  have operator := h.operator
  unfold Descriptor.run Builtin.evaluate
  cases kind : d.kind
  all_goals
    rw [kind] at operator
    simp only [operator, Kind.operator]
  case abs => rw [unary, runUnary_eq h]
  case add =>
    rw [Builtin.evaluateAdd, outcome_evaluateArithmetic first single rfl, binary, runBinary_eq h,
      h.activation_eq]
  case mul =>
    rw [Builtin.evaluateMul, outcome_evaluateArithmetic first single rfl, binary, runBinary_eq h,
      h.activation_eq]
  case atan2 => rw [binary, runBinary_eq h]
  case addN => exact outcome_runAddN h runnable
  case argMax => exact outcome_runArgExtremum h runnable indices (.inl kind) true
  case argMin => exact outcome_runArgExtremum h runnable indices (.inr kind) false
  case averagePool2d =>
    obtain ⟨geometry, activation⟩ := h.poolGeometry_eq (.inl kind)
    simp only [unary, Descriptor.runPool, geometry, activation, runUnary_eq h]
    rfl
  case maxPool2d =>
    obtain ⟨geometry, activation⟩ := h.poolGeometry_eq (.inr kind)
    simp only [unary, Descriptor.runPool, geometry, activation, runUnary_eq h]
    rfl
  case batchMatMul => exact outcome_runMatrixProduct h runnable kind
  case batchToSpaceNd => exact outcome_runBatchToSpace h runnable

/-! ## The engine's checks -/

theorem checkDeclared_eq_ok (h : d.Captures node) (reduction : d.kind = .argMax ∨ d.kind = .argMin)
    {type : ElementType} :
    d.checkDeclared type = .ok () ↔ ∀ declared ∈ Builtin.declaredType? node, declared = type := by
  simp only [Descriptor.checkDeclared, h.declaredType_eq reduction, bind_eq_ok, Except.ok.injEq,
    exists_eq_left']
  cases Builtin.declaredType? node with
  | none => simp
  | some declared =>
      dsimp only
      split <;> simp_all [Descriptor.mismatch]

/-- An output passes if its type is one of the kind, and the declared one of indices. -/
theorem checkOutput_eq_ok (h : d.Captures node) {type : ElementType} :
    d.checkOutput type = .ok () ↔ type ∈ d.kind.outputTypes ∧
      (d.kind = .argMax ∨ d.kind = .argMin →
        ∀ declared ∈ Builtin.declaredType? node, declared = type) := by
  unfold Descriptor.checkOutput
  split
  next inside =>
    rw [and_iff_right inside]
    split
    next kind => simp [kind, checkDeclared_eq_ok h]
    next kind => simp [kind, checkDeclared_eq_ok h]
    next notMax notMin =>
      apply iff_of_true rfl
      intro reduction
      rcases reduction with kind | kind
      · exact absurd kind notMax
      · exact absurd kind notMin
  next outside => simp [outside, Descriptor.mismatch]

theorem checkInput_eq_ok {type : ElementType} :
    d.checkInput type = .ok () ↔ type ∈ d.kind.inputTypes := by
  unfold Descriptor.checkInput
  split
  next inside => exact iff_of_true rfl inside
  next outside => simp [outside, Descriptor.mismatch]

/-- The element types of the first input and of the output pass the engine's checks. -/
def Substitution.Descriptor.Passes (g : Graph) (d : Descriptor) : Prop :=
  ∃ a output type, d.inputs[0]? = some a ∧ g.type a = .ok .f32 ∧ d.outputs[0]? = some output ∧
    g.type output = .ok type ∧ d.checkOutput type = .ok ()

/-- The checks look at element types only. -/
theorem Substitution.Descriptor.Passes.of_sameFrame {g' : Graph} (passes : d.Passes g)
    (frame : Graph.SameFrame g g') : d.Passes g' := by
  obtain ⟨a, output, type, first, single, out, found, check⟩ := passes
  exact ⟨a, output, type, first, by rw [frame.type_eq, single], out,
    by rw [frame.type_eq, found], check⟩

/-- If its checks pass, the engine just runs the kernel. -/
theorem outcome_evaluate_of_passes (passes : d.Passes g) :
    d.evaluate.outcome g = d.run.outcome g := by
  obtain ⟨a, output, type, first, single, out, found, check⟩ := passes
  have first' := Descriptor.primaryInput_eq_ok.mpr first
  have out' := Descriptor.output_eq_ok.mpr out
  have input : d.checkInput .f32 = .ok () := checkInput_eq_ok.mpr (by simp [Kind.inputTypes])
  simp [Descriptor.evaluate, first', single, input, out', found, check]

/-- If they do not, it fails before it changes anything. -/
theorem outcome_evaluate_of_not_passes (refused : ¬ d.Passes g) :
    d.evaluate.outcome g = (none, g) := by
  simp only [Descriptor.evaluate, Action.outcome_bind, Action.outcome_get, Action.proceed_some,
    Action.outcome_lift]
  rcases Action.proceed_toOption_or d.primaryInput g _ with none | ⟨a, first, next⟩
  · exact none
  rw [next]
  rcases Action.proceed_toOption_or (g.type a) g _ with none | ⟨type, found, next⟩
  · exact none
  rw [next]
  rcases Action.proceed_toOption_or (d.checkInput type) g _ with none | ⟨_, check, next⟩
  · exact none
  rw [next]
  rcases Action.proceed_toOption_or d.output g _ with none | ⟨output, out, next⟩
  · exact none
  rw [next]
  rcases Action.proceed_toOption_or (g.type output) g _ with none | ⟨type', found', next⟩
  · exact none
  rw [next]
  rcases Action.proceed_toOption_or (d.checkOutput type') g _ with none | ⟨_, check', next⟩
  · exact none
  have single := checkInput_eq_ok.mp check
  rw [Kind.inputTypes, List.mem_singleton] at single
  subst single
  exact absurd ⟨a, output, type', Descriptor.primaryInput_eq_ok.mp first, found,
    Descriptor.output_eq_ok.mp out, found', check'⟩ refused

/-- On an output of the right type the engine just runs the kernel. -/
theorem outcome_evaluate_of_output {output : Nat} {type : ElementType} (h : d.Captures node)
    (runnable : d.Runnable g) (out : node.outputs[0]? = some output)
    (found : g.type output = .ok type) (passes : d.checkOutput type = .ok ()) :
    d.evaluate.outcome g = d.run.outcome g := by
  obtain ⟨a, first, single⟩ := runnable.first_input h
  exact outcome_evaluate_of_passes ⟨a, output, type, by rw [h.inputs, first], single,
    by rw [h.outputs, out], found, passes⟩

/-- What it takes to evaluate a descriptor: the types pass, and the kernel succeeds. -/
theorem evaluate_eq_some {g' : Graph} : d.evaluate.outcome g = (some (), g') ↔
    ∃ a type output type', d.inputs[0]? = some a ∧ g.type a = .ok type ∧
      type ∈ d.kind.inputTypes ∧ d.outputs[0]? = some output ∧ g.type output = .ok type' ∧
      d.checkOutput type' = .ok () ∧ d.run.outcome g = (some (), g') := by
  simp only [Descriptor.evaluate, Action.outcome_bind, Action.outcome_get, Action.proceed_some,
    Action.outcome_lift, Action.outcome_record, Action.outcome_mapFault, Action.proceed_toOption,
    Descriptor.primaryInput_eq_ok, Descriptor.output_eq_ok]
  constructor
  · rintro ⟨a, first, type, found, _, passes, output, out, type', found', _, passes', ran⟩
    exact ⟨a, type, output, type', first, found, checkInput_eq_ok.mp passes, out, found', passes',
      ran⟩
  · rintro ⟨a, type, output, type', first, found, inside, out, found', passes', ran⟩
    exact ⟨a, first, type, found, (), checkInput_eq_ok.mpr inside, output, out, type', found', (),
      passes', ran⟩

/-- The engine refuses products with other adjoint flags, before it looks at a tensor. -/
theorem outcome_runMatrixProduct_of_ne (other : d.parameters ≠ .batchMatMul false true) :
    d.runMatrixProduct.outcome g = (none, g) := by
  simp only [Descriptor.runMatrixProduct, Action.outcome_bind, Action.outcome_lift]
  cases flags : d.adjoints with
  | error fault => rfl
  | ok adjoints =>
      obtain ⟨adjointX, adjointY⟩ := adjoints
      unfold Descriptor.adjoints at flags
      split at flags
      next block =>
        cases flags
        have unable : adjointX = true ∨ adjointY = false := by
          by_contra able
          simp only [not_or, Bool.not_eq_true, Bool.not_eq_false] at able
          exact other (by rw [block, able.1, able.2])
        simp [unable, Descriptor.unable, refuse]
      next => cases flags

/-- The engine multiplies by adjoint matrices only. -/
theorem adjoint_of_runMatrixProduct {g' : Graph}
    (done : d.runMatrixProduct.outcome g = (some (), g')) :
    d.parameters = .batchMatMul false true := by
  by_contra other
  rw [outcome_runMatrixProduct_of_ne other] at done
  cases done

/-- The engine evaluates nothing that it cannot run. -/
theorem runnable_of_evaluate {g' : Graph} (done : d.evaluate.outcome g = (some (), g')) :
    d.Runnable g := by
  obtain ⟨a, type, _, _, first, found, single, -, -, -, ran⟩ := evaluate_eq_some.mp done
  constructor
  · refine ⟨a, by rw [List.head?_eq_getElem?, first], ?_⟩
    rw [found, List.mem_singleton.mp single]
  · intro product
    rw [Descriptor.run, product] at ran
    exact adjoint_of_runMatrixProduct ran

/-! ## Well-typed nodes -/

theorem mem_typedInputs {a : Nat} (first : node.inputs[0]? = some a)
    (value : node.operator ≠ .argMax ∧ node.operator ≠ .argMin) : a ∈ node.typedInputs := by
  obtain ⟨others, inputs⟩ : ∃ others, node.inputs = a :: others := by
    cases h : node.inputs with
    | nil => simp [h] at first
    | cons b others => simp_all
  unfold Node.typedInputs
  cases operator : node.operator <;> simp_all

/-- The output of a well-typed node that the engine can run passes the engine's check. -/
theorem Builtin.WellTyped.checkOutput (typed : WellTyped g node) (h : d.Captures node)
    (runnable : d.Runnable g) : ∃ output type, node.outputs[0]? = some output ∧
      g.type output = .ok type ∧ d.checkOutput type = .ok () := by
  obtain ⟨a, first, single⟩ := runnable.first_input h
  obtain ⟨output, type, out, found, inputs, indices⟩ := typed
  refine ⟨output, type, out, found, (checkOutput_eq_ok h).mpr ?_⟩
  have operator := h.operator
  by_cases reduction : d.kind = .argMax ∨ d.kind = .argMin
  · have reduction' : node.operator = .argMax ∨ node.operator = .argMin := by
      rcases reduction with kind | kind <;> rw [kind] at operator <;> simp [operator, Kind.operator]
    obtain ⟨index, declared⟩ := indices reduction'
    refine ⟨?_, fun _ => declared⟩
    rcases reduction with kind | kind <;> simpa [kind, Kind.outputTypes] using index
  · have value : node.operator ≠ .argMax ∧ node.operator ≠ .argMin := by
      cases kind : d.kind <;> simp_all [Kind.operator]
    have same := inputs a (mem_typedInputs first value)
    rw [single] at same
    cases same
    refine ⟨?_, fun kind => absurd kind reduction⟩
    cases kind : d.kind <;> simp_all [Kind.outputTypes]

/-- Evaluating a well-typed node comes to the same on the host and in the engine. -/
theorem outcome_evaluate_eq (h : d.Captures node) (runnable : d.Runnable g)
    (typed : Builtin.WellTyped g node) :
    d.evaluate.outcome g = (Builtin.evaluate node).outcome g := by
  obtain ⟨output, type, out, found, passes⟩ := typed.checkOutput h runnable
  rw [outcome_evaluate_of_output h runnable out found passes]
  apply outcome_run h runnable
  intro reduction
  obtain ⟨output', type', out', found', -, indices⟩ := typed
  exact ⟨output', type', out', found', (indices reduction).1⟩

/-- On graphs with the same types the engine either does what the host does, or fails before it
changes anything. -/
theorem outcome_evaluate_eq_or_none (h : d.Captures node) :
    (∀ g', Graph.SameFrame g g' → d.evaluate.outcome g' = (Builtin.evaluate node).outcome g') ∨
      ∀ g', Graph.SameFrame g g' → d.evaluate.outcome g' = (none, g') := by
  by_cases passes : d.Passes g
  · by_cases adjoint : d.kind = .batchMatMul → d.parameters = .batchMatMul false true
    · refine .inl fun g' frame => ?_
      have passes' := passes.of_sameFrame frame
      rw [outcome_evaluate_of_passes passes']
      obtain ⟨a, output, type, first, single, out, found, check⟩ := passes'
      refine outcome_run h ⟨⟨a, by rw [List.head?_eq_getElem?, first], single⟩, adjoint⟩ ?_
      intro reduction
      refine ⟨output, type, h.outputs ▸ out, found, ?_⟩
      have inside := ((checkOutput_eq_ok h).mp check).1
      rw [h.operator] at reduction
      cases kind : d.kind <;> rw [kind] at reduction inside <;>
        simp_all [Kind.operator, Kind.outputTypes]
    · rw [Classical.not_imp] at adjoint
      obtain ⟨kind, other⟩ := adjoint
      refine .inr fun g' frame => ?_
      rw [outcome_evaluate_of_passes (passes.of_sameFrame frame), Descriptor.run, kind]
      exact outcome_runMatrixProduct_of_ne other
  · exact .inr fun g' frame =>
      outcome_evaluate_of_not_passes fun passes' => passes (passes'.of_sameFrame frame.symm)

/-- The operands of a kernel are read from a graph with the same types. -/
theorem operands_of_computing {g' : Graph} {α : Type} {output : Except Fault Nat}
    {type : ElementType} {a : α}
    {prepare : Graph → Except Fault (Grid type.Element → Written α type.Element)}
    (done : (do Graph.computing (← output) type prepare : Action Graph α).outcome g =
      (some a, g')) :
    ∃ seen kernel, (∀ id, seen.type id = g.type id) ∧ prepare seen = .ok kernel := by
  simp only [Action.outcome_bind, Action.outcome_lift, Action.proceed_toOption] at done
  obtain ⟨id, -, done⟩ := done
  obtain ⟨grid, kernel, free, -, prepared, -⟩ := Graph.computing_eq_some.mp done
  exact ⟨_, kernel, (Graph.sameFrame_put_empty free).type_eq, prepared⟩

/-- The engine finds out the type of the second operand when it reads it. -/
theorem type_of_runBinary {g' : Graph}
    {kernel : Grid Numeric.Single → Grid Numeric.Single → Grid Numeric.Single →
      Except Fault (Grid Numeric.Single)} (done : (d.runBinary kernel).outcome g = (some (), g')) :
    ∃ b, d.inputs[1]? = some b ∧ g.type b = .ok .f32 := by
  obtain ⟨seen, _, same, prepared⟩ := operands_of_computing done
  simp only [bind_eq_ok, Descriptor.input_eq_ok] at prepared
  obtain ⟨_, _, _, _, b, second, grid, found, -⟩ := prepared
  exact ⟨b, second, by rw [← same, Graph.type_of_view found]⟩

theorem types_of_runAddN {g' : Graph} (done : d.runAddN.outcome g = (some (), g')) :
    ∀ id ∈ d.inputs, g.type id = .ok .f32 := by
  obtain ⟨seen, _, same, prepared⟩ := operands_of_computing done
  simp only [bind_eq_ok, mapM_eq_ok] at prepared
  obtain ⟨grids, found, -⟩ := prepared
  intro id inside
  obtain ⟨grid, _, found⟩ := exists_right_of_forall₂ found inside
  rw [← same, Graph.type_of_view found]

/-- Where a kernel has run, all inputs that the host compares are in single precision. -/
theorem single_of_run {g' : Graph} (h : d.Captures node) (runnable : d.Runnable g)
    (done : d.run.outcome g = (some (), g')) : ∀ id ∈ node.typedInputs, g.type id = .ok .f32 := by
  obtain ⟨a, first, single⟩ := runnable.first_input h
  obtain ⟨a', others, inputs, inputs'⟩ := h.some_inputs
  obtain rfl : a' = a := by simpa [inputs] using first
  have operator := h.operator
  have binary {kernel : Grid Numeric.Single → Grid Numeric.Single → Grid Numeric.Single →
      Except Fault (Grid Numeric.Single)} (done : (d.runBinary kernel).outcome g = (some (), g')) :
      ∀ id ∈ node.inputs.take 2, g.type id = .ok .f32 := by
    obtain ⟨b, second, found⟩ := type_of_runBinary done
    cases others <;> simp_all
  unfold Node.typedInputs
  unfold Descriptor.run at done
  cases kind : d.kind
  all_goals
    rw [kind] at operator done
    simp only [operator, Kind.operator]
  case add => exact binary done
  case mul => exact binary done
  case atan2 => exact binary done
  case addN =>
    rw [← h.inputs]
    exact types_of_runAddN done
  all_goals simp [inputs, single]

/-- Evaluating a descriptor stands for all type checks that the host makes when it prepares the
node. -/
theorem Builtin.wellTyped_of_evaluate {g' : Graph} (h : d.Captures node)
    (done : d.evaluate.outcome g = (some (), g')) : WellTyped g node := by
  obtain ⟨_, _, output, type, -, -, -, out, found, passes, ran⟩ := evaluate_eq_some.mp done
  rw [h.outputs] at out
  obtain ⟨inside, declared⟩ := (checkOutput_eq_ok h).mp passes
  have operator := h.operator
  by_cases reduction : d.kind = .argMax ∨ d.kind = .argMin
  · refine ⟨output, type, out, found, fun id mem => ?_, fun _ => ⟨?_, declared reduction⟩⟩
    · rcases reduction with kind | kind <;> rw [kind] at operator <;>
        simp [Node.typedInputs, operator, Kind.operator] at mem
    · rcases reduction with kind | kind <;> simpa [kind, Kind.outputTypes] using inside
  · have single := single_of_run h (runnable_of_evaluate done) ran
    obtain rfl : type = .f32 := by
      cases kind : d.kind <;> simp_all [Kind.outputTypes]
    refine ⟨output, .f32, out, found, single, fun indices => absurd ?_ reduction⟩
    cases kind : d.kind <;> simp_all [Kind.operator]

end

end TensorGraph
