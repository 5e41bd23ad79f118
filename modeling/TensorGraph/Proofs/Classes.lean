import TensorGraph.Proofs.Capture
import TensorGraph.Proofs.Foreign
import TensorGraph.Proofs.Values

/-!
# Classes of the engine's failures

Capturing a region, inferring its shapes and evaluating it put the engine's own reasons around what
kernels and tensors report, so the failures have a class. `Substitution.failures_classified` says
which: malformed graphs when a region is captured, shapes when they are inferred, and one of the
three others when a region is evaluated.

There is one gap. Before a descriptor is evaluated, the element types of its first input and of its
output are looked up, and if one of these tensors does not exist, the graph's own failure is what
comes out (`Region.stray_unclassified`). Such descriptors are called `Dangling`; nothing else is
left without a class.
-/

namespace TensorGraph

open Substitution (Descriptor Region FailureClass)

/-! ## The engine -/

namespace Substitution

section Shapes

open Fault (OfClass Foreign)

variable {g : Graph} {d : Descriptor} {node : Node} {α : Type}

@[simp] theorem ofClass_shapeReason {problem : ShapeProblem} :
    OfClass [.shape] (.of (shapeReason problem)) := by
  simp [shapeReason, EngineFailure.category]

/-- Whatever goes wrong during the work on a shape is a shape failure. -/
@[simp] theorem ofClass_during_shape (problem : ShapeProblem) (e : Except Fault α) :
    FailsWith (OfClass [.shape]) (during (shapeReason problem) e) := by
  rw [failsWith_during]
  intro fault _
  simp [shapeReason, EngineFailure.category]

@[simp] theorem Descriptor.ofClass_shapeOf (id : Nat) :
    FailsWith (OfClass [.shape]) (Descriptor.shapeOf g id) := ofClass_during_shape _ _

@[simp] theorem Descriptor.ofClass_integersOf (id : Nat) :
    FailsWith (OfClass [.shape]) (Descriptor.integersOf g id) := ofClass_during_shape _ _

@[simp] theorem Descriptor.ofClass_input (i : Nat) : FailsWith (OfClass [.shape]) (d.input i) := by
  simp [Descriptor.input]

@[simp] theorem Descriptor.ofClass_output : FailsWith (OfClass [.shape]) d.output := by
  simp [Descriptor.output]

/-- An axis that is not found is a shape failure. -/
theorem Descriptor.ofClass_reductionAxis : FailsWith (OfClass [.shape]) (d.reductionAxis g) := by
  simp only [Descriptor.reductionAxis, Descriptor.primaryInput, failsWith_bind,
    Descriptor.ofClass_input, Descriptor.ofClass_shapeOf, Descriptor.ofClass_integersOf, true_and]
  intros
  split <;> simp

theorem Descriptor.ofClass_batchToSpaceParameters :
    FailsWith (OfClass [.shape]) (d.batchToSpaceParameters g) := by
  simp [Descriptor.batchToSpaceParameters, Descriptor.primaryInput]

theorem Descriptor.ofClass_wovenExtent {axis extent block : Nat} {crop : Nat × Nat} :
    FailsWith (OfClass [.shape]) (Descriptor.wovenExtent axis extent block crop) := by
  unfold Descriptor.wovenExtent
  split
  · simp
  · split <;> simp

/-- Batches that can not be woven are a shape failure. -/
theorem Descriptor.ofClass_batchToSpaceShape :
    FailsWith (OfClass [.shape]) (d.batchToSpaceShape g) := by
  simp only [Descriptor.batchToSpaceShape, Descriptor.primaryInput, failsWith_bind,
    Descriptor.ofClass_batchToSpaceParameters, true_and]
  intro parameters _
  simp only [Descriptor.ofClass_input, Descriptor.ofClass_shapeOf, true_and, failsWith_require,
    ofClass_shapeReason, or_true, failsWith_checked, Fault.ofClass_aborted]
  intros
  split
  · simp
  · simp only [failsWith_bind, failsWith_ensure, ofClass_shapeReason, or_true, true_and,
      failsWith_pure, implies_true, and_true]
    intros
    refine failsWith_mapM fun axis _ => ?_
    simp [Descriptor.ofClass_wovenExtent]

/-- Where an output shape can not be found, that is a shape failure. -/
theorem Descriptor.Captures.ofClass_outputShape (h : d.Captures node) :
    FailsWith (OfClass [.shape]) (d.outputShape g) := by
  simp only [Descriptor.outputShape, Descriptor.primaryInput, failsWith_bind,
    Descriptor.ofClass_input, Descriptor.ofClass_shapeOf, true_and]
  intros
  split
  next => simp
  next => simp
  next => simp
  next => simp
  next =>
    simp only [failsWith_bind, failsWith_pure, implies_true, and_true]
    refine failsWith_forM fun id _ => ?_
    simp
  next => simp [Descriptor.ofClass_reductionAxis]
  next => simp [Descriptor.ofClass_reductionAxis]
  next kind => simp [h.poolGeometry_eq (.inl kind)]
  next kind => simp [h.poolGeometry_eq (.inr kind)]
  next kind => simp [h.adjoints_eq kind]
  next => exact Descriptor.ofClass_batchToSpaceShape

/-- All that goes wrong in inferring a shape is a shape failure. -/
theorem Descriptor.Captures.ofClass_infer (h : d.Captures node) :
    d.infer.FailsWith (OfClass [.shape]) := by
  refine .bind .get fun g => .bind (.lift h.ofClass_outputShape) fun shape =>
    .bind (.lift Descriptor.ofClass_output) fun output => .bind (.record _) fun _ => ?_
  intro g
  rw [Action.ending_during]
  exact ofClass_during_shape _ _

end Shapes

section Values

open Fault (OfClass Foreign)

variable {g : Graph} {d : Descriptor} {node : Node} {α : Type}

/-- A graph that refuses a change does so in its own words. -/
theorem foreign_changeable (g : Graph) (id : Nat) : FailsWith Foreign (g.changeable id) := by
  simp [Graph.changeable, Graph.entry]

/-- Filling a tensor fails with a fault of its kernel, or with one that is not the engine's. -/
theorem foreign_computing {id : Nat} {type : ElementType}
    {prepare : Graph → Except Fault (Grid type.Element → Written α type.Element)}
    (operands : ∀ g, FailsWith Foreign (prepare g))
    (kernels : ∀ g kernel, prepare g = .ok kernel → ∀ grid, FailsWith Foreign (kernel grid).1) :
    (Graph.computing id type prepare).FailsWith Foreign := by
  refine .bind .get fun g => .bind (.lift (foreign_changeable g id)) fun tensor =>
    .bind (.set _) fun _ => .lift ?_
  cases prepared : prepare (g.put id (Tensor.empty tensor.type)) with
  | error fault => exact failsWith_error.mpr (operands _ fault prepared)
  | ok kernel =>
      dsimp only
      unfold Tensor.update
      cases seen : tensor.view type with
      | error fault => exact failsWith_error.mpr (foreign_view fault seen)
      | ok grid => exact kernels _ kernel prepared grid

theorem foreign_operand (g : Graph) (id : Nat) (type : ElementType) :
    FailsWith Foreign (g.view id type) := by
  simp [Graph.view]

theorem foreign_operand_bind {i : Nat} {type : ElementType}
    {next : Grid type.Element → Except Fault α} (h : ∀ grid, FailsWith Foreign (next grid)) :
    FailsWith Foreign (d.input i >>= fun id => g.view id type >>= next) := by
  simp only [failsWith_bind]
  exact ⟨by simp [Descriptor.input], fun id _ => ⟨foreign_operand g id type, fun grid _ => h grid⟩⟩

/-- A kernel run by the engine fails in its own words. -/
theorem foreign_runUnary
    {kernel : Grid Numeric.Single → Grid Numeric.Single → Written Unit Numeric.Single}
    (foreign : ∀ input output, FailsWith Foreign (kernel input output).1) :
    (d.runUnary kernel).FailsWith Foreign := by
  refine .bind (.lift (by simp [Descriptor.output])) fun id => foreign_computing ?_ ?_
  · exact fun g => foreign_operand_bind fun _ => failsWith_pure _
  · intro g kernel' prepared output
    simp only [bind_eq_ok, pure_eq_ok] at prepared
    obtain ⟨_, _, input, _, rfl⟩ := prepared
    exact foreign input output

theorem foreign_runBinary
    {kernel : Grid Numeric.Single → Grid Numeric.Single → Grid Numeric.Single →
      Except Fault (Grid Numeric.Single)}
    (foreign : ∀ a b output, FailsWith Foreign (kernel a b output)) :
    (d.runBinary kernel).FailsWith Foreign := by
  refine .bind (.lift (by simp [Descriptor.output])) fun id => foreign_computing ?_ ?_
  · exact fun g => foreign_operand_bind fun _ => foreign_operand_bind fun _ => failsWith_pure _
  · intro g kernel' prepared output
    simp only [bind_eq_ok, pure_eq_ok] at prepared
    obtain ⟨_, _, a, _, _, _, b, _, rfl⟩ := prepared
    exact foreign_overwrite (foreign a b output)

theorem foreign_runAddN : d.runAddN.FailsWith Foreign := by
  refine .bind (.lift (by simp [Descriptor.output])) fun id => foreign_computing ?_ ?_
  · intro g
    simp only [failsWith_bind, failsWith_pure, implies_true, and_true]
    exact failsWith_mapM fun id _ => foreign_operand g id .f32
  · intro g kernel prepared output
    simp only [bind_eq_ok, pure_eq_ok] at prepared
    obtain ⟨inputs, _, rfl⟩ := prepared
    exact foreign_overwrite foreign_addN

/-- A fault of a kernel: not the engine's, or the engine's and then about shapes or the
evaluation. -/
def OfKernel (fault : Fault) : Prop := fault.Foreign ∨ OfClass [.shape, .evaluation] fault

/-- Foreign faults are allowed in kernels. -/
theorem ofKernel_of_foreign {fault : Fault} (h : fault.Foreign) : OfKernel fault := .inl h

theorem ofKernel_of_shape {fault : Fault} (h : OfClass [.shape] fault) : OfKernel fault := by
  refine .inr fun failure failed => ?_
  obtain ⟨c, inside, found⟩ := h failure failed
  exact ⟨c, List.mem_cons.mpr (.inl (List.mem_singleton.mp inside)), found⟩

/-- Looking for the axis may fail with a shape, and the kernel in its own words. -/
theorem ofKernel_runArgExtremum (largest : Bool) :
    (d.runArgExtremum largest).FailsWith OfKernel := by
  have axis (g : Graph) : FailsWith OfKernel (d.reductionAxis g) :=
    Descriptor.ofClass_reductionAxis.mono fun _ => ofKernel_of_shape
  have output : FailsWith OfKernel d.output := by simp [Descriptor.output, OfKernel]
  refine .bind .get fun g => .bind (.lift (axis g)) fun axis => .bind (.lift output) fun id => ?_
  refine .mono (P := Foreign) ?_ fun _ => ofKernel_of_foreign
  refine .bind (.lift (by simp [Graph.type])) fun type => foreign_computing ?_ ?_
  · exact fun g => foreign_operand_bind fun _ => failsWith_pure _
  · intro g kernel prepared output
    simp only [bind_eq_ok, pure_eq_ok] at prepared
    obtain ⟨_, _, input, _, rfl⟩ := prepared
    exact foreign_argExtremum

theorem Descriptor.Captures.ofKernel_runMatrixProduct (h : d.Captures node)
    (kind : d.kind = .batchMatMul) : d.runMatrixProduct.FailsWith OfKernel := by
  have product : (do
      let geometry ← Graph.computing (← d.output) .f32 fun g => do
        let a ← g.view (← d.input 0) .f32
        let b ← g.view (← d.input 1) .f32
        return Kernel.batchMatMul false true a b
      Action.record (.multiplying geometry false true) : Action Graph Unit).FailsWith Foreign := by
    refine .bind (.lift (by simp [Descriptor.output])) fun id =>
      .bind (foreign_computing ?_ ?_) fun _ => .record _
    · exact fun g => foreign_operand_bind fun _ => foreign_operand_bind fun _ => failsWith_pure _
    · intro g kernel prepared output
      simp only [bind_eq_ok, pure_eq_ok] at prepared
      obtain ⟨_, _, a, _, _, _, b, _, rfl⟩ := prepared
      exact foreign_batchMatMul
  have product := product.mono fun _ => ofKernel_of_foreign
  refine .bind (.lift (by simp [h.adjoints_eq kind])) fun adjoints => ?_
  obtain ⟨adjointX, adjointY⟩ := adjoints
  dsimp only
  split
  · refine .bind (.lift ?_) fun _ => product
    simp [unable, OfKernel, EngineFailure.category]
  · exact product

theorem Descriptor.Captures.ofKernel_runPool (h : d.Captures node)
    (kind : d.kind = .averagePool2d ∨ d.kind = .maxPool2d)
    {kernel : PoolGeometry → ClampRange Numeric.Single → Grid Numeric.Single →
      Grid Numeric.Single → Written Unit Numeric.Single}
    (foreign : ∀ geometry range input output,
      FailsWith Foreign (kernel geometry range input output).1) :
    (d.runPool kernel).FailsWith OfKernel := by
  refine .bind (.lift (by simp [h.poolGeometry_eq kind])) fun geometry => ?_
  exact (foreign_runUnary (foreign geometry _)).mono fun _ => ofKernel_of_foreign

theorem ofKernel_runBatchToSpace : d.runBatchToSpace.FailsWith OfKernel := by
  have parameters (g : Graph) : FailsWith OfKernel (d.batchToSpaceParameters g) :=
    Descriptor.ofClass_batchToSpaceParameters.mono fun _ => ofKernel_of_shape
  refine .bind .get fun g => .bind (.lift (parameters g)) fun parameters => ?_
  obtain ⟨block, crops⟩ := parameters
  exact (foreign_runUnary fun _ _ => foreign_overwrite foreign_batchToSpace).mono fun _ =>
    ofKernel_of_foreign

/-- No kernel complains about types, or about the graph. -/
theorem Descriptor.Captures.ofKernel_run (h : d.Captures node) : d.run.FailsWith OfKernel := by
  have unary {kernel : Grid Numeric.Single → Grid Numeric.Single → Written Unit Numeric.Single}
      (foreign : ∀ input output, FailsWith Foreign (kernel input output).1) :=
    (foreign_runUnary (d := d) foreign).mono fun _ => ofKernel_of_foreign
  have binary {kernel : Grid Numeric.Single → Grid Numeric.Single → Grid Numeric.Single →
      Except Fault (Grid Numeric.Single)}
      (foreign : ∀ a b output, FailsWith Foreign (kernel a b output)) :=
    (foreign_runBinary (d := d) foreign).mono fun _ => ofKernel_of_foreign
  unfold Descriptor.run
  split
  · exact unary fun _ _ => foreign_overwrite (foreign_unary FloatLike.abs _ _)
  · exact binary (foreign_binary (· + ·) _)
  · exact binary (foreign_binary (· * ·) _)
  · exact binary (foreign_binary FloatLike.arctan2 _)
  · exact foreign_runAddN.mono fun _ => ofKernel_of_foreign
  · exact ofKernel_runArgExtremum true
  · exact ofKernel_runArgExtremum false
  next kind => exact h.ofKernel_runPool (.inl kind) fun _ _ => foreign_poolInto _ _
  next kind => exact h.ofKernel_runPool (.inr kind) fun _ _ => foreign_poolInto _ _
  next kind => exact h.ofKernel_runMatrixProduct kind
  · exact ofKernel_runBatchToSpace

end Values

/-! ## Which failures of an evaluation have a class -/

section Evaluation

open Fault (OfClass Foreign)

variable {g : Graph} {d : Descriptor} {node : Node}

/-- A type is missing only if the tensor is, and then the graph says so. -/
theorem type_eq_error {g : Graph} {id : Nat} {fault : Fault} :
    g.type id = .error fault ↔ g.tensors[id]? = none ∧ fault = .of (GraphFailure.noTensor id) := by
  unfold Graph.type Graph.tensor Graph.entry
  cases g.tensors[id]? with
  | none =>
      show Except.error _ = _ ↔ _
      simp [eq_comm]
  | some entry =>
      show Except.ok _ = _ ↔ _
      simp

/-- A tensor whose element type an evaluation asks for does not exist. The output is looked up only
after the first input has passed. -/
def Descriptor.Dangling (g : Graph) (d : Descriptor) : Prop :=
  ∃ a, d.inputs[0]? = some a ∧ (g.tensors[a]? = none ∨
    (∃ type ∈ d.kind.inputTypes, g.type a = .ok type) ∧
      ∃ output, d.outputs[0]? = some output ∧ g.tensors[output]? = none)

/-- The first input or the output has an element type that the kind does not support, or an output
of indices has not the type that the node declares. -/
def Descriptor.Mismatched (g : Graph) (d : Descriptor) : Prop :=
  (∃ a type, d.inputs[0]? = some a ∧ g.type a = .ok type ∧ type ∉ d.kind.inputTypes) ∨
    ∃ output type, d.outputs[0]? = some output ∧ g.type output = .ok type ∧
      (type ∉ d.kind.outputTypes ∨
        ∃ declared, d.parameters = .argExtremum (some declared) ∧ declared ≠ type)

/-- How an evaluation ends is decided by four checks and the kernel, in this order. -/
theorem Descriptor.ending_evaluate (d : Descriptor) (g : Graph) : (d.evaluate.run g).ending = (do
    let a ← d.primaryInput
    let type ← g.type a
    d.checkInput type
    let output ← d.output
    let type' ← g.type output
    d.checkOutput type'
    (d.run.run g).ending.mapError (d.classified output)) := by
  simp [Descriptor.evaluate]

/-- Only reductions declare a type. -/
theorem Descriptor.Captures.reduction_of_declared (h : d.Captures node)
    {declared : Option ElementType} (block : d.parameters = .argExtremum declared) :
    d.kind = .argMax ∨ d.kind = .argMin := by
  have decoded := h.decoded
  rw [block] at decoded
  cases kind : d.kind
  case argMax => exact .inl rfl
  case argMin => exact .inr rfl
  all_goals
    rw [kind] at decoded
    cases parameters : node.parameters with
    | none => simp [parameters, Descriptor.decode?, KindParameters.defaultFor] at decoded
    | some p => cases p <;> simp [parameters, Descriptor.decode?] at decoded

/-- The types of an output that the check lets pass. -/
theorem Descriptor.Captures.checkOutput_cases (h : d.Captures node) (type : ElementType) :
    (d.checkOutput type = .ok () ∧ type ∈ d.kind.outputTypes ∧
        ∀ declared, d.parameters = .argExtremum (some declared) → declared = type) ∨
      (∃ problem, d.checkOutput type = Descriptor.mismatch problem) ∧
        (type ∉ d.kind.outputTypes ∨
          ∃ declared, d.parameters = .argExtremum (some declared) ∧ declared ≠ type) := by
  by_cases supported : type ∈ d.kind.outputTypes
  · by_cases reduction : d.kind = .argMax ∨ d.kind = .argMin
    · have check : d.checkOutput type = d.checkDeclared type := by
        unfold Descriptor.checkOutput
        rw [if_pos supported]
        rcases reduction with kind | kind <;> rw [kind]
      have declaration := h.declaredType_eq reduction
      unfold Descriptor.declaredType at declaration
      split at declaration
      next declared block =>
        rw [check, Descriptor.checkDeclared, Descriptor.declaredType, block]
        cases declared with
        | none => exact .inl ⟨rfl, supported, by simp⟩
        | some declared =>
            show (if declared = type then _ else _) = _ ∧ _ ∨ _
            by_cases same : declared = type
            · exact .inl ⟨if_pos same, supported, by simp [same]⟩
            · exact .inr ⟨⟨_, if_neg same⟩, .inr ⟨declared, rfl, same⟩⟩
      next => cases declaration
    · refine .inl ⟨?_, supported, fun declared block => ?_⟩
      · unfold Descriptor.checkOutput
        rw [if_pos supported]
        split
        next kind => exact absurd (.inl kind) reduction
        next kind => exact absurd (.inr kind) reduction
        next => rfl
      · exact absurd (h.reduction_of_declared block) reduction
  · exact .inr ⟨⟨_, if_neg supported⟩, .inl supported⟩

/-- How an evaluation can fail: a tensor is missing, a type does not match, or the kernel fails. -/
theorem Descriptor.Captures.fault_cases (h : d.Captures node) {fault : Fault}
    (failed : (d.evaluate.run g).ending = .error fault) :
    (d.Dangling g ∧ ∃ id, fault = .of (GraphFailure.noTensor id)) ∨
      ¬ d.Dangling g ∧
        ((d.Mismatched g ∧ ∃ problem, fault = .of (EngineFailure.unsupportedType problem)) ∨
          ¬ d.Mismatched g ∧ ∃ output fault', (d.run.run g).ending = .error fault' ∧
            fault = d.classified output fault') := by
  obtain ⟨a, others, -, inputs⟩ := h.some_inputs
  obtain ⟨output, -, outputs⟩ := h.one_output
  have dangling : d.Dangling g ↔ g.tensors[a]? = none ∨
      (∃ type ∈ d.kind.inputTypes, g.type a = .ok type) ∧ g.tensors[output]? = none := by
    simp [Descriptor.Dangling, inputs, outputs]
  have mismatched : d.Mismatched g ↔
      (∃ type, g.type a = .ok type ∧ type ∉ d.kind.inputTypes) ∨
        ∃ type, g.type output = .ok type ∧ (type ∉ d.kind.outputTypes ∨
          ∃ declared, d.parameters = .argExtremum (some declared) ∧ declared ≠ type) := by
    simp [Descriptor.Mismatched, inputs, outputs]
  have missing {id : Nat} {type : ElementType} (found : g.type id = .ok type) :
      g.tensors[id]? ≠ none := by
    obtain ⟨entry, found, -⟩ := Graph.type_eq_ok.mp found
    simp [found]
  have first : d.primaryInput = .ok a := by simp [inputs]
  have out : d.output = .ok output := by simp [outputs]
  simp only [Descriptor.ending_evaluate, bind_eq_error, mapError_eq_error, first, out,
    Except.ok.injEq, exists_eq_left', reduceCtorEq, false_or] at failed
  rw [dangling, mismatched]
  -- the lookup of the input, its check, the lookup of the output, and what comes after it
  rcases failed with failed | ⟨type, found, failed | ⟨_, passes, failed | ⟨type', found', rest⟩⟩⟩
  · exact .inl ⟨.inl (type_eq_error.mp failed).1, a, (type_eq_error.mp failed).2⟩
  · have unsupported : type ∉ d.kind.inputTypes := by
      rw [← checkInput_eq_ok (d := d), failed]
      simp
    rw [Descriptor.checkInput, if_neg unsupported] at failed
    cases failed
    refine .inr ⟨?_, .inl ⟨.inl ⟨type, found, unsupported⟩, _, rfl⟩⟩
    rintro (dangles | ⟨⟨_, supported, same⟩, -⟩)
    · exact missing found dangles
    · rw [found] at same
      cases same
      exact unsupported supported
  · have supported := checkInput_eq_ok.mp passes
    have dangles := type_eq_error.mp failed
    exact .inl ⟨.inr ⟨⟨type, supported, found⟩, dangles.1⟩, output, dangles.2⟩
  · have sound : ¬ (g.tensors[a]? = none ∨
        (∃ type ∈ d.kind.inputTypes, g.type a = .ok type) ∧ g.tensors[output]? = none) := by
      simp [missing found, missing found']
    refine .inr ⟨sound, ?_⟩
    rcases h.checkOutput_cases type' with ⟨passes', inside, declared⟩ | ⟨⟨problem, refused⟩, bad⟩
    · rw [passes'] at rest
      simp only [reduceCtorEq, false_or, exists_const, true_and] at rest
      obtain ⟨fault', failed, rfl⟩ := rest
      refine .inr ⟨?_, output, fault', failed, rfl⟩
      simp only [found, found', Except.ok.injEq, exists_eq_left', not_or, not_exists, not_and,
        Decidable.not_not, ne_eq]
      exact ⟨checkInput_eq_ok.mp passes, inside, declared⟩
    · rw [refused] at rest
      rcases rest with failed | ⟨_, passes', -⟩
      · cases failed
        exact .inl ⟨.inr ⟨type', found', bad⟩, problem, rfl⟩
      · cases passes'

/-- A failed evaluation has no class if a tensor is missing, that of types if a type does not match,
and otherwise that of shapes or evaluations. -/
theorem Descriptor.Captures.category_of_evaluate (h : d.Captures node) {failure : Failure}
    (failed : (d.evaluate.run g).ending = .error (.failed failure)) :
    (failure.category? = none ↔ d.Dangling g) ∧
      (failure.category? = some .unsupportedType ↔ ¬ d.Dangling g ∧ d.Mismatched g) ∧
      (¬ d.Dangling g →
        ∃ c ∈ [FailureClass.unsupportedType, .shape, .evaluation], failure.category? = some c) := by
  rcases h.fault_cases failed with ⟨dangling, id, same⟩ | ⟨sound, ⟨mismatched, problem, same⟩ |
    ⟨matched, output, fault, ran, same⟩⟩
  · cases same
    simp [dangling, Failure.category?, Failure.reasons]
  · cases same
    simp [sound, mismatched, Failure.category?, Failure.reasons, EngineFailure.category]
  · have class' : failure.category? = some .shape ∨ failure.category? = some .evaluation := by
      cases fault with
      | aborted => cases same
      | failed inner =>
          rcases h.ofKernel_run g _ ran with foreign | own
          · have none : inner.category? = none := foreign
            rw [Descriptor.classified, if_neg (by simp [none])] at same
            cases same
            exact .inr rfl
          · obtain ⟨c, inside, found⟩ := own inner rfl
            rw [Descriptor.classified, if_pos (by simp [found])] at same
            cases same
            simpa [found] using inside
    rcases class' with found | found <;> simp [found, sound, matched]

end Evaluation

/-! ## Regions -/

section Regions

open Fault (OfClass)

/-- A node that can not be captured makes the graph malformed. -/
theorem ofClass_ofNode (node : Node) :
    FailsWith (OfClass [.malformedGraph]) (Descriptor.ofNode node) := by
  have malformed {α : Type} (problem : GraphMalformation) :
      FailsWith (OfClass [.malformedGraph]) (Descriptor.malformed problem : Except Fault α) := by
    simp [Descriptor.malformed, EngineFailure.category]
  unfold Descriptor.ofNode
  cases Kind.ofOperator? node.operator with
  | none => exact malformed _
  | some kind =>
      simp only [ok_bind]
      split
      · rw [failsWith_bind]
        refine ⟨malformed _, fun _ passed => ?_⟩
        cases passed
      · split <;> simp [malformed]

theorem Region.ofClass_capture (g : Graph) (nodes : List Nat) :
    (Region.capture g nodes).FailsWith (OfClass [.malformedGraph]) := by
  refine .bind (.mapM fun id _ => ?_) fun _ => .bind (.record _) fun _ => .pure _
  unfold Region.captureNode
  split
  · refine .lift ?_
    simp [Descriptor.malformed, EngineFailure.category]
  · exact .bind (.lift (ofClass_ofNode _)) fun _ => .bind (.record _) fun _ => .pure _

/-- A region that was captured fails to infer shapes with shape failures only. -/
theorem Region.ofClass_infer {region : Region} {g : Graph} {nodes : List Nat}
    (captured : (Region.capture g nodes).outcome () = (some region, ())) :
    region.infer.FailsWith (OfClass [.shape]) := by
  obtain ⟨-, captures⟩ := Region.outcome_capture.mp captured
  refine .forM fun d inside => ?_
  obtain ⟨id, -, node, -, captures⟩ := exists_left_of_forall₂ captures inside
  exact captures.ofClass_infer

end Regions

end Substitution

/-! ## Layers -/

namespace Interpreter

theorem category_within {reason : Reason} (h : reason.category? = none) (fault : Fault) :
    (fault.within reason).category? = fault.category? := by
  cases fault with
  | aborted => rfl
  | failed failure =>
      show List.findSome? Reason.category? (reason :: failure.reasons) = _
      rw [List.findSome?_cons, h]
      rfl

/-- What is put around a failure by others than the engine does not change its class. -/
theorem category_during {α : Type} {reason : Reason} (h : reason.category? = none)
    (e : Except Fault α) :
    (during reason e).mapError Fault.category? = e.mapError Fault.category? := by
  cases e with
  | ok a => rfl
  | error fault => exact congrArg Except.error (category_within h fault)

/-- So it is with an action that is put around. -/
theorem category_ending_during {σ α : Type} {reason : Reason} (h : reason.category? = none)
    (action : Action σ α) (s : σ) :
    ((Action.during reason action).run s).ending.mapError Fault.category? =
      (action.run s).ending.mapError Fault.category? := by
  rw [Action.ending_during, category_during h]

end Interpreter

/-- What a delegate refuses, it refuses in the class of the capture. -/
theorem Delegate.category_takeOver (delegate : Delegate) (g : Graph) (nodes : List Nat)
    {fault : Fault} (failed : ((delegate.takeOver g nodes).run ()).ending = .error fault) :
    ∃ fault', ((delegate.capture g nodes).run ()).ending = .error fault' ∧
      fault.category? = fault'.category? := by
  cases captured : ((delegate.capture g nodes).run ()).ending with
  | ok region =>
      have during_ok : ((Action.during (InterpreterFailure.initializing delegate.name nodes)
          (delegate.capture g nodes)).run ()).ending = .ok region := by
        rw [Action.ending_during, captured]
        rfl
      rw [Delegate.takeOver, Action.run_bind_of_ok during_ok] at failed
      cases failed
  | error fault' =>
      have during_error : ((Action.during (InterpreterFailure.initializing delegate.name nodes)
          (delegate.capture g nodes)).run ()).ending = .error (fault'.within
            (InterpreterFailure.initializing delegate.name nodes)) := by
        rw [Action.ending_during, captured]
        rfl
      rw [Delegate.takeOver, Action.run_bind_of_error during_error] at failed
      cases failed
      exact ⟨fault', rfl, Interpreter.category_within rfl fault'⟩

/-! ## All failures of the engine -/

namespace Substitution

/-- Capturing fails with malformed graphs only, and inferring shapes with shape failures only. An
evaluation fails at a descriptor, after those before it have been evaluated, and its failure has one
of the three other classes, unless a tensor whose type is asked for is missing; then, and only then,
it has none. It is a type failure exactly if a type does not match. What the interpreter puts around
a failure does not change its class. -/
theorem failures_classified (g : Graph) (nodes : List Nat) :
    (∀ failure, ((Region.capture g nodes).run ()).ending = .error (.failed failure) →
      failure.category? = some .malformedGraph) ∧
    (∀ region, (Region.capture g nodes).outcome () = (some region, ()) → ∀ t : Graph,
      (∀ failure, (region.infer.run t).ending = .error (.failed failure) →
        failure.category? = some .shape) ∧
      ∀ failure, (region.evaluate.run t).ending = .error (.failed failure) →
        ∃ before d after u, region.descriptors = before ++ d :: after ∧
          (forM before Descriptor.evaluate).outcome t = (some (), u) ∧
          (d.evaluate.run u).ending = .error (.failed failure) ∧
          (failure.category? = none ↔ d.Dangling u) ∧
          (failure.category? = some .unsupportedType ↔ ¬ d.Dangling u ∧ d.Mismatched u) ∧
          (¬ d.Dangling u → ∃ c ∈ [FailureClass.unsupportedType, .shape, .evaluation],
            failure.category? = some c)) ∧
    (∀ registry partition t,
      ((Interpreter.prepareStep registry (.delegated partition)).run t).ending.mapError
          Fault.category? = (partition.region.infer.run t).ending.mapError Fault.category? ∧
        ((Interpreter.evaluateStep registry (.delegated partition)).run t).ending.mapError
          Fault.category? = (partition.region.evaluate.run t).ending.mapError Fault.category?) ∧
    ∀ (delegate : Delegate) fault,
      ((delegate.takeOver g nodes).run ()).ending = .error fault →
        ∃ fault', ((delegate.capture g nodes).run ()).ending = .error fault' ∧
          fault.category? = fault'.category? := by
  have only {c : FailureClass} {failure : Failure}
      (h : Fault.OfClass [c] (.failed failure)) : failure.category? = some c := by
    obtain ⟨c', inside, found⟩ := h failure rfl
    rw [found, List.mem_singleton.mp inside]
  refine ⟨fun failure failed => only (Region.ofClass_capture g nodes () _ failed),
    fun region captured t => ⟨fun failure failed => ?_, fun failure failed => ?_⟩,
    fun _ _ t => ⟨Interpreter.category_ending_during rfl _ t,
      Interpreter.category_ending_during rfl _ t⟩,
    fun delegate fault failed => delegate.category_takeOver g nodes failed⟩
  · exact only (Region.ofClass_infer captured t _ failed)
  · -- the walk stops at the descriptor that fails, and what it says is not wrapped again
    obtain ⟨before, d, after, u, same, evaluated, failed, -⟩ := Action.exists_of_forM_fails failed
    obtain ⟨-, captures⟩ := Region.outcome_capture.mp captured
    have inside : d ∈ region.descriptors := by simp [same]
    obtain ⟨id, -, node, -, captures⟩ := exists_left_of_forall₂ captures inside
    exact ⟨before, d, after, u, same, evaluated, failed, captures.category_of_evaluate failed⟩

/-- A node that takes the absolute values of a tensor. There are two tensors; the first one has the
given element type, and the second one is the node's output. -/
def Region.lone (type : ElementType) (input : Nat) : Graph where
  tensors := [⟨"x", Tensor.empty type, false⟩, ⟨"y", Tensor.empty .f32, false⟩]
  nodes := [⟨0, "lone", .abs, none, [input], [1]⟩]
  inputs := []
  outputs := []

def Region.ofLone (input : Nat) : Region := ⟨[⟨.abs, .none, .none, [input], [1]⟩], [0]⟩

/-- There is no second node to capture; a tensor that does not exist has no shape; and integers are
refused, which is a type failure exactly because a type does not match. -/
theorem Region.lone_classified :
    (∃ failure, ((Region.capture (Region.lone .i32 0) [1]).run ()).ending =
        .error (.failed failure) ∧
      failure.category? = some .malformedGraph) ∧
    (∃ failure, ((Region.ofLone 7).infer.run (Region.lone .f32 7)).ending =
        .error (.failed failure) ∧
      failure.category? = some .shape) ∧
    (∃ failure, ((Region.ofLone 0).evaluate.run (Region.lone .i32 0)).ending =
        .error (.failed failure) ∧
      ∃ (d : Descriptor) (u : Graph), (d.evaluate.run u).ending = .error (.failed failure) ∧
        (failure.category? = some .unsupportedType ↔ ¬ d.Dangling u ∧ d.Mismatched u)) ∧
    ∃ fault, ((Options.all.delegate.takeOver (Region.lone .i32 0) [1]).run ()).ending =
        .error fault ∧
      ∃ fault', ((Options.all.delegate.capture (Region.lone .i32 0) [1]).run ()).ending =
        .error fault' ∧ fault.category? = fault'.category? := by
  refine ⟨⟨_, rfl, ?_⟩, ⟨_, rfl, ?_⟩, ⟨⟨EngineFailure.unsupportedType (.input .abs .i32), []⟩,
    by decide +kernel, ?_⟩, ⟨_, rfl, ?_⟩⟩
  · exact (failures_classified (Region.lone .i32 0) [1]).1 _ rfl
  · exact ((failures_classified (Region.lone .f32 7) [0]).2.1 (Region.ofLone 7) rfl
      (Region.lone .f32 7)).1 _ rfl
  · obtain ⟨before, d, after, u, -, -, failed, -, mismatch, -⟩ :=
      ((failures_classified (Region.lone .i32 0) [0]).2.1 (Region.ofLone 0) rfl
        (Region.lone .i32 0)).2 ⟨EngineFailure.unsupportedType (.input .abs .i32), []⟩
        (by decide +kernel)
    exact ⟨d, u, failed, mismatch⟩
  · exact (failures_classified (Region.lone .i32 0) [1]).2.2.2 Options.all.delegate _ rfl

/-- A tensor that does not exist is found missing before the engine says anything about it. -/
theorem Region.stray_unclassified :
    ¬ ∀ (g : Graph) (nodes : List Nat) (region : Region) (failure : Failure),
      (Region.capture g nodes).outcome () = (some region, ()) →
      (region.evaluate.run g).ending = .error (.failed failure) →
      ∃ c ∈ [FailureClass.unsupportedType, .shape, .evaluation], failure.category? = some c := by
  intro always
  obtain ⟨c, -, found⟩ := always (Region.lone .f32 7) [0] (Region.ofLone 7)
    ⟨GraphFailure.noTensor 7, []⟩ rfl (by decide +kernel)
  cases found

end Substitution

end TensorGraph
