import TensorGraph.Proofs.Delegation
import TensorGraph.Proofs.Faults
import TensorGraph.Proofs.Settling
import TensorGraph.Proofs.Weaving

/-!
# Errors of the host and of the engine, node by node

The host asks for element types when it prepares a node, and the engine when it evaluates one. So on
a node that the engine supports, the two may part ways only over types: the engine may infer a shape
for a node that the host refuses, and will refuse it later (`errors_agree`).

The theorem is put together from three comparisons. Shape rules of the host are aborted only where
those of the engine are (`aborted_of_outputShape`). A node that is not well typed, but has a shape,
breaks one of the rules in `Builtin.TypeBreach` (`Builtin.typeBreach`). And whatever rule is broken,
the engine refuses the node before it changes a tensor (`evaluate_refuses`).
-/

namespace TensorGraph

open Substitution (Descriptor Kind Options supports)

/-! ## Failing without being aborted -/

/-- The computation has failed, with a message. -/
def Fault.IsFailure (fault : Fault) : Prop := fault ≠ .aborted

@[simp] theorem Fault.isFailure_of {reason : Reason} : (Fault.of reason).IsFailure := by
  simp [Fault.IsFailure, Fault.of]

@[simp] theorem Fault.isFailure_within {reason : Reason} {fault : Fault} :
    (fault.within reason).IsFailure ↔ fault.IsFailure := by
  cases fault <;> simp [Fault.IsFailure, Fault.within]

@[simp] theorem Fault.not_isFailure_aborted : ¬ Fault.aborted.IsFailure := by
  simp [Fault.IsFailure]

section Rules

open Fault (IsFailure)

variable {g : Graph} {node : Node} {d : Descriptor}

@[simp] theorem isFailure_tensor (id : Nat) : FailsWith IsFailure (g.tensor id) := by
  simp [Graph.tensor, Graph.entry]

@[simp] theorem isFailure_type (id : Nat) : FailsWith IsFailure (g.type id) := by
  simp [Graph.type]

@[simp] theorem isFailure_shape (id : Nat) : FailsWith IsFailure (g.shape id) := by
  simp [Graph.shape]

/-- A tensor that can not be looked at is a failure, and not the end. -/
@[simp] theorem isFailure_view (id : Nat) (type : ElementType) :
    FailsWith IsFailure (g.view id type) := by
  have elements (x : Tensor) : FailsWith IsFailure (x.elements type) := by
    unfold Tensor.elements
    split <;> simp
  simp [Graph.view, Tensor.view, elements]

@[simp] theorem isFailure_broadcast (shapes : List Shape) :
    FailsWith IsFailure (Shape.broadcast shapes) := by
  simp [Shape.broadcast]

@[simp] theorem isFailure_readIntegers (id : Nat) :
    FailsWith IsFailure (Builtin.readIntegers g id) := by
  have integers (x : Tensor) : FailsWith IsFailure x.integers := by
    unfold Tensor.integers
    split <;> simp
  simp [Builtin.readIntegers, failsWith_during, Graph.entry, integers]

/-- With enough tensors listed, comparing types ends with a message. -/
theorem isFailure_commonType {a output : Nat} {others others' : List Nat}
    (inputs : node.inputs = a :: others) (outputs : node.outputs = output :: others') :
    FailsWith IsFailure (Builtin.commonType g node) := by
  simp [Builtin.commonType, Node.input, Node.output, inputs, outputs]

/-- With enough axes, extents that do not fit end with a message. -/
theorem isFailure_wovenExtents {axis : Nat} {extents block : List Nat} {crops : List (Nat × Nat)}
    (enough : block.length ≤ extents.length) :
    FailsWith IsFailure (Builtin.wovenExtents axis extents block crops) := by
  induction block generalizing axis extents crops with
  | nil => simp [Builtin.wovenExtents]
  | cons b block ih =>
      cases crops with
      | nil => simp [Builtin.wovenExtents]
      | cons crop crops =>
          cases extents with
          | nil => simp at enough
          | cons extent extents =>
              rw [List.length_cons, List.length_cons] at enough
              have enough : block.length ≤ extents.length := Nat.le_of_succ_le_succ enough
              simp [Builtin.wovenExtents, Builtin.wovenExtent, checked, ih enough]

theorem isFailure_reductionAxis {a b : Nat} (inputs : node.inputs = [a, b]) :
    FailsWith IsFailure (Builtin.reductionAxis g node) := by
  simp only [Builtin.reductionAxis, Node.input, inputs, failsWith_bind, failsWith_checked,
    List.getElem?_cons_succ, List.getElem?_cons_zero, Option.isSome_some, true_or, true_and,
    isFailure_readIntegers]
  intros
  split <;> simp

/-- Block sizes that are read are positive. -/
theorem positive_of_parameters {block : List Nat} {crops : List (Nat × Nat)}
    (h : Builtin.batchToSpaceParameters g node = .ok (block, crops)) : ∀ b ∈ block, 0 < b := by
  simp only [Builtin.batchToSpaceParameters, bind_eq_ok, ensure_eq_ok, pure_eq_ok,
    Prod.mk.injEq] at h
  obtain ⟨_, _, _, _, _, _, _, _, values, _, _, _, _, _, _, _, _, _, _, positive, _, _, rfl, -⟩ := h
  intro b inside
  obtain ⟨value, mem, rfl⟩ := List.mem_map.mp inside
  have := positive value mem
  omega

theorem product_ne_zero {block : List Nat} (positive : ∀ b ∈ block, 0 < b) {start product : Nat}
    (h : block.foldlM Size.mul? start = some product) (some : start ≠ 0) : product ≠ 0 := by
  induction block generalizing start with
  | nil =>
      cases h
      exact some
  | cons b block ih =>
      rw [List.foldlM_cons, Option.bind_eq_bind, Option.bind_eq_some_iff] at h
      obtain ⟨next, first, rest⟩ := h
      obtain ⟨-, rfl⟩ := Size.ofNat?_eq_some.mp first
      have here := positive b List.mem_cons_self
      exact ih (fun c inside => positive c (List.mem_cons_of_mem _ inside)) rest
        (Nat.mul_ne_zero some (by omega))

/-- With positive block sizes, and no more of them than there are axes behind the batches, nothing
is divided by zero or read past its end. -/
theorem isFailure_batchToSpaceShape {shape : Shape} {block : List Nat} {crops : List (Nat × Nat)}
    (axes : block.length < shape.length) (positive : ∀ b ∈ block, 0 < b) :
    FailsWith IsFailure (Builtin.batchToSpaceShape shape block crops) := by
  obtain ⟨batch, extents, rfl⟩ := List.exists_cons_of_length_pos (l := shape) (by omega)
  have woven : FailsWith IsFailure (Builtin.wovenExtents 1 extents block crops) :=
    isFailure_wovenExtents (Nat.le_of_lt_succ axes)
  simp only [Builtin.batchToSpaceShape, failsWith_bind, failsWith_require, Fault.isFailure_of,
    or_true, true_and, require_eq_ok, List.head?_cons, failsWith_checked, Option.isSome_some,
    true_or]
  intro blockSize product _ _
  rw [if_neg (product_ne_zero positive product Nat.one_ne_zero)]
  simp [woven]

/-- With three inputs and an output, a weaving that does not fit ends with a message. -/
theorem isFailure_wovenShape {a b c output : Nat} (inputs : node.inputs = [a, b, c])
    (outputs : node.outputs = [output]) : FailsWith IsFailure (Builtin.wovenShape g node) := by
  have parameters : FailsWith IsFailure (Builtin.batchToSpaceParameters g node) := by
    simp [Builtin.batchToSpaceParameters, Node.input, inputs]
  have type := isFailure_commonType (g := g) inputs outputs
  simp only [Builtin.wovenShape, Builtin.checkArity, failsWith_bind, failsWith_ensure, type,
    parameters, Fault.isFailure_of, or_true, true_and]
  rintro _ _ _ _ ⟨block, crops⟩ read
  obtain ⟨a', shape, first, found, rank, blocks, -⟩ := Kernel.lengths_of_parameters read
  have axes : block.length < shape.length := by omega
  have positive := positive_of_parameters read
  refine ⟨by simp [Node.input, first], fun a'' first' => ⟨isFailure_shape _, ?_⟩⟩
  intro shape' found'
  rw [Node.input_eq_ok, first, Option.some.injEq] at first'
  rw [← first', found, Except.ok.injEq] at found'
  rw [← found']
  exact isFailure_batchToSpaceShape axes positive

/-- Apart from pooling, no shape rule is aborted for a captured node. -/
theorem isFailure_outputShape (h : d.Captures node)
    (other : d.kind ≠ .averagePool2d ∧ d.kind ≠ .maxPool2d) :
    FailsWith IsFailure (Builtin.outputShape g node) := by
  obtain ⟨output, outputs, -⟩ := h.one_output
  have operator := h.operator
  have binary {a b : Nat} (inputs : node.inputs = [a, b]) :
      FailsWith IsFailure (Builtin.binaryShape g node) := by
    simp [Builtin.binaryShape, Builtin.checkArity, Node.input, inputs,
      isFailure_commonType inputs outputs]
  have reduced {a b : Nat} (inputs : node.inputs = [a, b]) :
      FailsWith IsFailure (Builtin.reducedShape g node) := by
    cases declared : Builtin.declaredType? node <;>
      simp [Builtin.reducedShape, Builtin.checkArity, Node.input, Node.output, inputs, outputs,
        isFailure_reductionAxis inputs, declared]
  -- the kinds with a shape rule in common are dealt with together
  unfold Builtin.outputShape
  cases kind : d.kind
  all_goals
    rw [kind] at operator
    simp only [operator, Kind.operator]
  case abs =>
    obtain ⟨a, inputs, -⟩ := h.one_input (by rw [kind]; rfl)
    simp [Builtin.sameShape, Builtin.checkArity, Node.input, inputs,
      isFailure_commonType inputs outputs]
  case add | mul | atan2 =>
    obtain ⟨a, b, inputs, -⟩ := h.two_inputs (by rw [kind]; rfl)
    exact binary inputs
  case addN =>
    obtain ⟨a, others, inputs, -⟩ := h.some_inputs
    simp only [Builtin.addNShape, Node.input, inputs, failsWith_bind,
      isFailure_commonType inputs outputs, failsWith_ensure, Fault.isFailure_of, or_true, true_and,
      List.getElem?_cons_zero, failsWith_checked, Option.isSome_some, true_or, isFailure_shape,
      failsWith_pure, implies_true, and_true]
    intros
    exact failsWith_forM fun id _ => by simp
  case argMax | argMin =>
    obtain ⟨a, b, inputs, -⟩ := h.two_inputs (by rw [kind]; rfl)
    exact reduced inputs
  case averagePool2d => exact absurd kind other.1
  case maxPool2d => exact absurd kind other.2
  case batchMatMul =>
    obtain ⟨a, b, inputs, -⟩ := h.two_inputs (by rw [kind]; rfl)
    simp [Builtin.matrixShape, Builtin.checkArity, Node.input, inputs, MatrixGeometry.ofShapes,
      isFailure_commonType inputs outputs]
  case batchToSpaceNd =>
    obtain ⟨a, b, c, inputs, -⟩ := h.three_inputs (by rw [kind]; rfl)
    exact isFailure_wovenShape inputs outputs

/-- Only where there are rows and columns are sizes calculated, which may overflow. -/
theorem rank_of_aborted {geometry : PoolGeometry} {input : Shape}
    (aborted : geometry.outputShape input = .error .aborted) : input.length = 4 := by
  simp only [PoolGeometry.outputShape, bind_eq_error] at aborted
  rcases aborted with aborted | ⟨_, -, aborted⟩
  · unfold PoolGeometry.axes at aborted
    split at aborted
    · rfl
    · cases aborted
  · cases aborted

/-- Where a shape rule of the host is aborted, so is that of the engine. -/
theorem aborted_of_outputShape (h : d.Captures node)
    (aborted : Builtin.outputShape g node = .error .aborted) :
    d.outputShape g = .error .aborted := by
  by_cases pooling : d.kind = .averagePool2d ∨ d.kind = .maxPool2d
  · obtain ⟨a, inputs, inputs'⟩ := h.one_input (by rcases pooling with k | k <;> rw [k] <;> rfl)
    obtain ⟨output, outputs, -⟩ := h.one_output
    have operator := h.operator
    have rule : Builtin.outputShape g node = Builtin.poolShape g node := by
      rcases pooling with kind | kind <;> rw [kind] at operator <;>
        rw [Builtin.outputShape, operator] <;> rfl
    have first : node.input 0 = .ok a := by simp [inputs]
    have never {α : Type} {e : Except Fault α} (h : FailsWith IsFailure e) :
        e ≠ .error .aborted := fun failed => h _ failed rfl
    simp only [rule, Builtin.poolShape, bind_eq_error, first, Except.ok.injEq, exists_eq_left',
      reduceCtorEq, false_or, never (isFailure_commonType inputs outputs),
      never (isFailure_shape a), never (failsWith_ensure.mpr (.inr Fault.isFailure_of)),
      Builtin.checkArity] at aborted
    obtain ⟨_, _, _, _, shape, found, aborted⟩ := aborted
    have rank := rank_of_aborted aborted
    have geometry := (h.poolGeometry_eq pooling).1
    have first' : d.primaryInput = .ok a := by simp [inputs']
    rcases pooling with kind | kind
    all_goals
      simp only [Descriptor.outputShape, first', kind, geometry, bind_eq_error, Except.ok.injEq,
        exists_eq_left', reduceCtorEq, false_or, Descriptor.shapeOf_eq_ok]
      refine .inr ⟨shape, found, .inr ⟨(), ensure_eq_ok.mpr rank, ?_⟩⟩
      rw [aborted]
      rfl
  · rw [not_or] at pooling
    exact absurd rfl (isFailure_outputShape h pooling _ aborted)

end Rules

/-! ## Preparing -/

section Preparing

open Fault (IsFailure)

variable {g : Graph} {node : Node} {d : Descriptor}

/-- How inferring ends: with the shape rule, or with the output that refuses the shape. -/
theorem Substitution.Descriptor.ending_infer (d : Descriptor) (g : Graph) :
    (d.infer.run g).ending = (do
      let shape ← d.outputShape g
      let output ← d.output
      during (Substitution.shapeReason (.resizeRefused output))
        ((Graph.resize output shape).run g).ending) := by
  simp [Descriptor.infer]

/-- How preparing ends: in the same way, in the host's words. -/
theorem Builtin.ending_prepare (node : Node) (g : Graph) :
    ((prepare node).run g).ending = (do
      let shape ← outputShape g node
      let output ← node.output 0
      ((Graph.resize output shape).run g).ending) := by
  simp [prepare]

/-- What the engine fails to prepare, the host fails to prepare. -/
theorem prepare_fails_of_infer (h : d.Captures node) {failure : Failure}
    (failed : (d.infer.run g).ending = .error (.failed failure)) :
    ∃ failure', ((Builtin.prepare node).run g).ending = .error (.failed failure') := by
  obtain ⟨output, outputs, outputs'⟩ := h.one_output
  have out : d.output = .ok output := by simp [outputs']
  have out' : node.output 0 = .ok output := by simp [outputs]
  rw [Descriptor.ending_infer, out] at failed
  rw [Builtin.ending_prepare, out']
  cases found : Builtin.outputShape g node with
  | error fault =>
      cases fault with
      | aborted =>
          rw [aborted_of_outputShape h found] at failed
          cases failed
      | failed failure' => exact ⟨failure', rfl⟩
  | ok shape =>
      rw [((Builtin.outputShape_eq_ok h).mp found).2] at failed
      change during _ ((Graph.resize output shape).run g).ending = _ at failed
      show ∃ failure', ((Graph.resize output shape).run g).ending = _
      cases resized : ((Graph.resize output shape).run g).ending with
      | ok _ =>
          rw [resized] at failed
          cases failed
      | error fault =>
          rw [resized] at failed
          cases fault with
          | aborted => cases failed
          | failed failure' => exact ⟨failure', rfl⟩

end Preparing

/-! ## Types that the host refuses -/

/-- What is wrong with the element types of a node that the host does not prepare. -/
inductive Builtin.TypeBreach (g : Graph) (node : Node) : Prop
  /-- The output has another type than the first input. -/
  | output {a output : Nat} {type type' : ElementType}
      (value : node.operator ≠ .argMax ∧ node.operator ≠ .argMin)
      (first : node.inputs[0]? = some a) (out : node.outputs[0]? = some output)
      (input : g.type a = .ok type) (found : g.type output = .ok type') (other : type' ≠ type)
  /-- The output holds indices of a type that is none for indices. -/
  | index {output : Nat} {type : ElementType}
      (reduction : node.operator = .argMax ∨ node.operator = .argMin)
      (out : node.outputs[0]? = some output) (found : g.type output = .ok type)
      (other : ¬ (type = .i32 ∨ type = .i64))
  /-- The output holds indices of another type than the declared one. -/
  | declared {output : Nat} {type declared : ElementType}
      (reduction : node.operator = .argMax ∨ node.operator = .argMin)
      (declaration : declaredType? node = some declared) (out : node.outputs[0]? = some output)
      (found : g.type output = .ok type) (other : declared ≠ type)
  /-- A secondary operand has another type than the first input. -/
  | operand {a b : Nat} {type type' : ElementType} (first : node.inputs[0]? = some a)
      (compared : b ∈ node.typedInputs) (input : g.type a = .ok type) (found : g.type b = .ok type')
      (other : type' ≠ type)

section Types

open Fault (IsFailure)

variable {g t : Graph} {node : Node} {d : Descriptor}

/-- If all tensors of a node that is not well typed exist, one of them breaks a rule. -/
theorem Builtin.typeBreach {a output : Nat} {type type' : ElementType}
    (first : node.inputs[0]? = some a) (out : node.outputs[0]? = some output)
    (input : g.type a = .ok type) (found : g.type output = .ok type')
    (present : ∀ id ∈ node.typedInputs, ∃ type, g.type id = .ok type)
    (untyped : ¬ WellTyped g node) : TypeBreach g node := by
  by_cases reduction : node.operator = .argMax ∨ node.operator = .argMin
  · have none : node.typedInputs = [] := by
      rcases reduction with operator | operator <;> rw [Node.typedInputs, operator]
    by_cases index : type' = .i32 ∨ type' = .i64
    · have undeclared : ¬ ∀ declared ∈ declaredType? node, declared = type' := fun declared =>
        untyped ⟨output, type', out, found, by simp [none], fun _ => ⟨index, declared⟩⟩
      push Not at undeclared
      obtain ⟨declared, declaration, other⟩ := undeclared
      exact .declared reduction declaration out found other
    · exact .index reduction out found index
  · have value := not_or.mp reduction
    by_cases same : type' = type
    · subst same
      have operands : ¬ ∀ id ∈ node.typedInputs, g.type id = .ok type' := fun operands =>
        untyped ⟨output, type', out, found, operands, fun indices => absurd indices reduction⟩
      push Not at operands
      obtain ⟨b, compared, other⟩ := operands
      obtain ⟨type, found⟩ := present b compared
      exact .operand first compared input found fun same => other (same ▸ found)
    · exact .output value first out input found same

/-- Where the engine finds a shape, all inputs that the host compares exist. -/
theorem types_of_outputShape (h : d.Captures node) {shape : Shape}
    (found : d.outputShape g = .ok shape) :
    ∀ id ∈ node.typedInputs, ∃ type, g.type id = .ok type := by
  have type_of_shape {id : Nat} {shape : Shape} (found : g.shape id = .ok shape) :
      ∃ type, g.type id = .ok type := by
    obtain ⟨entry, found, -⟩ := Graph.shape_eq_ok.mp found
    exact ⟨entry.tensor.type, Graph.type_eq_ok.mpr ⟨entry, found, rfl⟩⟩
  obtain ⟨a, others, inputs, inputs'⟩ := h.some_inputs
  have operator := h.operator
  simp only [Descriptor.outputShape, bind_eq_ok, Descriptor.primaryInput_eq_ok, inputs',
    List.getElem?_cons_zero, Option.some.injEq, exists_eq_left', Descriptor.shapeOf_eq_ok] at found
  obtain ⟨primary, first, found⟩ := found
  have first := type_of_shape first
  unfold Node.typedInputs
  cases kind : d.kind
  all_goals
    rw [kind] at operator found
    simp only [operator, Kind.operator]
  -- these ask for the shape of the second input as well, and sums for those of all inputs
  case add | mul | atan2 =>
    simp only [bind_eq_ok, Descriptor.input_eq_ok, Descriptor.shapeOf_eq_ok, inputs'] at found
    obtain ⟨b, second, _, found, -⟩ := found
    have second' := type_of_shape found
    cases others with
    | nil => simp at second
    | cons b' others =>
        obtain rfl : b' = b := by simpa using second
        simp [inputs, first, second']
  case addN =>
    simp only [bind_eq_ok, List.drop_one, List.tail_cons, List.forM_eq_forM, forM_eq_ok,
      Descriptor.shapeOf_eq_ok] at found
    obtain ⟨_, passes, -⟩ := found
    rw [inputs]
    intro id inside
    rcases List.mem_cons.mp inside with rfl | inside
    · exact first
    · obtain ⟨_, found, -⟩ := passes id inside
      exact type_of_shape found
  all_goals simp [inputs, first]

end Types

/-! ## Refusing -/

/-- The action fails with a message and changes nothing. -/
def Action.Refuses {σ α : Type} (action : Action σ α) (s : σ) : Prop :=
  ∃ failure, (action.run s).ending = .error (.failed failure) ∧ (action.outcome s).2 = s

section Refusing

open Fault (IsFailure)

variable {g : Graph} {node : Node} {d : Descriptor} {α : Type}

/-- What neither ends nor succeeds fails. -/
theorem exists_failure {e : Except Fault α} (h : FailsWith IsFailure e) (never : ∀ a, e ≠ .ok a) :
    ∃ failure, e = .error (.failed failure) := by
  cases e with
  | ok a => exact absurd rfl (never a)
  | error fault =>
      cases fault with
      | aborted => exact absurd rfl (h _ rfl)
      | failed failure => exact ⟨failure, rfl⟩

/-- A tensor is not filled if the operands can not be read. -/
theorem computing_refuses {id : Nat} {type : ElementType}
    {prepare : Graph → Except Fault (Grid type.Element → Written α type.Element)}
    (refused : ∀ seen, Graph.SameFrame g seen →
      ∃ failure, prepare seen = .error (.failed failure)) :
    (Graph.computing id type prepare).Refuses g := by
  cases free : g.changeable id with
  | error fault =>
      have stopped : FailsWith IsFailure (g.changeable id) := by
        simp [Graph.changeable, Graph.entry]
      obtain ⟨failure, failed⟩ := exists_failure stopped (by simp [free])
      exact ⟨failure, by simp [Graph.computing, Graph.filling, failed],
        by simp [Graph.computing, Graph.filling, failed]⟩
  | ok tensor =>
      obtain ⟨failure, failed⟩ := refused _ (Graph.sameFrame_put_empty free)
      refine ⟨failure, by simp [Graph.computing, Graph.filling, free, failed], ?_⟩
      simp [Graph.computing, Graph.filling, free, failed, Graph.put_self free]

theorem refuses_of_output (h : d.Captures node) {next : Nat → Action Graph α}
    (refuses : ∀ output, (next output).Refuses g) :
    (do next (← d.output) : Action Graph α).Refuses g := by
  obtain ⟨output, -, outputs⟩ := h.one_output
  have out : d.output = .ok output := by simp [outputs]
  obtain ⟨failure, failed, unchanged⟩ := refuses output
  exact ⟨failure, by simpa [out] using failed, by simpa [out] using unchanged⟩

/-- A tensor of another type is not looked at. -/
theorem view_refused {id : Nat} {type : ElementType} (other : g.type id ≠ .ok type) :
    ∃ failure, g.view id type = .error (.failed failure) :=
  exists_failure (isFailure_view id type) fun _ found => other (Graph.type_of_view found)

/-- A kernel of two operands refuses a second one that is not in single precision. -/
theorem runBinary_refuses {b : Nat} (h : d.Captures node) (second : node.inputs[1]? = some b)
    (other : g.type b ≠ .ok .f32)
    (kernel : Grid Numeric.Single → Grid Numeric.Single → Grid Numeric.Single →
      Except Fault (Grid Numeric.Single)) : (d.runBinary kernel).Refuses g := by
  apply refuses_of_output h
  intro output
  apply computing_refuses
  intro seen frame
  obtain ⟨a, others, inputs, inputs'⟩ := h.some_inputs
  have first : d.input 0 = .ok a := by simp [inputs']
  have second' : d.input 1 = .ok b := by simp [h.inputs, second]
  obtain ⟨failure, failed⟩ := view_refused (g := seen) (by rwa [frame.type_eq])
  simp only [first, second', failed, ok_bind, error_bind]
  apply exists_failure
  · rw [failsWith_bind]
    exact ⟨isFailure_view a .f32, fun _ _ => by simp [IsFailure]⟩
  · simp

/-- The sum of tensors refuses those that are not in single precision. -/
theorem runAddN_refuses {b : Nat} (h : d.Captures node) (inside : b ∈ node.inputs)
    (other : g.type b ≠ .ok .f32) : d.runAddN.Refuses g := by
  apply refuses_of_output h
  intro output
  apply computing_refuses
  intro seen frame
  apply exists_failure
  · rw [failsWith_bind]
    exact ⟨failsWith_mapM fun id _ => isFailure_view id .f32, fun _ _ => failsWith_pure _⟩
  · intro kernel prepared
    simp only [bind_eq_ok, mapM_eq_ok, h.inputs] at prepared
    obtain ⟨grids, read, -⟩ := prepared
    obtain ⟨grid, -, found⟩ := exists_right_of_forall₂ read inside
    rw [← frame.type_eq] at other
    exact other (Graph.type_of_view found)

/-- An evaluation fails with the check of the output type or with the kernel. -/
theorem evaluate_refuses_of {output : Nat} {type : ElementType} (h : d.Captures node)
    (runnable : d.Runnable g) (out : node.outputs[0]? = some output)
    (found : g.type output = .ok type)
    (refuses : d.checkOutput type = .ok () → d.run.Refuses g) : d.evaluate.Refuses g := by
  obtain ⟨a, first, single⟩ := runnable.first_input h
  have first' : d.primaryInput = .ok a := by simp [h.inputs, first]
  have out' : d.output = .ok output := by simp [h.outputs, out]
  have passes : d.checkInput .f32 = .ok () := checkInput_eq_ok.mpr (by simp [Kind.inputTypes])
  have checks : FailsWith IsFailure (d.checkOutput type) := by
    have declared : FailsWith IsFailure d.declaredType := by
      unfold Descriptor.declaredType
      split <;> simp [Descriptor.unable]
    unfold Descriptor.checkOutput
    split
    · split
      · simp only [Descriptor.checkDeclared, failsWith_bind, declared, true_and]
        intro _ _
        split <;> simp [Descriptor.mismatch]
      · simp only [Descriptor.checkDeclared, failsWith_bind, declared, true_and]
        intro _ _
        split <;> simp [Descriptor.mismatch]
      · simp
    · simp [Descriptor.mismatch]
  -- the kernel runs only if the output has passed its check
  by_cases passes' : d.checkOutput type = .ok ()
  · obtain ⟨failure, failed, unchanged⟩ := refuses passes'
    have same := outcome_evaluate_of_output h runnable out found passes'
    obtain ⟨failure', classified⟩ : ∃ failure', d.classified output (.failed failure) =
        .failed failure' := by
      unfold Descriptor.classified
      dsimp only
      split <;> exact ⟨_, rfl⟩
    refine ⟨failure', ?_, by rw [same, unchanged]⟩
    simp [Descriptor.evaluate, first', single, passes, out', found, passes', failed, classified,
      Except.mapError]
  · obtain ⟨failure, failed⟩ := exists_failure checks fun _ => passes'
    refine ⟨failure, ?_, ?_⟩ <;>
      simp [Descriptor.evaluate, first', single, passes, out', found, failed]

theorem Node.typedInputs_subset (node : Node) : node.typedInputs ⊆ node.inputs := by
  unfold Node.typedInputs
  split
  case h_1 | h_2 => exact List.nil_subset _
  case h_7 => exact fun _ inside => inside
  all_goals exact List.take_subset _ _

/-- Only the types of the node's tensors matter. -/
theorem Builtin.TypeBreach.congr {t : Graph} (h : TypeBreach g node)
    (same : ∀ id ∈ node.inputs ++ node.outputs, t.type id = g.type id) : TypeBreach t node := by
  have inputs {i a : Nat} (read : node.inputs[i]? = some a) : t.type a = g.type a :=
    same a (List.mem_append_left _ (List.mem_of_getElem? read))
  have outputs {output : Nat} (written : node.outputs[0]? = some output) :
      t.type output = g.type output :=
    same output (List.mem_append_right _ (List.mem_of_getElem? written))
  cases h with
  | output value first out input found other =>
      exact .output value first out (by rwa [inputs first]) (by rwa [outputs out]) other
  | index reduction out found other => exact .index reduction out (by rwa [outputs out]) other
  | declared reduction declaration out found other =>
      exact .declared reduction declaration out (by rwa [outputs out]) other
  | operand first compared input found other =>
      have read := same _ (List.mem_append_left _ (node.typedInputs_subset compared))
      exact .operand first compared (by rwa [inputs first]) (by rwa [read]) other

/-- A kernel refuses operands that the host compares with the first one, if they are not in single
precision. -/
theorem run_refuses {b : Nat} (h : d.Captures node) (runnable : d.Runnable g)
    (compared : b ∈ node.typedInputs) (other : g.type b ≠ .ok .f32) : d.run.Refuses g := by
  obtain ⟨a, others, inputs, -⟩ := h.some_inputs
  obtain ⟨a', first, single⟩ := runnable.first_input h
  obtain rfl : a = a' := by simpa [inputs] using first
  have secondary : b ≠ a := by
    rintro rfl
    exact other single
  have operator := h.operator
  have second {b : Nat} (compared : b ∈ node.inputs.take 2) (secondary : b ≠ a) :
      node.inputs[1]? = some b := by
    cases others <;> simp_all
  unfold Node.typedInputs at compared
  unfold Descriptor.run
  cases kind : d.kind
  all_goals
    rw [kind] at operator
    simp only [operator, Kind.operator] at compared
  case add | mul | atan2 => exact runBinary_refuses h (second compared secondary) other _
  case addN => exact runAddN_refuses h compared other
  all_goals simp [inputs, secondary] at compared

/-- Except for indices, the engine computes single precision only. -/
theorem outputTypes_of_value {kind : Kind} (value : ¬ (kind = .argMax ∨ kind = .argMin)) :
    kind.outputTypes = [.f32] := by
  cases kind <;> simp [Kind.outputTypes] at value ⊢

theorem Substitution.Descriptor.Captures.reduction_iff (h : d.Captures node) :
    node.operator = .argMax ∨ node.operator = .argMin ↔ d.kind = .argMax ∨ d.kind = .argMin := by
  rw [h.operator]
  cases d.kind <;> simp [Kind.operator]

/-- Nodes that break a type rule of the host are not evaluated. -/
theorem evaluate_refuses (h : d.Captures node) (runnable : d.Runnable g) {output : Nat}
    {type : ElementType} (out : node.outputs[0]? = some output) (found : g.type output = .ok type)
    (breach : Builtin.TypeBreach g node) : d.evaluate.Refuses g := by
  apply evaluate_refuses_of h runnable out found
  intro passes
  obtain ⟨inside, agrees⟩ := (checkOutput_eq_ok h).mp passes
  obtain ⟨a, first, single⟩ := runnable.first_input h
  have outputs {output' : Nat} {type' : ElementType} (out' : node.outputs[0]? = some output')
      (found' : g.type output' = .ok type') : type' = type := by
    rw [out, Option.some.injEq] at out'
    rw [← out', found, Except.ok.injEq] at found'
    exact found'.symm
  have inputs {a' : Nat} {type' : ElementType} (first' : node.inputs[0]? = some a')
      (input : g.type a' = .ok type') : type' = .f32 := by
    rw [first, Option.some.injEq] at first'
    rw [← first', single, Except.ok.injEq] at input
    exact input.symm
  -- the first three rules are among the checks of the output, the last one is the kernel's
  cases breach with
  | output value first' out' input found' other =>
      refine absurd ?_ other
      have value' := mt h.reduction_iff.mpr (not_or.mpr value)
      rw [outputTypes_of_value value', List.mem_singleton] at inside
      rw [outputs out' found', inputs first' input, inside]
  | index reduction out' found' other =>
      refine absurd ?_ other
      rw [outputs out' found']
      rcases h.reduction_iff.mp reduction with kind | kind <;>
        simpa [kind, Kind.outputTypes] using inside
  | declared reduction declaration out' found' other =>
      refine absurd ?_ other
      rw [outputs out' found']
      exact agrees (h.reduction_iff.mp reduction) _ declaration
  | operand first' compared input found' other =>
      apply run_refuses h runnable compared
      rw [found', inputs first' input] at *
      simpa using other

end Refusing

/-! ## Node by node -/

section Nodes

variable {options : Options} {g : Graph} {id : Nat} {node : Node} {d : Descriptor}

theorem ending_registry_prepare (found : g.nodes[id]? = some node) :
    ((Registry.all.prepare id).run g).ending =
      during (OperatorFailure.preparing node.name) ((Builtin.prepare node).run g).ending := by
  have looked : Registry.all.lookUp g id = .ok node := toOption_eq_some.mp (outcome_lookUp found)
  simp [Registry.prepare, looked]

/-- What the engine's inference needs of a node with an output that exists. -/
theorem type_of_infer (h : d.Captures node) (done : (d.infer.run g).ending = .ok ()) :
    (∃ shape, d.outputShape g = .ok shape) ∧
      ∃ output type, node.outputs[0]? = some output ∧ g.type output = .ok type := by
  obtain ⟨output, outputs, outputs'⟩ := h.one_output
  simp only [Descriptor.ending_infer, bind_eq_ok, during_eq_ok, Descriptor.output_eq_ok] at done
  obtain ⟨shape, found, output', out, resized⟩ := done
  obtain rfl : output = output' := by simpa [outputs'] using out
  refine ⟨⟨shape, found⟩, output, ?_⟩
  simp only [Graph.resize, Action.ending_get_bind, Action.ending_lift_bind, bind_eq_ok] at resized
  obtain ⟨tensor, free, -⟩ := resized
  exact ⟨tensor.type, by simp [outputs], Graph.type_of_changeable free⟩

/-- The host and the engine on one node that the engine supports. What the host prepares, the engine
prepares alike, and what the engine fails to prepare, the host fails to prepare. Where only the host
fails, an element type breaks one of its rules, and then the node is not evaluated either, whatever
the tensors hold. Where the types are right both evaluate alike. -/
theorem errors_agree (supported : supports options g id = true)
    (found : g.nodes[id]? = some node) (captured : Descriptor.ofNode node = .ok d) :
    (∀ g', (Registry.all.prepare id).outcome g = (some (), g') →
      d.infer.outcome g = (some (), g')) ∧
    (∀ failure, (d.infer.run g).ending = .error (.failed failure) →
      ∃ failure', ((Registry.all.prepare id).run g).ending = .error (.failed failure')) ∧
    ((d.infer.run g).ending = .ok () → ((Registry.all.prepare id).run g).ending ≠ .ok () →
      Builtin.TypeBreach g node ∧ ∀ t : Graph,
        (∀ id ∈ node.inputs ++ node.outputs, t.type id = g.type id) → d.evaluate.Refuses t) ∧
    ∀ t : Graph, t.nodes[id]? = some node → supports options t id = true →
      Builtin.WellTyped t node →
      d.evaluate.outcome t = (Registry.all.evaluate id).outcome t := by
  have captures := Descriptor.ofNode_eq_ok.mp captured
  refine ⟨fun g' prepared => ?_, fun failure failed => ?_, fun inferred failed => ?_,
    fun t found' supported' typed => ?_⟩
  · rw [outcome_registry_prepare found] at prepared
    rw [outcome_prepare_eq captures (Builtin.wellTyped_of_prepare captures prepared), prepared]
  · obtain ⟨failure', failed⟩ := prepare_fails_of_infer captures failed
    exact ⟨_, by rw [ending_registry_prepare found, failed]; rfl⟩
  · have runnable := Substitution.runnable_of_supports supported found captures
    obtain ⟨a, first, single⟩ := runnable.first_input captures
    obtain ⟨⟨shape, shaped⟩, output, type, out, outputType⟩ := type_of_infer captures inferred
    -- were the types right, then the host would have prepared what the engine prepares
    have untyped : ¬ Builtin.WellTyped g node := by
      intro typed
      have same := outcome_prepare_eq captures typed
      rw [← outcome_registry_prepare found, Action.outcome_eq_some.mpr ⟨inferred, rfl⟩] at same
      exact failed (Action.outcome_eq_some.mp same.symm).1
    have breach := Builtin.typeBreach first out single outputType
      (types_of_outputShape captures shaped) untyped
    refine ⟨breach, fun t same => ?_⟩
    have first' := same a (List.mem_append_left _ (List.mem_of_getElem? first))
    have out' := same output (List.mem_append_right _ (List.mem_of_getElem? out))
    have runnable' : d.Runnable t := by
      refine ⟨⟨a, ?_, first'.trans single⟩, runnable.adjoint⟩
      rw [captures.inputs, List.head?_eq_getElem?, first]
    exact evaluate_refuses captures runnable' out (out'.trans outputType) (breach.congr same)
  · have runnable := Substitution.runnable_of_supports supported' found' captures
    rw [outcome_registry_evaluate found', outcome_evaluate_eq captures runnable typed]

/-- Three nodes: one takes absolute values, one adds vectors that can not be broadcast, and one adds
integers to numbers in single precision. -/
def mixed : Graph where
  tensors := [
    ⟨"x", ⟨.f32, ⟨[2], #[Numeric.Floating.ofNat 3, Numeric.Floating.ofNat 4], by decide⟩⟩, false⟩,
    ⟨"i", ⟨.i32, ⟨[2], #[1, 2], by decide⟩⟩, false⟩,
    ⟨"v", ⟨.f32, ⟨[3], #[0, 0, 0], by decide⟩⟩, false⟩,
    ⟨"a", Tensor.empty .f32, false⟩, ⟨"b", Tensor.empty .f32, false⟩,
    ⟨"c", Tensor.empty .f32, false⟩]
  nodes := [⟨0, "abs", .abs, none, [0], [3]⟩, ⟨1, "add", .add, none, [0, 2], [4]⟩,
    ⟨2, "mix", .add, none, [0, 1], [5]⟩]
  inputs := [0, 1, 2]
  outputs := [3, 4, 5]

/-- The host prepares the first node, and so does the engine. Neither prepares the second one. Only
the engine prepares the third one, but then does not evaluate it. -/
theorem mixed_errors_agree :
    let abs : Descriptor := ⟨.abs, .none, .none, [0], [3]⟩
    let add : Descriptor := ⟨.add, .none, .none, [0, 2], [4]⟩
    let mix : Descriptor := ⟨.add, .none, .none, [0, 1], [5]⟩
    (∀ id < 3, supports .all mixed id = true) ∧
      ((Registry.all.prepare 0).outcome mixed).1 = some () ∧
      abs.infer.outcome mixed = (Registry.all.prepare 0).outcome mixed ∧
      abs.evaluate.outcome mixed = (Registry.all.evaluate 0).outcome mixed ∧
      (add.infer.run mixed).ending ≠ .ok () ∧
      (∃ failure, ((Registry.all.prepare 1).run mixed).ending = .error (.failed failure)) ∧
      (mix.infer.run mixed).ending = .ok () ∧
      ((Registry.all.prepare 2).run mixed).ending ≠ .ok () ∧
      Builtin.TypeBreach mixed ⟨2, "mix", .add, none, [0, 1], [5]⟩ ∧
      mix.evaluate.Refuses mixed := by
  intro abs add mix
  have supported : ∀ id < 3, supports .all mixed id = true := by decide +kernel
  have first := errors_agree (d := abs) (supported 0 (by decide)) rfl rfl
  have second := errors_agree (d := add) (supported 1 (by decide)) rfl rfl
  have third := errors_agree (d := mix) (supported 2 (by decide)) rfl rfl
  have prepared : ((Registry.all.prepare 0).outcome mixed).1 = some () := by decide +kernel
  have typed : Builtin.WellTyped mixed ⟨0, "abs", .abs, none, [0], [3]⟩ :=
    ⟨3, .f32, rfl, rfl, by decide +kernel, by simp⟩
  have inferred : (mix.infer.run mixed).ending = .ok () := by decide +kernel
  have refused : ((Registry.all.prepare 2).run mixed).ending ≠ .ok () := by decide +kernel
  obtain ⟨breach, refuses⟩ := third.2.2.1 inferred refused
  refine ⟨supported, prepared, first.1 _ (Prod.ext prepared rfl),
    first.2.2.2 mixed rfl (supported 0 (by decide)) typed, by decide +kernel,
    second.2.1 _ rfl, inferred, refused, breach, refuses mixed fun _ _ => rfl⟩

end Nodes

end TensorGraph
