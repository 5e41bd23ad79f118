import TensorGraph.Proofs.Combining
import TensorGraph.Proofs.Extrema
import TensorGraph.Proofs.Filling
import TensorGraph.Proofs.Reshaping

/-!
# Reducing along an axis

The axis of a reduction is a number in a tensor, read once when the node is prepared and once when
it is evaluated. Of that tensor nothing matters but the axis that the number stands for
(`Node.Reduces.perform_restated`), even if it is the input or the output of the node as well. The
engine runs the nodes that it captures as the host does, if their types are right
(`Substitution.Descriptor.perform_eq_some`).
-/

namespace TensorGraph

open Substitution (Descriptor)
open TensorGraph.Action (Follows)

/-! ## Numbers that stand for an axis -/

/-- A tensor that keeps its number of values when it is resized keeps its integers. -/
theorem Tensor.integers_of_resize {x y : Tensor} {shape : Shape} (made : x.resize shape = .ok y)
    (kept : y.size = x.size) : y.integers = x.integers := by
  obtain ⟨type, grid⟩ := x
  unfold resize at made
  split at made
  · cases made
  next n counted =>
    split at made
    next =>
      cases made
      cases type <;> rfl
    next other =>
      cases made
      exact absurd (by simpa [size] using kept) other

theorem Tensor.size_of_integers {x : Tensor} {values : List Int} (h : x.integers = .ok values) :
    x.size = values.length := by
  unfold integers at h
  split at h
  · rw [Except.ok.injEq] at h
    rw [← h, List.length_map]
    rfl
  · cases h

namespace Graph

variable {g g' h : Graph} {a t axis output : Nat}

theorem integersOf_eq_ok {values : List Int} : Descriptor.integersOf g t = .ok values ↔
    ∃ entry, g.tensors[t]? = some entry ∧ entry.tensor.integers = .ok values := by
  simp [Descriptor.integersOf, tensor_eq_ok]

/-- One tensor holds a single integer, which stands for an axis of another tensor. -/
def AxisOf (g : Graph) (a t axis : Nat) : Prop :=
  ∃ value shape, g.shape a = .ok shape ∧ Descriptor.integersOf g t = .ok [value] ∧
    StandsFor shape.length value axis

/-- A tensor stands for one axis at most. -/
theorem AxisOf.unique {axis' : Nat} (h : g.AxisOf a t axis) (h' : g.AxisOf a t axis') :
    axis = axis' := by
  obtain ⟨value, shape, shaped, read, stands⟩ := h
  obtain ⟨value', shape', shaped', read', stands'⟩ := h'
  obtain rfl : shape = shape' := by rwa [shaped, Except.ok.injEq] at shaped'
  obtain rfl : value = value' := by simpa [read] using read'
  exact stands.2.symm.trans stands'.2

/-- Which axis it stands for depends on the two tensors only. -/
theorem AxisOf.congr (h : g.AxisOf a t axis) (input : g'.tensors[a]? = g.tensors[a]?)
    (number : g'.tensors[t]? = g.tensors[t]?) : g'.AxisOf a t axis := by
  obtain ⟨value, shape, shaped, read, stands⟩ := h
  refine ⟨value, shape, (shape_congr input).trans shaped, ?_, stands⟩
  rwa [integersOf_eq_ok, number, ← integersOf_eq_ok]

theorem AxisOf.lt {shape : Shape} (h : g.AxisOf a t axis) (shaped : g.shape a = .ok shape) :
    axis < shape.length := by
  obtain ⟨value, shape', shaped', -, stands⟩ := h
  obtain rfl : shape = shape' := by rwa [shaped, Except.ok.injEq] at shaped'
  exact stands.lt

/-- Resizing another tensor than the one with the axis keeps the axis, as long as the integer that
stands for it is not lost. -/
theorem AxisOf.of_resize {x y : Tensor} {shape : Shape} (h : g.AxisOf a t axis)
    (apart : a ≠ output) (free : g.changeable output = .ok x) (made : x.resize shape = .ok y)
    (kept : t = output → y.size = x.size) : (g.put output y).AxisOf a t axis := by
  obtain ⟨value, s, shaped, read, stands⟩ := h
  refine ⟨value, s, ?_, ?_, stands⟩
  · rw [← shaped]
    apply shape_congr
    rw [getElem?_put, if_neg apart.symm]
  · obtain ⟨entry, found, integers⟩ := integersOf_eq_ok.mp read
    rw [integersOf_eq_ok, getElem?_put]
    split
    next here =>
      obtain ⟨entry', found', -, rfl⟩ := changeable_eq_ok.mp free
      obtain rfl : entry = entry' := by rwa [← here, found', Option.some.injEq, eq_comm] at found
      refine ⟨{ entry with tensor := y }, by rw [← here, found']; rfl, ?_⟩
      rw [← integers]
      exact Tensor.integers_of_resize made (kept here.symm)
    next => exact ⟨entry, found, integers⟩

/-! ## Restating the axis -/

/-- The graphs differ at most in the values of the tensor that holds the axis, and these stand for
the same axis. -/
structure Restates (a t axis : Nat) (g g' : Graph) : Prop where
  fills : Fills [t] g g'
  before : g.AxisOf a t axis
  after : g'.AxisOf a t axis

namespace Restates

theorem symm (same : Restates a t axis g g') : Restates a t axis g' g :=
  ⟨same.fills.symm, same.after, same.before⟩

/-- Resizing the output keeps what the graphs have in common. It may even lose the difference. -/
theorem resize {shape : Shape} (same : Restates a t axis g g') (apart : a ≠ output) :
    Follows (fun u u' => u' = u ∨ Restates a t axis u u') (Graph.resize output shape)
      (Graph.resize output shape) g g' := by
  rintro ⟨⟩ u done
  obtain ⟨x, y, free, made, rfl⟩ := put_of_resize done
  obtain ⟨x', free', type, shaped⟩ := same.fills.exists_changeable free
  have counted : shape.count? = some y.size := (Tensor.resize_eq_ok made).2 ▸ y.grid.counted
  obtain ⟨u', done'⟩ := resize_succeeds free' counted
  obtain ⟨x'', y', free'', made', rfl⟩ := put_of_resize done'
  obtain rfl : x' = x'' := by rwa [free', Except.ok.injEq] at free''
  have type' : y'.type = y.type := by
    rw [(Tensor.resize_eq_ok made).1, (Tensor.resize_eq_ok made').1, type]
  have shaped' : y'.shape = y.shape := by
    rw [(Tensor.resize_eq_ok made).2, (Tensor.resize_eq_ok made').2]
  have size' := Tensor.size_of_shape shaped'
  refine ⟨_, done', ?_⟩
  by_cases lost : t = output ∧ y.size ≠ x.size
  · -- the integers have been replaced by zeros
    obtain ⟨rfl, lost⟩ := lost
    left
    have zeros := Tensor.resize_of_size_ne made lost type (Tensor.size_of_shape shaped ▸ lost)
    obtain rfl : y' = y := by rwa [made', Except.ok.injEq] at zeros
    refine (same.fills.put_both rfl rfl fun _ => rfl).toTouches.eq fun id inside => ?_
    rw [List.mem_singleton.mp inside]
    exact same.fills.put_getElem? t y'
  · right
    have kept (here : t = output) : y.size = x.size := by
      by_contra other
      exact lost ⟨here, other⟩
    refine ⟨same.fills.put_both type' shaped' fun outside => ?_,
      same.before.of_resize apart free made kept,
      same.after.of_resize apart free' made' fun here => ?_⟩
    · have there := same.fills.elsewhere output outside
      rw [changeable_congr there, free] at free'
      obtain rfl : x = x' := Except.ok.inj free'
      rwa [made, Except.ok.injEq, eq_comm] at made'
    · rw [size', kept here, Tensor.size_of_shape shaped]

/-- If the input holds the axis, it has a single value. -/
theorem single {type : ElementType} {input : Grid type.Element} (same : Restates a a axis g g')
    (seen : g.view a type = .ok input) : input.shape.positions = 1 := by
  obtain ⟨value, -, -, read, -⟩ := same.before
  obtain ⟨entry, found, integers⟩ := integersOf_eq_ok.mp read
  obtain ⟨entry', found', tensor, -⟩ := view_eq_ok.mp seen
  obtain rfl : entry = entry' := by rwa [found, Option.some.injEq] at found'
  have size := Tensor.size_of_integers integers
  rw [tensor] at size
  rw [← Grid.size_eq]
  exact size

/-- While the output is being filled, the kernel finds the same indices in both inputs: these are
the same, unless they hold the axis and nothing else. -/
theorem view {type indexType : ElementType} {input : Grid type.Element}
    (same : Restates a t axis g g')
    (seen : (g.put output (Tensor.empty indexType)).view a type = .ok input) :
    ∃ input', (g'.put output (Tensor.empty indexType)).view a type = .ok input' ∧
      input'.shape = input.shape ∧ ∀ largest place, axis < input.shape.length →
        Kernel.extremumIndex type axis largest input' place =
          Kernel.extremumIndex type axis largest input place := by
  have both : Fills [t] (g.put output (Tensor.empty indexType))
      (g'.put output (Tensor.empty indexType)) := same.fills.put_both rfl rfl fun _ => rfl
  -- Only a tensor that holds the axis itself may differ. It has a single value then, so that the
  -- first extremum is at index 0 in both.
  by_cases holds : t = a ∧ output ≠ a
  · obtain ⟨rfl, apart⟩ := holds
    obtain ⟨entry, found, tensor, small⟩ := view_eq_ok.mp seen
    obtain ⟨input', seen', shape⟩ := exists_view ((both.type_eq t).trans (type_of_view seen))
      ((both.shape_eq t).trans (shape_of_view seen)) small
    refine ⟨input', seen', shape, fun largest place inRange => ?_⟩
    have unfilled : g.view t type = .ok input := by
      rw [getElem?_put, if_neg apart] at found
      exact view_eq_ok.mpr ⟨entry, found, tensor, small⟩
    have one := Shape.getD_of_single (same.single unfilled) inRange
    have first := Kernel.extremumIndex_lt (by rw [one]; exact Nat.one_pos) largest place
    have first' := Kernel.extremumIndex_lt (by rw [shape, one]; exact Nat.one_pos) largest place
    rw [shape] at first'
    omega
  · have there : (g'.put output (Tensor.empty indexType)).tensors[a]? =
        (g.put output (Tensor.empty indexType)).tensors[a]? := by
      by_cases held : output = a
      · rw [held]
        exact same.fills.put_getElem? a _
      · exact both.elsewhere a fun inside =>
          holds ⟨(List.mem_singleton.mp inside).symm, held⟩
    refine ⟨input, ?_, rfl, fun _ _ _ => rfl⟩
    rwa [view_congr there]

end Restates

end Graph

/-! ## Nodes -/

namespace Builtin

def perform (node : Node) : Action Graph Unit := do
  prepare node
  evaluate node

theorem perform_eq_some {g g' : Graph} {node : Node} :
    (perform node).outcome g = (some (), g') ↔
      ∃ t, (prepare node).outcome g = (some (), t) ∧ (evaluate node).outcome t = (some (), g') :=
  Action.then_eq_some

end Builtin

/-- The node finds the largest values along an axis, or the smallest ones, in the tensor `a`. The
tensor `t` holds the axis. -/
structure Node.Reduces (node : Node) (largest : Bool) (a t output : Nat) : Prop where
  operator : node.operator = if largest then .argMax else .argMin
  inputs : node.inputs = [a, t]
  outputs : node.outputs = [output]

namespace Node.Reduces

variable {g g' h : Graph} {node : Node} {largest : Bool} {a t output axis : Nat}

theorem outputShape (reduces : node.Reduces largest a t output) (g : Graph) :
    Builtin.outputShape g node = Builtin.reducedShape g node := by
  have operator := reduces.operator
  cases largest <;> rw [Builtin.outputShape, operator] <;> rfl

theorem evaluate (reduces : node.Reduces largest a t output) :
    Builtin.evaluate node = Builtin.evaluateArgExtremum node largest := by
  have operator := reduces.operator
  cases largest <;> rw [Builtin.evaluate, operator] <;> rfl

theorem input_eq (reduces : node.Reduces largest a t output) : node.input 0 = .ok a := by
  rw [Node.input_eq_ok, reduces.inputs]
  rfl

theorem output_eq (reduces : node.Reduces largest a t output) : node.output 0 = .ok output := by
  rw [Node.output_eq_ok, reduces.outputs]
  rfl

/-- The node reduces the axis that its second input stands for. -/
theorem reductionAxis_eq_ok (reduces : node.Reduces largest a t output) :
    Builtin.reductionAxis g node = .ok axis ↔ g.AxisOf a t axis := by
  simp [Builtin.reductionAxis_eq_ok, reduces.inputs, Graph.AxisOf]

/-- The reduced shape lacks that axis, if the output is for indices of the declared type. -/
theorem reducedShape_eq_ok (reduces : node.Reduces largest a t output) {shape : Shape} :
    Builtin.reducedShape g node = .ok shape ↔ ∃ type axis s, g.type output = .ok type ∧
      (type = .i32 ∨ type = .i64) ∧ (∀ declared ∈ Builtin.declaredType? node, declared = type) ∧
      g.AxisOf a t axis ∧ g.shape a = .ok s ∧ s.eraseIdx axis = shape := by
  cases declared : Builtin.declaredType? node <;>
    simp [Builtin.reducedShape, Builtin.checkArity, reduces.inputs, reduces.outputs,
      reduces.input_eq, reduces.output_eq, reduces.reductionAxis_eq_ok, declared]

/-- What it takes to evaluate the node: the types and the axis, and the kernel succeeds, with an
empty tensor in the place of the output. -/
theorem evaluate_eq_some (reduces : node.Reduces largest a t output) :
    (Builtin.evaluate node).outcome g = (some (), h) ↔ ∃ type indexType axis input old,
      g.type a = .ok type ∧ type.number?.isSome = true ∧ (indexType = .i32 ∨ indexType = .i64) ∧
      g.AxisOf a t axis ∧ g.changeable output = .ok ⟨indexType, old⟩ ∧ old.shape.Addressable ∧
      (g.put output (Tensor.empty indexType)).view a type = .ok input ∧
      (Kernel.argExtremum type indexType axis largest input old).1 = .ok () ∧
      g.put output ⟨indexType,
        (Kernel.argExtremum type indexType axis largest input old).2⟩ = h := by
  rw [reduces.evaluate]
  simp only [Builtin.evaluateArgExtremum, Builtin.inputType, bind_assoc, Action.outcome_bind,
    Action.outcome_get, Action.outcome_lift, Action.proceed_some, Action.proceed_toOption,
    reduces.input_eq, reduces.output_eq, reduces.reductionAxis_eq_ok, Except.ok.injEq,
    exists_eq_left', ensure_eq_ok, Graph.computing_eq_some, bind_eq_ok, pure_eq_ok]
  constructor
  · rintro ⟨type, typed, _, number, indexType, typed', _, index, axis, resolved, old, kernel, free,
      small, ⟨input, seen, rfl⟩, done, rfl⟩
    exact ⟨type, indexType, axis, input, old, typed, number, index, resolved, free, small, seen,
      done, rfl⟩
  · rintro ⟨type, indexType, axis, input, old, typed, number, index, resolved, free, small, seen,
      done, rfl⟩
    exact ⟨type, typed, (), number, indexType, Graph.type_of_changeable free, (), index, axis,
      resolved, old, _, free, small, ⟨input, seen, rfl⟩, done, rfl⟩

/-- A node that can be evaluated does not find the empty tensor in the place of its input. -/
theorem apart_of_evaluate (reduces : node.Reduces largest a t output)
    (done : (Builtin.evaluate node).outcome g = (some (), h)) : a ≠ output := by
  rintro rfl
  obtain ⟨type, indexType, axis, input, old, -, -, -, -, -, -, seen, found, -⟩ :=
    reduces.evaluate_eq_some.mp done
  obtain ⟨⟨inRange, nonempty, -⟩, -⟩ := Kernel.argExtremum_eq_ok.mp found
  rcases Graph.shape_of_view_put seen with ⟨-, empty⟩ | ⟨other, -⟩
  · rw [empty] at inRange nonempty
    obtain rfl : axis = 0 := Nat.lt_one_iff.mp inRange
    exact Nat.lt_irrefl 0 nonempty
  · exact other rfl

/-! ### Restating the axis -/

/-- Preparing does not tell apart numbers that stand for one axis. -/
theorem prepare_restated (reduces : node.Reduces largest a t output)
    (same : Graph.Restates a t axis g g') (apart : a ≠ output) :
    Follows (fun u u' => u' = u ∨ Graph.Restates a t axis u u') (Builtin.prepare node)
      (Builtin.prepare node) g g' := by
  have rule : Builtin.outputShape g' node = Builtin.outputShape g node := by
    have resolved := reduces.reductionAxis_eq_ok.mpr same.before
    have resolved' := reduces.reductionAxis_eq_ok.mpr same.after
    simp only [reduces.outputShape, Builtin.reducedShape, resolved, resolved', reduces.input_eq,
      same.fills.type_eq, same.fills.shape_eq]
  refine .get_bind (.lift_bind rule fun shape _ => .lift_bind rfl fun id found => ?_)
  obtain rfl : output = id := by rwa [reduces.output_eq, Except.ok.injEq] at found
  exact same.resize apart

theorem evaluate_restated (reduces : node.Reduces largest a t output)
    (same : Graph.Restates a t axis g g') :
    Follows (fun u u' => u'.tensors[output]? = u.tensors[output]?) (Builtin.evaluate node)
      (Builtin.evaluate node) g g' := by
  rintro ⟨⟩ u done
  obtain ⟨type, indexType, axis', input, old, typed, number, index, resolved, free, small, seen,
    found, rfl⟩ := reduces.evaluate_eq_some.mp done
  obtain rfl := same.before.unique resolved
  obtain ⟨input', seen', shape, indices⟩ := same.view seen
  obtain ⟨⟨own, old'⟩, free', type', shape'⟩ := same.fills.exists_changeable free
  obtain rfl : own = indexType := type'
  replace shape' : old'.shape = old.shape := shape'
  have inRange := (Kernel.argExtremum_eq_ok.mp found).1.1
  have alike := Kernel.argExtremum_congr shape shape'
    (fun place => indices largest place inRange) found
  refine ⟨_, reduces.evaluate_eq_some.mpr ⟨type, own, axis, input', old',
    (same.fills.type_eq a).trans typed, number, index, same.after, free', ?_, seen', ?_, rfl⟩, ?_⟩
  · rw [shape']
    exact small
  · rw [alike, found]
  · rw [alike]
    exact same.fills.put_getElem? output _

/-- Only the axis matters that the number stands for. -/
theorem perform_restated (reduces : node.Reduces largest a t output)
    (same : Graph.Restates a t axis g g') :
    Follows (fun u u' => u'.tensors[output]? = u.tensors[output]?) (Builtin.perform node)
      (Builtin.perform node) g g' := by
  rintro ⟨⟩ u done
  obtain ⟨v, prepared, evaluated⟩ := Builtin.perform_eq_some.mp done
  have apart := reduces.apart_of_evaluate evaluated
  obtain ⟨v', prepared', rfl | same'⟩ := reduces.prepare_restated same apart _ _ prepared
  · exact ⟨u, Builtin.perform_eq_some.mpr ⟨_, prepared', evaluated⟩, rfl⟩
  · obtain ⟨u', evaluated', filled⟩ := reduces.evaluate_restated same' _ _ evaluated
    exact ⟨u', Builtin.perform_eq_some.mpr ⟨v', prepared', evaluated'⟩, filled⟩

/-- The output gets the shape of the input without the axis. -/
theorem shape_of_perform (reduces : node.Reduces largest a t output) {shape : Shape}
    (shaped : g.shape a = .ok shape) (resolved : g.AxisOf a t axis)
    (done : (Builtin.perform node).outcome g = (some (), h)) :
    h.shape output = .ok (shape.eraseIdx axis) := by
  obtain ⟨u, prepared, evaluated⟩ := Builtin.perform_eq_some.mp done
  obtain ⟨output', tensor, outputs, free, ruled⟩ := Builtin.prepare_eq_some prepared
  obtain rfl : output = output' := by simpa [reduces.outputs] using outputs
  rw [reduces.outputShape, reduces.reducedShape_eq_ok] at ruled
  obtain ⟨-, axis', shape', -, -, -, resolved', shaped', reduced⟩ := ruled
  obtain rfl := resolved.unique resolved'
  obtain rfl : shape = shape' := by rwa [shaped, Except.ok.injEq] at shaped'
  have filled := (Builtin.evaluate_keepsTo node).related evaluated
  rw [filled.shape_eq, Graph.shape_of_changeable free, reduced]

/-! ### Success -/

/-- Preparing the node succeeds if the output may be changed and is of an index type. -/
theorem prepare_succeeds (reduces : node.Reduces largest a t output) {shape : Shape} {old : Tensor}
    (shaped : g.shape a = .ok shape) (small : shape.Addressable)
    (free : g.changeable output = .ok old) (index : old.type = .i32 ∨ old.type = .i64)
    (declared : ∀ declared ∈ Builtin.declaredType? node, declared = old.type)
    (resolved : g.AxisOf a t axis) :
    ∃ u z, (Builtin.prepare node).outcome g = (some (), u) ∧ Graph.Touches [output] g u ∧
      u.changeable output = .ok ⟨old.type, z⟩ ∧ z.shape = shape.eraseIdx axis := by
  obtain ⟨n, counted⟩ := (small.sublist (List.eraseIdx_sublist shape axis)).counted
  have ruled := reduces.reducedShape_eq_ok.mpr
    ⟨old.type, axis, shape, Graph.type_of_changeable free, index, declared, resolved, shaped, rfl⟩
  obtain ⟨u, resized⟩ := Graph.resize_succeeds free counted
  have prepared : (Builtin.prepare node).outcome g = (some (), u) := by
    simp [Builtin.prepare, reduces.outputShape, ruled, reduces.output_eq, resized]
  have touched := (Graph.resize_keepsTo _ (List.mem_singleton_self output)).related resized
  obtain ⟨⟨own, z⟩, free', fits⟩ := Graph.resize_eq_some resized
  obtain rfl : own = old.type := by
    have types := touched.type_eq output
    rwa [Graph.type_of_changeable free, Graph.type_of_changeable free', Except.ok.injEq] at types
  exact ⟨u, z, prepared, touched, free', fits⟩

/-- Evaluating the node finds the extrema, if the output has the right shape and may hold all
indices on the axis. -/
theorem evaluate_finds (reduces : node.Reduces largest a t output) {type indexType : ElementType}
    {x : Grid type.Element} {z : Grid indexType.Element} (seen : g.view a type = .ok x)
    (number : type.number?.isSome = true) (free : g.changeable output = .ok ⟨indexType, z⟩)
    (index : indexType = .i32 ∨ indexType = .i64) (apart : ∀ id ∈ node.inputs, id ∉ node.outputs)
    (resolved : g.AxisOf a t axis) (fits : z.shape = x.shape.eraseIdx axis)
    (nonempty : 0 < x.shape.getD axis 0)
    (indices : ∀ i < x.shape.getD axis 0, (indexType.ofIndex? i).isSome = true) :
    ∃ h filled, (Builtin.evaluate node).outcome g = (some (), h) ∧
      h.tensor output = .ok ⟨indexType, filled⟩ ∧ ((∀ v ∈ x.values, type.Ordered v) →
        Kernel.HoldsExtrema type indexType axis largest x filled) := by
  obtain ⟨-, -, -, small⟩ := Graph.view_eq_ok.mp seen
  have inRange := resolved.lt (Graph.shape_of_view seen)
  have done := Kernel.argExtremum_succeeds inRange nonempty fits indices largest
  refine ⟨_, _, reduces.evaluate_eq_some.mpr ⟨type, indexType, axis, x, z, Graph.type_of_view seen,
    number, index, resolved, free, ?_, ?_, done, rfl⟩, Graph.tensor_put free _, ?_⟩
  · rw [fits]
    exact small.sublist (List.eraseIdx_sublist x.shape axis)
  · rw [view_put_input apart (by simp [reduces.inputs]) (by rw [reduces.outputs]; rfl), seen]
  · intro ordered
    exact Kernel.argExtremum_finds ordered done

/-- The node finds the extrema of an addressable input along an axis that is not empty, if the
output is another tensor that may hold all indices on the axis. -/
theorem perform_finds (reduces : node.Reduces largest a t output) {type : ElementType}
    {x : Grid type.Element} {old : Tensor} (seen : g.view a type = .ok x)
    (number : type.number?.isSome = true) (free : g.changeable output = .ok old)
    (index : old.type = .i32 ∨ old.type = .i64)
    (declared : ∀ declared ∈ Builtin.declaredType? node, declared = old.type)
    (apart : ∀ id ∈ node.inputs, id ∉ node.outputs) (resolved : g.AxisOf a t axis)
    (nonempty : 0 < x.shape.getD axis 0)
    (indices : ∀ i < x.shape.getD axis 0, (old.type.ofIndex? i).isSome = true) :
    ∃ h filled, (Builtin.perform node).outcome g = (some (), h) ∧
      h.tensor output = .ok ⟨old.type, filled⟩ ∧ ((∀ v ∈ x.values, type.Ordered v) →
        Kernel.HoldsExtrema type old.type axis largest x filled) := by
  obtain ⟨-, -, -, small⟩ := Graph.view_eq_ok.mp seen
  obtain ⟨u, z, prepared, touched, free', fits⟩ :=
    reduces.prepare_succeeds (Graph.shape_of_view seen) small free index declared resolved
  have unchanged (id : Nat) (inside : id ∈ node.inputs) : u.tensors[id]? = g.tensors[id]? := by
    apply touched.elsewhere
    rw [← reduces.outputs]
    exact apart id inside
  have input := unchanged a (by simp [reduces.inputs])
  have number' := unchanged t (by simp [reduces.inputs])
  obtain ⟨h, filled, evaluated, stored, holds⟩ := reduces.evaluate_finds
    ((Graph.view_congr input).trans seen) number free' index apart (resolved.congr input number')
    fits nonempty indices
  exact ⟨h, filled, Builtin.perform_eq_some.mpr ⟨u, prepared, evaluated⟩, stored, holds⟩

end Node.Reduces

/-! ## The engine -/

namespace Substitution.Descriptor

def perform (d : Descriptor) : Action Graph Unit := do
  d.infer
  d.evaluate

theorem perform_eq_some {g g' : Graph} {node : Node} {d : Descriptor} (h : d.Captures node) :
    d.perform.outcome g = (some (), g') ↔ (Builtin.WellTyped g node ∧ d.Runnable g) ∧
      (Builtin.perform node).outcome g = (some (), g') := by
  rw [Builtin.perform_eq_some, perform, Action.then_eq_some]
  constructor
  · rintro ⟨t, inferred, evaluated⟩
    have frame := d.infer_sameFrame.related inferred
    have typed := Builtin.wellTyped_of_evaluate h evaluated
    have runnable := runnable_of_evaluate evaluated
    have typed' := typed.of_sameFrame frame.symm
    exact ⟨⟨typed', runnable.of_sameFrame frame.symm⟩, t, outcome_prepare_eq h typed' ▸ inferred,
      outcome_evaluate_eq h runnable typed ▸ evaluated⟩
  · rintro ⟨⟨typed, runnable⟩, t, prepared, evaluated⟩
    have frame := ((Builtin.prepare_keepsTo node).related prepared).toSameFrame
    exact ⟨t, (outcome_prepare_eq h typed).trans prepared, (outcome_evaluate_eq h
      (runnable.of_sameFrame frame) (typed.of_sameFrame frame)).trans evaluated⟩

end Substitution.Descriptor

/-! ## Host and engine -/

/-- The action succeeds, and the tensor with an id is the given one then. -/
def Graph.Yields (g : Graph) (run : Action Graph Unit) (id : Nat) (z : Tensor) : Prop :=
  ∃ h, run.outcome g = (some (), h) ∧ h.tensor id = .ok z

/-- The ways to perform a node whose first input has the type: the host takes all types, and the
engine single precision, if it can capture the node. -/
inductive Node.Performed (node : Node) : ElementType → Action Graph Unit → Prop where
  | host (type : ElementType) : Performed node type (Builtin.perform node)
  | engine {d : Descriptor} (captured : Descriptor.ofNode node = .ok d) :
    Performed node .f32 d.perform

namespace Node.Performed

variable {g g' h : Graph} {node : Node} {largest : Bool} {a t output axis : Nat}
  {type : ElementType} {run : Action Graph Unit} {z : Tensor}

/-- However the node is performed, the host would have ended in the same way. -/
theorem outcome_host (performed : node.Performed type run)
    (done : run.outcome g = (some (), h)) :
    (Builtin.perform node).outcome g = (some (), h) := by
  cases performed with
  | host => exact done
  | engine captured =>
      exact ((Descriptor.perform_eq_some (Descriptor.ofNode_eq_ok.mp captured)).mp done).2

/-- The action succeeds from another graph with the same types, if the host does. -/
theorem outcome_of_host (performed : node.Performed type run) {u : Graph}
    (done : run.outcome g = (some (), h)) (frame : Graph.SameFrame g g')
    (succeeds : (Builtin.perform node).outcome g' = (some (), u)) :
    run.outcome g' = (some (), u) := by
  cases performed with
  | host => exact succeeds
  | engine captured =>
      have captures := Descriptor.ofNode_eq_ok.mp captured
      obtain ⟨⟨typed, runnable⟩, -⟩ := (Descriptor.perform_eq_some captures).mp done
      exact (Descriptor.perform_eq_some captures).mpr
        ⟨⟨typed.of_sameFrame frame, runnable.of_sameFrame frame⟩, succeeds⟩

/-- So the same indices come of all numbers that stand for the axis. -/
theorem yields_of_restates (performed : node.Performed type run)
    (reduces : node.Reduces largest a t output) (same : Graph.Restates a t axis g g')
    (yields : g.Yields run output z) : g'.Yields run output z := by
  obtain ⟨u, done, found⟩ := yields
  obtain ⟨u', done', filled⟩ := reduces.perform_restated same _ _ (performed.outcome_host done)
  refine ⟨u', performed.outcome_of_host done same.fills.toSameFrame done', ?_⟩
  rwa [Graph.tensor_congr filled]

/-- The indices have the shape without the axis. -/
theorem shape_of_yields (performed : node.Performed type run)
    (reduces : node.Reduces largest a t output) {shape : Shape} (shaped : g.shape a = .ok shape)
    (resolved : g.AxisOf a t axis) (yields : g.Yields run output z) :
    z.shape = shape.eraseIdx axis := by
  obtain ⟨u, done, found⟩ := yields
  have reduced := reduces.shape_of_perform shaped resolved (performed.outcome_host done)
  obtain ⟨entry, present, rfl⟩ := Graph.tensor_eq_ok.mp found
  obtain ⟨entry', present', shaped'⟩ := Graph.shape_eq_ok.mp reduced
  obtain rfl : entry = entry' := by rwa [present, Option.some.injEq] at present'
  exact shaped'

/-- Where the host succeeds on an input of the type, so does the engine. -/
theorem succeeds (performed : node.Performed type run) (reduces : node.Reduces largest a t output)
    (typed : g.type a = .ok type) (done : (Builtin.perform node).outcome g = (some (), h)) :
    run.outcome g = (some (), h) := by
  cases performed with
  | host => exact done
  | @engine d captured =>
      have captures := Descriptor.ofNode_eq_ok.mp captured
      obtain ⟨u, prepared, -⟩ := Builtin.perform_eq_some.mp done
      refine (Descriptor.perform_eq_some captures).mpr
        ⟨⟨Builtin.wellTyped_of_prepare captures prepared, ⟨a, ?_, typed⟩, fun product => ?_⟩, done⟩
      · rw [captures.inputs, reduces.inputs]
        rfl
      · have operator := reduces.operator
        rw [captures.operator, product] at operator
        cases largest <;> cases operator

end Node.Performed

/-- The kernel finds the first extremum of every lane along every axis that is not empty, in
elements that are numbers, if the output can hold all indices.

The host, and the engine for nodes that it captures, let the tensor with the axis say it in two
ways: a negative number counts from the last axis. Both lead to the same indices, in the shape of
the input without that axis. They succeed under the conditions of the kernel, if the node does not
read its output, and if the output may be changed and has an index type that agrees with the node's
declaration. -/
theorem extrema_found :
    (∀ (type indexType : ElementType) (axis : Nat) (largest : Bool) (input : Grid type.Element)
      (output : Grid indexType.Element), (∀ v ∈ input.values, type.Ordered v) →
      axis < input.shape.length → 0 < input.shape.getD axis 0 →
      output.shape = input.shape.eraseIdx axis →
      (∀ i < input.shape.getD axis 0, (indexType.ofIndex? i).isSome = true) →
      ∃ filled, Kernel.argExtremum type indexType axis largest input output = (.ok (), filled) ∧
        Kernel.HoldsExtrema type indexType axis largest input filled) ∧
    ∀ (node : Node) (largest : Bool) (a t output : Nat) (type : ElementType)
      (run : Action Graph Unit), node.Reduces largest a t output → node.Performed type run →
      (∀ (g g' : Graph) (shape : Shape) (value : Int) (axis : Nat), Graph.Fills [t] g g' →
        g.shape a = .ok shape → -(shape.length : Int) ≤ value → value < shape.length →
        (axis : Int) = (if value < 0 then value + shape.length else value) →
        Descriptor.integersOf g t = .ok [value] → Descriptor.integersOf g' t = .ok [(axis : Int)] →
        ∀ z, (g.Yields run output z ↔ g'.Yields run output z) ∧
          (g.Yields run output z → z.shape = shape.eraseIdx axis)) ∧
      ∀ (g : Graph) (x : Grid type.Element) (old : Tensor) (value : Int) (axis : Nat),
        g.view a type = .ok x → type.number?.isSome = true → g.changeable output = .ok old →
        old.type = .i32 ∨ old.type = .i64 →
        (∀ declared ∈ Builtin.declaredType? node, declared = old.type) → output ∉ node.inputs →
        Descriptor.integersOf g t = .ok [value] → -(x.shape.length : Int) ≤ value →
        value < x.shape.length →
        (axis : Int) = (if value < 0 then value + x.shape.length else value) →
        0 < x.shape.getD axis 0 →
        (∀ i < x.shape.getD axis 0, (old.type.ofIndex? i).isSome = true) →
        ∃ filled : Grid old.type.Element, g.Yields run output ⟨old.type, filled⟩ ∧
          ((∀ v ∈ x.values, type.Ordered v) →
            Kernel.HoldsExtrema type old.type axis largest x filled) := by
  constructor
  · intro type indexType axis largest input output ordered inRange nonempty fits indices
    have done := Kernel.argExtremum_succeeds inRange nonempty fits indices largest
    exact ⟨_, Prod.ext done rfl, Kernel.argExtremum_finds ordered done⟩
  · intro node largest a t output type run reduces performed
    constructor
    · intro g g' shape value axis fills shaped lower upper same read read' z
      -- both graphs name one axis, one of them perhaps from behind
      have stands : StandsFor shape.length value axis := standsFor_iff.mpr ⟨⟨lower, upper⟩, same⟩
      have before : g.AxisOf a t axis := ⟨value, shape, shaped, read, stands⟩
      have after : g'.AxisOf a t axis :=
        ⟨axis, shape, (fills.shape_eq a).trans shaped, read', standsFor_self stands.lt⟩
      have restates : Graph.Restates a t axis g g' := ⟨fills, before, after⟩
      refine ⟨⟨?_, ?_⟩, ?_⟩
      · exact performed.yields_of_restates reduces restates
      · exact performed.yields_of_restates reduces restates.symm
      · exact performed.shape_of_yields reduces shaped before
    · intro g x old value axis seen number free index declared apart read lower upper same nonempty
        indices
      have resolved : g.AxisOf a t axis :=
        ⟨value, x.shape, Graph.shape_of_view seen, read, standsFor_iff.mpr ⟨⟨lower, upper⟩, same⟩⟩
      have apart' : ∀ id ∈ node.inputs, id ∉ node.outputs := by
        intro id inside written
        rw [reduces.outputs, List.mem_singleton] at written
        exact apart (written ▸ inside)
      obtain ⟨h, filled, done, stored, holds⟩ := reduces.perform_finds seen number free index
        declared apart' resolved nonempty indices
      have typed := Graph.type_of_view seen
      exact ⟨filled, ⟨h, performed.succeeds reduces typed done, stored⟩, holds⟩

/-- Two rows of scores. The first one has its largest score twice. -/
def rows : Grid Numeric.Single :=
  ⟨[2, 3], #[.ofNat 3, .ofNat 7, .ofNat 7, .ofNat 2, .ofNat 1, .ofNat 0], by decide⟩

/-- The best score of each row, where an axis counts from the last one. -/
def scores : Graph where
  tensors := [⟨"scores", ⟨.f32, rows⟩, false⟩, ⟨"axis", ⟨.i32, ⟨[1], #[-1], by decide⟩⟩, true⟩,
    ⟨"best", Tensor.empty .i64, false⟩]
  nodes := [⟨0, "best", .argMax, none, [0, 1], [2]⟩]
  inputs := [0]
  outputs := [2]

/-- Along the last axis, which is the second one, the first of the largest scores is found. -/
theorem scores_reduced :
    ∃ filled : Grid Int64,
      scores.Yields (Descriptor.perform ⟨.argMax, .none, .argExtremum none, [0, 1], [2]⟩) 2
        ⟨.i64, filled⟩ ∧
      (scores.put 1 ⟨.i32, ⟨[1], #[1], rfl⟩⟩).Yields
        (Descriptor.perform ⟨.argMax, .none, .argExtremum none, [0, 1], [2]⟩) 2 ⟨.i64, filled⟩ ∧
      filled.shape = [2] ∧ filled.get? [0] = some 1 := by
  obtain ⟨agree, finds⟩ := extrema_found.2 ⟨0, "best", .argMax, none, [0, 1], [2]⟩ true 0 1 2 .f32
    (Descriptor.perform ⟨.argMax, .none, .argExtremum none, [0, 1], [2]⟩) ⟨rfl, rfl, rfl⟩
    (.engine rfl)
  obtain ⟨filled, yields, holds⟩ := finds scores rows (Tensor.empty .i64) (-1) 1 rfl rfl rfl
    (.inr rfl) (by decide) (by decide) (by decide +kernel) (by decide) (by decide) (by decide)
    (by decide) (by decide +kernel)
  obtain ⟨same, shape⟩ := agree scores (scores.put 1 ⟨.i32, ⟨[1], #[1], rfl⟩⟩) [2, 3] (-1) 1
    (.put rfl rfl rfl (List.mem_singleton_self 1)) rfl (by decide) (by decide) (by decide)
    (by decide +kernel) (by decide +kernel) ⟨.i64, filled⟩
  have kept : filled.shape = [2] := shape yields
  refine ⟨filled, yields, same.mp yields, kept, ?_⟩
  obtain ⟨values, k, index, found, least, stored, represents, -⟩ :=
    (holds (by decide +kernel)).found [0] (by rw [kept]; decide)
  have value (i : Nat) (below : i < 3) {v : Numeric.Single} (there : rows.get? [0, i] = some v) :
      values i = v := Option.some.inj ((found i below).symm.trans there)
  have first := value 0 (by decide) rfl
  have second := value 1 (by decide) rfl
  have third := value 2 (by decide) rfl
  have best (i : Nat) (below : i < 3) : ElementType.f32.less (values 1) (values i) = false := by
    obtain rfl | rfl | rfl : i = 0 ∨ i = 1 ∨ i = 2 := by omega
    · rw [first, second]; decide +kernel
    · rw [second]; decide +kernel
    · rw [second, third]; decide +kernel
  obtain rfl | rfl : k = 0 ∨ k = 1 := Nat.le_one_iff_eq_zero_or_eq_one.mp
    (least.2 ⟨by decide, best⟩)
  · have surpassed := least.1.2 1 (by decide)
    rw [first, second] at surpassed
    exact absurd surpassed (by decide +kernel)
  · exact stored.trans represents.symm

end TensorGraph
