import TensorGraph.Graph
import TensorGraph.Kernel.BatchToSpace
import TensorGraph.Kernel.ElementWise
import TensorGraph.Kernel.MatrixProduct
import TensorGraph.Kernel.Pooling
import TensorGraph.Kernel.Reduction
import TensorGraph.Proofs.Faults

/-!
# Classes of faults

The class of a failure is that of the outermost reason that the engine has given for it
(`Fault.category?`). Kernels and tensors are shared with the host, and their reasons have no class:
whatever they fail with is foreign to the engine.
-/

namespace TensorGraph

open Substitution (FailureClass)

/-! ## Faults -/

namespace Reason

@[simp] theorem category?_tensor (failure : TensorFailure) :
    (tensor failure).category? = none := rfl

@[simp] theorem category?_kernel (failure : KernelFailure) :
    (kernel failure).category? = none := rfl

@[simp] theorem category?_graph (failure : GraphFailure) : (graph failure).category? = none := rfl

@[simp] theorem category?_engine (failure : Substitution.EngineFailure) :
    (engine failure).category? = some failure.category := rfl

end Reason

namespace Fault

def category? : Fault → Option FailureClass
  | aborted => none
  | failed failure => failure.category?

/-- The fault is none of the engine's. -/
def Foreign (fault : Fault) : Prop := fault.category? = none

def OfClass (classes : List FailureClass) (fault : Fault) : Prop :=
  ∀ failure, fault = .failed failure → ∃ c ∈ classes, failure.category? = some c

variable {classes : List FailureClass}

@[simp] theorem foreign_aborted : aborted.Foreign := rfl

/-- A failure with a single reason is foreign if the reason has no class. -/
@[simp] theorem foreign_of {reason : Reason} :
    (Fault.of reason).Foreign ↔ reason.category? = none := by
  cases reason <;> simp [Foreign, Fault.category?, Fault.of, Failure.category?, Failure.reasons]

/-- What is aborted is no failure, and so it is of every class. -/
@[simp] theorem ofClass_aborted : OfClass classes aborted := by
  intro failure h
  cases h

@[simp] theorem ofClass_of_engine {failure : Substitution.EngineFailure} :
    OfClass classes (.of (.engine failure)) ↔ failure.category ∈ classes := by
  simp [OfClass, Fault.of, Failure.category?, Failure.reasons]

/-- The class of the engine's own reason is that of the failure, whatever is behind it. -/
@[simp] theorem ofClass_within_engine {fault : Fault} {failure : Substitution.EngineFailure} :
    OfClass classes (fault.within (.engine failure)) ↔
      fault = .aborted ∨ failure.category ∈ classes := by
  cases fault with
  | aborted => simp [Fault.within]
  | failed inner =>
      simp [OfClass, Fault.within, Failure.within, Failure.category?, Failure.reasons,
        List.findSome?_cons]

end Fault

/-! ## Tensors and kernels -/

section Foreign

open Fault (Foreign)

variable {g : Graph} {id : Nat} {α : Type}

@[simp] theorem foreign_tensor : FailsWith Foreign (g.tensor id) := by
  simp [Graph.tensor, Graph.entry]

@[simp] theorem foreign_elements {x : Tensor} {type : ElementType} :
    FailsWith Foreign (x.elements type) := by
  unfold Tensor.elements
  split <;> simp

/-- Looking at a tensor knows nothing of the engine. -/
@[simp] theorem foreign_view {x : Tensor} {type : ElementType} :
    FailsWith Foreign (x.view type) := by
  simp [Tensor.view]

@[simp] theorem foreign_broadcast (shapes : List Shape) :
    FailsWith Foreign (Shape.broadcast shapes) := by
  simp [Shape.broadcast]

/-- A kernel that fills the whole output fails as the computation of its values does. -/
theorem foreign_overwrite {output : Grid α} {e : Except Fault (Grid α)} (h : FailsWith Foreign e) :
    FailsWith Foreign (output.overwrite e).1 := by
  cases e with
  | ok filled => exact failsWith_ok ()
  | error fault => exact failsWith_error.mpr (failsWith_error.mp h)

theorem foreign_unary (f : α → α) (input output : Grid α) :
    FailsWith Foreign (Kernel.unary f input output) := by
  simp [Kernel.unary]

theorem foreign_zipBroadcast (f : α → α → α) (a b output : Grid α) :
    FailsWith Foreign (Kernel.zipBroadcast f a b output) := by
  simp [Kernel.zipBroadcast]

theorem foreign_binary [FloatLike α] (f : α → α → α) (range : ClampRange α) (a b output : Grid α) :
    FailsWith Foreign (Kernel.binary f range a b output) :=
  foreign_zipBroadcast (fun x y => range.clamp (f x y)) a b output

theorem foreign_addN [Number α] {inputs : List (Grid α)} {output : Grid α} :
    FailsWith Foreign (Kernel.addN inputs output) := by
  cases inputs with
  | nil => simp [Kernel.addN]
  | cons first others =>
      simp only [Kernel.addN, failsWith_bind, failsWith_pure, implies_true, and_true]
      exact failsWith_forM fun input _ => by simp

theorem foreign_ofShapes {a b : Shape} {adjointA adjointB : Bool} :
    FailsWith Foreign (MatrixGeometry.ofShapes a b adjointA adjointB) := by
  simp [MatrixGeometry.ofShapes]

theorem foreign_batchMatMul [Number α] {adjointA adjointB : Bool} {a b output : Grid α} :
    FailsWith Foreign (Kernel.batchMatMul adjointA adjointB a b output).1 := by
  have geometry : FailsWith Foreign
      (Kernel.productGeometry adjointA adjointB a.shape b.shape output.shape) := by
    simp [Kernel.productGeometry, foreign_ofShapes]
  have matrix (shape : Shape) (position : List Nat) :
      FailsWith Foreign (Kernel.operandMatrix shape position) := by
    simp only [Kernel.operandMatrix, failsWith_bind, failsWith_checked, Fault.foreign_aborted,
      or_true, true_and]
    exact fun _ _ => failsWith_mapM fun _ _ => by simp
  have product (geometry : MatrixGeometry) :
      FailsWith Foreign (Kernel.products geometry adjointA adjointB a b output) :=
    failsWith_foldlM fun _ _ _ => by simp [Kernel.multiply, matrix]
  unfold Kernel.batchMatMul
  split
  next fault failed => exact failsWith_error.mpr (geometry fault failed)
  next geometry _ =>
    split
    next fault failed => exact failsWith_error.mpr (product geometry fault failed)
    next => exact failsWith_ok _

theorem foreign_axis {padding : Padding} {input kernel dilation stride : Nat} :
    FailsWith Foreign (padding.axis input kernel dilation stride) := by
  have extent (field : Nat) : FailsWith Foreign (padding.outputExtent input field stride) := by
    cases padding <;> simp [Padding.outputExtent]
  simp [Padding.axis, extent]

theorem foreign_axes {geometry : PoolGeometry} {input : Shape} :
    FailsWith Foreign (geometry.axes input) := by
  unfold PoolGeometry.axes
  split <;> simp [foreign_axis]

theorem foreign_poolShape {geometry : PoolGeometry} {input : Shape} :
    FailsWith Foreign (geometry.outputShape input) := by
  simp [PoolGeometry.outputShape, foreign_axes]

theorem foreign_windowSpan {axis : PaddedAxis} {kernel stride position : Nat} :
    FailsWith Foreign (Kernel.windowSpan axis kernel stride position) := by
  simp only [Kernel.windowSpan, failsWith_bind, failsWith_checked, Fault.foreign_aborted, or_true,
    true_and]
  intros
  split
  · exact failsWith_pure _
  · exact failsWith_error.mpr Fault.foreign_aborted

theorem foreign_checkWindows {geometry : PoolGeometry} {rows columns : PaddedAxis}
    {batches channels : Nat} :
    FailsWith Foreign (Kernel.checkWindows geometry rows columns batches channels) := by
  unfold Kernel.checkWindows
  split
  · simp
  · refine failsWith_forM fun oy _ => ?_
    rw [failsWith_bind]
    refine ⟨foreign_windowSpan, fun y _ => failsWith_forM fun ox _ => ?_⟩
    simp [Kernel.windowAt, foreign_windowSpan]

theorem foreign_poolInto (reduce : List α → α) (geometry : PoolGeometry) (input output : Grid α) :
    FailsWith Foreign (Kernel.poolInto reduce geometry input output).1 := by
  have axes : FailsWith Foreign (Kernel.outputAxes geometry input.shape output.shape) := by
    simp [Kernel.outputAxes, foreign_axes, foreign_poolShape]
  unfold Kernel.poolInto
  split
  next fault failed => exact failsWith_error.mpr (axes fault failed)
  next => exact foreign_checkWindows

theorem foreign_argExtremum {type indexType : ElementType} {axis : Nat} {largest : Bool}
    {input : Grid type.Element} {output : Grid indexType.Element} :
    FailsWith Foreign (Kernel.argExtremum type indexType axis largest input output).1 := by
  unfold Kernel.argExtremum
  dsimp only
  split
  next fault failed =>
    revert fault
    show FailsWith _ _
    simp
  next => split <;> simp

theorem foreign_target {index block place crop extent : Nat} :
    FailsWith Foreign (Kernel.Weaving.target index block place crop extent) := by
  simp [Kernel.Weaving.target]

theorem foreign_moves {w : Kernel.Weaving} : FailsWith Foreign w.moves := by
  simp only [Kernel.Weaving.moves, failsWith_bind, failsWith_pure, implies_true, and_true]
  refine failsWith_mapM fun b _ => ?_
  simp only [failsWith_bind, failsWith_pure, implies_true, and_true]
  refine failsWith_mapM fun y _ => ?_
  rw [failsWith_bind]
  refine ⟨foreign_target, fun row _ => ?_⟩
  split
  · simp
  · simp only [failsWith_bind, failsWith_pure, implies_true, and_true]
    refine failsWith_mapM fun x _ => ?_
    rw [failsWith_bind]
    refine ⟨foreign_target, fun column _ => ?_⟩
    split <;> simp

theorem foreign_batchToSpace {block : List Nat} {crops : List (Nat × Nat)}
    {input output : Grid α} : FailsWith Foreign (Kernel.batchToSpace block crops input output) := by
  simp only [Kernel.batchToSpace, failsWith_bind, failsWith_ensure, Fault.foreign_of,
    Reason.category?_kernel, or_true, true_and]
  intros
  split <;> simp [foreign_moves]

end Foreign

end TensorGraph
