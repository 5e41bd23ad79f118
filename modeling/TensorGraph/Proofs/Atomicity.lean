import TensorGraph.Proofs.Faults
import TensorGraph.Proofs.Tasks
import TensorGraph.Proofs.Weaving
import TensorGraph.Proofs.Windows

/-!
# Failures leave the successful prefix

Preparing or evaluating one node is atomic: if it fails, the graph is what it was before. Most
kernels make their checks before they write. There are two exceptions. The extremum along an axis
finds out on the way that an index does not fit the output's type; that does not happen as long as
the axis is not longer than indices go (`Graph.IndicesFit`). Pooling finds out on the way that a
window is empty; that does not happen as long as no extent leaves the range of signed words
(`Graph.WindowsFit`).

So where a region or a whole plan fails, everything before the failing task has been done, the task
itself has left no trace, and nothing after it has been started (`failures_leave_prefixes`).
-/

namespace TensorGraph

open Substitution (Descriptor Region)

/-! ## Actions -/

namespace Action

variable {σ α β : Type} {s : σ}

/-- A failure of the action leaves the state as it was. -/
def Atomic (action : Action σ α) (s : σ) : Prop :=
  ∀ failure, (action.run s).ending = .error (.failed failure) → (action.run s).state = s

theorem Atomic.lift (e : Except Fault α) : (liftM e : Action σ α).Atomic s := fun _ _ => rfl

theorem Atomic.get_bind {next : σ → Action σ α} (h : (next s).Atomic s) :
    (Action.get >>= next).Atomic s := h

/-- Checks that look at no state may come first. -/
theorem Atomic.lift_bind {e : Except Fault α} {next : α → Action σ β}
    (h : ∀ a, e = .ok a → (next a).Atomic s) : (liftM e >>= next : Action σ β).Atomic s := by
  cases e with
  | ok a => exact h a rfl
  | error fault => exact fun _ _ => rfl

theorem Atomic.record_bind {event : Event} {next : Unit → Action σ α} (h : (next ()).Atomic s) :
    (Action.record event >>= next).Atomic s := h

/-- What never fails may come last. -/
theorem Atomic.bind_record {action : Action σ α} (h : action.Atomic s) (event : α → Event) :
    (action >>= fun a => Action.record (event a)).Atomic s := by
  intro failure failed
  cases ending : (action.run s).ending with
  | ok a =>
      rw [run_bind_of_ok ending] at failed
      cases failed
  | error fault =>
      rw [run_bind_of_error ending] at failed ⊢
      cases failed
      exact h failure ending

/-- A failure may be changed into another one, but not the end into a failure. -/
theorem Atomic.mapFault {action : Action σ α} {change : Fault → Fault}
    (kept : change .aborted = .aborted) (h : action.Atomic s) :
    (Action.mapFault change action).Atomic s := by
  intro failure failed
  rw [ending_mapFault] at failed
  cases ending : (action.run s).ending with
  | ok a =>
      rw [ending] at failed
      cases failed
  | error fault =>
      cases fault with
      | aborted =>
          rw [ending, Except.mapError, kept] at failed
          cases failed
      | failed failure => exact h failure ending

end Action

open TensorGraph.Action (Atomic)

/-! ## Kernels -/

/-- A kernel that fails leaves its output as it was. -/
def Grid.Atomic {α β : Type} (kernel : Grid β → Written α β) : Prop :=
  ∀ output fault, (kernel output).1 = .error fault → (kernel output).2 = output

/-- A kernel that makes a whole grid has written nothing when it fails. -/
theorem Grid.atomic_overwrite {β : Type} {kernel : Grid β → Except Fault (Grid β)} :
    Grid.Atomic fun output => output.overwrite (kernel output) := by
  intro output fault failed
  dsimp only at failed ⊢
  cases found : kernel output with
  | ok filled =>
      rw [found] at failed
      cases failed
  | error fault => rfl

namespace Kernel

variable {α : Type}

/-- Products fail in their checks, or when nothing has been put into the output yet. -/
theorem atomic_batchMatMul [Number α] {adjointA adjointB : Bool} {a b : Grid α} :
    Grid.Atomic (batchMatMul adjointA adjointB a b) := by
  intro output fault failed
  unfold batchMatMul at failed ⊢
  split at failed
  · rfl
  · split at failed
    · rfl
    · cases failed

/-- If all indices fit, the kernel can only fail in the checks that come first. -/
theorem atomic_argExtremum {type indexType : ElementType} {axis : Nat} {largest : Bool}
    {input : Grid type.Element}
    (fits : ∀ i < input.shape.getD axis 0, (indexType.ofIndex? i).isSome = true) :
    Grid.Atomic (argExtremum type indexType axis largest input) := by
  intro output fault failed
  by_cases checks : axis < input.shape.length ∧ 0 < input.shape.getD axis 0 ∧
      output.shape = input.shape.eraseIdx axis
  · have done : (argExtremum type indexType axis largest input output).1 = .ok () :=
      argExtremum_eq_ok.mpr
        ⟨checks, fun place _ => fits _ (extremumIndex_lt checks.2.1 largest place)⟩
    rw [done] at failed
    cases failed
  · unfold argExtremum
    dsimp only
    split
    · rfl
    next passed =>
      simp only [bind_eq_ok, ensure_eq_ok, exists_and_left, exists_const] at passed
      exact absurd passed checks

/-- If no word overflows, all windows have values once the shapes have been checked. -/
theorem atomic_poolInto {reduce : List α → α} {g : PoolGeometry} {input : Grid α}
    (below : ∀ axes, g.axes input.shape = .ok axes → g.Below (2 ^ 62) input.shape) :
    Grid.Atomic (poolInto reduce g input) := by
  intro output fault failed
  cases checks : outputAxes g input.shape output.shape with
  | error fault => rw [poolInto, checks]
  | ok axes =>
      obtain ⟨found, shape⟩ := outputAxes_eq_ok.mp checks
      rw [poolInto_succeeds shape (below axes found).counted] at failed
      cases failed

end Kernel

namespace Graph

/-- If the output holds 32-bit indices, the reduced axis has at most `2 ^ 31` positions. -/
def IndicesFit (g : Graph) (inputs outputs : List Nat) (axis : Except Fault Nat) : Prop :=
  ∀ output ∈ outputs.head?, g.type output = .ok .i32 → ∀ input ∈ inputs.head?,
    ∀ shape ∈ (g.shape input).toOption, ∀ a ∈ axis.toOption, shape.getD a 0 ≤ 2 ^ 31

/-- The extents of the first input and of the windows on it are below `2 ^ 62`. -/
def WindowsFit (g : Graph) (inputs : List Nat) (geometry : Except Fault PoolGeometry) : Prop :=
  ∀ input ∈ inputs.head?, ∀ shape ∈ (g.shape input).toOption, ∀ windows ∈ geometry.toOption,
    windows.Below (2 ^ 62) shape

variable {g : Graph}

/-- Filling a tensor is atomic if the kernel is. -/
theorem computing_atomic {α : Type} {id : Nat} {type : ElementType}
    {prepare : Graph → Except Fault (Grid type.Element → Written α type.Element)}
    (atomic : ∀ kernel, g.type id = .ok type →
      prepare (g.put id (Tensor.empty type)) = .ok kernel → Grid.Atomic kernel) :
    (computing id type prepare).Atomic g := by
  intro failure failed
  show ((computing id type prepare).outcome g).2 = g
  cases free : g.changeable id with
  | error fault => simp [computing, filling, free]
  | ok tensor =>
      rw [computing, outcome_filling free]
      have stuck := put_self free
      cases prepared : prepare (g.put id (Tensor.empty tensor.type)) with
      | error fault => exact stuck
      | ok kernel =>
          have ending : (tensor.update type kernel).1 = .error (.failed failure) := by
            simpa [computing, filling, free, prepared] using failed
          unfold Tensor.update at ending ⊢
          cases seen : tensor.view type with
          | error fault => exact stuck
          | ok grid =>
              obtain ⟨rfl, -⟩ := Tensor.view_eq_ok.mp seen
              rw [seen] at ending
              show g.put id ⟨type, (kernel grid).2⟩ = g
              rw [atomic kernel (type_of_changeable free) prepared grid _ ending]
              exact stuck

/-- A kernel that reduces an axis finds only indices that fit. -/
theorem IndicesFit.isSome {inputs outputs : List Nat} {output a axis : Nat}
    {type indexType : ElementType} {input : Grid type.Element}
    (fits : g.IndicesFit inputs outputs (.ok axis)) (out : outputs[0]? = some output)
    (typed : g.type output = .ok indexType)
    (index : indexType = .i32 ∨ indexType = .i64) (first : inputs[0]? = some a)
    (seen : (g.put output (Tensor.empty indexType)).view a type = .ok input) :
    ∀ i < input.shape.getD axis 0, (indexType.ofIndex? i).isSome = true := by
  intro i inside
  rcases index with rfl | rfl
  · have short : input.shape.getD axis 0 ≤ 2 ^ 31 := by
      rcases shape_of_view_put seen with ⟨-, empty⟩ | ⟨-, shape⟩
      · rw [empty] at inside
        rcases axis with _ | axis <;> simp at inside
      · refine fits output ?_ typed a ?_ input.shape (toOption_eq_some.mpr shape) axis rfl
        · rw [List.head?_eq_getElem?, out]
          rfl
        · rw [List.head?_eq_getElem?, first]
          rfl
    exact Kernel.ofIndex?_isSome (.inl rfl) (Nat.lt_of_lt_of_le inside short)
  · obtain ⟨-, -, -, addressable⟩ := view_eq_ok.mp seen
    have extent : input.shape.getD axis 0 ∈ input.shape := by
      rw [List.getD_eq_getElem?_getD] at inside ⊢
      cases here : input.shape[axis]? with
      | none =>
          rw [here] at inside
          exact absurd inside (Nat.not_lt_zero i)
      | some extent => exact List.mem_of_getElem? here
    have fits : i < Nat.pow 2 63 := Nat.lt_trans inside (Kernel.small_of_mem addressable extent)
    simp only [ElementType.ofIndex?, if_pos fits, Option.isSome_some]

/-- A kernel that cuts out windows finds extents below the limit. -/
theorem WindowsFit.below {inputs : List Nat} {output a : Nat} {type type' : ElementType}
    {windows : PoolGeometry} {input : Grid type.Element}
    (fits : g.WindowsFit inputs (.ok windows)) (first : inputs[0]? = some a)
    (seen : (g.put output (Tensor.empty type')).view a type = .ok input)
    (axes : PaddedAxis × PaddedAxis) (found : windows.axes input.shape = .ok axes) :
    windows.Below (2 ^ 62) input.shape := by
  rcases shape_of_view_put seen with ⟨-, empty⟩ | ⟨-, shape⟩
  · -- an empty tensor has no rows and columns
    rw [empty] at found
    cases found
  · refine fits a ?_ input.shape (toOption_eq_some.mpr shape) windows rfl
    rw [List.head?_eq_getElem?, first]
    rfl

end Graph

/-! ## The host -/

/-- What the node calculates with stays in range: the indices that it finds fit its output, and the
bounds of its windows are signed words. -/
structure Node.Fits (g : Graph) (node : Node) : Prop where
  indices : node.operator = .argMax ∨ node.operator = .argMin →
    g.IndicesFit node.inputs node.outputs (Builtin.reductionAxis g node)
  windows : node.operator = .averagePool2d ∨ node.operator = .maxPool2d →
    g.WindowsFit node.inputs (.ok (Builtin.poolParameters node).geometry)

section Host

variable {g : Graph} {node : Node} {type : ElementType}

theorem inputType_atomic {α : Type} {next : ElementType → Action Graph α}
    (h : ∀ type, (next type).Atomic g) : (Builtin.inputType node >>= next).Atomic g := by
  simp only [Builtin.inputType, bind_assoc]
  exact .get_bind (.lift_bind fun _ _ => .lift_bind fun type _ => h type)

/-- The node is atomic if the kernel is, for the operand that it finds. -/
theorem evaluateUnary_atomic {kernel : Grid type.Element → Grid type.Element →
      Written Unit type.Element}
    (atomic : ∀ a output input, node.inputs[0]? = some a →
      (g.put output (Tensor.empty type)).view a type = .ok input → Grid.Atomic (kernel input)) :
    (Builtin.evaluateUnary node type kernel).Atomic g := by
  refine .lift_bind fun output _ => Graph.computing_atomic fun kernel' _ prepared => ?_
  simp only [bind_eq_ok, pure_eq_ok, Node.input_eq_ok] at prepared
  obtain ⟨a, first, input, seen, rfl⟩ := prepared
  exact atomic a output input first seen

theorem evaluateBinary_atomic
    {kernel : Grid type.Element → Grid type.Element → Grid type.Element →
      Except Fault (Grid type.Element)} : (Builtin.evaluateBinary node type kernel).Atomic g := by
  refine .lift_bind fun output _ => Graph.computing_atomic fun kernel' _ prepared => ?_
  simp only [bind_eq_ok, pure_eq_ok] at prepared
  obtain ⟨_, _, a, _, _, _, b, _, rfl⟩ := prepared
  exact Grid.atomic_overwrite

theorem evaluateFloatUnary_atomic
    {kernel : (type : ElementType) → FloatLike type.Element →
      Grid type.Element → Grid type.Element → Written Unit type.Element}
    (atomic : ∀ type arithmetic a output input, node.inputs[0]? = some a →
      (g.put output (Tensor.empty type)).view a type = .ok input →
        Grid.Atomic (kernel type arithmetic input)) :
    (Builtin.evaluateFloatUnary node kernel).Atomic g :=
  inputType_atomic fun type => .lift_bind fun arithmetic _ =>
    evaluateUnary_atomic (atomic type arithmetic)

theorem evaluateFloatBinary_atomic
    {kernel : (type : ElementType) → FloatLike type.Element →
      Grid type.Element → Grid type.Element → Grid type.Element →
      Except Fault (Grid type.Element)} :
    (Builtin.evaluateFloatBinary node kernel).Atomic g :=
  inputType_atomic fun _ => .lift_bind fun _ _ => evaluateBinary_atomic

theorem evaluateInteger_atomic
    {kernel : Grid type.Element → Grid type.Element → Grid type.Element →
      Except Fault (Grid type.Element)} : (Builtin.evaluateInteger node type kernel).Atomic g :=
  .lift_bind fun _ _ => evaluateBinary_atomic

theorem evaluateAddN_atomic : (Builtin.evaluateAddN node).Atomic g := by
  refine inputType_atomic fun type => .lift_bind fun _ _ => .lift_bind fun output _ =>
    Graph.computing_atomic fun kernel _ prepared => ?_
  simp only [bind_eq_ok, pure_eq_ok] at prepared
  obtain ⟨inputs, _, rfl⟩ := prepared
  exact Grid.atomic_overwrite

theorem evaluateMatrixProduct_atomic : (Builtin.evaluateMatrixProduct node).Atomic g := by
  refine inputType_atomic fun type => .lift_bind fun _ _ => .lift_bind fun output _ =>
    .bind_record (Graph.computing_atomic fun kernel _ prepared => ?_) _
  simp only [bind_eq_ok, pure_eq_ok] at prepared
  obtain ⟨_, _, a, _, _, _, b, _, rfl⟩ := prepared
  exact Kernel.atomic_batchMatMul

/-- A search along an axis is atomic as long as all indices fit. -/
theorem evaluateArgExtremum_atomic {largest : Bool}
    (fits : g.IndicesFit node.inputs node.outputs (Builtin.reductionAxis g node)) :
    (Builtin.evaluateArgExtremum node largest).Atomic g := by
  refine inputType_atomic fun type => .lift_bind fun _ _ => .get_bind ?_
  refine .lift_bind fun _ _ => .lift_bind fun indexType _ => .lift_bind fun _ index =>
    .lift_bind fun axis resolved => .lift_bind fun output out =>
    Graph.computing_atomic fun kernel typed prepared => ?_
  simp only [bind_eq_ok, pure_eq_ok, Node.input_eq_ok] at prepared
  obtain ⟨a, first, input, seen, rfl⟩ := prepared
  rw [resolved] at fits
  exact Kernel.atomic_argExtremum
    (fits.isSome (Node.output_eq_ok.mp out) typed (ensure_eq_ok.mp index) first seen)

/-- A node that stays in range is evaluated, or leaves no trace. -/
theorem Builtin.evaluate_atomic (fits : node.Fits g) : (evaluate node).Atomic g := by
  unfold evaluate
  cases operator : node.operator with
  | abs | relu =>
      exact evaluateFloatUnary_atomic fun _ _ _ _ _ _ _ => Grid.atomic_overwrite
  | sub | atan2 => exact evaluateFloatBinary_atomic
  | add | mul =>
      refine inputType_atomic fun type => ?_
      split
      · exact evaluateInteger_atomic
      · exact evaluateInteger_atomic
      · exact evaluateFloatBinary_atomic
  | addN => exact evaluateAddN_atomic
  | batchMatMul => exact evaluateMatrixProduct_atomic
  | averagePool2d =>
      exact evaluateFloatUnary_atomic fun _ _ _ _ _ first seen =>
        Kernel.atomic_poolInto ((fits.windows (.inl operator)).below first seen)
  | maxPool2d =>
      exact evaluateFloatUnary_atomic fun _ _ _ _ _ first seen =>
        Kernel.atomic_poolInto ((fits.windows (.inr operator)).below first seen)
  | argMax => exact evaluateArgExtremum_atomic (fits.indices (.inl operator))
  | argMin => exact evaluateArgExtremum_atomic (fits.indices (.inr operator))
  | batchToSpaceNd =>
      exact inputType_atomic fun type => .get_bind (.lift_bind fun _ _ =>
        evaluateUnary_atomic fun _ _ _ _ _ => Grid.atomic_overwrite)

/-- A shape that is refused leaves the tensor as it was. -/
theorem resize_atomic {id : Nat} {shape : Shape} : (Graph.resize id shape).Atomic g := by
  refine .get_bind (.lift_bind fun tensor _ => ?_)
  split
  · exact .lift _
  · refine .record_bind (.lift_bind fun resized _ => ?_)
    intro failure failed
    cases failed

theorem Builtin.prepare_atomic : (prepare node).Atomic g :=
  .get_bind (.lift_bind fun _ _ => .lift_bind fun _ _ => resize_atomic)

end Host

/-! ## The engine -/

namespace Substitution.Descriptor

structure Fits (g : Graph) (d : Descriptor) : Prop where
  indices : d.kind = .argMax ∨ d.kind = .argMin →
    g.IndicesFit d.inputs d.outputs (d.reductionAxis g)
  windows : d.kind = .averagePool2d ∨ d.kind = .maxPool2d →
    g.WindowsFit d.inputs d.poolGeometry

section Engine

variable {g : Graph} {d : Descriptor}

theorem runUnary_atomic
    {kernel : Grid Numeric.Single → Grid Numeric.Single → Written Unit Numeric.Single}
    (atomic : ∀ a output input, d.inputs[0]? = some a →
      (g.put output (Tensor.empty .f32)).view a .f32 = .ok input → Grid.Atomic (kernel input)) :
    (d.runUnary kernel).Atomic g := by
  refine .lift_bind fun output _ => Graph.computing_atomic fun kernel' _ prepared => ?_
  simp only [bind_eq_ok, pure_eq_ok, input_eq_ok] at prepared
  obtain ⟨a, first, input, seen, rfl⟩ := prepared
  exact atomic a output input first seen

theorem runBinary_atomic
    {kernel : Grid Numeric.Single → Grid Numeric.Single → Grid Numeric.Single →
      Except Fault (Grid Numeric.Single)} : (d.runBinary kernel).Atomic g := by
  refine .lift_bind fun output _ => Graph.computing_atomic fun kernel' _ prepared => ?_
  simp only [bind_eq_ok, pure_eq_ok] at prepared
  obtain ⟨_, _, a, _, _, _, b, _, rfl⟩ := prepared
  exact Grid.atomic_overwrite

theorem runAddN_atomic : d.runAddN.Atomic g := by
  refine .lift_bind fun output _ => Graph.computing_atomic fun kernel _ prepared => ?_
  simp only [bind_eq_ok, pure_eq_ok] at prepared
  obtain ⟨inputs, _, rfl⟩ := prepared
  exact Grid.atomic_overwrite

theorem runArgExtremum_atomic {largest : Bool}
    (fits : g.IndicesFit d.inputs d.outputs (d.reductionAxis g)) :
    (d.runArgExtremum largest).Atomic g := by
  refine .get_bind (.lift_bind fun axis resolved => .lift_bind fun output out =>
    .lift_bind fun type _ => ?_)
  apply Graph.computing_atomic
  intro kernel typed prepared
  simp only [bind_eq_ok, pure_eq_ok, input_eq_ok] at prepared
  obtain ⟨a, first, input, seen, rfl⟩ := prepared
  rw [resolved] at fits
  refine Kernel.atomic_argExtremum (fits.isSome (output_eq_ok.mp out) typed ?_ first seen)
  split
  · exact .inl rfl
  · exact .inr rfl

/-- Pooling by the engine is atomic as long as the windows fit. -/
theorem runPool_atomic (fits : g.WindowsFit d.inputs d.poolGeometry)
    {reduce : ClampRange Numeric.Single → List Numeric.Single → Numeric.Single} :
    (d.runPool fun geometry range => Kernel.poolInto (reduce range) geometry).Atomic g := by
  refine .lift_bind fun geometry found => runUnary_atomic fun _ _ _ first seen => ?_
  rw [found] at fits
  exact Kernel.atomic_poolInto (fits.below first seen)

theorem runMatrixProduct_atomic : d.runMatrixProduct.Atomic g := by
  refine .lift_bind fun (adjointX, adjointY) _ => ?_
  have product : (do
      let geometry ← Graph.computing (← d.output) .f32 fun g => do
        let a ← g.view (← d.input 0) .f32
        let b ← g.view (← d.input 1) .f32
        return Kernel.batchMatMul false true a b
      Action.record (.multiplying geometry false true) : Action Graph Unit).Atomic g := by
    refine .lift_bind fun output _ =>
      .bind_record (Graph.computing_atomic fun kernel _ prepared => ?_) _
    simp only [bind_eq_ok, pure_eq_ok] at prepared
    obtain ⟨_, _, a, _, _, _, b, _, rfl⟩ := prepared
    exact Kernel.atomic_batchMatMul
  dsimp only
  split
  · exact .lift_bind fun _ _ => product
  · exact product

/-- A descriptor that stays in range fills its output, or leaves no trace. -/
theorem run_atomic (fits : d.Fits g) : d.run.Atomic g := by
  unfold run
  cases kind : d.kind with
  | abs => exact runUnary_atomic fun _ _ _ _ _ => Grid.atomic_overwrite
  | add | mul | atan2 => exact runBinary_atomic
  | addN => exact runAddN_atomic
  | argMax => exact runArgExtremum_atomic (fits.indices (.inl kind))
  | argMin => exact runArgExtremum_atomic (fits.indices (.inr kind))
  | averagePool2d => exact runPool_atomic (fits.windows (.inl kind))
  | maxPool2d => exact runPool_atomic (fits.windows (.inr kind))
  | batchMatMul => exact runMatrixProduct_atomic
  | batchToSpaceNd =>
      exact .get_bind (.lift_bind fun _ _ =>
        runUnary_atomic fun _ _ _ _ _ => Grid.atomic_overwrite)

/-- The checks of the engine change nothing. -/
theorem evaluate_atomic (fits : d.Fits g) : d.evaluate.Atomic g :=
  .get_bind (.lift_bind fun _ _ => .lift_bind fun _ _ => .lift_bind fun _ _ =>
    .lift_bind fun _ _ => .lift_bind fun _ _ => .lift_bind fun _ _ =>
    .record_bind (.mapFault rfl (run_atomic fits)))

theorem infer_atomic : d.infer.Atomic g :=
  .get_bind (.lift_bind fun _ _ => .lift_bind fun _ _ => .record_bind (.mapFault rfl resize_atomic))

end Engine

end Substitution.Descriptor

/-! ## Tasks -/

namespace Task

def Fits (g : Graph) : Task → Prop
  | host id => ∀ node, g.nodes[id]? = some node → node.Fits g
  | engine d => d.Fits g

variable {registry : Registry} {g : Graph}

theorem prepare_atomic (task : Task) : (task.prepare registry).Atomic g := by
  cases task with
  | host id => exact .get_bind (.lift_bind fun _ _ => .mapFault rfl Builtin.prepare_atomic)
  | engine d => exact Descriptor.infer_atomic

/-- So a task that stays in range is atomic, whoever runs it. -/
theorem evaluate_atomic {task : Task} (fits : task.Fits g) :
    (task.evaluate registry).Atomic g := by
  cases task with
  | host id =>
      refine .get_bind (.lift_bind fun node found => .mapFault rfl (Builtin.evaluate_atomic ?_))
      exact fits node (Registry.listed_of_lookUp found)
  | engine d => exact Descriptor.evaluate_atomic fits

end Task

/-! ## Walks -/

section Walks

variable {σ α : Type} {f : α → Action σ Unit} {l : List α} {s : σ} {failure : Failure}

/-- Going through a list from `s` comes to `a` in the state `t` and stops there: all elements before
it succeed, and it fails. -/
structure Action.StopsAt (f : α → Action σ Unit) (l : List α) (s : σ) (before : List α) (a : α)
    (t : σ) (failure : Failure) : Prop where
  split : ∃ after, l = before ++ a :: after
  passed : (forM before f).outcome s = (some (), t)
  failed : ((f a).run t).ending = .error (.failed failure)

open TensorGraph.Action (StopsAt)

/-- A walk that fails stops somewhere, and if the step that fails is atomic, it leaves the state
that the steps before have led to. -/
theorem stopsAt_of_forM (failed : ((forM l f).run s).ending = .error (.failed failure)) :
    ∃ before a t, StopsAt f l s before a t failure ∧
      ((f a).Atomic t → ((forM l f).run s).state = t) := by
  obtain ⟨before, a, after, t, split, passed, failed, state⟩ := Action.exists_of_forM_fails failed
  exact ⟨before, a, t, ⟨⟨after, split⟩, passed, failed⟩,
    fun atomic => state.trans (atomic failure failed)⟩

end Walks

namespace Interpreter

variable {registry : Registry} {plan : List Step} {g : Graph} {failure : Failure}

open TensorGraph.Action (StopsAt)

/-- A failure with a reason around it was one before. -/
theorem failed_of_during {α : Type} {reason : Reason} {e : Except Fault α}
    (failed : during reason e = .error (.failed failure)) :
    ∃ failure', e = .error (.failed failure') := by
  cases e with
  | ok a => cases failed
  | error fault =>
      cases fault with
      | aborted => cases failed
      | failed failure' => exact ⟨failure', rfl⟩

section GoesThrough

variable {step : Step → Action Graph Unit} {run : Task → Action Graph Unit}

/-- A step only fails if its tasks do. -/
theorem GoesThrough.tasks_fail (h : GoesThrough step run) {s : Step}
    (failed : ((step s).run g).ending = .error (.failed failure)) :
    ∃ failure', ((forM s.tasks run).run g).ending = .error (.failed failure') := by
  cases s with
  | builtin id =>
      rw [h.builtin] at failed
      exact ⟨failure, by simpa [Step.tasks] using failed⟩
  | delegated partition =>
      obtain ⟨reason, same⟩ := h.delegated partition
      rw [same, Action.ending_during] at failed
      exact failed_of_during failed

/-- A plan whose steps go through their tasks stops at a task. -/
theorem GoesThrough.stopsAt (h : GoesThrough step run)
    (failed : ((forM plan step).run g).ending = .error (.failed failure)) :
    ∃ before task t failure', StopsAt run (plan.flatMap Step.tasks) g before task t failure' ∧
      ((run task).Atomic t → ((forM plan step).run g).state = t) := by
  obtain ⟨steps, s, later, t, rfl, passed, failed, state⟩ := Action.exists_of_forM_fails failed
  obtain ⟨failure', failed'⟩ := h.tasks_fail failed
  obtain ⟨before, task, u, ⟨⟨after, split⟩, passed', failed'⟩, state'⟩ := stopsAt_of_forM failed'
  refine ⟨steps.flatMap Step.tasks ++ before, task, u, failure',
    ⟨⟨after ++ later.flatMap Step.tasks, ?_⟩, ?_, failed'⟩, fun atomic => ?_⟩
  · simp [split]
  · rw [List.forM_append, Action.outcome_bind, ← h.outcome_plan, passed, Action.proceed_some,
      passed']
  · -- a step leaves the state that its tasks leave
    exact state.trans ((congrArg Prod.snd (h.outcome_step s)).trans (state' atomic))

end GoesThrough

/-- Allocating stops at a task, and leaves what the tasks before it have led to. -/
theorem stopsAt_of_allocate {i : Interpreter}
    (failed : (allocate.run i).ending = .error (.failed failure)) :
    ∃ before task t failure',
      StopsAt (Task.prepare i.registry) (i.plan.flatMap Step.tasks) i.graph before task t failure' ∧
        i.after .allocate = { i with graph := t } := by
  have walk : ((forM i.plan (prepareStep i.registry)).run i.graph).ending =
        .error (.failed failure) ∧
      i.after .allocate =
        { i with graph := ((forM i.plan (prepareStep i.registry)).run i.graph).state } := by
    rw [after, Call.action]
    rw [run_allocate] at failed ⊢
    generalize (forM i.plan (prepareStep i.registry)).run i.graph = walk at failed ⊢
    rcases walk with ⟨_ | _, graph, events⟩
    · exact ⟨failed, rfl⟩
    · cases failed
  obtain ⟨before, task, t, failure', stops, state⟩ :=
    goesThrough_prepareStep.stopsAt walk.1
  exact ⟨before, task, t, failure', stops, by rw [walk.2, state (Task.prepare_atomic task)]⟩

/-- Invoking is refused right away, or stops at a task. -/
theorem stopsAt_of_invoke {i : Interpreter}
    (failed : (invoke.run i).ending = .error (.failed failure)) :
    (i.allocated = false ∧ i.after .invoke = i) ∨ ∃ before task t failure',
      StopsAt (Task.evaluate i.registry) (i.plan.flatMap Step.tasks) i.graph before task t
          failure' ∧
        (task.Fits t → i.after .invoke = { i with graph := t }) := by
  rw [after, Call.action]
  rw [run_invoke] at failed ⊢
  split at failed
  next allocated =>
    obtain ⟨before, task, t, failure', stops, state⟩ :=
      goesThrough_evaluateStep.stopsAt failed
    refine .inr ⟨before, task, t, failure', stops, fun fits => ?_⟩
    rw [if_pos allocated, ← state (Task.evaluate_atomic fits)]
    rfl
  next unallocated =>
    rw [if_neg unallocated]
    exact .inl ⟨Bool.eq_false_iff.mpr unallocated, rfl⟩

end Interpreter

/-- Preparing and evaluating single nodes, by the host or by the engine, is atomic: a failure leaves
the whole graph as it was. For an evaluation this supposes that an axis whose extremum is looked for
has no more positions than 32-bit indices can tell apart if they are what the output holds, and that
the extents of windows and of what they are cut out of are below `2 ^ 62`.

Therefore, where a region fails, the descriptors before the failing one have been run and nothing
else has been done; and where allocating or invoking fails, however the plan has been partitioned,
the same is true of the tasks of the plan. -/
theorem failures_leave_prefixes :
    (∀ (registry : Registry) (task : Task) (g : Graph), (task.prepare registry).Atomic g) ∧
    (∀ (registry : Registry) (task : Task) (g : Graph), task.Fits g →
      (task.evaluate registry).Atomic g) ∧
    (∀ (region : Region) (g : Graph) (failure : Failure),
      (region.infer.run g).ending = .error (.failed failure) → ∃ before d t,
        Action.StopsAt Descriptor.infer region.descriptors g before d t failure ∧
          (region.infer.run g).state = t) ∧
    (∀ (region : Region) (g : Graph) (failure : Failure),
      (region.evaluate.run g).ending = .error (.failed failure) → ∃ before d t,
        Action.StopsAt Descriptor.evaluate region.descriptors g before d t failure ∧
          (d.Fits t → (region.evaluate.run g).state = t)) ∧
    (∀ (i : Interpreter) (failure : Failure),
      (Interpreter.allocate.run i).ending = .error (.failed failure) → ∃ before task t failure',
        Action.StopsAt (Task.prepare i.registry) (i.plan.flatMap Step.tasks) i.graph before task t
            failure' ∧
          i.after .allocate = { i with graph := t }) ∧
    ∀ (i : Interpreter) (failure : Failure),
      (Interpreter.invoke.run i).ending = .error (.failed failure) →
        (i.allocated = false ∧ i.after .invoke = i) ∨ ∃ before task t failure',
          Action.StopsAt (Task.evaluate i.registry) (i.plan.flatMap Step.tasks) i.graph before task
              t failure' ∧
            (task.Fits t → i.after .invoke = { i with graph := t }) := by
  refine ⟨fun _ task _ => task.prepare_atomic, fun _ _ _ => Task.evaluate_atomic,
    fun region g failure failed => ?_, fun region g failure failed => ?_,
    fun _ _ => Interpreter.stopsAt_of_allocate, fun _ _ => Interpreter.stopsAt_of_invoke⟩
  · obtain ⟨before, d, t, stops, state⟩ := stopsAt_of_forM failed
    exact ⟨before, d, t, stops, state Descriptor.infer_atomic⟩
  · obtain ⟨before, d, t, stops, state⟩ := stopsAt_of_forM failed
    exact ⟨before, d, t, stops, fun fits => state (Descriptor.evaluate_atomic fits)⟩

/-- Absolute values of absolute values, the second time into integers. -/
def mistyped : Graph where
  tensors :=
    [⟨"x", ⟨.f32, ⟨[2], #[.neg (.ofNat 1), .ofNat 2], by decide⟩⟩, false⟩,
      ⟨"y", ⟨.f32, ⟨[2], #[.ofNat 0, .ofNat 0], by decide⟩⟩, false⟩,
      ⟨"z", ⟨.i32, ⟨[2], #[0, 0], by decide⟩⟩, false⟩]
  nodes := [⟨0, "abs", .abs, none, [0], [1]⟩, ⟨1, "abs2", .abs, none, [1], [2]⟩]
  inputs := [0]
  outputs := [2]

/-- The engine does not compute integers, and so the first values are all that it leaves. -/
theorem mistyped_stops :
    let region : Region :=
      ⟨[⟨.abs, .none, .none, [0], [1]⟩, ⟨.abs, .none, .none, [1], [2]⟩], [0, 1]⟩
    let filled := (region.evaluate.run mistyped).state
    ((Region.capture mistyped [0, 1]).run ()).ending = .ok region ∧
      (∃ before d failure,
        Action.StopsAt Descriptor.evaluate region.descriptors mistyped before d filled failure) ∧
      (filled.view 1 .f32).toOption.map Grid.values = some #[.ofNat 1, .ofNat 2] := by
  intro region filled
  refine ⟨by decide +kernel, ?_, by decide +kernel⟩
  have failed : ∃ failure, (region.evaluate.run mistyped).ending = .error (.failed failure) :=
    ⟨_, rfl⟩
  obtain ⟨failure, failed⟩ := failed
  obtain ⟨before, d, t, stops, state⟩ :=
    failures_leave_prefixes.2.2.2.1 region mistyped failure failed
  have absolute : d.kind = .abs := by
    obtain ⟨after, split⟩ := stops.split
    have all : ∀ d ∈ region.descriptors, d.kind = .abs := by decide
    exact all d (by simp [split])
  -- there are neither indices nor windows
  have fits : d.Fits t :=
    ⟨fun kind => absurd kind (by simp [absolute]), fun kind => absurd kind (by simp [absolute])⟩
  have same : filled = t := state fits
  exact ⟨before, d, failure, by rw [same]; exact stops⟩

end TensorGraph
