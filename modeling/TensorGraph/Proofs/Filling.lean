import TensorGraph.Proofs.Capture
import TensorGraph.Proofs.Kernels

/-!
# Evaluating fills one tensor

Evaluating a node or a descriptor changes the values of its output and nothing else, whether it
succeeds or not: the operands of a kernel are read, and all kernels keep shapes.
-/

namespace TensorGraph

open Substitution (Descriptor)

variable {α : Type} {ids : List Nat}

/-- A kernel that keeps shapes fills what it writes. -/
theorem computing_output_keepsTo {output : Except Fault Nat} {type : ElementType}
    {prepare : Graph → Except Fault (Grid type.Element → Written α type.Element)}
    (writes : ∀ id, output = .ok id → id ∈ ids)
    (keeps : ∀ g kernel, prepare g = .ok kernel → Grid.Keeps kernel) :
    (do Graph.computing (← output) type prepare : Action Graph α).KeepsTo (Graph.Fills ids) := by
  cases found : output with
  | error fault => exact fun g => .refl g
  | ok id => exact Graph.computing_keepsTo keeps (writes id found)

theorem Node.writes (node : Node) (id : Nat) (found : node.output 0 = .ok id) :
    id ∈ node.outputs := List.mem_of_getElem? (Node.output_eq_ok.mp found)

theorem Substitution.Descriptor.writes (d : Descriptor) (id : Nat) (found : d.output = .ok id) :
    id ∈ d.outputs := List.mem_of_getElem? (Descriptor.output_eq_ok.mp found)

/-! ## The host -/

section Host

variable {type : ElementType} (node : Node)

/-- A kernel of one operand fills the output of the node. -/
theorem evaluateUnary_keepsTo
    {kernel : Grid type.Element → Grid type.Element → Written Unit type.Element}
    (keeps : ∀ input, Grid.Keeps (kernel input)) :
    (Builtin.evaluateUnary node type kernel).KeepsTo (Graph.Fills node.outputs) := by
  apply computing_output_keepsTo node.writes
  intro g kernel' prepared
  simp only [bind_eq_ok, pure_eq_ok] at prepared
  obtain ⟨_, _, input, _, rfl⟩ := prepared
  exact keeps input

theorem evaluateBinary_keepsTo
    {kernel : Grid type.Element → Grid type.Element → Grid type.Element →
      Except Fault (Grid type.Element)}
    (keeps : ∀ a b, Grid.Keeps fun output => output.overwrite (kernel a b output)) :
    (Builtin.evaluateBinary node type kernel).KeepsTo (Graph.Fills node.outputs) := by
  apply computing_output_keepsTo node.writes
  intro g kernel' prepared
  simp only [bind_eq_ok, pure_eq_ok] at prepared
  obtain ⟨_, _, a, _, _, _, b, _, rfl⟩ := prepared
  exact keeps a b

theorem inputType_keepsTo : (Builtin.inputType node).KeepsTo (Graph.Fills ids) :=
  .bind .get fun _ => .bind (.lift _) fun _ => .lift _

theorem evaluateFloatUnary_keepsTo
    {kernel : (type : ElementType) → FloatLike type.Element →
      Grid type.Element → Grid type.Element → Written Unit type.Element}
    (keeps : ∀ type arithmetic input, Grid.Keeps (kernel type arithmetic input)) :
    (Builtin.evaluateFloatUnary node kernel).KeepsTo (Graph.Fills node.outputs) :=
  .bind (inputType_keepsTo node) fun type => .bind (.lift _) fun arithmetic =>
    evaluateUnary_keepsTo node (keeps type arithmetic)

theorem evaluateFloatBinary_keepsTo
    {kernel : (type : ElementType) → FloatLike type.Element →
      Grid type.Element → Grid type.Element → Grid type.Element →
      Except Fault (Grid type.Element)}
    (keeps : ∀ type arithmetic a b,
      Grid.Keeps fun output => output.overwrite (kernel type arithmetic a b output)) :
    (Builtin.evaluateFloatBinary node kernel).KeepsTo (Graph.Fills node.outputs) :=
  .bind (inputType_keepsTo node) fun type => .bind (.lift _) fun arithmetic =>
    evaluateBinary_keepsTo node (keeps type arithmetic)

theorem evaluateInteger_keepsTo
    {kernel : Grid type.Element → Grid type.Element → Grid type.Element →
      Except Fault (Grid type.Element)}
    (keeps : ∀ a b, Grid.Keeps fun output => output.overwrite (kernel a b output)) :
    (Builtin.evaluateInteger node type kernel).KeepsTo (Graph.Fills node.outputs) :=
  .bind (.lift _) fun _ => evaluateBinary_keepsTo node keeps

/-- Sums and products fill the output, whichever kernel the type calls for. -/
theorem evaluateArithmetic_keepsTo
    {wrapping : {α : Type} → [Number α] → Grid α → Grid α → Grid α → Except Fault (Grid α)}
    {clamped : {α : Type} → [FloatLike α] → ClampRange α →
      Grid α → Grid α → Grid α → Except Fault (Grid α)}
    (keeps : ∀ {α : Type} [Number α] (a b : Grid α),
      Grid.Keeps fun output => output.overwrite (wrapping a b output))
    (keeps' : ∀ {α : Type} [FloatLike α] (range : ClampRange α) (a b : Grid α),
      Grid.Keeps fun output => output.overwrite (clamped range a b output)) :
    (Builtin.evaluateArithmetic node wrapping clamped).KeepsTo (Graph.Fills node.outputs) := by
  refine .bind (inputType_keepsTo node) fun type => ?_
  split
  · exact evaluateInteger_keepsTo node keeps
  · exact evaluateInteger_keepsTo node keeps
  · exact evaluateFloatBinary_keepsTo node fun _ _ => keeps' _

theorem evaluateAddN_keepsTo : (Builtin.evaluateAddN node).KeepsTo (Graph.Fills node.outputs) := by
  refine .bind (inputType_keepsTo node) fun type => .bind (.lift _) fun arithmetic => ?_
  apply computing_output_keepsTo node.writes
  intro g kernel prepared
  simp only [bind_eq_ok, pure_eq_ok] at prepared
  obtain ⟨inputs, _, rfl⟩ := prepared
  exact Kernel.keeps_addN inputs

theorem evaluateMatrixProduct_keepsTo :
    (Builtin.evaluateMatrixProduct node).KeepsTo (Graph.Fills node.outputs) := by
  refine .bind (inputType_keepsTo node) fun type => .bind (.lift _) fun arithmetic => ?_
  rcases Builtin.adjoints node with ⟨adjointX, adjointY⟩
  dsimp only
  rw [← bind_assoc]
  refine .bind (computing_output_keepsTo node.writes fun g kernel prepared => ?_) fun _ => .record _
  simp only [bind_eq_ok, pure_eq_ok] at prepared
  obtain ⟨_, _, a, _, _, _, b, _, rfl⟩ := prepared
  exact Kernel.keeps_batchMatMul _ _ a b

theorem evaluateArgExtremum_keepsTo (largest : Bool) :
    (Builtin.evaluateArgExtremum node largest).KeepsTo (Graph.Fills node.outputs) := by
  refine .bind (inputType_keepsTo node) fun type => .bind (.lift _) fun _ => .bind .get fun g =>
    .bind (.lift _) fun _ => .bind (.lift _) fun indexType => .bind (.lift _) fun _ =>
    .bind (.lift _) fun axis => ?_
  apply computing_output_keepsTo node.writes
  intro g kernel prepared
  simp only [bind_eq_ok, pure_eq_ok] at prepared
  obtain ⟨_, _, input, _, rfl⟩ := prepared
  exact Kernel.keeps_argExtremum _ _ _ _ input

/-- Evaluating a node fills its outputs. -/
theorem Builtin.evaluate_keepsTo :
    (evaluate node).KeepsTo (Graph.Fills node.outputs) := by
  unfold evaluate
  split
  · exact evaluateFloatUnary_keepsTo node fun _ _ => Kernel.keeps_unary FloatLike.abs
  · exact evaluateFloatUnary_keepsTo node fun _ _ => Kernel.keeps_unary (FloatLike.max · 0)
  · exact evaluateArithmetic_keepsTo node (Kernel.keeps_zipBroadcast (· + ·))
      (Kernel.keeps_binary (· + ·))
  · exact evaluateArithmetic_keepsTo node (Kernel.keeps_zipBroadcast (· * ·))
      (Kernel.keeps_binary (· * ·))
  · exact evaluateFloatBinary_keepsTo node fun _ _ => Kernel.keeps_binary (· - ·) _
  · exact evaluateFloatBinary_keepsTo node fun _ _ => Kernel.keeps_binary FloatLike.arctan2 _
  · exact evaluateAddN_keepsTo node
  · exact evaluateMatrixProduct_keepsTo node
  · exact evaluateFloatUnary_keepsTo node fun _ _ => Kernel.keeps_poolInto _ _
  · exact evaluateFloatUnary_keepsTo node fun _ _ => Kernel.keeps_poolInto _ _
  · exact evaluateArgExtremum_keepsTo node true
  · exact evaluateArgExtremum_keepsTo node false
  · refine .bind (inputType_keepsTo node) fun type => .bind .get fun g => .bind (.lift _) ?_
    intro parameters
    exact evaluateUnary_keepsTo node fun input => Kernel.keeps_batchToSpace _ _ input

/-- A node of a list fills outputs of the list. -/
theorem Builtin.evaluate_fills {nodes : List Node} {node : Node} (inside : node ∈ nodes) :
    (evaluate node).KeepsTo (Graph.Fills (nodes.flatMap Node.outputs)) :=
  (evaluate_keepsTo node).mono fun _ _ filled => filled.mono fun _ written =>
    List.mem_flatMap.mpr ⟨node, inside, written⟩

end Host

/-! ## The engine -/

section Engine

variable (d : Descriptor)

theorem runUnary_keepsTo
    {kernel : Grid Numeric.Single → Grid Numeric.Single → Written Unit Numeric.Single}
    (keeps : ∀ input, Grid.Keeps (kernel input)) :
    (d.runUnary kernel).KeepsTo (Graph.Fills d.outputs) := by
  apply computing_output_keepsTo d.writes
  intro g kernel' prepared
  simp only [bind_eq_ok, pure_eq_ok] at prepared
  obtain ⟨_, _, input, _, rfl⟩ := prepared
  exact keeps input

theorem runBinary_keepsTo
    {kernel : Grid Numeric.Single → Grid Numeric.Single → Grid Numeric.Single →
      Except Fault (Grid Numeric.Single)}
    (keeps : ∀ a b, Grid.Keeps fun output => output.overwrite (kernel a b output)) :
    (d.runBinary kernel).KeepsTo (Graph.Fills d.outputs) := by
  apply computing_output_keepsTo d.writes
  intro g kernel' prepared
  simp only [bind_eq_ok, pure_eq_ok] at prepared
  obtain ⟨_, _, a, _, _, _, b, _, rfl⟩ := prepared
  exact keeps a b

theorem runAddN_keepsTo : d.runAddN.KeepsTo (Graph.Fills d.outputs) := by
  apply computing_output_keepsTo d.writes
  intro g kernel prepared
  simp only [bind_eq_ok, pure_eq_ok] at prepared
  obtain ⟨inputs, _, rfl⟩ := prepared
  exact Kernel.keeps_addN inputs

theorem runArgExtremum_keepsTo (largest : Bool) :
    (d.runArgExtremum largest).KeepsTo (Graph.Fills d.outputs) := by
  refine .bind .get fun g => .bind (.lift _) fun axis => ?_
  cases found : d.output with
  | error fault => exact fun g => .refl g
  | ok output =>
      show Action.KeepsTo (liftM (g.type output) >>= fun _ => _) _
      refine .bind (.lift _) fun type => ?_
      refine Graph.computing_keepsTo (fun g kernel prepared => ?_) (d.writes output found)
      simp only [bind_eq_ok, pure_eq_ok] at prepared
      obtain ⟨_, _, input, _, rfl⟩ := prepared
      exact Kernel.keeps_argExtremum _ _ _ _ input

/-- Whether the flags are those that the engine knows, a product fills the output at most. -/
theorem runMatrixProduct_keepsTo : d.runMatrixProduct.KeepsTo (Graph.Fills d.outputs) := by
  refine .bind (.lift _) fun (adjointX, adjointY) => ?_
  have product : (do
      let geometry ← Graph.computing (← d.output) .f32 fun g => do
        let a ← g.view (← d.input 0) .f32
        let b ← g.view (← d.input 1) .f32
        return Kernel.batchMatMul false true a b
      Action.record (.multiplying geometry false true) : Action Graph Unit).KeepsTo
        (Graph.Fills d.outputs) := by
    rw [← bind_assoc]
    refine .bind (computing_output_keepsTo d.writes fun g kernel prepared => ?_) fun _ => .record _
    simp only [bind_eq_ok, pure_eq_ok] at prepared
    obtain ⟨_, _, a, _, _, _, b, _, rfl⟩ := prepared
    exact Kernel.keeps_batchMatMul _ _ a b
  dsimp only
  split
  · exact .bind (.lift _) fun _ => product
  · exact product

/-- Evaluating a descriptor fills its outputs. -/
theorem Substitution.Descriptor.evaluate_keepsTo :
    d.evaluate.KeepsTo (Graph.Fills d.outputs) := by
  refine .bind .get fun g => .bind (.lift _) fun id => .bind (.lift _) fun type =>
    .bind (.lift _) fun _ => .bind (.lift _) fun output => .bind (.lift _) fun type' =>
    .bind (.lift _) fun _ => .bind (.record _) fun _ => .mapFault _ ?_
  unfold Descriptor.run
  split
  · exact runUnary_keepsTo d (Kernel.keeps_unary FloatLike.abs)
  · exact runBinary_keepsTo d (Kernel.keeps_binary (· + ·) _)
  · exact runBinary_keepsTo d (Kernel.keeps_binary (· * ·) _)
  · exact runBinary_keepsTo d (Kernel.keeps_binary FloatLike.arctan2 _)
  · exact runAddN_keepsTo d
  · exact runArgExtremum_keepsTo d true
  · exact runArgExtremum_keepsTo d false
  · exact .bind (.lift _) fun _ => runUnary_keepsTo d (Kernel.keeps_poolInto _ _)
  · exact .bind (.lift _) fun _ => runUnary_keepsTo d (Kernel.keeps_poolInto _ _)
  · exact runMatrixProduct_keepsTo d
  · refine .bind .get fun g => .bind (.lift _) fun (block, crops) => ?_
    exact runUnary_keepsTo d fun input => Kernel.keeps_batchToSpace _ _ input

theorem Substitution.Descriptor.evaluate_sameFrame :
    d.evaluate.KeepsTo Graph.SameFrame := d.evaluate_keepsTo.mono fun _ _ h => h.toSameFrame

/-- A descriptor of a list fills outputs of the list. -/
theorem Substitution.Descriptor.evaluate_fills {descriptors : List Descriptor} {d : Descriptor}
    (inside : d ∈ descriptors) :
    d.evaluate.KeepsTo (Graph.Fills (descriptors.flatMap Descriptor.outputs)) :=
  d.evaluate_keepsTo.mono fun _ _ filled => filled.mono fun _ written =>
    List.mem_flatMap.mpr ⟨d, inside, written⟩

end Engine

end TensorGraph
