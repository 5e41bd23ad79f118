import TensorGraph.Proofs.Overwriting
import TensorGraph.Proofs.Settling

/-!
# Runs from related states

An action *follows* another one if it succeeds whenever that one does, with the same value, and ends
in a related state. Here the two are the same action, run from two graphs that differ in what it
does not read. Preparing a node reads types, shapes and parameters, and gives the output a shape
(`prepare_follows`); evaluating it reads the inputs and the shape of the output, and as kernels
overwrite their outputs, the values that it ends with depend on nothing else (`evaluate_follows`).
-/

namespace TensorGraph

/-! ## Actions -/

namespace Action

variable {σ α β : Type} {R Q : σ → σ → Prop} {s s' : σ}

/-- If the first action succeeds, so does the second one from its own state, with the same value,
and the states that they leave are related. -/
def Follows (R : σ → σ → Prop) (action action' : Action σ α) (s s' : σ) : Prop :=
  ∀ a t, action.outcome s = (some a, t) → ∃ t', action'.outcome s' = (some a, t') ∧ R t t'

theorem Follows.get_bind {next next' : σ → Action σ α} (h : Follows R (next s) (next' s') s s') :
    Follows R (Action.get >>= next) (Action.get >>= next') s s' := by
  intro a t done
  rw [outcome_bind, outcome_get, proceed_some] at done ⊢
  exact h a t done

/-- What is found without a state has to be the same from both states. -/
theorem Follows.lift_bind {e e' : Except Fault α} {next next' : α → Action σ β} (same : e' = e)
    (h : ∀ a, e = .ok a → Follows R (next a) (next' a) s s') :
    Follows R (liftM e >>= next) (liftM e' >>= next') s s' := by
  subst same
  intro b t done
  rw [outcome_bind, outcome_lift] at done ⊢
  cases e' with
  | error fault => cases done
  | ok a => exact h a rfl b t done

/-- Actions in a row follow each other one by one. -/
theorem Follows.bind {action action' : Action σ α} {next next' : α → Action σ β}
    (h : Follows Q action action' s s')
    (hnext : ∀ a t t', Q t t' → Follows R (next a) (next' a) t t') :
    Follows R (action >>= next) (action' >>= next') s s' := by
  intro b u done
  rw [outcome_bind] at done
  obtain ⟨a, t, first, rest⟩ := proceed_eq_some done
  obtain ⟨t', first', related⟩ := h a t first
  obtain ⟨u', rest', related'⟩ := hnext a t t' related b u rest
  exact ⟨u', by rw [outcome_bind, first', proceed_some, rest'], related'⟩

theorem Follows.record {event : Event} (h : R s s') :
    Follows R (Action.record event) (Action.record event) s s' := by
  intro a t done
  cases done
  exact ⟨s', rfl, h⟩

theorem Follows.mono {action action' : Action σ α} (h : Follows R action action' s s')
    (weaker : ∀ t t', R t t' → Q t t') : Follows Q action action' s s' := by
  intro a t done
  obtain ⟨t', done', related⟩ := h a t done
  exact ⟨t', done', weaker t t' related⟩

/-- What is known of the state that the first action leaves. -/
theorem Follows.and_left {action action' : Action σ α} {P : σ → Prop}
    (h : Follows R action action' s s') (left : P (action.outcome s).2) :
    Follows (fun t t' => R t t' ∧ P t) action action' s s' := by
  intro a t done
  obtain ⟨t', done', related⟩ := h a t done
  rw [done] at left
  exact ⟨t', done', related, left⟩

/-- Two runs that follow each other both succeed or both fail. -/
theorem Follows.both {action : Action σ Unit} (h : Follows R action action s s')
    (h' : Follows Q action action s' s) :
    ((action.run s).ending = .ok () ↔ (action.run s').ending = .ok ()) ∧
      ((action.run s).ending = .ok () → R (action.run s).state (action.run s').state) := by
  have forward (succeeds : (action.run s).ending = .ok ()) :
      (action.run s').ending = .ok () ∧ R (action.run s).state (action.run s').state := by
    obtain ⟨t', done, related⟩ := h () _ (outcome_eq_some.mpr ⟨succeeds, rfl⟩)
    obtain ⟨ending, rfl⟩ := outcome_eq_some.mp done
    exact ⟨ending, related⟩
  refine ⟨⟨fun succeeds => (forward succeeds).1, fun succeeds => ?_⟩,
    fun succeeds => (forward succeeds).2⟩
  obtain ⟨t, done, -⟩ := h' () _ (outcome_eq_some.mpr ⟨succeeds, rfl⟩)
  exact (outcome_eq_some.mp done).1

end Action

open TensorGraph.Action (Follows)

/-! ## Tensors -/

/-- Whether a shape is taken does not depend on the tensor. -/
theorem Tensor.resize_succeeds (x : Tensor) {shape : Shape} {n : Nat}
    (counted : shape.count? = some n) : ∃ y, x.resize shape = .ok y := by
  obtain ⟨grid, made, -⟩ := Tensor.resize_of_counted counted
  exact ⟨_, made⟩

namespace Graph

variable {g g' : Graph} {id : Nat} {type : ElementType} {α : Type}

/-- Tensors with the same header that are given the same contents are the same entries. -/
theorem SameFrame.put_getElem? (frame : SameFrame g g') (id : Nat) (tensor : Tensor) :
    (g'.put id tensor).tensors[id]? = (g.put id tensor).tensors[id]? := by
  have same := frame.headers id
  rw [getElem?_put, getElem?_put, if_pos rfl, if_pos rfl]
  cases found : g.tensors[id]? with
  | none =>
      rw [found, Option.map_none, Option.map_eq_none_iff] at same
      rw [same]
  | some entry =>
      obtain ⟨entry', found', header⟩ := frame.exists_entry found
      have parts : entry'.name = entry.name ∧ entry'.constant = entry.constant := by
        simp only [TensorEntry.header, Prod.mk.injEq] at header
        exact ⟨header.1, header.2.2⟩
      rw [found', Option.map_some, Option.map_some, parts.1, parts.2]

/-- A kernel that overwrites the output does the same in both graphs, if it finds the same operands
there and the output has the same shape. -/
theorem computing_follows
    {prepare : Graph → Except Fault (Grid type.Element → Written α type.Element)}
    (frame : SameFrame g g') (shape : g'.shape id = g.shape id)
    (reads : prepare (g'.put id (Tensor.empty type)) = prepare (g.put id (Tensor.empty type)))
    (overwrites : ∀ kernel shape, prepare (g.put id (Tensor.empty type)) = .ok kernel →
      g.shape id = .ok shape → Grid.Overwrites shape kernel) :
    Follows (fun t t' => t'.tensors[id]? = t.tensors[id]?) (computing id type prepare)
      (computing id type prepare) g g' := by
  intro a t done
  obtain ⟨grid, kernel, free, addressable, prepared, ran, rfl⟩ := computing_eq_some.mp done
  obtain ⟨tensor', free'⟩ := frame.changeable_isSome free
  have types := frame.type_eq id
  rw [type_of_changeable free, type_of_changeable free', Except.ok.injEq] at types
  rw [shape_of_changeable free, shape_of_changeable free', Except.ok.injEq] at shape
  obtain ⟨_, grid'⟩ := tensor'
  subst types
  have same := overwrites kernel grid.shape prepared (shape_of_changeable free) grid grid' rfl shape
    a ran
  refine ⟨_, computing_eq_some.mpr ⟨grid', kernel, free', ?_, reads.trans prepared, ?_, rfl⟩, ?_⟩
  · show Shape.Addressable (Tensor.shape ⟨_, grid'⟩)
    rw [shape]
    exact addressable
  · rw [same, ran]
  · rw [same]
    exact frame.put_getElem? id _

/-- A tensor that may be changed takes every shape whose positions can be counted. -/
theorem resize_succeeds {tensor : Tensor} {shape : Shape} {n : Nat}
    (free : g.changeable id = .ok tensor) (counted : shape.count? = some n) :
    ∃ t, (Graph.resize id shape).outcome g = (some (), t) := by
  obtain ⟨resized, made⟩ := Tensor.resize_succeeds tensor counted
  simp only [Graph.resize, Action.outcome_bind, Action.outcome_get, Action.proceed_some,
    Action.outcome_lift, free, toOption_ok]
  split
  · exact ⟨_, rfl⟩
  · simp [made]

/-- Resizing leads to the same shape from all tensors that may be changed. -/
theorem resize_follows {shape : Shape} (frame : SameFrame g g') :
    Follows (fun t t' => t'.shape id = t.shape id) (Graph.resize id shape) (Graph.resize id shape)
      g g' := by
  intro a t done
  obtain ⟨tensor, free, rfl⟩ := resize_eq_some done
  have kept := (resize_sameFrame id tensor.shape).related done
  obtain ⟨_, free'⟩ := (kept.symm.trans frame).changeable_isSome free
  obtain ⟨t', done'⟩ := resize_succeeds free' tensor.grid.counted
  obtain ⟨tensor', free'', shape⟩ := resize_eq_some done'
  refine ⟨t', done', ?_⟩
  show t'.shape id = t.shape id
  rw [shape_of_changeable free, shape_of_changeable free'', shape]
  rfl

end Graph

/-! ## Nodes -/

/-- What evaluating the node reads is the same in both graphs: the inputs, and the shape of the
output. -/
structure Node.ReadsSame (node : Node) (g g' : Graph) : Prop where
  frame : Graph.SameFrame g g'
  inputs : ∀ id ∈ node.inputs, g'.tensors[id]? = g.tensors[id]?
  outputs : ∀ id ∈ node.outputs, g'.shape id = g.shape id

def Node.WritesSame (node : Node) (g g' : Graph) : Prop :=
  ∀ id, node.outputs[0]? = some id → g'.tensors[id]? = g.tensors[id]?

/-- If there is one output, it is the first one. -/
theorem Node.first_output {node : Node} (one : ∃ output, node.outputs = [output]) {id : Nat}
    (inside : id ∈ node.outputs) : node.outputs[0]? = some id := by
  obtain ⟨output, outputs⟩ := one
  rw [outputs, List.mem_singleton] at inside
  rw [outputs, inside]
  rfl

section Nodes

variable {g g' : Graph} {node : Node} {type : ElementType} {α : Type}

/-- What evaluating a node reads is more than its shape rule reads. -/
theorem Node.ReadsSame.seesSame (same : node.ReadsSame g g') : node.SeesSame g g' := by
  refine ⟨same.frame, fun id inside => Graph.shape_congr (same.inputs id inside), ?_⟩
  exact fun id inside => same.inputs id (node.parameterInputs_subset inside)

/-- While the output is being filled, the inputs are seen as they are. -/
theorem view_put_input (apart : ∀ id ∈ node.inputs, id ∉ node.outputs) {a id : Nat}
    (inside : a ∈ node.inputs) (out : node.outputs[0]? = some id) (tensor : Tensor) :
    (g.put id tensor).view a type = g.view a type := by
  have other : id ≠ a := fun same => apart a inside (same ▸ List.mem_of_getElem? out)
  apply Graph.view_congr
  rw [Graph.getElem?_put, if_neg other]

theorem Node.ReadsSame.view (same : node.ReadsSame g g') {a : Nat} (inside : a ∈ node.inputs) :
    g'.view a type = g.view a type :=
  Graph.view_congr (same.inputs a inside)

/-- The operands look the same while the output is being filled. -/
theorem Node.ReadsSame.view_bind {β : Type} (same : node.ReadsSame g g')
    (apart : ∀ id ∈ node.inputs, id ∉ node.outputs) {id : Nat} (out : node.outputs[0]? = some id)
    (i : Nat) (next : Grid type.Element → Except Fault β) (tensor : Tensor) :
    (node.input i >>= fun a => (g'.put id tensor).view a type >>= next) =
      node.input i >>= fun a => (g.put id tensor).view a type >>= next := by
  apply bind_congr_ok
  intro a read
  have inside := List.mem_of_getElem? (Node.input_eq_ok.mp read)
  rw [view_put_input apart inside out, view_put_input apart inside out, same.view inside]

theorem inputType_follows {next next' : ElementType → Action Graph α} {R : Graph → Graph → Prop}
    (frame : Graph.SameFrame g g')
    (h : ∀ type, Follows R (next type) (next' type) g g') :
    Follows R (Builtin.inputType node >>= next) (Builtin.inputType node >>= next') g g' := by
  simp only [Builtin.inputType, bind_assoc]
  exact .get_bind (.lift_bind rfl fun a _ => .lift_bind (frame.type_eq a) fun type _ => h type)

/-- A node writes the same if its kernel finds the same operands and overwrites the output. -/
theorem computing_output_follows
    {prepare : Graph → Except Fault (Grid type.Element → Written α type.Element)}
    (same : node.ReadsSame g g')
    (reads : ∀ id, node.outputs[0]? = some id →
      prepare (g'.put id (Tensor.empty type)) = prepare (g.put id (Tensor.empty type)))
    (overwrites : ∀ id kernel shape, node.outputs[0]? = some id →
      prepare (g.put id (Tensor.empty type)) = .ok kernel → g.shape id = .ok shape →
        Grid.Overwrites shape kernel) :
    Follows node.WritesSame (do Graph.computing (← node.output 0) type prepare)
      (do Graph.computing (← node.output 0) type prepare) g g' := by
  refine .lift_bind rfl fun id found => ?_
  have out := Node.output_eq_ok.mp found
  refine (Graph.computing_follows same.frame (same.outputs id (List.mem_of_getElem? out))
    (reads id out) fun kernel shape => overwrites id kernel shape out).mono ?_
  intro t t' written id' out'
  cases out.symm.trans out'
  exact written

/-- Preparing the node gives the output the same shape in both graphs. -/
theorem Builtin.prepare_follows (same : node.SeesSame g g') :
    Follows (fun t t' => ∀ id, node.outputs[0]? = some id → t'.shape id = t.shape id)
      (prepare node) (prepare node) g g' := by
  refine .get_bind (.lift_bind (outputShape_congr same) fun shape _ =>
    .lift_bind rfl fun id found => ?_)
  refine (Graph.resize_follows same.frame).mono fun t t' shaped id' out => ?_
  cases (Node.output_eq_ok.mp found).symm.trans out
  exact shaped

/-! ## Evaluating -/

variable (same : node.ReadsSame g g') (apart : ∀ id ∈ node.inputs, id ∉ node.outputs)

include same apart

theorem evaluateUnary_follows
    {kernel : Grid type.Element → Grid type.Element → Written Unit type.Element}
    (overwrites : ∀ a id input shape, node.inputs[0]? = some a → g.view a type = .ok input →
      node.outputs[0]? = some id → g.shape id = .ok shape →
      Grid.Overwrites shape (kernel input)) :
    Follows node.WritesSame (Builtin.evaluateUnary node type kernel)
      (Builtin.evaluateUnary node type kernel) g g' := by
  apply computing_output_follows same
  · intro id out
    exact same.view_bind apart out 0 _ _
  · intro id kernel' shape out prepared found
    simp only [bind_eq_ok, pure_eq_ok, Node.input_eq_ok] at prepared
    obtain ⟨a, first, input, seen, rfl⟩ := prepared
    rw [view_put_input apart (List.mem_of_getElem? first) out] at seen
    exact overwrites a id input shape first seen out found

theorem evaluateBinary_follows
    {kernel : Grid type.Element → Grid type.Element → Grid type.Element →
      Except Fault (Grid type.Element)}
    (overwrites : ∀ a b shape,
      Grid.Overwrites shape fun output => output.overwrite (kernel a b output)) :
    Follows node.WritesSame (Builtin.evaluateBinary node type kernel)
      (Builtin.evaluateBinary node type kernel) g g' := by
  apply computing_output_follows same
  · intro id out
    simp only [same.view_bind apart out]
  · intro id kernel' shape _ prepared _
    simp only [bind_eq_ok, pure_eq_ok] at prepared
    obtain ⟨_, _, a, _, _, _, b, _, rfl⟩ := prepared
    exact overwrites a b shape

theorem evaluateFloatUnary_follows
    {kernel : (type : ElementType) → FloatLike type.Element →
      Grid type.Element → Grid type.Element → Written Unit type.Element}
    (overwrites : ∀ type arithmetic input shape,
      Grid.Overwrites shape (kernel type arithmetic input)) :
    Follows node.WritesSame (Builtin.evaluateFloatUnary node kernel)
      (Builtin.evaluateFloatUnary node kernel) g g' :=
  inputType_follows same.frame fun type => .lift_bind rfl fun arithmetic _ =>
    evaluateUnary_follows same apart fun _ _ input shape _ _ _ _ =>
      overwrites type arithmetic input shape

theorem evaluateFloatBinary_follows
    {kernel : (type : ElementType) → FloatLike type.Element →
      Grid type.Element → Grid type.Element → Grid type.Element →
      Except Fault (Grid type.Element)}
    (overwrites : ∀ type arithmetic a b shape,
      Grid.Overwrites shape fun output => output.overwrite (kernel type arithmetic a b output)) :
    Follows node.WritesSame (Builtin.evaluateFloatBinary node kernel)
      (Builtin.evaluateFloatBinary node kernel) g g' :=
  inputType_follows same.frame fun type => .lift_bind rfl fun arithmetic _ =>
    evaluateBinary_follows same apart (overwrites type arithmetic)

theorem evaluateInteger_follows
    {kernel : Grid type.Element → Grid type.Element → Grid type.Element →
      Except Fault (Grid type.Element)}
    (overwrites : ∀ a b shape,
      Grid.Overwrites shape fun output => output.overwrite (kernel a b output)) :
    Follows node.WritesSame (Builtin.evaluateInteger node type kernel)
      (Builtin.evaluateInteger node type kernel) g g' :=
  .lift_bind rfl fun _ _ => evaluateBinary_follows same apart overwrites

/-- Sums and products follow, whichever kernel the type calls for. -/
theorem evaluateArithmetic_follows
    {wrapping : {α : Type} → [Number α] → Grid α → Grid α → Grid α → Except Fault (Grid α)}
    {clamped : {α : Type} → [FloatLike α] → ClampRange α →
      Grid α → Grid α → Grid α → Except Fault (Grid α)}
    (overwrites : ∀ {α : Type} [Number α] (a b : Grid α) shape,
      Grid.Overwrites shape fun output => output.overwrite (wrapping a b output))
    (overwrites' : ∀ {α : Type} [FloatLike α] (range : ClampRange α) (a b : Grid α) shape,
      Grid.Overwrites shape fun output => output.overwrite (clamped range a b output)) :
    Follows node.WritesSame (Builtin.evaluateArithmetic node wrapping clamped)
      (Builtin.evaluateArithmetic node wrapping clamped) g g' := by
  refine inputType_follows same.frame fun type => ?_
  split
  · exact evaluateInteger_follows same apart overwrites
  · exact evaluateInteger_follows same apart overwrites
  · exact evaluateFloatBinary_follows same apart fun _ _ => overwrites' _

theorem evaluateAddN_follows :
    Follows node.WritesSame (Builtin.evaluateAddN node) (Builtin.evaluateAddN node) g g' := by
  refine inputType_follows same.frame fun type => .lift_bind rfl fun arithmetic _ => ?_
  apply computing_output_follows same
  · intro id out
    rw [mapM_congr fun a inside => ?_]
    rw [view_put_input apart inside out, view_put_input apart inside out, same.view inside]
  · intro id kernel shape _ prepared _
    simp only [bind_eq_ok, pure_eq_ok] at prepared
    obtain ⟨inputs, _, rfl⟩ := prepared
    exact Kernel.overwrites_addN inputs

theorem evaluateMatrixProduct_follows :
    Follows node.WritesSame (Builtin.evaluateMatrixProduct node)
      (Builtin.evaluateMatrixProduct node) g g' := by
  refine inputType_follows same.frame fun type => .lift_bind rfl fun arithmetic _ => ?_
  dsimp only
  rw [← bind_assoc]
  refine .bind (computing_output_follows same ?_ ?_) fun _ _ _ written => .record written
  · intro id out
    simp only [same.view_bind apart out]
  · intro id kernel shape _ prepared _
    simp only [bind_eq_ok, pure_eq_ok] at prepared
    obtain ⟨_, _, a, _, _, _, b, _, rfl⟩ := prepared
    exact Kernel.overwrites_batchMatMul _ _ a b

theorem evaluateArgExtremum_follows (largest : Bool)
    (parameters : node.parameterInputs = node.inputs.drop 1) :
    Follows node.WritesSame (Builtin.evaluateArgExtremum node largest)
      (Builtin.evaluateArgExtremum node largest) g g' := by
  refine inputType_follows same.frame fun type => .lift_bind rfl fun _ _ => .get_bind ?_
  refine .lift_bind rfl fun output _ => .lift_bind (same.frame.type_eq output) fun indexType _ => ?_
  refine .lift_bind rfl fun _ _ =>
    .lift_bind (Builtin.reductionAxis_congr same.seesSame parameters) fun axis _ => ?_
  apply computing_output_follows same
  · intro id out
    exact same.view_bind apart out 0 _ _
  · intro id kernel shape _ prepared _
    simp only [bind_eq_ok, pure_eq_ok] at prepared
    obtain ⟨_, _, input, _, rfl⟩ := prepared
    exact Kernel.overwrites_argExtremum

/-- A weaving follows if the output is just as large as what is woven. -/
theorem evaluateBatchToSpace_follows (settled : node.Settled g)
    (operator : node.operator = .batchToSpaceNd) :
    Follows node.WritesSame (Builtin.evaluateBatchToSpace node)
      (Builtin.evaluateBatchToSpace node) g g' := by
  have parameters : node.parameterInputs = node.inputs.drop 1 := by
    rw [Node.parameterInputs, operator]
  refine inputType_follows same.frame fun type => .get_bind (.lift_bind ?_ fun found read => ?_)
  · exact Builtin.batchToSpaceParameters_congr same.seesSame parameters
  · apply evaluateUnary_follows same apart
    intro a id input shape first seen out found
    obtain ⟨entry, present, tensor, addressable⟩ := Graph.view_eq_ok.mp seen
    -- the output has the shape that the kernel calls for, as the node is settled
    obtain ⟨output, old, outputs, free, inferred⟩ := settled
    obtain rfl : output = id := by simpa [outputs] using out
    rw [Graph.shape_of_changeable free, Except.ok.injEq] at found
    rw [Builtin.outputShape, operator] at inferred
    simp only [Builtin.wovenShape, read, bind_eq_ok, Node.input_eq_ok, Except.ok.injEq] at inferred
    obtain ⟨_, -, _, -, _, rfl, a', first', input', found', woven⟩ := inferred
    obtain rfl : a = a' := Option.some.inj (first.symm.trans first')
    obtain ⟨entry', present', rfl⟩ := Graph.shape_eq_ok.mp found'
    obtain rfl : entry = entry' := Option.some.inj (present.symm.trans present')
    rw [found, tensor] at woven
    exact Kernel.overwrites_batchToSpace woven addressable

/-- A node computes the same from the same inputs, if its output has the right shape where it weaves
batches. -/
theorem Builtin.evaluate_follows (settled : node.operator = .batchToSpaceNd → node.Settled g) :
    Follows node.WritesSame (evaluate node) (evaluate node) g g' := by
  unfold Builtin.evaluate
  cases operator : node.operator with
  | abs => exact evaluateFloatUnary_follows same apart fun _ _ input _ =>
      Kernel.overwrites_unary FloatLike.abs input
  | relu => exact evaluateFloatUnary_follows same apart fun _ _ input _ =>
      Kernel.overwrites_unary _ input
  | add =>
      exact evaluateArithmetic_follows same apart
        (fun a b _ => Kernel.overwrites_zipBroadcast (· + ·) a b)
        fun range a b _ => Kernel.overwrites_binary (· + ·) range a b
  | mul =>
      exact evaluateArithmetic_follows same apart
        (fun a b _ => Kernel.overwrites_zipBroadcast (· * ·) a b)
        fun range a b _ => Kernel.overwrites_binary (· * ·) range a b
  | sub => exact evaluateFloatBinary_follows same apart fun _ _ a b _ =>
      Kernel.overwrites_binary (· - ·) _ a b
  | atan2 => exact evaluateFloatBinary_follows same apart fun _ _ a b _ =>
      Kernel.overwrites_binary FloatLike.arctan2 _ a b
  | addN => exact evaluateAddN_follows same apart
  | batchMatMul => exact evaluateMatrixProduct_follows same apart
  | averagePool2d => exact evaluateFloatUnary_follows same apart fun _ _ input _ =>
      Kernel.overwrites_poolInto _ _ input
  | maxPool2d => exact evaluateFloatUnary_follows same apart fun _ _ input _ =>
      Kernel.overwrites_poolInto _ _ input
  | argMax =>
      refine evaluateArgExtremum_follows same apart true ?_
      rw [Node.parameterInputs, operator]
  | argMin =>
      refine evaluateArgExtremum_follows same apart false ?_
      rw [Node.parameterInputs, operator]
  | batchToSpaceNd =>
      exact evaluateBatchToSpace_follows same apart (settled operator) operator

/-- Whether batches can be woven does not depend on what the output held. -/
theorem evaluateBatchToSpace_succeeds (operator : node.operator = .batchToSpaceNd) :
    Follows (fun _ _ => True) (Builtin.evaluateBatchToSpace node)
      (Builtin.evaluateBatchToSpace node) g g' := by
  have parameters : node.parameterInputs = node.inputs.drop 1 := by
    rw [Node.parameterInputs, operator]
  refine inputType_follows same.frame fun type => .get_bind (.lift_bind ?_ fun found _ => ?_)
  · exact Builtin.batchToSpaceParameters_congr same.seesSame parameters
  refine .lift_bind rfl fun id out => ?_
  intro a t done
  obtain ⟨grid, kernel, free, addressable, prepared, ran, -⟩ := Graph.computing_eq_some.mp done
  have out := Node.output_eq_ok.mp out
  obtain ⟨tensor', free'⟩ := same.frame.changeable_isSome free
  have types := same.frame.type_eq id
  have shapes := same.outputs id (List.mem_of_getElem? out)
  rw [Graph.type_of_changeable free, Graph.type_of_changeable free', Except.ok.injEq] at types
  rw [Graph.shape_of_changeable free, Graph.shape_of_changeable free', Except.ok.injEq] at shapes
  obtain ⟨_, grid'⟩ := tensor'
  subst types
  have prepared' := prepared
  rw [← same.view_bind apart out 0 _ _] at prepared'
  simp only [bind_eq_ok, pure_eq_ok] at prepared
  obtain ⟨_, -, input, -, rfl⟩ := prepared
  obtain ⟨filled, woven⟩ : ∃ filled,
      Kernel.batchToSpace found.1 found.2 input grid = .ok filled := by
    cases woven : Kernel.batchToSpace found.1 found.2 input grid with
    | error fault => simp [woven, Grid.overwrite] at ran
    | ok filled => exact ⟨filled, rfl⟩
  obtain ⟨w, moves, -, -, -, always⟩ := Kernel.moves_of_batchToSpace woven
  refine ⟨_, Graph.computing_eq_some.mpr ⟨grid', _, free', ?_, prepared', ?_, rfl⟩, trivial⟩
  · show Shape.Addressable (Tensor.shape ⟨_, grid'⟩)
    rw [shapes]
    exact addressable
  · rw [always grid' shapes]
    rfl

/-- Whether a node can be evaluated does not depend on what the output held. -/
theorem Builtin.evaluate_succeeds :
    Follows (fun _ _ => True) (evaluate node) (evaluate node) g g' := by
  by_cases operator : node.operator = .batchToSpaceNd
  · unfold Builtin.evaluate
    simp only [operator]
    exact evaluateBatchToSpace_succeeds same apart operator
  · exact (evaluate_follows same apart fun weaves => absurd weaves operator).mono
      fun _ _ _ => trivial

end Nodes

end TensorGraph
