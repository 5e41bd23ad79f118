import TensorGraph.Proofs.Following

/-!
# What a node looks at

Preparing or evaluating a node looks at the tensors that the node reads and at the one it computes.
The rest of the graph does not matter to it: neither other tensors nor the list that the node is
in. So from two graphs that hold the same in a few tensors it does the same to these tensors
(`Builtin.prepare_local`, `Builtin.evaluate_local`), also where it fails halfway.

Unlike `Builtin.evaluate_follows` this asks for the old contents of the output to be the same, and
in return it needs to know nothing about kernels.
-/

namespace TensorGraph

/-! ## Runs that match -/

namespace Action

variable {σ α β : Type} {R Q : σ → σ → Prop} {s s' : σ}

/-- The two actions, each from its state, come to the same: they end with the same value or both
fail, in states that are related either way. -/
structure Matches (R : σ → σ → Prop) (action action' : Action σ α) (s s' : σ) : Prop where
  value : (action'.outcome s').1 = (action.outcome s).1
  states : R (action.outcome s).2 (action'.outcome s').2

/-- What comes to the same follows. -/
theorem Matches.follows {action action' : Action σ α} (h : Matches R action action' s s') :
    Follows R action action' s s' := by
  intro a t done
  obtain ⟨value, states⟩ := h
  rw [done] at value states
  exact ⟨(action'.outcome s').2, Prod.ext value rfl, states⟩

/-- Both actions succeed, or none does. -/
theorem Matches.ending_iff {action action' : Action σ Unit} (h : Matches R action action' s s') :
    (action.run s).ending = .ok () ↔ (action'.run s').ending = .ok () := by
  have value : (action'.run s').ending.toOption = (action.run s).ending.toOption := h.value
  rw [← toOption_eq_some, ← toOption_eq_some, value]

/-- Actions that end without a value match if each of them follows the other. -/
theorem Matches.of_follows {P : σ → σ → Prop} {action action' : Action σ Unit}
    (h : Follows P action action' s s') (h' : Follows Q action' action s' s)
    (states : R (action.outcome s).2 (action'.outcome s').2) : Matches R action action' s s' := by
  refine ⟨Option.ext fun _ => ⟨fun ends => ?_, fun ends => ?_⟩, states⟩
  · obtain ⟨_, done, -⟩ := h' _ _ (Prod.ext ends rfl)
    rw [done]
  · obtain ⟨_, done, -⟩ := h _ _ (Prod.ext ends rfl)
    rw [done]

theorem Matches.mono {action action' : Action σ α} (h : Matches R action action' s s')
    (weaker : ∀ t t', R t t' → Q t t') : Matches Q action action' s s' :=
  ⟨h.value, weaker _ _ h.states⟩

theorem Matches.get_bind {next next' : σ → Action σ α} (h : Matches R (next s) (next' s') s s') :
    Matches R (Action.get >>= next) (Action.get >>= next') s s' := by
  obtain ⟨value, states⟩ := h
  constructor <;> simpa only [outcome_bind, outcome_get, proceed_some]

theorem Matches.lift {e e' : Except Fault α} (same : e' = e) (related : R s s') :
    Matches R (liftM e) (liftM e') s s' :=
  ⟨congrArg Except.toOption same, related⟩

theorem Matches.record {event : Event} (related : R s s') :
    Matches R (Action.record event) (Action.record event) s s' :=
  ⟨rfl, related⟩

/-- Actions in a row come to the same one by one. -/
theorem Matches.bind {action action' : Action σ α} {next next' : α → Action σ β}
    (h : Matches R action action' s s')
    (hnext : ∀ a t t', R t t' → Matches R (next a) (next' a) t t') :
    Matches R (action >>= next) (action' >>= next') s s' := by
  obtain ⟨value, states⟩ := h
  have rest : ∀ (o o' : Option α × σ), o'.1 = o.1 → R o.2 o'.2 →
      (proceed o' fun a t => (next' a).outcome t).1 = (proceed o fun a t => (next a).outcome t).1 ∧
        R (proceed o fun a t => (next a).outcome t).2
          (proceed o' fun a t => (next' a).outcome t).2 := by
    rintro ⟨_ | a, t⟩ ⟨_, t'⟩ rfl related
    · exact ⟨rfl, related⟩
    · exact ⟨(hnext a t t' related).value, (hnext a t t' related).states⟩
  obtain ⟨value', states'⟩ := rest _ _ value states
  exact ⟨by rwa [outcome_bind, outcome_bind], by rwa [outcome_bind, outcome_bind]⟩

/-- What is found without a state has to be the same in both. -/
theorem Matches.lift_bind {e e' : Except Fault α} {next next' : α → Action σ β} (same : e' = e)
    (related : R s s') (h : ∀ a, e = .ok a → Matches R (next a) (next' a) s s') :
    Matches R (liftM e >>= next) (liftM e' >>= next') s s' := by
  subst same
  cases e' with
  | error fault =>
      constructor <;> rw [outcome_bind, outcome_bind, outcome_lift, outcome_lift]
      · rfl
      · exact related
  | ok a =>
      obtain ⟨value, states⟩ := h a rfl
      constructor <;> rwa [outcome_bind, outcome_bind, outcome_lift, outcome_lift]

end Action

open TensorGraph.Action (Follows Matches)

/-! ## Graphs that hold the same in some tensors -/

def Graph.SameAt (ids : List Nat) (g g' : Graph) : Prop :=
  ∀ id ∈ ids, g'.tensors[id]? = g.tensors[id]?

namespace Graph.SameAt

variable {ids : List Nat} {g g' : Graph} {id : Nat}

theorem symm (same : SameAt ids g g') : SameAt ids g' g :=
  fun id inside => (same id inside).symm

theorem entry (same : SameAt ids g g') (inside : id ∈ ids) : g'.entry id = g.entry id := by
  rw [Graph.entry, Graph.entry, same id inside]

theorem type (same : SameAt ids g g') (inside : id ∈ ids) : g'.type id = g.type id := by
  rw [Graph.type, Graph.type, Graph.tensor, Graph.tensor, same.entry inside]

theorem view (same : SameAt ids g g') (inside : id ∈ ids) (type : ElementType) :
    g'.view id type = g.view id type := by
  rw [Graph.view, Graph.view, Graph.tensor, Graph.tensor, same.entry inside]

theorem changeable (same : SameAt ids g g') (inside : id ∈ ids) :
    g'.changeable id = g.changeable id := by
  rw [Graph.changeable, Graph.changeable, same.entry inside]

theorem put (same : SameAt ids g g') (id : Nat) (tensor : Tensor) :
    SameAt ids (g.put id tensor) (g'.put id tensor) := by
  intro other inside
  rw [getElem?_put, getElem?_put, same other inside]

end Graph.SameAt

/-- The action looks at the given tensors only: from graphs that hold the same there it does the
same to them. -/
def Action.Local {α : Type} (ids : List Nat) (action : Action Graph α) : Prop :=
  ∀ {g g' : Graph}, Graph.SameAt ids g g' → Matches (Graph.SameAt ids) action action g g'

section Local

variable {ids : List Nat} {id : Nat} {α : Type} {type : ElementType}

/-- Resizing looks at one tensor. -/
theorem Graph.resize_local (inside : id ∈ ids) (shape : Shape) :
    (Graph.resize id shape).Local ids := by
  intro g g' same
  refine .get_bind (.lift_bind (same.changeable inside) same fun tensor _ => ?_)
  split
  · exact ⟨rfl, same⟩
  · refine .bind (.record same) fun _ t t' _ => ?_
    exact .lift_bind rfl ‹_› fun resized _ => ⟨rfl, same.put id resized⟩

/-- A kernel looks at its output and at the operands that it reads. -/
theorem Graph.computing_local
    {prepare : Graph → Except Fault (Grid type.Element → Written α type.Element)}
    (inside : id ∈ ids)
    (reads : ∀ {g g' : Graph}, SameAt ids g g' → prepare g' = prepare g) :
    (Graph.computing id type prepare).Local ids := by
  intro g g' same
  cases free : g.changeable id with
  | error fault =>
      have free' : g'.changeable id = .error fault := by rw [same.changeable inside, free]
      constructor <;> simp [Graph.computing, Graph.filling, free, free', same]
  | ok tensor =>
      have free' : g'.changeable id = .ok tensor := by rw [same.changeable inside, free]
      constructor
      all_goals
        rw [Graph.computing, outcome_filling free, outcome_filling free',
          reads (same.put id (Tensor.empty tensor.type))]
      exact same.put id _

end Local

/-! ## Nodes -/

def Node.tensors (node : Node) : List Nat := node.inputs ++ node.outputs

section Nodes

variable {node : Node} {g g' : Graph} {α β : Type} {type : ElementType}

theorem Node.mem_tensors_of_input {i id : Nat} (found : node.input i = .ok id) :
    id ∈ node.tensors :=
  List.mem_append_left _ (List.mem_of_getElem? (Node.input_eq_ok.mp found))

theorem Node.mem_tensors_of_output {i id : Nat} (found : node.output i = .ok id) :
    id ∈ node.tensors :=
  List.mem_append_right _ (List.mem_of_getElem? (Node.output_eq_ok.mp found))

/-- Everything that is read of an input is read of its entry. -/
theorem Graph.SameAt.input_bind (same : SameAt node.tensors g g') (i : Nat)
    (next : TensorEntry → Except Fault α) :
    (node.input i >>= fun id => g'.entry id >>= next) =
      node.input i >>= fun id => g.entry id >>= next :=
  bind_congr_ok fun id found => by rw [same.entry (Node.mem_tensors_of_input found)]

theorem Graph.SameAt.output_bind (same : SameAt node.tensors g g') (i : Nat)
    (next : TensorEntry → Except Fault α) :
    (node.output i >>= fun id => g'.entry id >>= next) =
      node.output i >>= fun id => g.entry id >>= next :=
  bind_congr_ok fun id found => by rw [same.entry (Node.mem_tensors_of_output found)]

theorem Graph.SameAt.view_bind (same : SameAt node.tensors g g') (i : Nat)
    (next : Grid type.Element → Except Fault α) :
    (node.input i >>= fun id => g'.view id type >>= next) =
      node.input i >>= fun id => g.view id type >>= next :=
  bind_congr_ok fun id found => by rw [same.view (Node.mem_tensors_of_input found)]

/-! ### Preparing -/

theorem Graph.SameAt.reductionAxis (same : SameAt node.tensors g g') :
    Builtin.reductionAxis g' node = Builtin.reductionAxis g node := by
  simp only [Builtin.reductionAxis, Builtin.readIntegers, Graph.shape, Graph.tensor, bind_assoc,
    same.input_bind]

theorem Graph.SameAt.batchToSpaceParameters (same : SameAt node.tensors g g') :
    Builtin.batchToSpaceParameters g' node = Builtin.batchToSpaceParameters g node := by
  simp only [Builtin.batchToSpaceParameters, Builtin.readIntegers, Graph.shape, Graph.tensor,
    bind_assoc, same.input_bind]

theorem Graph.SameAt.commonType (same : SameAt node.tensors g g') :
    Builtin.commonType g' node = Builtin.commonType g node := by
  simp only [Builtin.commonType, Graph.type, Graph.tensor, bind_assoc, same.input_bind,
    same.output_bind]

/-- The shape rule looks at what the node reads or computes. -/
theorem Graph.SameAt.outputShape (same : SameAt node.tensors g g') :
    Builtin.outputShape g' node = Builtin.outputShape g node := by
  unfold Builtin.outputShape
  cases node.operator <;> dsimp only
  case abs | relu =>
    simp only [Builtin.sameShape, same.commonType, Graph.shape, Graph.tensor, bind_assoc,
      same.input_bind]
  case add | sub | mul | atan2 =>
    simp only [Builtin.binaryShape, same.commonType, Graph.type, Graph.shape, Graph.tensor,
      bind_assoc, same.input_bind]
  case addN =>
    simp only [Builtin.addNShape, same.commonType, Graph.type, Graph.shape, Graph.tensor,
      bind_assoc, pure_bind, same.input_bind, List.forM_eq_forM]
    refine bind_congr_ok fun _ _ => bind_congr_ok fun type _ => bind_congr_ok fun a _ =>
      bind_congr_ok fun entry _ => ?_
    rw [forM_congr fun id later => ?_]
    rw [same.entry (List.mem_append_left _ (List.mem_of_mem_drop later))]
  case batchMatMul =>
    simp only [Builtin.matrixShape, same.commonType, Graph.shape, Graph.tensor, bind_assoc,
      same.input_bind]
  case averagePool2d | maxPool2d =>
    simp only [Builtin.poolShape, same.commonType, Graph.shape, Graph.tensor, bind_assoc,
      same.input_bind]
  case argMax | argMin =>
    simp only [Builtin.reducedShape, same.reductionAxis, Graph.type, Graph.shape, Graph.tensor,
      bind_assoc, same.input_bind, same.output_bind]
  case batchToSpaceNd =>
    simp only [Builtin.wovenShape, same.batchToSpaceParameters, same.commonType, Graph.shape,
      Graph.tensor, bind_assoc, same.input_bind]

theorem Builtin.prepare_local (node : Node) : (prepare node).Local node.tensors := by
  intro g g' same
  refine .get_bind (.lift_bind same.outputShape same fun shape _ =>
    .lift_bind rfl same fun id found => ?_)
  exact Graph.resize_local (Node.mem_tensors_of_output found) shape same

/-! ### Evaluating -/

theorem Builtin.inputType_local : (inputType node).Local node.tensors := by
  intro g g' same
  refine .get_bind (.lift_bind rfl same fun id found => ?_)
  exact .lift (same.type (Node.mem_tensors_of_input found)) same

/-- Filling the output is local if the operands are tensors of the node. -/
theorem computing_output_local
    {prepare : Graph → Except Fault (Grid type.Element → Written α type.Element)}
    (reads : ∀ {g g' : Graph}, Graph.SameAt node.tensors g g' → prepare g' = prepare g) :
    (do Graph.computing (← node.output 0) type prepare : Action Graph α).Local node.tensors := by
  intro g g' same
  refine .lift_bind rfl same fun id found => ?_
  exact Graph.computing_local (Node.mem_tensors_of_output found) reads same

theorem evaluateUnary_local
    (kernel : Grid type.Element → Grid type.Element → Written Unit type.Element) :
    (Builtin.evaluateUnary node type kernel).Local node.tensors :=
  computing_output_local fun same => same.view_bind 0 _

theorem evaluateBinary_local
    (kernel : Grid type.Element → Grid type.Element → Grid type.Element →
      Except Fault (Grid type.Element)) :
    (Builtin.evaluateBinary node type kernel).Local node.tensors := by
  apply computing_output_local
  intro g g' same
  simp only [same.view_bind]

theorem evaluateInteger_local
    (kernel : Grid type.Element → Grid type.Element → Grid type.Element →
      Except Fault (Grid type.Element)) :
    (Builtin.evaluateInteger node type kernel).Local node.tensors :=
  fun same => .lift_bind rfl same fun _ _ => evaluateBinary_local kernel same

theorem evaluateFloatUnary_local
    (kernel : (type : ElementType) → FloatLike type.Element →
      Grid type.Element → Grid type.Element → Written Unit type.Element) :
    (Builtin.evaluateFloatUnary node kernel).Local node.tensors :=
  fun same => .bind (Builtin.inputType_local same) fun type _ _ same =>
    .lift_bind rfl same fun arithmetic _ => evaluateUnary_local (kernel type arithmetic) same

theorem evaluateFloatBinary_local
    (kernel : (type : ElementType) → FloatLike type.Element →
      Grid type.Element → Grid type.Element → Grid type.Element →
      Except Fault (Grid type.Element)) :
    (Builtin.evaluateFloatBinary node kernel).Local node.tensors :=
  fun same => .bind (Builtin.inputType_local same) fun type _ _ same =>
    .lift_bind rfl same fun arithmetic _ => evaluateBinary_local (kernel type arithmetic) same

/-- Sums and products look at the node's tensors, whichever kernel the type calls for. -/
theorem evaluateArithmetic_local
    (wrapping : {α : Type} → [Number α] → Grid α → Grid α → Grid α → Except Fault (Grid α))
    (clamped : {α : Type} → [FloatLike α] → ClampRange α →
      Grid α → Grid α → Grid α → Except Fault (Grid α)) :
    (Builtin.evaluateArithmetic node wrapping clamped).Local node.tensors := by
  intro g g' same
  refine .bind (Builtin.inputType_local same) fun type t t' same => ?_
  split
  · exact evaluateInteger_local wrapping same
  · exact evaluateInteger_local wrapping same
  · exact evaluateFloatBinary_local _ same

theorem evaluateAddN_local : (Builtin.evaluateAddN node).Local node.tensors := by
  intro g g' same
  refine .bind (Builtin.inputType_local same) fun type t t' same =>
    .lift_bind rfl same fun arithmetic _ => computing_output_local ?_ same
  intro g g' same
  rw [mapM_congr fun id inside => same.view (List.mem_append_left _ inside) type]

theorem evaluateMatrixProduct_local :
    (Builtin.evaluateMatrixProduct node).Local node.tensors := by
  intro g g' same
  refine .bind (Builtin.inputType_local same) fun type t t' same =>
    .lift_bind rfl same fun arithmetic _ => ?_
  dsimp only
  rw [← bind_assoc]
  refine .bind (computing_output_local ?_ same) fun _ _ _ same => .record same
  intro g g' same
  simp only [same.view_bind]

theorem evaluateArgExtremum_local (largest : Bool) :
    (Builtin.evaluateArgExtremum node largest).Local node.tensors := by
  intro g g' same
  refine .bind (Builtin.inputType_local same) fun type t t' same =>
    .lift_bind rfl same fun _ _ => .get_bind (.lift_bind rfl same fun output found => ?_)
  refine .lift_bind (same.type (Node.mem_tensors_of_output found)) same fun indexType _ =>
    .lift_bind rfl same fun _ _ => .lift_bind same.reductionAxis same fun axis _ => ?_
  exact computing_output_local (fun same => same.view_bind 0 _) same

theorem evaluateBatchToSpace_local :
    (Builtin.evaluateBatchToSpace node).Local node.tensors :=
  fun same => .bind (Builtin.inputType_local same) fun _ _ _ same =>
    .get_bind (.lift_bind same.batchToSpaceParameters same fun _ _ => evaluateUnary_local _ same)

/-- Evaluating a node looks at its tensors only. -/
theorem Builtin.evaluate_local (node : Node) : (evaluate node).Local node.tensors := by
  unfold Builtin.evaluate
  cases node.operator with
  | abs | relu | averagePool2d | maxPool2d => exact evaluateFloatUnary_local _
  | sub | atan2 => exact evaluateFloatBinary_local _
  | add => exact evaluateArithmetic_local Kernel.addWrapping Kernel.add
  | mul => exact evaluateArithmetic_local Kernel.mulWrapping Kernel.mul
  | addN => exact evaluateAddN_local
  | batchMatMul => exact evaluateMatrixProduct_local
  | argMax | argMin => exact evaluateArgExtremum_local _
  | batchToSpaceNd => exact evaluateBatchToSpace_local

end Nodes

end TensorGraph
