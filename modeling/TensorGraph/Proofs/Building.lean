import TensorGraph.Builder
import TensorGraph.Proofs.Frame

/-!
# Built graphs

A call to the builder that is refused changes nothing, and one that succeeds adds to the graph what
it has checked before; an input whose shape is too large is given up half way. `Graph.Grows` lists
what that can be; what holds of all built graphs follows from it by induction on the calls.
-/

namespace TensorGraph

inductive BuilderCall where
  | addTensor (name : String) (type : ElementType)
  | addInput (name : String) (type : ElementType) (shape : Shape)
  | addConstant (name : String) (tensor : Tensor)
  | addNode (name : String) (operator : Operator) (parameters : Option Parameters)
      (inputs outputs : List Nat)
  | setOutputs (ids : List Nat)

def BuilderCall.action : BuilderCall → Action Graph Unit
  | addTensor name type => do let _ ← Graph.addTensor name type
  | addInput name type shape => do let _ ← Graph.addInput name type shape
  | addConstant name tensor => do let _ ← Graph.addConstant name tensor
  | addNode name operator parameters inputs outputs => do
    let _ ← Graph.addNode name operator parameters inputs outputs
  | setOutputs ids => Graph.setOutputs ids

namespace Graph

/-- The graph after calls that were made one after the other, whatever the answers were. -/
def build (calls : List BuilderCall) : Graph :=
  calls.foldl (fun g call => (call.action.run g).state) empty

/-! ## One call -/

/-- What one call can make of a graph. -/
inductive Grows (g : Graph) : Graph → Prop where
  | nothing : Grows g g
  | tensor (entry : TensorEntry) : Grows g { g with tensors := g.tensors ++ [entry] }
  | input (entry : TensorEntry) (free : entry.constant = false) :
      Grows g { g with tensors := g.tensors ++ [entry], inputs := g.inputs ++ [g.tensors.length] }
  | node (node : Node) (place : node.id = g.nodes.length)
      (known : ∀ id ∈ node.inputs ++ node.outputs, id < g.tensors.length)
      (apart : ∀ id ∈ node.outputs, id ∉ node.inputs)
      (free : ∀ id ∈ node.outputs, ∃ tensor, g.changeable id = .ok tensor)
      (fresh : ∀ id ∈ node.outputs, ∀ other ∈ g.nodes, id ∉ other.outputs) :
      Grows g { g with nodes := g.nodes ++ [node] }
  | outputs (ids : List Nat) (known : ∀ id ∈ ids, id < g.tensors.length) :
      Grows g { g with outputs := ids }

section Calls

variable {g g' : Graph} {name : String} {inputs outputs : List Nat} {id : Nat}

/-- A node may write a tensor that it does not read, that may be changed, and that no other node
writes. -/
theorem checkOutput_eq_ok {u : Unit} : g.checkOutput name inputs id = .ok u ↔
    id ∉ inputs ∧ (∃ tensor, g.changeable id = .ok tensor) ∧
      ∀ other ∈ g.nodes, id ∉ other.outputs := by
  simp only [checkOutput, bind_eq_ok, ensure_eq_ok, checked_eq_ok, changeable_eq_ok]
  cases found : g.nodes.find? fun node => id ∈ node.outputs with
  | some producer =>
      have written := List.find?_some found
      have inside := List.mem_of_find?_eq_some found
      simp only [refuse_eq_ok, and_false, exists_false, false_iff]
      rintro ⟨-, -, fresh⟩
      exact fresh producer inside (of_decide_eq_true written)
  | none =>
      have fresh := List.find?_eq_none.mp found
      simp only [decide_eq_true_eq] at fresh
      constructor
      · rintro ⟨_, apart, entry, present, _, free, -⟩
        exact ⟨apart, ⟨entry.tensor, entry, present, free, rfl⟩, fresh⟩
      · rintro ⟨apart, ⟨_, entry, present, free, -⟩, -⟩
        exact ⟨(), apart, entry, present, (), free, rfl⟩

/-- Where the shape is too large, the tensor has been added, but not as an input. -/
theorem addInput_of_error {type : ElementType} {shape : Shape} {fault : Fault}
    (made : (Tensor.empty type).resize shape = .error fault) :
    (addInput name type shape).outcome g =
      (none, { g with tensors := g.tensors ++ [⟨name, Tensor.empty type, false⟩] }) := by
  simp only [addInput, addTensor, addEntry, Action.outcome_bind, Action.outcome_get,
    Action.outcome_set, Action.outcome_lift, Action.outcome_pure, Action.proceed_some, made]
  rfl

/-- An input is added at the end of the table, and listed last. -/
theorem addInput_of_ok {type : ElementType} {shape : Shape} {tensor : Tensor}
    (made : (Tensor.empty type).resize shape = .ok tensor) : (addInput name type shape).outcome g =
      (some g.tensors.length, { g with
        tensors := g.tensors ++ [⟨name, tensor, false⟩]
        inputs := g.inputs ++ [g.tensors.length] }) := by
  simp only [addInput, addTensor, addEntry, Action.outcome_bind, Action.outcome_get,
    Action.outcome_set, Action.outcome_lift, Action.outcome_pure, Action.proceed_some, made]
  -- the tensor that has just been added is the last one
  have last := List.modifyTailIdx_add
    (List.modifyHead fun entry : TensorEntry => { entry with tensor }) 0 g.tensors
    [⟨name, Tensor.empty type, false⟩]
  exact congrArg (fun tensors => (some g.tensors.length, { g with
    tensors, inputs := g.inputs ++ [g.tensors.length] })) last

theorem addInput_grows (type : ElementType) (shape : Shape) :
    Grows g ((addInput name type shape).outcome g).2 := by
  cases made : (Tensor.empty type).resize shape with
  | error fault =>
      rw [addInput_of_error made]
      exact .tensor ⟨name, Tensor.empty type, false⟩
  | ok tensor =>
      rw [addInput_of_ok made]
      exact .input ⟨name, tensor, false⟩ rfl

/-- A node is added at the end of the list, or refused without a trace. -/
theorem addNode_grows (operator : Operator) (parameters : Option Parameters) :
    Grows g ((addNode name operator parameters inputs outputs).outcome g).2 := by
  simp only [addNode, List.forM_eq_forM, Action.outcome_bind, Action.outcome_get,
    Action.proceed_some, Action.outcome_forM_lift]
  cases known : (forM (inputs ++ outputs) fun id =>
      ensure (id < g.tensors.length) (GraphFailure.nodeTensorMissing name id)) with
  | error fault => exact .nothing
  | ok _ =>
      rw [toOption_ok, Action.proceed_some]
      cases passes : forM outputs fun id => g.checkOutput name inputs id with
      | error fault => exact .nothing
      | ok _ =>
          simp only [forM_eq_ok, ensure_eq_ok, checkOutput_eq_ok] at known passes
          exact .node ⟨g.nodes.length, name, operator, parameters, inputs, outputs⟩ rfl known
            (fun id inside => (passes id inside).1) (fun id inside => (passes id inside).2.1)
            fun id inside => (passes id inside).2.2

/-- Outputs are only named if all of them are tensors of the graph. -/
theorem setOutputs_grows (ids : List Nat) : Grows g ((setOutputs ids).outcome g).2 := by
  simp only [setOutputs, List.forM_eq_forM, Action.outcome_bind, Action.outcome_get,
    Action.proceed_some, Action.outcome_forM_lift]
  cases known : (forM ids fun id =>
      ensure (id < g.tensors.length) (GraphFailure.noTensor id)) with
  | error fault => exact .nothing
  | ok _ =>
      simp only [forM_eq_ok, ensure_eq_ok] at known
      exact .outputs ids known

/-- Forgetting the id that a call answers with does not change what it does. -/
theorem Grows.of_discarded {action : Action Graph Nat} (h : Grows g (action.outcome g).2) :
    Grows g ((do let _ ← action : Action Graph Unit).outcome g).2 := by
  rw [Action.outcome_bind]
  generalize action.outcome g = o at h ⊢
  rcases o with ⟨_ | _, g'⟩ <;> exact h

/-- Every call either changes nothing or adds one thing. -/
theorem grows_action (call : BuilderCall) : Grows g (call.action.run g).state := by
  cases call with
  | addTensor name type => exact .tensor ⟨name, Tensor.empty type, false⟩
  | addInput name type shape => exact .of_discarded (addInput_grows type shape)
  | addConstant name tensor => exact .tensor ⟨name, tensor, true⟩
  | addNode name operator parameters inputs outputs =>
      exact .of_discarded (addNode_grows operator parameters)
  | setOutputs ids => exact setOutputs_grows ids

end Calls

/-! ## All calls -/

/-- What holds of the empty graph and is kept by every call holds of all built graphs. -/
theorem build_of_grows {P : Graph → Prop} (start : P empty)
    (step : ∀ {g g' : Graph}, P g → Grows g g' → P g') (calls : List BuilderCall) :
    P (build calls) := by
  have onward (g : Graph) (h : P g) :
      P (calls.foldl (fun g call => (call.action.run g).state) g) := by
    induction calls generalizing g with
    | nil => exact h
    | cons call calls ih => exact ih _ (step h (grows_action call))
  exact onward empty start

/-- No tensor is computed by two nodes of the list. -/
def SingleWriters (g : Graph) : Prop :=
  g.nodes.Pairwise fun a b => ∀ id ∈ a.outputs, id ∉ b.outputs

/-- As a second writer is refused, no call makes one. -/
theorem SingleWriters.grows {g g' : Graph} (h : g.SingleWriters) (grows : Grows g g') :
    g'.SingleWriters := by
  cases grows with
  | nothing | tensor entry | input entry free | outputs ids known => exact h
  | node node place known apart free fresh =>
      refine List.pairwise_append.mpr ⟨h, List.pairwise_singleton _ _, ?_⟩
      intro other inside last same id written
      rw [List.mem_singleton] at same
      subst same
      exact fun written' => fresh id written' other inside written

/-- In a built graph every tensor is computed by one node at most. -/
theorem singleWriters_build (calls : List BuilderCall) : (build calls).SingleWriters :=
  build_of_grows .nil SingleWriters.grows calls

/-- Nodes with a common output are the same. -/
theorem SingleWriters.eq_of_output {g : Graph} (h : g.SingleWriters) {node other : Node}
    (inside : node ∈ g.nodes) (inside' : other ∈ g.nodes) {id : Nat} (written : id ∈ node.outputs)
    (written' : id ∈ other.outputs) : node = other := by
  have apart : g.nodes.Pairwise fun a b => (∃ id ∈ a.outputs, id ∈ b.outputs) → a = b :=
    h.imp fun apart ⟨id, written, written'⟩ => absurd written' (apart id written)
  have apart' : g.nodes.Pairwise (flip fun a b => (∃ id ∈ a.outputs, id ∈ b.outputs) → a = b) :=
    h.imp fun apart ⟨id, written', written⟩ => absurd written' (apart id written)
  exact List.Pairwise.forall_of_forall_of_flip (fun _ _ _ => rfl) apart apart' inside inside'
    ⟨id, written, written'⟩

end Graph

end TensorGraph
