import TensorGraph.Proofs.Boundaries
import TensorGraph.Proofs.Storing

/-!
# Where values come from

A tensor can hold a constant, values that come in, or values that a node computes. `Graph.sources`
counts all of these. The builder refuses nodes that write constants and nodes that write what an
earlier node writes. It does not look for inputs, though, nor for tensors that a node lists twice:
in a built graph, a tensor has more than one source exactly if a node writes an input or lists one
of its outputs again (`Graph.sources_build`).

A call that is refused leaves the graph as it was. Only an input whose shape is too large, which
aborts, leaves its tensor behind.
-/

namespace TensorGraph

namespace Graph

def isConstant (g : Graph) (id : Nat) : Bool := g.tensors[id]?.any TensorEntry.constant

/-- How many sources the values of a tensor have: one if it is constant, one for each time it is
listed as an input, and one for each time a node lists it as an output. -/
def sources (g : Graph) (id : Nat) : Nat :=
  (if g.isConstant id then 1 else 0) + g.inputs.count id + (g.nodes.flatMap Node.outputs).count id

/-- What holds of the lists of all built graphs: nodes have their places as ids, all tensors are
known, and no node reads what it writes; no input is listed twice, no two nodes write the same
tensor, and constants are neither inputs nor written. -/
structure Wired (g : Graph) : Prop where
  numbered : g.Numbered
  known : ∀ node ∈ g.nodes, ∀ id ∈ node.inputs ++ node.outputs, id < g.tensors.length
  knownInputs : ∀ id ∈ g.inputs, id < g.tensors.length
  knownOutputs : ∀ id ∈ g.outputs, id < g.tensors.length
  apart : ∀ node ∈ g.nodes, ∀ id ∈ node.outputs, id ∉ node.inputs
  once : g.inputs.Nodup
  writers : g.SingleWriters
  free : g.VariesFreely

variable {g g' : Graph} {id : Nat}

/-! ## Calls -/

theorem lt_length_concat {α : Type} {l : List α} {a : α} (inside : id < l.length) :
    id < (l ++ [a]).length := by
  rw [List.length_append]
  exact Nat.lt_add_right _ inside

/-- No call breaks the rules of the lists. -/
theorem Wired.grows (h : g.Wired) (grows : Grows g g') : g'.Wired := by
  have writers := h.writers.grows grows
  have free := h.free.grows grows
  -- every id names a place in the list of tensors, so that the id of a new one is not in use
  cases grows with
  | nothing => exact h
  | outputs ids known => exact { h with knownOutputs := known, free, writers }
  | tensor entry =>
      exact { h with
        known := fun node mem id inside => lt_length_concat (h.known node mem id inside)
        knownInputs := fun id mem => lt_length_concat (h.knownInputs id mem)
        knownOutputs := fun id mem => lt_length_concat (h.knownOutputs id mem)
        free, writers }
  | input entry constant =>
      have fresh : g.tensors.length ∉ g.inputs :=
        fun mem => Nat.lt_irrefl _ (h.knownInputs _ mem)
      exact { h with
        known := fun node mem id inside => lt_length_concat (h.known node mem id inside)
        knownInputs := by
          intro id mem
          rcases List.mem_append.mp mem with before | last
          · exact lt_length_concat (h.knownInputs id before)
          · rw [List.mem_singleton.mp last, List.length_append]
            exact Nat.lt_succ_self _
        knownOutputs := fun id mem => lt_length_concat (h.knownOutputs id mem)
        once := by
          refine List.nodup_append.mpr ⟨h.once, List.nodup_singleton _, ?_⟩
          intro id before other last same
          rw [List.mem_singleton.mp last] at same
          exact fresh (same ▸ before)
        free, writers }
  | node node place known apart constant fresh =>
      exact { h with
        numbered := h.numbered.append place
        known := by
          intro other mem id inside
          rcases List.mem_append.mp mem with before | last
          · exact h.known other before id inside
          · exact known id (List.mem_singleton.mp last ▸ inside)
        apart := by
          intro other mem id written
          rcases List.mem_append.mp mem with before | last
          · exact h.apart other before id written
          · rw [List.mem_singleton] at last
            subst last
            exact apart id written
        free, writers }

/-- So they hold of every built graph. -/
theorem wired_build (calls : List BuilderCall) : (build calls).Wired := by
  refine build_of_grows ?_ Wired.grows calls
  exact
    { numbered := fun _ _ found => by cases found
      known := fun _ mem => absurd mem List.not_mem_nil
      knownInputs := fun _ mem => absurd mem List.not_mem_nil
      knownOutputs := fun _ mem => absurd mem List.not_mem_nil
      apart := fun _ mem => absurd mem List.not_mem_nil
      once := .nil
      writers := .nil
      free := fun _ mem => absurd mem List.not_mem_nil }

/-! ## Counting -/

/-- Of all lists that have nothing in common, only one has a given member. -/
theorem SingleWriters.count_flatMap (h : g.SingleWriters) {node : Node} (mem : node ∈ g.nodes)
    (written : id ∈ node.outputs) :
    (g.nodes.flatMap Node.outputs).count id = node.outputs.count id := by
  unfold SingleWriters at h
  generalize g.nodes = nodes at h mem
  induction nodes with
  | nil => cases mem
  | cons first nodes ih =>
      obtain ⟨apart, others⟩ := List.pairwise_cons.mp h
      rw [List.flatMap_cons, List.count_append]
      rcases List.mem_cons.mp mem with rfl | later
      · have none : id ∉ nodes.flatMap Node.outputs := by
          intro again
          obtain ⟨other, inside, written'⟩ := List.mem_flatMap.mp again
          exact apart other inside id written written'
        rw [List.count_eq_zero.mpr none, Nat.add_zero]
      · have none : id ∉ first.outputs := fun first => apart node later id first written
        rw [List.count_eq_zero.mpr none, Nat.zero_add, ih others later]

/-- What varies is no constant. -/
theorem VariesFreely.not_isConstant (h : g.VariesFreely) (varies : id ∈ g.varying) :
    g.isConstant id = false := by
  obtain ⟨tensor, changeable⟩ := h id varies
  obtain ⟨entry, found, constant, -⟩ := changeable_eq_ok.mp changeable
  rw [isConstant, found, Option.any_some, constant]

/-- A constant has one source. -/
theorem Wired.sources_of_isConstant (h : g.Wired) (constant : g.isConstant id) :
    g.sources id = 1 := by
  have rest : id ∉ g.varying := by
    intro varies
    rw [h.free.not_isConstant varies] at constant
    cases constant
  simp only [varying, List.mem_append, not_or] at rest
  rw [sources, if_pos constant, List.count_eq_zero.mpr rest.1, List.count_eq_zero.mpr rest.2]

/-- A tensor that a node writes has all its sources there, apart from those of an input. -/
theorem Wired.sources_of_written (h : g.Wired) {node : Node} (mem : node ∈ g.nodes)
    (written : id ∈ node.outputs) :
    g.sources id = g.inputs.count id + node.outputs.count id := by
  have varies : id ∈ g.varying :=
    List.mem_append_right _ (List.mem_flatMap.mpr ⟨node, mem, written⟩)
  rw [sources, h.free.not_isConstant varies, h.writers.count_flatMap mem written]
  simp

/-- What no node computes has at most one source. -/
theorem Wired.sources_of_not_written (h : g.Wired) (never : ∀ node ∈ g.nodes, id ∉ node.outputs) :
    g.sources id ≤ 1 := by
  cases constant : g.isConstant id with
  | true => exact Nat.le_of_eq (h.sources_of_isConstant constant)
  | false =>
      have none : id ∉ g.nodes.flatMap Node.outputs := by
        intro written
        obtain ⟨node, mem, written⟩ := List.mem_flatMap.mp written
        exact never node mem written
      rw [sources, constant, List.count_eq_zero.mpr none]
      simpa using List.nodup_iff_count_le_one.mp h.once id

/-- There is one source at most unless a node writes an input or lists an output again. -/
theorem Wired.sources_le_one_iff (h : g.Wired) : g.sources id ≤ 1 ↔
    ∀ node ∈ g.nodes, id ∈ node.outputs → id ∉ g.inputs ∧ node.outputs.count id = 1 := by
  constructor
  · intro single node mem written
    rw [h.sources_of_written mem written] at single
    have listed := List.count_pos_iff.mpr written
    refine ⟨fun input => ?_, by omega⟩
    have listed' := List.count_pos_iff.mpr input
    omega
  · intro single
    by_cases written : ∃ node ∈ g.nodes, id ∈ node.outputs
    · obtain ⟨node, mem, written⟩ := written
      obtain ⟨fresh, listed⟩ := single node mem written
      rw [h.sources_of_written mem written, List.count_eq_zero.mpr fresh, listed]
    · push Not at written
      exact h.sources_of_not_written written

/-! ## Failing calls -/

section Calls

variable {name : String} {inputs outputs : List Nat} {fault : Fault}

/-- A node that is refused leaves the graph as it was. -/
theorem addNode_fails {operator : Operator} {parameters : Option Parameters}
    (failed : ((addNode name operator parameters inputs outputs).outcome g).1 = none) :
    ((addNode name operator parameters inputs outputs).outcome g).2 = g := by
  simp only [addNode, List.forM_eq_forM, Action.outcome_bind, Action.outcome_get,
    Action.proceed_some, Action.outcome_forM_lift] at failed ⊢
  cases known : (forM (inputs ++ outputs) fun id =>
      ensure (id < g.tensors.length) (GraphFailure.nodeTensorMissing name id)) with
  | error fault => rfl
  | ok _ =>
      rw [known, toOption_ok, Action.proceed_some] at failed
      rw [toOption_ok, Action.proceed_some]
      cases passes : forM outputs fun id => g.checkOutput name inputs id with
      | error fault => rfl
      | ok _ =>
          rw [passes] at failed
          cases failed

theorem setOutputs_fails {ids : List Nat} (failed : ((setOutputs ids).outcome g).1 = none) :
    ((setOutputs ids).outcome g).2 = g := by
  simp only [setOutputs, List.forM_eq_forM, Action.outcome_bind, Action.outcome_get,
    Action.proceed_some, Action.outcome_forM_lift] at failed ⊢
  cases known : (forM ids fun id =>
      ensure (id < g.tensors.length) (GraphFailure.noTensor id)) with
  | error fault => rfl
  | ok _ =>
      rw [known] at failed
      cases failed

/-- Forgetting the id that a call answers with changes neither whether it succeeds nor what it
leaves. -/
theorem outcome_discarded (action : Action Graph Nat) :
    (do let _ ← action : Action Graph Unit).outcome g =
      ((action.outcome g).1.map fun _ => (), (action.outcome g).2) := by
  rw [Action.outcome_bind]
  rcases action.outcome g with ⟨_ | _, g'⟩ <;> rfl

/-- What a failing call leaves: the graph as it was, or with the tensor of an input whose shape is
too large. -/
theorem state_of_failure {call : BuilderCall}
    (failed : (call.action.run g).ending = .error fault) : (call.action.run g).state = g ∨
      fault = .aborted ∧ ∃ name type shape, call = .addInput name type shape ∧
        shape.count? = none ∧ (call.action.run g).state =
          { g with tensors := g.tensors ++ [⟨name, Tensor.empty type, false⟩] } := by
  have none : (call.action.outcome g).1 = none := by
    rw [Action.outcome, failed]
    rfl
  cases call with
  | addTensor name type => cases failed
  | addConstant name tensor => cases failed
  | addNode name operator parameters inputs outputs =>
      rw [BuilderCall.action, outcome_discarded, Option.map_eq_none_iff] at none
      refine .inl ?_
      show (Action.outcome _ g).2 = g
      rw [BuilderCall.action, outcome_discarded]
      exact addNode_fails none
  | setOutputs ids => exact .inl (setOutputs_fails none)
  -- the tensor is there before its shape turns out to be too large
  | addInput name type shape =>
      rw [BuilderCall.action, outcome_discarded, Option.map_eq_none_iff] at none
      cases counted : shape.count? with
      | some n =>
          obtain ⟨tensor, made⟩ := (Tensor.empty type).resize_succeeds counted
          rw [addInput_of_ok made] at none
          cases none
      | none =>
          have made : (Tensor.empty type).resize shape = .error .aborted :=
            Tensor.resize_of_not_counted counted
          have ended : ((BuilderCall.addInput name type shape).action.run g).ending =
              .error .aborted := by
            simp only [BuilderCall.action, addInput, addTensor, addEntry, made]
            rfl
          have state : ((BuilderCall.addInput name type shape).action.outcome g).2 =
              { g with tensors := g.tensors ++ [⟨name, Tensor.empty type, false⟩] } := by
            rw [BuilderCall.action, outcome_discarded, addInput_of_error made]
          cases failed.symm.trans ended
          exact .inr ⟨rfl, name, type, shape, rfl, counted, state⟩

end Calls

/-! ## Built graphs -/

/-- In a built graph the lists are in order, and a tensor has one source at most, unless a node
writes an input or lists one of its outputs again. A call that fails leaves the graph as it was;
only an input that aborts leaves its tensor. -/
theorem sources_build (calls : List BuilderCall) :
    let g := build calls
    g.Wired ∧ (∀ id, g.isConstant id → g.sources id = 1) ∧
      (∀ id, g.sources id ≤ 1 ↔
        ∀ node ∈ g.nodes, id ∈ node.outputs → id ∉ g.inputs ∧ node.outputs.count id = 1) ∧
      ∀ (call : BuilderCall) fault, (call.action.run g).ending = .error fault →
        (call.action.run g).state = g ∨ fault = .aborted ∧ ∃ name type shape,
          call = .addInput name type shape ∧ shape.count? = none ∧ (call.action.run g).state =
            { g with tensors := g.tensors ++ [⟨name, Tensor.empty type, false⟩] } := by
  intro g
  have wired : g.Wired := wired_build calls
  exact ⟨wired, fun id => wired.sources_of_isConstant, fun id => wired.sources_le_one_iff,
    fun call fault => state_of_failure⟩

/-- The absolute value of an input has one source, and a second node is not given it. -/
theorem computed_once :
    let g := build [.addInput "a" .f32 [1], .addTensor "c" .f32, .addNode "abs" .abs none [0] [1]]
    let again : BuilderCall := .addNode "again" .abs none [0] [1]
    g.sources 0 = 1 ∧ g.sources 1 ≤ 1 ∧
      (again.action.run g).ending =
        .error (.of (GraphFailure.tensorAlreadyComputed "again" 1 "abs")) ∧
      (again.action.run g).state = g := by
  intro g again
  obtain ⟨-, -, single, failing⟩ := sources_build
    [.addInput "a" .f32 [1], .addTensor "c" .f32, .addNode "abs" .abs none [0] [1]]
  have refused : (again.action.run g).ending =
    .error (.of (GraphFailure.tensorAlreadyComputed "again" 1 "abs")) := rfl
  refine ⟨rfl, (single 1).mpr (by decide), refused, ?_⟩
  rcases failing again _ refused with kept | ⟨aborted, -⟩
  · exact kept
  · cases aborted

/-- A node may write an input, and a node may list an output twice. -/
theorem rewired_sources :
    let g := build [.addInput "a" .f32 [1], .addInput "b" .f32 [1], .addTensor "c" .f32,
      .addNode "onto" .abs none [0] [1], .addNode "twice" .abs none [0] [2, 2]]
    g.nodes.length = 2 ∧ g.sources 1 = 2 ∧ g.sources 2 = 2 := by
  decide

end Graph

end TensorGraph
