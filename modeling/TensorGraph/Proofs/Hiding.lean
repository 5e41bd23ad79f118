import TensorGraph.Proofs.Locality
import TensorGraph.Proofs.Tasks

/-!
# Tensors that nobody reads

If some tensors are filled with other values, and no node that still runs reads them, then all goes
on as before: the same nodes succeed, or the same one fails, and they compute the same, apart from
those tensors. That is so even where a node computes one of these tensors again (`tasks_hide`).
-/

namespace TensorGraph

open TensorGraph.Action (Matches)
open Substitution (Descriptor)

section Nodes

variable {hidden out : List Nat} {g g' t t' : Graph} {node : Node}

/-- Evaluating a node computes its first output and ignores others. -/
theorem Builtin.evaluate_first (node : Node) :
    evaluate { node with outputs := node.outputs.take 1 } = evaluate node := by
  obtain ⟨id, name, operator, parameters, inputs, outputs⟩ := node
  cases outputs with
  | nil => rfl
  | cons output others => cases operator <;> rfl

/-- Graphs that differ in hidden values still do so after some outputs have been filled, if those of
them that are not hidden hold the same then. -/
theorem Graph.Fills.onward (h : Fills hidden g g') (filled : Fills out g t)
    (filled' : Fills out g' t')
    (same : ∀ id ∈ out, id ∉ hidden → t'.tensors[id]? = t.tensors[id]?) : Fills hidden t t' where
  toSameFrame := filled.toSameFrame.symm.trans (h.toSameFrame.trans filled'.toSameFrame)
  elsewhere id shown := by
    by_cases inside : id ∈ out
    · exact same id inside shown
    · rw [filled.elsewhere id inside, filled'.elsewhere id inside, h.elsewhere id shown]
  shapes id := by rw [filled.shapes, filled'.shapes, h.shapes]

/-- A node that reads nothing hidden reads the same. -/
theorem Graph.Fills.readsSame (differ : Fills hidden g g')
    (reads : ∀ id ∈ node.inputs, id ∉ hidden) : node.ReadsSame g g' :=
  ⟨differ.toSameFrame, fun id read => differ.elsewhere id (reads id read),
    fun id _ => differ.shape_eq id⟩

/-- What it computes does not depend on what is hidden, if there is one output at most. -/
theorem evaluate_hides_of_short (short : node.outputs.length ≤ 1)
    (differ : Graph.Fills hidden g g') (reads : ∀ id ∈ node.inputs, id ∉ hidden) :
    Matches (Graph.Fills hidden) (Builtin.evaluate node) (Builtin.evaluate node) g g' := by
  have filled := Builtin.evaluate_keepsTo node g
  have filled' := Builtin.evaluate_keepsTo node g'
  by_cases shown : ∀ id ∈ node.outputs, id ∉ hidden
  · have same : Graph.SameAt node.tensors g g' := by
      intro id inside
      exact differ.elsewhere id ((List.mem_append.mp inside).elim (reads id) (shown id))
    have alike := Builtin.evaluate_local node same
    exact ⟨alike.value, differ.onward filled filled' fun id written _ =>
      alike.states id (List.mem_append_right _ written)⟩
  · -- the output is hidden, so it is enough that the node succeeds
    have covered : ∀ id ∈ node.outputs, id ∈ hidden := by
      push Not at shown
      obtain ⟨output, written, inside⟩ := shown
      obtain ⟨_, outputs⟩ := List.length_eq_one_iff.mp
        (le_antisymm short (List.length_pos_of_mem written))
      simp_all
    have apart (id : Nat) (read : id ∈ node.inputs) : id ∉ node.outputs :=
      fun written => reads id read (covered id written)
    exact .of_follows (Builtin.evaluate_succeeds (differ.readsSame reads) apart)
      (Builtin.evaluate_succeeds (differ.symm.readsSame reads) apart)
      (differ.onward filled filled' fun id written shown => absurd (covered id written) shown)

/-- What a node that reads nothing hidden computes does not depend on hidden values. -/
theorem Builtin.evaluate_hides (differ : Graph.Fills hidden g g')
    (reads : ∀ id ∈ node.inputs, id ∉ hidden) :
    Matches (Graph.Fills hidden) (evaluate node) (evaluate node) g g' := by
  rw [← evaluate_first]
  exact evaluate_hides_of_short (List.length_take_le 1 node.outputs) differ reads

end Nodes

/-! ## Plans -/

section Tasks

variable {hidden : List Nat} {g s s' : Graph} {node : Node} {task : Task}

theorem Task.evaluate_hides (serves : task.Serves g node) (nodes : s.nodes = g.nodes)
    (differ : Graph.Fills hidden s s') (reads : ∀ id ∈ node.inputs, id ∉ hidden) :
    Matches (Graph.Fills hidden) (task.evaluate .all) (task.evaluate .all) s s' := by
  have alike := Builtin.evaluate_hides differ reads
  cases task with
  | host id =>
      have found : s.nodes[id]? = some node := by
        rw [nodes]
        exact serves
      have found' : s'.nodes[id]? = some node := by rw [differ.nodes, found]
      constructor <;> rw [Task.evaluate, outcome_registry_evaluate found,
        outcome_registry_evaluate found']
      · exact alike.value
      · exact alike.states
  | engine d =>
      have captures : d.Captures node := serves
      rcases outcome_evaluate_eq_or_none captures with same | refused
      · constructor <;> rw [Task.evaluate, same s (.refl s), same s' differ.toSameFrame]
        · exact alike.value
        · exact alike.states
      · constructor <;> rw [Task.evaluate, refused s (.refl s), refused s' differ.toSameFrame]
        exact differ

/-- A walk through tasks that read nothing hidden does not depend on hidden values. -/
theorem tasks_hide {tasks : List Task} (nodes : s.nodes = g.nodes)
    (serve : ∀ task ∈ tasks, ∃ node, task.Serves g node ∧ ∀ id ∈ node.inputs, id ∉ hidden)
    (differ : Graph.Fills hidden s s') :
    Matches (Graph.Fills hidden) (forM tasks (Task.evaluate .all))
      (forM tasks (Task.evaluate .all)) s s' := by
  have walk : Matches (fun t t' => Graph.Fills hidden t t' ∧ t.nodes = g.nodes)
      (forM tasks (Task.evaluate .all)) (forM tasks (Task.evaluate .all)) s s' := by
    induction tasks generalizing s s' with
    | nil => exact ⟨rfl, differ, nodes⟩
    | cons task tasks ih =>
        obtain ⟨node, serves, reads⟩ := serve task List.mem_cons_self
        have alike := task.evaluate_hides serves nodes differ reads
        have kept : ((task.evaluate .all).outcome s).2.nodes = g.nodes :=
          (task.evaluate_fills (g := s)).nodes.trans nodes
        refine .bind ⟨alike.value, alike.states, kept⟩ fun _ t t' ⟨differ, nodes⟩ =>
          ih nodes ?_ differ
        exact fun other later => serve other (List.mem_cons_of_mem _ later)
  exact walk.mono fun _ _ => And.left

end Tasks

end TensorGraph
