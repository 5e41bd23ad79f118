import TensorGraph.Proofs.Reallocation

/-!
# Plans, node by node

A step of a plan is made of tasks, one for each of its nodes: the host runs the node, or the engine
runs a descriptor of it. However nodes are grouped into steps, going through the plan comes to going
through the tasks (`outcome_prepare_tasks`, `outcome_evaluate_tasks`). Where only engines have taken
nodes over, the tasks are those of the nodes in their order (`Equipped.tasks`).
-/

namespace TensorGraph

open Substitution (Descriptor Region)

/-- What is done with one node, by the host or by the engine. -/
inductive Task where
  | host (id : Nat)
  | engine (d : Descriptor)

/-- The tasks of a step, in order. -/
def Step.tasks : Step → List Task
  | builtin id => [.host id]
  | delegated partition => partition.region.descriptors.map .engine

namespace Task

def prepare (registry : Registry) : Task → Action Graph Unit
  | host id => registry.prepare id
  | engine d => d.infer

def evaluate (registry : Registry) : Task → Action Graph Unit
  | host id => registry.evaluate id
  | engine d => d.evaluate

def inputs (g : Graph) : Task → List Nat
  | host id => (g.nodes[id]?.map Node.inputs).getD []
  | engine d => d.inputs

def outputs (g : Graph) : Task → List Nat
  | host id => (g.nodes[id]?.map Node.outputs).getD []
  | engine d => d.outputs

def Serves (g : Graph) (node : Node) : Task → Prop
  | host id => g.nodes[id]? = some node
  | engine d => d.Captures node

section Serves

variable {g : Graph} {node : Node} {task : Task}

theorem Serves.inputs_eq (h : task.Serves g node) : task.inputs g = node.inputs := by
  cases task with
  | host id =>
      have found : g.nodes[id]? = some node := h
      rw [inputs, found]
      rfl
  | engine d => exact Descriptor.Captures.inputs h

theorem Serves.outputs_eq (h : task.Serves g node) : task.outputs g = node.outputs := by
  cases task with
  | host id =>
      have found : g.nodes[id]? = some node := h
      rw [outputs, found]
      rfl
  | engine d => exact Descriptor.Captures.outputs h

end Serves

end Task

/-! ## What tasks change -/

section Changes

variable {registry : Registry} {g : Graph}

/-- The host looks nodes up in the graph. -/
theorem Registry.listed_of_lookUp {id : Nat} {node : Node}
    (found : registry.lookUp g id = .ok node) : g.nodes[id]? = some node := by
  simp only [lookUp, Graph.node, bind_eq_ok, require_eq_ok, pure_eq_ok] at found
  obtain ⟨_, listed, _, _, rfl⟩ := found
  exact listed

/-- What the host does to a node by its id, it does to the node that the graph has there. -/
theorem Registry.related {R : Graph → Graph → Prop} [IsPreorder Graph R] {id : Nat}
    {f : Node → Action Graph Unit} {reason : Node → Reason}
    (h : ∀ node, g.nodes[id]? = some node → R g ((f node).outcome g).2) :
    R g ((do
      let node ← registry.lookUp (← Action.get) id
      Action.during (reason node) (f node) : Action Graph Unit).outcome g).2 := by
  rw [Action.outcome_bind, Action.outcome_get, Action.proceed_some]
  refine Action.related_lift_bind fun node found => ?_
  rw [Action.outcome_during]
  exact h node (listed_of_lookUp found)

namespace Task

/-- Preparing a task touches what it computes. -/
theorem prepare_touches (task : Task) :
    Graph.Touches (task.outputs g) g ((task.prepare registry).outcome g).2 := by
  cases task with
  | host id =>
      refine Registry.related fun node found => ?_
      rw [outputs, found]
      exact Builtin.prepare_keepsTo node g
  | engine d => exact d.infer_keepsTo g

/-- Evaluating a task fills what it computes. -/
theorem evaluate_fills (task : Task) :
    Graph.Fills (task.outputs g) g ((task.evaluate registry).outcome g).2 := by
  cases task with
  | host id =>
      refine Registry.related fun node found => ?_
      rw [outputs, found]
      exact Builtin.evaluate_keepsTo node g
  | engine d => exact d.evaluate_keepsTo g

/-! What is read and computed does not depend on shapes and values. -/

theorem inputs_of_nodes {g' : Graph} (nodes : g'.nodes = g.nodes) :
    (inputs g' : Task → List Nat) = inputs g := by
  funext task
  cases task with
  | host id => rw [inputs, inputs, nodes]
  | engine d => rfl

theorem outputs_of_nodes {g' : Graph} (nodes : g'.nodes = g.nodes) :
    (outputs g' : Task → List Nat) = outputs g := by
  funext task
  cases task with
  | host id => rw [outputs, outputs, nodes]
  | engine d => rfl

end Task

/-- A walk through tasks changes no more than the tasks do one by one. -/
theorem forM_tasks_related {R : List Nat → Graph → Graph → Prop} [∀ ids, IsPreorder Graph (R ids)]
    (mono : ∀ {ids ids' s t}, R ids s t → ids ⊆ ids' → R ids' s t)
    (nodes : ∀ {ids s t}, R ids s t → t.nodes = s.nodes) {run : Task → Action Graph Unit}
    (h : ∀ (task : Task) g, R (task.outputs g) g ((run task).outcome g).2) (tasks : List Task) :
    R (tasks.flatMap (Task.outputs g)) g ((forM tasks run).outcome g).2 := by
  induction tasks generalizing g with
  | nil => exact refl_of (R []) g
  | cons task tasks ih =>
      rw [List.forM_cons, Action.outcome_bind, List.flatMap_cons]
      have first := h task g
      generalize (run task).outcome g = o at first ⊢
      rcases o with ⟨_ | _, t⟩
      · exact mono first (List.subset_append_left _ _)
      · have rest := ih (g := t)
        rw [Task.outputs_of_nodes (nodes first)] at rest
        exact trans_of _ (mono first (List.subset_append_left _ _))
          (mono rest (List.subset_append_right _ _))

theorem prepare_tasks_touch (tasks : List Task) :
    Graph.Touches (tasks.flatMap (Task.outputs g)) g
      ((forM tasks (Task.prepare registry)).outcome g).2 :=
  forM_tasks_related (R := Graph.Touches) Graph.Touches.mono (fun touched => touched.nodes)
    (fun task _ => task.prepare_touches) tasks

theorem evaluate_tasks_fill (tasks : List Task) :
    Graph.Fills (tasks.flatMap (Task.outputs g)) g
      ((forM tasks (Task.evaluate registry)).outcome g).2 :=
  forM_tasks_related (R := Graph.Fills) Graph.Fills.mono (fun filled => filled.nodes)
    (fun task _ => task.evaluate_fills) tasks

end Changes

/-! ## From plans to tasks -/

namespace Interpreter

section Plans

variable {registry : Registry} {plan : List Step} {g : Graph}

/-- A step goes through its tasks; the step of a partition gives a reason of its own if one of them
fails. -/
structure GoesThrough (step : Step → Action Graph Unit) (run : Task → Action Graph Unit) :
    Prop where
  builtin (id : Nat) : step (.builtin id) = run (.host id)
  delegated (partition : Partition) : ∃ reason, step (.delegated partition) =
    Action.during reason (forM (Step.delegated partition).tasks run)

theorem goesThrough_prepareStep : GoesThrough (prepareStep registry) (Task.prepare registry) where
  builtin _ := rfl
  delegated _ := ⟨_, by rw [Step.tasks, List.forM_map]; rfl⟩

theorem goesThrough_evaluateStep :
    GoesThrough (evaluateStep registry) (Task.evaluate registry) where
  builtin _ := rfl
  delegated _ := ⟨_, by rw [Step.tasks, List.forM_map]; rfl⟩

section GoesThrough

variable {step : Step → Action Graph Unit} {run : Task → Action Graph Unit}

/-- What is put around a failure does not matter for the outcome of a step. -/
theorem GoesThrough.outcome_step (h : GoesThrough step run) (s : Step) :
    (step s).outcome g = (forM s.tasks run).outcome g := by
  cases s with
  | builtin id => simp [h.builtin, Step.tasks]
  | delegated partition =>
      obtain ⟨reason, same⟩ := h.delegated partition
      rw [same, Action.outcome_during]

/-- Going through a plan comes to going through its tasks. -/
theorem GoesThrough.outcome_plan (h : GoesThrough step run) :
    (forM plan step).outcome g = (forM (plan.flatMap Step.tasks) run).outcome g := by
  induction plan generalizing g with
  | nil => rfl
  | cons s plan ih =>
      rw [List.forM_cons, List.flatMap_cons, List.forM_append, Action.outcome_bind,
        Action.outcome_bind, h.outcome_step]
      generalize (forM s.tasks run).outcome g = o
      rcases o with ⟨_ | _, t⟩
      · rfl
      · exact ih

end GoesThrough

theorem outcome_prepare_tasks : (forM plan (prepareStep registry)).outcome g =
    (forM (plan.flatMap Step.tasks) (Task.prepare registry)).outcome g :=
  goesThrough_prepareStep.outcome_plan

theorem outcome_evaluate_tasks : (forM plan (evaluateStep registry)).outcome g =
    (forM (plan.flatMap Step.tasks) (Task.evaluate registry)).outcome g :=
  goesThrough_evaluateStep.outcome_plan

end Plans

/-- The tasks of a step of the plan are those of its nodes, in their order. -/
theorem Equipped.stepTasks {g : Graph} {i : Interpreter} (h : Equipped g i) {s : Step}
    (inside : s ∈ i.plan) :
    List.Forall₂ (fun id task => ∃ node, g.nodes[id]? = some node ∧ Task.Serves g node task)
      s.nodes s.tasks := by
  cases s with
  | builtin id =>
      have listed : id ∈ List.range g.nodes.length := by
        rw [← h.plan]
        exact List.mem_flatMap.mpr ⟨_, inside, List.mem_singleton_self id⟩
      have found := List.getElem?_eq_getElem (List.mem_range.mp listed)
      exact .cons ⟨_, found, found⟩ .nil
  | delegated partition =>
      exact List.forall₂_map_right_iff.mpr (h.captures partition inside)

/-- The tasks of a plan that engines have taken part in are those of the nodes, in their order. -/
theorem Equipped.tasks {g : Graph} {i : Interpreter} (h : Equipped g i) :
    List.Forall₂ (fun node task => task.Serves g node) g.nodes (i.plan.flatMap Step.tasks) := by
  have all : List.Forall₂ (fun id task => ∃ node, g.nodes[id]? = some node ∧ task.Serves g node)
      (List.range g.nodes.length) (i.plan.flatMap Step.tasks) := by
    rw [← h.plan]
    refine List.rel_flatMap (R := fun s s' => s = s' ∧ s ∈ i.plan)
      (List.forall₂_same.mpr fun s inside => ⟨rfl, inside⟩) ?_
    rintro s _ ⟨rfl, inside⟩
    exact h.stepTasks inside
  obtain ⟨length, serves⟩ := List.forall₂_iff_get.mp all
  rw [List.length_range] at length
  refine List.forall₂_iff_get.mpr ⟨length, fun k inside inside' => ?_⟩
  obtain ⟨node, found, serves⟩ := serves k (by rwa [List.length_range]) inside'
  rw [List.get_eq_getElem, List.getElem_range, List.getElem?_eq_getElem inside] at found
  cases found
  exact serves

/-- If the nodes are in dependency order, then so are the tasks. -/
theorem Equipped.inOrder {g : Graph} {i : Interpreter} (h : Equipped g i)
    (ordered : InOrder Node.inputs Node.outputs g.nodes) :
    InOrder (Task.inputs i.graph) (Task.outputs i.graph) (i.plan.flatMap Step.tasks) := by
  rw [Task.inputs_of_nodes h.nodes, Task.outputs_of_nodes h.nodes]
  exact ordered.of_forall₂ (h.tasks.imp fun _ _ serves =>
    ⟨serves.inputs_eq.symm, serves.outputs_eq.symm⟩)

end Interpreter

end TensorGraph
