import TensorGraph.Proofs.Calls
import TensorGraph.Proofs.Division

/-!
# Partitioning is exact

Whatever has happened to an interpreter before, handing nodes over to a delegate replaces the chosen
runs of the plan and nothing else, or it fails and changes nothing at all. In both cases the plan
runs all nodes of the graph, each once and in order.
-/

namespace TensorGraph.Interpreter

/-- What becomes of an interpreter that hands nodes over. -/
theorem outcome_delegate (d : Delegate) (i : Interpreter) :
    (delegate d).outcome i =
      match d.handedOver i.graph i.plan with
      | some plan => (some (), { i with plan, allocated := false })
      | none => (none, i) := by
  simp only [delegate, Action.outcome_bind, Action.outcome_get, Action.proceed_some,
    Action.outcome_onNothing, Delegate.outcome_divide]
  cases d.handedOver i.graph i.plan <;> rfl

/-! ## Reachable interpreters -/

/-- Interpreters of a graph with any history: calls, replaced inputs and delegates, whether they
succeeded or not. -/
inductive Reachable (g : Graph) (registry : Registry) : Interpreter → Prop
  | start : Reachable g registry (ofGraph g registry)
  | call {i : Interpreter} (call : Call) :
      Reachable g registry i → Reachable g registry (i.after call)
  | putInput {i : Interpreter} (input : Nat) (tensor : Tensor) :
      Reachable g registry i → Reachable g registry ((putInput input tensor).run i).state
  | delegate {i : Interpreter} (d : Delegate) :
      Reachable g registry i → Reachable g registry ((delegate d).run i).state

/-- The interpreter runs the nodes of the graph that it was made for, each once and in order. -/
structure Covers (g : Graph) (i : Interpreter) : Prop where
  nodes : i.graph.nodes = g.nodes
  plan : i.plan.flatMap Step.nodes = List.range g.nodes.length

variable {g : Graph} {registry : Registry} {i : Interpreter}

/-- At first every node has a step of its own. -/
theorem Covers.start : Covers g (ofGraph g registry) := by
  refine ⟨rfl, ?_⟩
  simp [ofGraph, List.flatMap_map, Step.nodes]

theorem Covers.steady {i' : Interpreter} (h : Covers g i) (steady : Steady i i') : Covers g i' :=
  ⟨steady.frame.nodes.trans h.nodes, by rw [steady.plan, h.plan]⟩

/-- Replacing an input concerns tensors only. -/
theorem putInput_keeps (i : Interpreter) (input : Nat) (tensor : Tensor) :
    let i' := ((putInput input tensor).outcome i).2
    i'.graph.nodes = i.graph.nodes ∧ i'.registry = i.registry ∧ i'.plan = i.plan ∧
      i'.allocated = i.allocated := by
  unfold putInput onGraph Graph.replace
  simp only [Action.outcome_bind, Action.outcome_get, Action.proceed_some, Action.outcome_lift,
    Action.outcome_onPart]
  cases i.inputId input with
  | error fault => exact ⟨rfl, rfl, rfl, rfl⟩
  | ok id =>
      cases free : i.graph.changeable id with
      | error fault => simp [free]
      | ok old => simp [free, Graph.put]

theorem Covers.putInput (h : Covers g i) (input : Nat) (tensor : Tensor) :
    Covers g ((putInput input tensor).outcome i).2 := by
  obtain ⟨nodes, -, plan, -⟩ := putInput_keeps i input tensor
  exact ⟨nodes.trans h.nodes, by rw [plan, h.plan]⟩

/-- A delegate leaves the nodes in their order, whether it takes any or fails. -/
theorem Covers.delegate (h : Covers g i) (d : Delegate) : Covers g ((delegate d).outcome i).2 := by
  have divided := d.outcome_divide (g := i.graph) i.plan
  rw [outcome_delegate]
  cases found : d.handedOver i.graph i.plan with
  | none => exact h
  | some plan =>
      rw [found] at divided
      exact ⟨h.nodes, (Delegate.flatMap_nodes_of_divide divided).trans h.plan⟩

/-- Whatever has happened, the plan runs each node once and in order. -/
theorem Reachable.covers (h : Reachable g registry i) : Covers g i := by
  induction h with
  | start => exact .start
  | call call _ ih => exact ih.steady (call_keepsTo call _)
  | putInput input tensor _ ih => exact ih.putInput input tensor
  | delegate d _ ih => exact ih.delegate d

/-- Handing nodes over replaces the chosen runs of the plan, after which the interpreter is not
allocated; or it fails and changes nothing. Either way the plan goes on running all nodes in order.
The runs that are chosen from are those of supported builtin steps that can not be extended. -/
theorem delegate_replaces_chosen_runs (h : Reachable g registry i) (d : Delegate) :
    ((delegate d).outcome i).2.plan.flatMap Step.nodes = List.range g.nodes.length ∧
      ((delegate d).outcome i =
        match d.handedOver i.graph i.plan with
        | some plan => (some (), { i with plan, allocated := false })
        | none => (none, i)) ∧
      ∀ s e, (s, e) ∈ maximalRuns (d.takes i.graph) i.plan ↔
        s < e ∧ (∀ k, s ≤ k → k < e → holdsAt (d.takes i.graph) i.plan k = true) ∧
          (s = 0 ∨ holdsAt (d.takes i.graph) i.plan (s - 1) = false) ∧
          holdsAt (d.takes i.graph) i.plan e = false :=
  ⟨(h.covers.delegate d).plan, outcome_delegate d i, fun _ _ => mem_maximalRuns _⟩

/-- Three nodes in a row, the second of which the engine has no kernel for. -/
def chain : Graph where
  tensors :=
    [⟨"x", ⟨.f32, ⟨[2], #[Numeric.Floating.ofNat 0, Numeric.Floating.ofNat 0], rfl⟩⟩, false⟩,
      ⟨"a", Tensor.empty .f32, false⟩, ⟨"b", Tensor.empty .f32, false⟩,
      ⟨"y", Tensor.empty .f32, false⟩]
  nodes :=
    [⟨0, "first", .abs, none, [0], [1]⟩, ⟨1, "second", .relu, none, [1], [2]⟩,
      ⟨2, "third", .abs, none, [2], [3]⟩]
  inputs := [0]
  outputs := [3]

theorem delegate_chain :
    let d := Delegate.forNodes "Forced" [0, 2]
    let i := ofGraph chain Registry.all
    d.chosenRuns chain i.plan = [(0, 1), (2, 3)] ∧
      ((delegate d).outcome i).2.plan.flatMap Step.nodes = [0, 1, 2] :=
  ⟨by decide +kernel, (delegate_replaces_chosen_runs .start (Delegate.forNodes "Forced" [0, 2])).1⟩

end TensorGraph.Interpreter
