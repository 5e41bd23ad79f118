import TensorGraph.Proofs.Partitioning
import TensorGraph.Proofs.Values

/-!
# Delegation preserves runs

An interpreter that has handed nodes over to the engine is compared with one that has not. Their
plans run the same nodes in the same order, so it is enough to compare node by node: `Faithful`
says that each delegated node is run through a descriptor that captures it.

Node by node the two agree if the delegated nodes are well typed. That is something about element
types, which no call changes; so it holds during a whole run if it holds at one moment. It holds
when the host has allocated successfully, and it holds when the engine has invoked successfully.
-/

namespace TensorGraph

open Substitution (Descriptor Options)

/-! ## Node by node -/

def Graph.WellTypedAt (g : Graph) (id : Nat) : Prop :=
  ∀ node, g.nodes[id]? = some node → Builtin.WellTyped g node

theorem Graph.WellTypedAt.of_sameFrame {g g' : Graph} {id : Nat} (h : g.WellTypedAt id)
    (frame : Graph.SameFrame g g') : g'.WellTypedAt id := by
  intro node found
  rw [frame.nodes] at found
  exact (h node found).of_sameFrame frame

section Nodes

variable {g g' : Graph} {id : Nat} {node : Node} {d : Descriptor}

theorem outcome_lookUp (found : g.nodes[id]? = some node) :
    (Registry.all.lookUp g id).toOption = some node := by
  simp [Registry.lookUp, Graph.node, found, Registry.all, Operator.mem_all]

theorem outcome_registry_prepare (found : g.nodes[id]? = some node) :
    (Registry.all.prepare id).outcome g = (Builtin.prepare node).outcome g := by
  simp [Registry.prepare, outcome_lookUp found]

theorem outcome_registry_evaluate (found : g.nodes[id]? = some node) :
    (Registry.all.evaluate id).outcome g = (Builtin.evaluate node).outcome g := by
  simp [Registry.evaluate, outcome_lookUp found]

/-- On a well typed node, the engine infers the shape that the host prepares. -/
theorem outcome_infer_eq (replaces : d.Replaces g id) (typed : g.WellTypedAt id) :
    d.infer.outcome g = (Registry.all.prepare id).outcome g := by
  obtain ⟨node, found, captures, -⟩ := replaces
  rw [outcome_registry_prepare found, outcome_prepare_eq captures (typed node found)]

/-- On a well typed node, the engine fills in the values that the host does. -/
theorem outcome_evaluateDescriptor_eq (replaces : d.Replaces g id) (typed : g.WellTypedAt id) :
    d.evaluate.outcome g = (Registry.all.evaluate id).outcome g := by
  obtain ⟨node, found, captures, runnable⟩ := replaces
  rw [outcome_registry_evaluate found, outcome_evaluate_eq captures runnable (typed node found)]

/-- If the host has prepared a node, the node is well typed. -/
theorem wellTypedAt_of_prepare (replaces : d.Replaces g id)
    (done : (Registry.all.prepare id).outcome g = (some (), g')) : g.WellTypedAt id := by
  obtain ⟨node, found, captures, -⟩ := replaces
  intro node' found'
  rw [found] at found'
  cases found'
  rw [outcome_registry_prepare found] at done
  exact Builtin.wellTyped_of_prepare captures done

/-- If the engine has evaluated a descriptor, its node is well typed. -/
theorem wellTypedAt_of_evaluate (replaces : d.Replaces g id)
    (done : d.evaluate.outcome g = (some (), g')) : g.WellTypedAt id := by
  obtain ⟨node, found, captures, -⟩ := replaces
  intro node' found'
  rw [found] at found'
  cases found'
  exact Builtin.wellTyped_of_evaluate captures done

end Nodes

namespace Interpreter

/-! ## Plans -/

/-- The plan runs all nodes in order, those of a partition through descriptors of theirs. -/
structure Faithful (g : Graph) (plan : List Step) : Prop where
  nodes : plan.flatMap Step.nodes = List.range g.nodes.length
  regions : ∀ partition, .delegated partition ∈ plan →
    List.Forall₂ (fun id d => d.Replaces g id) partition.nodes partition.region.descriptors

def DelegatedTyped (g : Graph) (plan : List Step) : Prop :=
  ∀ partition, .delegated partition ∈ plan → ∀ id ∈ partition.nodes, g.WellTypedAt id

section Plans

variable {g g' : Graph} {plan : List Step}

/-- Whether a plan is faithful depends on neither shapes nor values. -/
theorem Faithful.of_sameFrame (h : Faithful g plan) (frame : Graph.SameFrame g g') :
    Faithful g' plan :=
  ⟨by rw [frame.nodes, h.nodes], fun partition inside =>
    (h.regions partition inside).imp fun _ _ replaces => replaces.of_sameFrame frame⟩

theorem DelegatedTyped.of_sameFrame (h : DelegatedTyped g plan) (frame : Graph.SameFrame g g') :
    DelegatedTyped g' plan :=
  fun partition inside id mem => (h partition inside id mem).of_sameFrame frame

/-- The descriptors of a partition, side by side with its nodes. -/
theorem Faithful.descriptors {partition : Partition} (h : Faithful g plan)
    (typed : DelegatedTyped g plan) (inside : .delegated partition ∈ plan) :
    List.Forall₂ (fun d id => d.Replaces g id ∧ g.WellTypedAt id)
      partition.region.descriptors partition.nodes := by
  refine List.Forall₂.flip ((List.forall₂_and_left _ _).mpr
    ⟨typed partition inside, h.regions partition inside⟩ |>.imp ?_)
  exact fun _ _ both => ⟨both.2, both.1⟩

/-- Going through a plan comes to going through all nodes, if a descriptor does with a well-typed
node what the host does. -/
theorem outcome_plan {step : Step → Action Graph Unit} {host : Nat → Action Graph Unit}
    {engine : Descriptor → Action Graph Unit} (h : Faithful g plan) (typed : DelegatedTyped g plan)
    (builtin : ∀ node, step (.builtin node) = host node)
    (delegated : ∀ partition t, (step (.delegated partition)).outcome t =
      (forM partition.region.descriptors engine).outcome t)
    (keeps : ∀ s, (step s).KeepsTo Graph.SameFrame)
    (keeps' : ∀ d, (engine d).KeepsTo Graph.SameFrame)
    (same : ∀ {t : Graph} {d : Descriptor} {id : Nat}, d.Replaces t id → t.WellTypedAt id →
      (engine d).outcome t = (host id).outcome t) :
    (forM plan step).outcome g = (forM (List.range g.nodes.length) host).outcome g := by
  rw [← h.nodes, Action.forM_flatMap]
  refine Action.outcome_forM_congr (R := Graph.SameFrame) (List.forall₂_same.mpr ?_)
    (fun s _ => keeps s) (.refl g)
  intro s inside t frame
  cases s with
  | builtin node => simp [builtin, Step.nodes]
  | delegated partition =>
      rw [delegated]
      refine Action.outcome_forM_congr (R := Graph.SameFrame) ?_ (fun d _ => keeps' d) (.refl t)
      apply (h.descriptors typed inside).imp
      rintro d id ⟨replaces, typed⟩ t' frame'
      -- neither what a descriptor stands for nor its types change on the way
      have frame := frame.trans frame'
      exact same (replaces.of_sameFrame frame) (typed.of_sameFrame frame)

/-- A plan prepares well-typed nodes as the host does. -/
theorem outcome_prepare_plan (h : Faithful g plan) (typed : DelegatedTyped g plan) :
    (forM plan (prepareStep Registry.all)).outcome g =
      (forM (List.range g.nodes.length) Registry.all.prepare).outcome g :=
  outcome_plan h typed (fun _ => rfl) (fun _ _ => Action.outcome_during _ _ _)
    (prepareStep_keepsTo _) Descriptor.infer_sameFrame outcome_infer_eq

/-- A plan evaluates well-typed nodes as the host does. -/
theorem outcome_evaluate_plan (h : Faithful g plan) (typed : DelegatedTyped g plan) :
    (forM plan (evaluateStep Registry.all)).outcome g =
      (forM (List.range g.nodes.length) Registry.all.evaluate).outcome g :=
  outcome_plan h typed (fun _ => rfl) (fun _ _ => Action.outcome_during _ _ _)
    (evaluateStep_keepsTo _) Descriptor.evaluate_sameFrame outcome_evaluateDescriptor_eq

/-- Preparing all nodes on the host checks the types of the delegated ones. -/
theorem delegatedTyped_of_prepare (h : Faithful g plan)
    (done : (forM (List.range g.nodes.length) Registry.all.prepare).outcome g = (some (), g')) :
    DelegatedTyped g plan := by
  intro partition inside id mem
  obtain ⟨d, -, replaces⟩ := exists_right_of_forall₂ (h.regions partition inside) mem
  have listed : id ∈ List.range g.nodes.length := by
    rw [← h.nodes]
    exact List.mem_flatMap.mpr ⟨_, inside, mem⟩
  obtain ⟨t, t', frame, prepared, -⟩ := Action.forM_succeeds (R := Graph.SameFrame) done
    (fun id _ => Registry.all.prepare_keepsTo id) listed
  exact (wellTypedAt_of_prepare (replaces.of_sameFrame frame) prepared).of_sameFrame frame.symm

/-- Evaluating a plan evaluates every delegated descriptor. -/
theorem evaluates_of_plan {partition : Partition} {d : Descriptor}
    (done : (forM plan (evaluateStep Registry.all)).outcome g = (some (), g'))
    (inside : .delegated partition ∈ plan) (captured : d ∈ partition.region.descriptors) :
    ∃ t t', Graph.SameFrame g t ∧ d.evaluate.outcome t = (some (), t') := by
  obtain ⟨t, t', frame, ran, -⟩ := Action.forM_succeeds (R := Graph.SameFrame) done
    (fun step _ => evaluateStep_keepsTo _ step) inside
  rw [evaluateStep, Action.outcome_during] at ran
  obtain ⟨s, s', frame', evaluated, -⟩ := Action.forM_succeeds (R := Graph.SameFrame) ran
    (fun d _ => d.evaluate_sameFrame) captured
  exact ⟨s, s', frame.trans frame', evaluated⟩

/-- Evaluating a plan checks the types of the delegated nodes. -/
theorem delegatedTyped_of_evaluate (h : Faithful g plan)
    (done : (forM plan (evaluateStep Registry.all)).outcome g = (some (), g')) :
    DelegatedTyped g plan := by
  intro partition inside id mem
  obtain ⟨d, captured, replaces⟩ := exists_right_of_forall₂ (h.regions partition inside) mem
  obtain ⟨t, t', frame, evaluated⟩ := evaluates_of_plan done inside captured
  exact (wellTypedAt_of_evaluate (replaces.of_sameFrame frame) evaluated).of_sameFrame frame.symm

end Plans

/-! ## Delegated interpreters -/

/-- Interpreters of a graph that have handed nodes over to the engine, before the first call. -/
inductive Substituted (g : Graph) : Interpreter → Prop
  | start : Substituted g (ofGraph g Registry.all)
  | delegate {i i' : Interpreter} (options : Options) :
      Substituted g i → (delegate options.delegate).outcome i = (some (), i') → Substituted g i'

/-- The interpreter has all operators and a faithful plan. -/
structure Sound (i : Interpreter) : Prop where
  registry : i.registry = Registry.all
  faithful : Faithful i.graph i.plan

theorem Sound.steady {i i' : Interpreter} (h : Sound i) (steady : Steady i i') : Sound i' := by
  refine ⟨steady.registry.trans h.registry, ?_⟩
  rw [steady.plan]
  exact h.faithful.of_sameFrame steady.frame

/-- At first nothing is delegated. -/
theorem undelegated {g : Graph} {partition : Partition} {registry : Registry} :
    .delegated partition ∉ (ofGraph g registry).plan := by
  simp [ofGraph]

theorem Sound.start (g : Graph) : Sound (ofGraph g Registry.all) := by
  refine ⟨rfl, ⟨?_, fun partition inside => absurd inside undelegated⟩⟩
  simp [ofGraph, List.flatMap_map, Step.nodes]

/-- A partition that the engine takes over holds descriptors of its nodes. -/
theorem captures_of_partition? {options : Options} {g : Graph} {partition : Partition}
    (found : options.delegate.partition? g partition.nodes = some partition) :
    List.Forall₂ (fun id d => ∃ node, g.nodes[id]? = some node ∧ d.Captures node)
      partition.nodes partition.region.descriptors := by
  obtain ⟨region, captured, same⟩ := Option.map_eq_some_iff.mp found
  have captured : (Substitution.Region.capture g partition.nodes).outcome () = (some region, ()) :=
    Prod.ext captured rfl
  obtain ⟨-, captures⟩ := Substitution.Region.outcome_capture.mp captured
  have region_eq : partition.region = region := by rw [← same]
  rwa [region_eq]

/-- A partition that the engine takes over runs its nodes. -/
theorem replaces_of_partition? {options : Options} {g : Graph} {partition : Partition}
    (found : options.delegate.partition? g partition.nodes = some partition)
    (supported : ∀ node ∈ partition.nodes, (options.delegate.examine g node).1 = true) :
    List.Forall₂ (fun id d => d.Replaces g id) partition.nodes partition.region.descriptors := by
  refine ((List.forall₂_and_left _ _).mpr ⟨supported, captures_of_partition? found⟩).imp ?_
  rintro id d ⟨supported, node, found, captures⟩
  exact ⟨node, found, captures, Substitution.runnable_of_supports supported found captures⟩

/-- The engine takes over nodes by descriptors of theirs. -/
theorem Sound.delegate {i i' : Interpreter} {options : Options} (h : Sound i)
    (taken : (Interpreter.delegate options.delegate).outcome i = (some (), i')) : Sound i' := by
  have divided := options.delegate.outcome_divide (g := i.graph) i.plan
  rw [outcome_delegate] at taken
  cases found : options.delegate.handedOver i.graph i.plan with
  | none =>
      rw [found] at taken
      cases taken
  | some plan =>
      rw [found] at taken divided
      cases taken
      refine ⟨h.registry, ⟨?_, fun partition inside => ?_⟩⟩
      · exact (Delegate.flatMap_nodes_of_divide divided).trans h.faithful.nodes
      · rcases Delegate.delegated_of_divide divided inside with before | ⟨taken, supported⟩
        · exact h.faithful.regions partition before
        · exact replaces_of_partition? taken supported

/-- Whatever has been handed over, the plan is faithful. -/
theorem Substituted.sound {g : Graph} {i : Interpreter} (h : Substituted g i) : Sound i := by
  induction h with
  | start => exact .start g
  | delegate options _ taken ih => exact ih.delegate taken

theorem Substituted.unallocated {g : Graph} {i : Interpreter} (h : Substituted g i) :
    i.graph = g ∧ i.allocated = false := by
  induction h with
  | start => exact ⟨rfl, rfl⟩
  | @delegate i i' options _ taken ih =>
      rw [outcome_delegate] at taken
      cases found : options.delegate.handedOver i.graph i.plan with
      | none =>
          rw [found] at taken
          cases taken
      | some plan =>
          rw [found] at taken
          cases taken
          exact ⟨ih.1, rfl⟩

/-! ## One call -/

/-- Allocating prepares the steps; only if all succeed is the interpreter allocated. -/
theorem outcome_allocate (i : Interpreter) :
    allocate.outcome i =
      match (forM i.plan (prepareStep i.registry)).outcome i.graph with
      | (some _, graph) => (some (), { i with graph, allocated := true })
      | (none, graph) => (none, { i with graph }) := by
  simp only [allocate, onGraph, List.forM_eq_forM, Action.outcome_bind, Action.outcome_get,
    Action.proceed_some, Action.outcome_onPart]
  rcases (forM i.plan (prepareStep i.registry)).outcome i.graph with ⟨_ | _, graph⟩ <;> rfl

/-- Invoking evaluates the steps, if the interpreter is allocated. -/
theorem outcome_invoke (i : Interpreter) :
    invoke.outcome i =
      if i.allocated = true then
        let o := (forM i.plan (evaluateStep i.registry)).outcome i.graph
        (o.1, { i with graph := o.2 })
      else (none, i) := by
  simp only [invoke, onGraph, List.forM_eq_forM, Action.outcome_bind, Action.outcome_get,
    Action.proceed_some, Action.outcome_lift, Action.outcome_onPart, toOption_ensure]
  split <;> rfl

theorem outcome_allocate_eq_some {i i' : Interpreter} :
    allocate.outcome i = (some (), i') ↔ ∃ graph,
      (forM i.plan (prepareStep i.registry)).outcome i.graph = (some (), graph) ∧
        { i with graph, allocated := true } = i' := by
  rw [outcome_allocate]
  rcases (forM i.plan (prepareStep i.registry)).outcome i.graph with ⟨_ | _, graph⟩ <;> simp

theorem outcome_invoke_eq_some {i i' : Interpreter} :
    invoke.outcome i = (some (), i') ↔ i.allocated = true ∧ ∃ graph,
      (forM i.plan (evaluateStep i.registry)).outcome i.graph = (some (), graph) ∧
        { i with graph } = i' := by
  rw [outcome_invoke]
  by_cases allocated : i.allocated = true
  · rw [if_pos allocated]
    rcases (forM i.plan (evaluateStep i.registry)).outcome i.graph with ⟨_ | _, graph⟩ <;>
      simp [allocated]
  · simp [allocated]

/-- What a run of allocating comes to. -/
theorem run_allocate (i : Interpreter) :
    allocate.run i =
      match (forM i.plan (prepareStep i.registry)).run i.graph with
      | ⟨.ok _, graph, events⟩ => ⟨.ok (), { i with graph, allocated := true }, events⟩
      | ⟨.error fault, graph, events⟩ => ⟨.error fault, { i with graph }, events⟩ := by
  show (onGraph (forM i.plan (prepareStep i.registry))).andThen _ i = _
  simp only [onGraph, Action.onPart, Action.andThen, Action.run]
  rcases (forM i.plan (prepareStep i.registry)) i.graph with ⟨_ | ⟨⟩, graph, events⟩
  · rfl
  · show Run.mk _ _ (events ++ []) = _
    rw [List.append_nil]
    rfl

/-- Invoking an interpreter that is not allocated is refused and changes nothing; invoking one that
is allocated walks through its plan. -/
theorem run_invoke (i : Interpreter) :
    invoke.run i =
      if i.allocated = true then (onGraph (forM i.plan (evaluateStep i.registry))).run i
      else ⟨refuse InterpreterFailure.notAllocated, i, []⟩ := by
  have seen : invoke.run i =
      (liftM (ensure (i.allocated = true) InterpreterFailure.notAllocated) >>= fun _ =>
        onGraph (forM i.plan (evaluateStep i.registry)) : Action Interpreter Unit).run i := rfl
  rw [seen, ensure]
  split <;> rfl

/-- Writing into an input touches neither plan nor allocation. -/
theorem run_setInput (input : Nat) (type : ElementType) (values : Array type.Element)
    (i : Interpreter) : (setInput input type values).run i =
      ⟨((fillInput input type values).run i.graph).ending,
        { i with graph := ((fillInput input type values).run i.graph).state },
        ((fillInput input type values).run i.graph).events⟩ := by
  rw [setInput_eq]
  rfl

/-- An input that has got a shape makes it necessary to allocate again. -/
theorem run_resizeInput (input : Nat) (shape : Shape) (i : Interpreter) :
    (resizeInput input shape).run i =
      match (shapeInput input shape).run i.graph with
      | ⟨.ok _, graph, events⟩ => ⟨.ok (), { i with graph, allocated := false }, events⟩
      | ⟨.error fault, graph, events⟩ => ⟨.error fault, { i with graph }, events⟩ := by
  rw [resizeInput_eq]
  show (onGraph (shapeInput input shape)).andThen _ i = _
  simp only [onGraph, Action.onPart, Action.andThen, Action.run]
  rcases (shapeInput input shape) i.graph with ⟨_ | ⟨⟩, graph, events⟩
  · rfl
  · show Run.mk _ _ (events ++ []) = _
    rw [List.append_nil]
    rfl

/-- The interpreters run the same graph, the second one without the engine. -/
structure Alike (d u : Interpreter) : Prop where
  graph : d.graph = u.graph
  allocated : d.allocated = u.allocated
  delegated : Sound d
  host : Sound u
  noPartition : ∀ partition, .delegated partition ∉ u.plan

theorem Alike.steady {d u d' u' : Interpreter} (h : Alike d u) (hd : Steady d d')
    (hu : Steady u u') (graph : d'.graph = u'.graph) (allocated : d'.allocated = u'.allocated) :
    Alike d' u' :=
  ⟨graph, allocated, h.delegated.steady hd, h.host.steady hu, by rw [hu.plan]; exact h.noPartition⟩

section Calls

variable {d u : Interpreter}

theorem Alike.typed (h : Alike d u) : DelegatedTyped u.graph u.plan :=
  fun partition inside => absurd inside (h.noPartition partition)

/-- Where the delegated nodes are well typed, both plans prepare alike. -/
theorem Alike.prepare (h : Alike d u) (typed : DelegatedTyped d.graph d.plan) :
    (forM d.plan (prepareStep d.registry)).outcome d.graph =
      (forM u.plan (prepareStep u.registry)).outcome u.graph := by
  rw [h.delegated.registry, h.host.registry, outcome_prepare_plan h.delegated.faithful typed,
    outcome_prepare_plan h.host.faithful h.typed, h.graph]

/-- Where the delegated nodes are well typed, both plans evaluate alike. -/
theorem Alike.evaluate (h : Alike d u) (typed : DelegatedTyped d.graph d.plan) :
    (forM d.plan (evaluateStep d.registry)).outcome d.graph =
      (forM u.plan (evaluateStep u.registry)).outcome u.graph := by
  rw [h.delegated.registry, h.host.registry, outcome_evaluate_plan h.delegated.faithful typed,
    outcome_evaluate_plan h.host.faithful h.typed, h.graph]

/-- Writing into an input has the same answer, word by word, in interpreters that are alike. -/
theorem Alike.setInput (h : Alike d u) (input : Nat) (type : ElementType)
    (values : Array type.Element) :
    ((Interpreter.setInput input type values).run d).ending =
        ((Interpreter.setInput input type values).run u).ending ∧
      Alike (d.after (.setInput input type values)) (u.after (.setInput input type values)) := by
  refine ⟨by rw [run_setInput, run_setInput, h.graph], ?_⟩
  apply h.steady (steady_after d _) (steady_after u _)
  · simp only [after, Call.action, run_setInput, h.graph]
  · simp only [after, Call.action, run_setInput, h.allocated]

theorem Alike.resizeInput (h : Alike d u) (input : Nat) (shape : Shape) :
    ((Interpreter.resizeInput input shape).run d).ending =
        ((Interpreter.resizeInput input shape).run u).ending ∧
      Alike (d.after (.resizeInput input shape)) (u.after (.resizeInput input shape)) := by
  refine ⟨?_, h.steady (steady_after d _) (steady_after u _) ?_ ?_⟩ <;>
    simp only [after, Call.action, run_resizeInput, h.graph] <;>
    rcases (shapeInput input shape).run u.graph with ⟨_ | _, graph, events⟩
  all_goals first | rfl | exact h.allocated

/-- Allocating succeeds in both or in none of them, if the delegated nodes are well typed. -/
theorem Alike.allocate (h : Alike d u) (typed : DelegatedTyped d.graph d.plan) :
    (Interpreter.allocate.outcome d).1 = (Interpreter.allocate.outcome u).1 ∧
      Alike (d.after .allocate) (u.after .allocate) := by
  have run (i : Interpreter) : i.after .allocate = (Interpreter.allocate.outcome i).2 := rfl
  have same := h.prepare typed
  refine ⟨?_, h.steady (steady_after d _) (steady_after u _) ?_ ?_⟩ <;>
    simp only [run, outcome_allocate, same] <;>
    rcases (forM u.plan (prepareStep u.registry)).outcome u.graph with ⟨_ | _, graph⟩
  all_goals first | rfl | exact h.allocated

theorem Alike.invoke (h : Alike d u) (typed : DelegatedTyped d.graph d.plan) :
    (Interpreter.invoke.outcome d).1 = (Interpreter.invoke.outcome u).1 ∧
      Alike (d.after .invoke) (u.after .invoke) := by
  have run (i : Interpreter) : i.after .invoke = (Interpreter.invoke.outcome i).2 := rfl
  have same := h.evaluate typed
  refine ⟨?_, h.steady (steady_after d _) (steady_after u _) ?_ ?_⟩ <;>
    simp only [run, outcome_invoke, same, h.allocated] <;>
    split
  all_goals first | rfl | exact h.graph | exact h.allocated

/-- One call, on delegated nodes that are well typed if the call runs the plan. The answers are the
same, unless a call that runs the plan fails for different reasons. -/
theorem Alike.call (h : Alike d u) (call : Call)
    (typed : call.Runs → DelegatedTyped d.graph d.plan) :
    (call.action.outcome d).1 = (call.action.outcome u).1 ∧
      (¬ call.Runs → (call.action.run d).ending = (call.action.run u).ending) ∧
      Alike (d.after call) (u.after call) := by
  cases call with
  | setInput input type values =>
      obtain ⟨ending, after⟩ := h.setInput input type values
      exact ⟨congrArg Except.toOption ending, fun _ => ending, after⟩
  | resizeInput input shape =>
      obtain ⟨ending, after⟩ := h.resizeInput input shape
      exact ⟨congrArg Except.toOption ending, fun _ => ending, after⟩
  | allocate =>
      obtain ⟨ended, after⟩ := h.allocate (typed trivial)
      exact ⟨ended, fun quiet => absurd trivial quiet, after⟩
  | invoke =>
      obtain ⟨ended, after⟩ := h.invoke (typed trivial)
      exact ⟨ended, fun quiet => absurd trivial quiet, after⟩

/-! ## Whole runs -/

def Succeeds (observations : List Observation) : Prop :=
  ∀ o ∈ observations, o.call.Runs → o.answer = .ok ()

instance : DecidablePred Succeeds :=
  fun observations => inferInstanceAs (Decidable (∀ o ∈ observations, _ → _))

/-- As soon as the host has prepared its plan, or where it says that it has, the delegated nodes
are well typed. -/
theorem Alike.typed_of_host (h : Alike d u) (call : Call) (runs : call.Runs)
    (allocated : u.allocated = true → DelegatedTyped d.graph d.plan)
    (answer : (call.action.run u).ending = .ok ()) : DelegatedTyped d.graph d.plan := by
  have done := outcome_of_answer call answer
  cases call with
  | setInput input type values => exact absurd runs id
  | resizeInput input shape => exact absurd runs id
  | allocate =>
      obtain ⟨graph, prepared, -⟩ := outcome_allocate_eq_some.mp done
      rw [h.host.registry, outcome_prepare_plan h.host.faithful h.typed, ← h.graph] at prepared
      exact delegatedTyped_of_prepare h.delegated.faithful prepared
  | invoke => exact allocated (outcome_invoke_eq_some.mp done).1

/-- Only allocating allocates. -/
theorem allocated_after {call : Call} (h : (u.after call).allocated = true) :
    call = .allocate ∨ u.allocated = true := by
  cases call with
  | setInput input type values =>
      simp only [after, Call.action, setInput_eq] at h
      exact .inr h
  | resizeInput input shape =>
      simp only [after, Call.action, run_resizeInput] at h
      split at h
      · cases h
      · exact .inr h
  | allocate => exact .inl rfl
  | invoke =>
      have run : u.after .invoke = (Interpreter.invoke.outcome u).2 := rfl
      rw [run, outcome_invoke] at h
      split at h <;> exact .inr h

/-- A call that succeeds on one side, if it runs the plan, is seen alike on both. -/
theorem Alike.trace_cons (h : Alike d u) {call : Call} {calls : List Call}
    (typed : call.Runs → DelegatedTyped d.graph d.plan)
    (succeeds : call.Runs →
      (call.action.run d).ending = .ok () ∨ (call.action.run u).ending = .ok ())
    (rest : trace (d.after call) calls = trace (u.after call) calls) :
    trace d (call :: calls) = trace u (call :: calls) := by
  obtain ⟨ended, quiet, after⟩ := h.call call typed
  have ending : (call.action.run d).ending = (call.action.run u).ending := by
    by_cases runs : call.Runs
    · rcases succeeds runs with answer | answer
      · have ended' : (call.action.outcome u).1 = some () :=
          ended ▸ congrArg Except.toOption answer
        rw [answer, (Action.outcome_eq_some.mp (Prod.ext ended' rfl)).1]
      · have ended' : (call.action.outcome d).1 = some () :=
          ended ▸ congrArg Except.toOption answer
        rw [answer, (Action.outcome_eq_some.mp (Prod.ext ended' rfl)).1]
    · exact quiet runs
  rw [trace, trace, ending, after.graph, rest]

theorem DelegatedTyped.after (typed : DelegatedTyped d.graph d.plan) (call : Call) :
    DelegatedTyped (d.after call).graph (d.after call).plan := by
  rw [(steady_after d call).plan]
  exact typed.of_sameFrame (steady_after d call).frame

/-- No call tells the two apart. -/
theorem Alike.after (h : Alike d u) {call : Call}
    (typed : call.Runs → DelegatedTyped d.graph d.plan) : Alike (d.after call) (u.after call) :=
  (h.call call typed).2.2

/-- A run that succeeds on the host is seen alike on both. -/
theorem Alike.trace_of_host (h : Alike d u) (calls : List Call)
    (typed : u.allocated = true → DelegatedTyped d.graph d.plan)
    (succeeds : Succeeds (trace u calls)) : trace d calls = trace u calls := by
  induction calls generalizing d u with
  | nil => rfl
  | cons call calls ih =>
      obtain ⟨answer, answers⟩ := List.forall_mem_cons.mp succeeds
      have here (runs : call.Runs) := h.typed_of_host call runs typed (answer runs)
      refine h.trace_cons here (fun runs => .inr (answer runs)) (ih (h.after here) ?_ answers)
      intro allocated
      rcases allocated_after allocated with rfl | before
      · exact (here trivial).after .allocate
      · exact (typed before).after call

/-- A run on well-typed nodes that succeeds in the engine is seen alike on both. -/
theorem Alike.trace_of_engine (h : Alike d u) (calls : List Call)
    (typed : DelegatedTyped d.graph d.plan) (succeeds : Succeeds (trace d calls)) :
    trace d calls = trace u calls := by
  induction calls generalizing d u with
  | nil => rfl
  | cons call calls ih =>
      obtain ⟨answer, answers⟩ := List.forall_mem_cons.mp succeeds
      exact h.trace_cons (fun _ => typed) (fun runs => .inl (answer runs))
        (ih (h.after fun _ => typed) (typed.after call) answers)

/-- What is seen at the end of a run. -/
theorem last_mem_trace (i : Interpreter) (calls : List Call) (last : Call) :
    ⟨last, (last.action.run (i.afterAll calls)).ending,
      ((i.afterAll calls).after last).graph.tensors⟩ ∈ trace i (calls ++ [last]) := by
  induction calls generalizing i with
  | nil => exact List.mem_singleton_self _
  | cons call calls ih => exact List.mem_cons_of_mem _ (ih (i.after call))

/-- An engine that has invoked successfully had well-typed nodes all along. -/
theorem Sound.typed_of_invoke (h : Sound d) (calls : List Call)
    (succeeds : Succeeds (trace d (calls ++ [.invoke]))) : DelegatedTyped d.graph d.plan := by
  have steady := steady_afterAll d calls
  have sound := h.steady steady
  have answer := succeeds _ (last_mem_trace d calls .invoke) trivial
  have done := outcome_of_answer .invoke answer
  obtain ⟨-, graph, evaluated, -⟩ := outcome_invoke_eq_some.mp done
  rw [sound.registry] at evaluated
  have typed := delegatedTyped_of_evaluate sound.faithful evaluated
  rw [steady.plan] at typed
  exact typed.of_sameFrame steady.frame.symm

end Calls

/-- Allocating does not depend on whether the interpreter has been allocated before. -/
theorem trace_allocate (i : Interpreter) (allocated : Bool) (calls : List Call)
    (answer : (Interpreter.allocate.run i).ending = .ok ()) :
    trace { i with allocated } (.allocate :: calls) = trace i (.allocate :: calls) := by
  have done := outcome_of_answer .allocate answer
  have done' : allocate.outcome { i with allocated } = (some (), i.after .allocate) := by
    obtain ⟨graph, prepared, same⟩ := outcome_allocate_eq_some.mp done
    exact outcome_allocate_eq_some.mpr ⟨graph, prepared, same⟩
  obtain ⟨answer', state⟩ := Action.outcome_eq_some.mp done'
  have state : ({ i with allocated } : Interpreter).after .allocate = i.after .allocate := state
  simp only [trace, state, Call.action, answer, answer']

/-- Delegation preserves whole runs. A run that succeeds on the host, as far as it runs the plan, is
seen alike on every interpreter that has handed nodes over. Conversely, from equal graphs, a run
that begins with allocating and ends with invoking is seen alike on the host if it succeeds in the
engine. -/
theorem delegation_preserves_runs {g : Graph} {d : Interpreter} (delegated : Substituted g d) :
    (∀ calls, Succeeds (trace (ofGraph g Registry.all) calls) →
      trace d calls = trace (ofGraph g Registry.all) calls) ∧
    ∀ before before' between,
      let d' := d.afterAll before
      let u' := (ofGraph g Registry.all).afterAll before'
      d'.graph = u'.graph → Succeeds (trace d' (.allocate :: between ++ [.invoke])) →
      trace u' (.allocate :: between ++ [.invoke]) =
        trace d' (.allocate :: between ++ [.invoke]) := by
  -- at first neither of them is allocated, and both have the graph as it was built
  have alike : Alike d (ofGraph g Registry.all) :=
    ⟨delegated.unallocated.1, delegated.unallocated.2, delegated.sound, .start g,
      fun _ => undelegated⟩
  refine ⟨fun calls succeeds => ?_, fun before before' between => ?_⟩
  · exact alike.trace_of_host calls (fun allocated => by cases allocated) succeeds
  · intro d' u' graph succeeds
    have steady := steady_afterAll d before
    have steady' := steady_afterAll (ofGraph g Registry.all) before'
    have typed := (delegated.sound.steady steady).typed_of_invoke (.allocate :: between) succeeds
    -- The two interpreters may differ in whether they are allocated, up to the first call.
    have alike : Alike d' { u' with allocated := d'.allocated } := by
      refine ⟨graph, rfl, delegated.sound.steady steady, ?_, ?_⟩
      · exact ⟨((Sound.start g).steady steady').registry, ((Sound.start g).steady steady').faithful⟩
      · show ∀ partition, .delegated partition ∉ u'.plan
        rw [steady'.plan]
        exact fun _ => undelegated
    have same := alike.trace_of_engine _ typed succeeds
    have answer : (allocate.run { u' with allocated := d'.allocated }).ending = .ok () := by
      have first := succeeds _ List.mem_cons_self trivial
      have same := congrArg (List.map Observation.answer) same
      exact (List.cons.inj same).1.symm.trans first
    rw [same]
    exact trace_allocate { u' with allocated := d'.allocated } u'.allocated _ answer

/-- The chain of three nodes, with the first and the last one handed over. -/
def delegatedChain : Interpreter := ((delegate Options.all.delegate).outcome (ofGraph chain .all)).2

theorem substituted_chain : Substituted chain delegatedChain :=
  .delegate Options.all .start (Prod.ext (by decide +kernel) rfl)

theorem chain_runs_alike :
    let write := Call.setInput 0 .f32 #[Numeric.Floating.ofNat 1, Numeric.Floating.ofNat 2]
    let host := ofGraph chain Registry.all
    trace delegatedChain [.allocate, write, .invoke] = trace host [.allocate, write, .invoke] ∧
      trace (host.afterAll [write]) [.allocate, write, .invoke] =
        trace (delegatedChain.afterAll [write]) [.allocate, write, .invoke] :=
  ⟨(delegation_preserves_runs substituted_chain).1 _ (by decide +kernel),
    (delegation_preserves_runs substituted_chain).2 [_] [_] [_] (by rfl) (by decide +kernel)⟩

end Interpreter

end TensorGraph
