import TensorGraph.Proofs.Hiding
import TensorGraph.Proofs.History
import TensorGraph.Substitution.PartitionKernel

/-!
# The boundaries of a partition

A partition lists the tensors that it reads and others compute, and those that it computes and
others read. Nothing else passes its boundaries. What comes in decides on everything that the
partition computes, as preparing and evaluating its region from two graphs that agree on the inputs
comes to the same (`region_follows`); and what does not go out is of no use to anyone else, as it
may be overwritten without any effect on the rest of the plan (`rest_hides`).

The list of inputs names no tensor twice. The list of outputs does where two nodes of the partition
compute the same tensor, which the builder lets no graph do.
-/

namespace TensorGraph

open TensorGraph.Action (Follows Matches)
open Substitution (Descriptor Options Region)

namespace Graph

/-! ## The lists -/

section Lists

variable {g g' : Graph} {ids : List Nat} {id : Nat}

def nodesAt (g : Graph) (ids : List Nat) : List Node := ids.filterMap fun id => g.nodes[id]?

/-- Ids without a node compute nothing. -/
theorem produced_eq (g : Graph) (ids : List Nat) :
    g.produced ids = (g.nodesAt ids).flatMap Node.outputs := by
  induction ids with
  | nil => rfl
  | cons id ids ih =>
      rw [produced] at ih ⊢
      rw [List.flatMap_cons, ih, nodesAt, nodesAt, List.filterMap_cons]
      cases g.nodes[id]? <;> rfl

theorem consumed_eq (g : Graph) (ids : List Nat) :
    g.consumed ids = (g.nodesAt ids).flatMap Node.inputs := by
  induction ids with
  | nil => rfl
  | cons id ids ih =>
      rw [consumed] at ih ⊢
      rw [List.flatMap_cons, ih, nodesAt, nodesAt, List.filterMap_cons]
      cases g.nodes[id]? <;> rfl

theorem nodup_eraseDups (l : List Nat) : l.eraseDups.Nodup := by
  cases l with
  | nil => simp
  | cons a l =>
      rw [List.eraseDups_cons, List.nodup_cons]
      exact ⟨by simp, nodup_eraseDups _⟩
termination_by l.length
decreasing_by exact Nat.lt_succ_of_le (List.length_filter_le _ _)

/-- Each input is listed once. -/
theorem nodup_boundaryInputs (g : Graph) (ids : List Nat) : (g.boundaryInputs ids).Nodup :=
  nodup_eraseDups _

/-- What comes in is read by the nodes and not computed by them. -/
theorem mem_boundaryInputs :
    id ∈ g.boundaryInputs ids ↔ id ∈ g.consumed ids ∧ id ∉ g.produced ids := by
  simp [boundaryInputs]

/-- What goes out is computed by the nodes, and goes out of the graph or is read by a node of
another id. -/
theorem mem_boundaryOutputs : id ∈ g.boundaryOutputs ids ↔ id ∈ g.produced ids ∧
    (id ∈ g.outputs ∨ ∃ node ∈ g.nodes, node.id ∉ ids ∧ id ∈ node.inputs) := by
  simp [boundaryOutputs]

/-- The lists depend on nodes and outputs of the graph alone. -/
theorem boundaries_congr (nodes : g'.nodes = g.nodes) (outputs : g'.outputs = g.outputs) :
    g'.boundaryInputs ids = g.boundaryInputs ids ∧
      g'.boundaryOutputs ids = g.boundaryOutputs ids := by
  obtain ⟨_, _, _, _⟩ := g
  obtain ⟨_, _, _, _⟩ := g'
  cases nodes
  cases outputs
  exact ⟨rfl, rfl⟩

end Lists

/-! ## Places of nodes -/

/-- The nodes have their places in the list as ids. -/
def Numbered (g : Graph) : Prop :=
  ∀ (place : Nat) (node : Node), g.nodes[place]? = some node → node.id = place

/-- A node that is added at the end has its place as id. -/
theorem Numbered.append {g : Graph} (h : g.Numbered) {node : Node}
    (place : node.id = g.nodes.length) : Numbered { g with nodes := g.nodes ++ [node] } := by
  intro k other found
  rw [List.getElem?_append] at found
  split at found
  · exact h k other found
  next beyond =>
    rw [List.getElem?_singleton] at found
    split at found
    · cases found
      omega
    · cases found

/-- In a built graph the nodes have their places as ids. -/
theorem numbered_build (calls : List BuilderCall) : (build calls).Numbered := by
  refine build_of_grows (fun _ _ found => by cases found) (fun h grows => ?_) calls
  cases grows with
  | nothing | tensor entry | input entry free | outputs ids known => exact h
  | node node place known apart free fresh => exact h.append place

end Graph

namespace Interpreter

/-! ## Partitions of an interpreter -/

section Engaged

variable {g : Graph} {i : Interpreter}

theorem putInput_outputs (i : Interpreter) (input : Nat) (tensor : Tensor) :
    ((putInput input tensor).outcome i).2.graph.outputs = i.graph.outputs := by
  unfold putInput onGraph Graph.replace
  simp only [Action.outcome_bind, Action.outcome_get, Action.proceed_some, Action.outcome_lift,
    Action.outcome_onPart]
  cases i.inputId input with
  | error fault => rfl
  | ok id =>
      cases free : i.graph.changeable id with
      | error fault => simp [free]
      | ok old => simp [free, Graph.put]

/-- Every partition has the boundaries that its nodes have in the graph. -/
theorem Engaged.boundaries (h : Engaged g i) : i.graph.outputs = g.outputs ∧
    ∀ partition, .delegated partition ∈ i.plan →
      partition.inputs = g.boundaryInputs partition.nodes ∧
        partition.outputs = g.boundaryOutputs partition.nodes := by
  induction h with
  | start => exact ⟨rfl, fun _ inside => absurd inside undelegated⟩
  | @call i call _ ih =>
      have steady := steady_after i call
      rw [steady.frame.outputs, steady.plan]
      exact ih
  | @putInput i input tensor _ ih =>
      obtain ⟨-, -, plan, -⟩ := putInput_keeps i input tensor
      refine ⟨(putInput_outputs i input tensor).trans ih.1, ?_⟩
      show ∀ partition, _ ∈ ((Interpreter.putInput input tensor).outcome i).2.plan → _
      rw [plan]
      exact ih.2
  | @delegate i options before ih =>
      show ((Interpreter.delegate options.delegate).outcome i).2.graph.outputs = _ ∧
        ∀ partition, _ ∈ ((Interpreter.delegate options.delegate).outcome i).2.plan → _
      have divided := options.delegate.outcome_divide (g := i.graph) i.plan
      rw [outcome_delegate]
      cases found : options.delegate.handedOver i.graph i.plan with
      | none => exact ih
      | some plan =>
          rw [found] at divided
          refine ⟨ih.1, fun partition inside => ?_⟩
          rcases Delegate.delegated_of_divide divided inside with old | ⟨taken, -⟩
          · exact ih.2 partition old
          · obtain ⟨region, -, same⟩ := Option.map_eq_some_iff.mp taken
            rw [← same]
            exact Graph.boundaries_congr before.equipped.nodes ih.1

/-- The descriptors of a partition are those of its nodes, in their order. -/
theorem Equipped.capturesAll (h : Equipped g i) {partition : Partition}
    (inside : .delegated partition ∈ i.plan) :
    List.Forall₂ Descriptor.Captures partition.region.descriptors
      (g.nodesAt partition.nodes) := by
  have captures := h.captures partition inside
  unfold Graph.nodesAt
  generalize partition.nodes = ids, partition.region.descriptors = ds at captures ⊢
  induction captures with
  | nil => exact .nil
  | cons first _ ih =>
      obtain ⟨node, found, captures⟩ := first
      rw [List.filterMap_cons, found]
      exact .cons captures ih

end Engaged

end Interpreter

/-! ## What comes in -/

section Kernel

variable {c c' s u u' : Graph} {ds : List Descriptor} {nodes : List Node} {inputs : List Nat}

/-- Each descriptor captures the node beside it, and both do the same. -/
def RunAlike (c : Graph) (ds : List Descriptor) (nodes : List Node) : Prop :=
  List.Forall₂ (fun d node => d.Captures node ∧ d.Runnable c ∧ Builtin.WellTyped c node) ds nodes

/-- Inferring shapes comes to preparing the nodes. -/
theorem RunAlike.infer (h : RunAlike c ds nodes) (frame : Graph.SameFrame c s) :
    (forM ds Descriptor.infer).outcome s = (forM nodes Builtin.prepare).outcome s := by
  refine Action.outcome_forM_congr (R := Graph.SameFrame) ?_ (fun d _ => d.infer_sameFrame) frame
  apply h.imp
  rintro d node ⟨captures, -, typed⟩ t reached
  exact outcome_prepare_eq captures (typed.of_sameFrame reached)

theorem RunAlike.evaluate (h : RunAlike c ds nodes) (frame : Graph.SameFrame c s) :
    (forM ds Descriptor.evaluate).outcome s = (forM nodes Builtin.evaluate).outcome s := by
  refine Action.outcome_forM_congr (R := Graph.SameFrame) ?_ (fun d _ => d.evaluate_sameFrame)
    frame
  apply h.imp
  rintro d node ⟨captures, runnable, typed⟩ t reached
  exact outcome_evaluate_eq captures (runnable.of_sameFrame reached) (typed.of_sameFrame reached)

/-- So it is with the two in a row, as preparing keeps the frame. -/
theorem RunAlike.region {region : Region} (h : RunAlike c region.descriptors nodes)
    (frame : Graph.SameFrame c s) :
    (do region.infer; region.evaluate : Action Graph Unit).outcome s =
      (do forM nodes Builtin.prepare; forM nodes Builtin.evaluate).outcome s := by
  have first : region.infer.outcome s = (forM nodes Builtin.prepare).outcome s := h.infer frame
  have kept := frame.trans (prepare_touches nodes s).toSameFrame
  rw [Action.outcome_bind, Action.outcome_bind, first]
  generalize (forM nodes Builtin.prepare).outcome s = o at kept
  rcases o with ⟨_ | _, t⟩
  · rfl
  · exact h.evaluate kept

/-- Where descriptors have been evaluated, the checks of the host have been made, too. -/
theorem runAlike_of_evaluate (captures : List.Forall₂ Descriptor.Captures ds nodes)
    (frame : Graph.SameFrame c s) (done : (forM ds Descriptor.evaluate).outcome s = (some (), u)) :
    RunAlike c ds nodes := by
  have evaluated (d : Descriptor) (inside : d ∈ ds) :
      ∃ t t', Graph.SameFrame c t ∧ d.evaluate.outcome t = (some (), t') := by
    obtain ⟨t, t', reached, done, -⟩ := Action.forM_succeeds (R := Graph.SameFrame) done
      (fun d _ => d.evaluate_sameFrame) inside
    exact ⟨t, t', frame.trans reached, done⟩
  apply ((List.forall₂_and_left _ _).mpr ⟨evaluated, captures⟩).imp
  rintro d node ⟨⟨t, t', reached, done⟩, captures⟩
  exact ⟨captures, (runnable_of_evaluate done).of_sameFrame reached.symm,
    (Builtin.wellTyped_of_evaluate captures done).of_sameFrame reached.symm⟩

/-- Graphs with the same frame that agree on some tensors differ at most in the others. -/
theorem Graph.SameAt.agrees (same : SameAt inputs c c') (frame : SameFrame c c')
    {values : List Nat} (all : ∀ id < c.tensors.length, id ∈ inputs ∨ id ∈ values) :
    Agrees values values c c' := by
  have tensors (id : Nat) (outside : id ∉ values) : c'.tensors[id]? = c.tensors[id]? := by
    by_cases listed : id < c.tensors.length
    · exact same id ((all id listed).resolve_right outside)
    · have absent : c.tensors[id]? = none := List.getElem?_eq_none (not_lt.mp listed)
      have headers := frame.headers id
      rw [absent, Option.map_none, Option.map_eq_none_iff] at headers
      rw [absent, headers]
  exact ⟨frame, tensors, fun id outside => shape_congr (tensors id outside)⟩

/-- What nodes in dependency order compute depends on what they read and others compute. -/
theorem nodes_follow (ordered : InOrder Node.inputs Node.outputs nodes)
    (reads : ∀ node ∈ nodes, ∀ id ∈ node.inputs, id ∉ nodes.flatMap Node.outputs → id ∈ inputs)
    (given : ∀ node ∈ nodes, ∀ id ∈ node.parameterInputs, id ∉ nodes.flatMap Node.outputs)
    (frame : Graph.SameFrame c c') (same : Graph.SameAt inputs c c') :
    Follows (Graph.SameAt (nodes.flatMap Node.outputs))
      (do forM nodes Builtin.prepare; forM nodes Builtin.evaluate)
      (do forM nodes Builtin.prepare; forM nodes Builtin.evaluate) c c' := by
  -- tensors that are neither given nor computed do not matter
  let outside := (List.range c.tensors.length).filter fun id =>
    id ∉ inputs ∧ id ∉ nodes.flatMap Node.outputs
  have apart (node : Node) (inside : node ∈ nodes) : ∀ id ∈ node.tensors, id ∉ outside := by
    intro id mem mem'
    simp only [outside, List.mem_filter, decide_eq_true_eq] at mem'
    rcases List.mem_append.mp mem with read | written
    · exact mem'.2.1 (reads node inside id read mem'.2.2)
    · exact mem'.2.2 (List.mem_flatMap.mpr ⟨node, inside, written⟩)
  have agrees : Graph.Agrees (nodes.flatMap Node.outputs ++ outside)
      (nodes.flatMap Node.outputs ++ outside) c c' := by
    apply same.agrees frame
    intro id listed
    simp only [outside, List.mem_append, List.mem_filter, List.mem_range, decide_eq_true_eq]
    tauto
  intro a u done
  rw [Action.outcome_bind] at done
  obtain ⟨⟨⟩, t, prepared, evaluated⟩ := Action.proceed_eq_some done
  obtain ⟨t', prepared', agrees⟩ := prepare_walk_follows ordered
    (fun node inside id read => apart node inside id (List.mem_append_left _ read))
    (fun node inside id parameter => by
      have read := node.parameterInputs_subset parameter
      rw [List.mem_append, not_or]
      exact ⟨given node inside id parameter,
        apart node inside id (List.mem_append_left _ read)⟩)
    (List.subset_append_left _ _) agrees () t prepared
  obtain ⟨u', evaluated', agrees⟩ := evaluate_walk_follows ordered apart given
    (lastSettled_of_prepare ordered prepared) agrees () u evaluated
  refine ⟨u', by rw [Action.outcome_bind, prepared', Action.proceed_some, evaluated'], ?_⟩
  intro id computed
  obtain ⟨node, inside, written⟩ := List.mem_flatMap.mp computed
  exact agrees.tensors id (apart node inside id (List.mem_append_right _ written))

/-- What a region computes depends on what its nodes read and others compute. -/
theorem region_follows {region : Region}
    (captures : List.Forall₂ Descriptor.Captures region.descriptors nodes)
    (ordered : InOrder Node.inputs Node.outputs nodes)
    (reads : ∀ node ∈ nodes, ∀ id ∈ node.inputs, id ∉ nodes.flatMap Node.outputs → id ∈ inputs)
    (given : ∀ node ∈ nodes, ∀ id ∈ node.parameterInputs, id ∉ nodes.flatMap Node.outputs)
    (frame : Graph.SameFrame c c') (same : Graph.SameAt inputs c c') :
    Follows (Graph.SameAt (nodes.flatMap Node.outputs)) (do region.infer; region.evaluate)
      (do region.infer; region.evaluate) c c' := by
  intro a u done
  have alike : RunAlike c region.descriptors nodes := by
    rw [Action.outcome_bind] at done
    obtain ⟨⟨⟩, t, inferred, evaluated⟩ := Action.proceed_eq_some done
    have kept : region.infer.KeepsTo Graph.SameFrame := .forM fun d _ => d.infer_sameFrame
    exact runAlike_of_evaluate captures (kept.related inferred) evaluated
  rw [alike.region (.refl c)] at done
  rw [alike.region frame]
  exact nodes_follow ordered reads given frame same a u done

end Kernel

def Partition.kernel (p : Partition) : Substitution.PartitionKernel := ⟨some p.region⟩

theorem Partition.kernel_prepare (p : Partition) : p.kernel.prepare = p.region.infer := rfl

theorem Partition.kernel_evaluate (p : Partition) : p.kernel.evaluate = p.region.evaluate := rfl

/-! ## What does not go out -/

namespace Interpreter

section Rest

variable {g : Graph} {i : Interpreter} {p : Partition}

/-- The nodes that the plan runs after a partition are not in the partition. -/
theorem Equipped.later_apart (h : Equipped g i) {before after : List Step}
    (split : i.plan = before ++ .delegated p :: after) {s : Step} (inside : s ∈ after) :
    ∀ id ∈ s.nodes, id ∉ p.nodes := by
  have distinct : (i.plan.flatMap Step.nodes).Nodup := by
    rw [h.plan]
    exact List.nodup_range
  rw [split, List.flatMap_append, List.flatMap_cons] at distinct
  have apart := (List.nodup_append.mp (List.nodup_append.mp distinct).2.1).2.2
  intro id later mem
  exact apart id mem id (List.mem_flatMap.mpr ⟨s, inside, later⟩) rfl

/-- The steps after a partition read nothing of it that does not go out. -/
theorem Engaged.later_reads (h : Engaged g i) (numbered : g.Numbered) {before after : List Step}
    (split : i.plan = before ++ .delegated p :: after) {task : Task}
    (inside : task ∈ after.flatMap Step.tasks) :
    ∃ node, task.Serves g node ∧
      ∀ id ∈ node.inputs, id ∈ g.produced p.nodes → id ∈ p.outputs := by
  obtain ⟨s, later, inside⟩ := List.mem_flatMap.mp inside
  have mem : s ∈ i.plan := by
    rw [split]
    exact List.mem_append_right _ (List.mem_cons_of_mem _ later)
  obtain ⟨place, listed, node, found, serves⟩ :=
    exists_left_of_forall₂ (h.equipped.stepTasks mem) inside
  refine ⟨node, serves, fun id read computed => ?_⟩
  have here : .delegated p ∈ i.plan := by
    rw [split]
    exact List.mem_append_right _ List.mem_cons_self
  rw [(h.boundaries.2 p here).2, Graph.mem_boundaryOutputs]
  refine ⟨computed, .inr ⟨node, List.mem_of_getElem? found, ?_, read⟩⟩
  rw [numbered place node found]
  exact h.equipped.later_apart split later place listed

/-- What does not go out of a partition may be overwritten without any effect on the rest of the
plan. -/
theorem Engaged.rest_hides (h : Engaged g i) (numbered : g.Numbered) {before after : List Step}
    (split : i.plan = before ++ .delegated p :: after) {hidden : List Nat}
    (computed : hidden ⊆ g.produced p.nodes) (kept : ∀ id ∈ hidden, id ∉ p.outputs)
    {s s' : Graph} (nodes : s.nodes = g.nodes) (differ : Graph.Fills hidden s s') :
    Matches (Graph.Fills hidden) (forM after (evaluateStep i.registry))
      (forM after (evaluateStep i.registry)) s s' := by
  suffices walk : Matches (Graph.Fills hidden)
      (forM (after.flatMap Step.tasks) (Task.evaluate .all))
      (forM (after.flatMap Step.tasks) (Task.evaluate .all)) s s' by
    constructor <;> rw [h.equipped.registry, outcome_evaluate_tasks, outcome_evaluate_tasks]
    · exact walk.value
    · exact walk.states
  refine tasks_hide nodes (fun task inside => ?_) differ
  obtain ⟨node, serves, reads⟩ := h.later_reads numbered split inside
  exact ⟨node, serves, fun id read mem => kept id mem (reads id read (computed mem))⟩

end Rest

/-- An interpreter, with any history, has handed a partition over to the engine. The nodes of the
partition are in dependency order, and none of their parameters is computed in it. Then from graphs
that agree on the inputs of the partition, its kernel prepares and evaluates with the same success
and computes the same. The lists of inputs and outputs name nothing twice, provided that no tensor
is computed twice in the partition, and outputs are computed in it. If the nodes of the graph have
their places as ids, and the other tensors that the partition computes are overwritten right after
the step, then the rest of the plan has the same success, and leaves all tensors but those as it
would have done, outputs of the graph among them, even if it fails. -/
theorem boundaries_suffice {g : Graph} {i : Interpreter} {p : Partition} (engaged : Engaged g i)
    (inside : .delegated p ∈ i.plan)
    (ordered : InOrder Node.inputs Node.outputs (g.nodesAt p.nodes))
    (given : ∀ node ∈ g.nodesAt p.nodes, ∀ id ∈ node.parameterInputs, id ∉ g.produced p.nodes) :
    let step : Action Graph Unit := do p.kernel.prepare; p.kernel.evaluate
    (∀ c c', Graph.SameFrame c c' → Graph.SameAt p.inputs c c' →
      ((step.run c).ending = .ok () ↔ (step.run c').ending = .ok ()) ∧
      ((step.run c).ending = .ok () →
        Graph.SameAt (g.produced p.nodes) (step.run c).state (step.run c').state)) ∧
    (p.inputs.Nodup ∧ ((g.produced p.nodes).Nodup → p.outputs.Nodup) ∧
      p.outputs ⊆ g.produced p.nodes) ∧
    (g.Numbered → ∀ before after, i.plan = before ++ .delegated p :: after →
      ∀ hidden, hidden ⊆ g.produced p.nodes → (∀ id ∈ hidden, id ∉ p.outputs) →
      ∀ s s' : Graph, s.nodes = g.nodes → Graph.Fills hidden s s' →
        let rest := forM after (evaluateStep i.registry)
        ((rest.run s).ending = .ok () ↔ (rest.run s').ending = .ok ()) ∧
        ∀ id : Nat, id ∈ g.outputs ∨ id ∉ hidden →
          (rest.run s').state.tensors[id]? = (rest.run s).state.tensors[id]?) := by
  intro step
  obtain ⟨inputs, outputs⟩ := engaged.boundaries.2 p inside
  have captures := engaged.equipped.capturesAll inside
  have reads : ∀ node ∈ g.nodesAt p.nodes, ∀ id ∈ node.inputs,
      id ∉ (g.nodesAt p.nodes).flatMap Node.outputs → id ∈ p.inputs := by
    intro node mem id read elsewhere
    rw [inputs, Graph.mem_boundaryInputs, Graph.consumed_eq, Graph.produced_eq]
    exact ⟨List.mem_flatMap.mpr ⟨node, mem, read⟩, elsewhere⟩
  rw [Graph.produced_eq] at given ⊢
  refine ⟨fun c c' frame same => ?_, ⟨?_, fun distinct => ?_, ?_⟩, ?_⟩
  · -- what follows from success on one graph follows from success on the other one as well
    simp only [step, p.kernel_prepare, p.kernel_evaluate]
    exact (region_follows captures ordered reads given frame same).both
      (region_follows captures ordered reads given frame.symm same.symm)
  · rw [inputs]
    exact g.nodup_boundaryInputs p.nodes
  · rw [outputs, Graph.boundaryOutputs, Graph.produced_eq]
    exact distinct.filter _
  · rw [outputs, ← Graph.produced_eq]
    exact fun id out => (Graph.mem_boundaryOutputs.mp out).1
  · intro numbered before after split hidden computed kept s s' nodes differ rest
    rw [← Graph.produced_eq] at computed
    have alike := engaged.rest_hides numbered split computed kept nodes differ
    refine ⟨alike.ending_iff, fun id shown => alike.states.elsewhere id ?_⟩
    -- outputs of the graph that the partition computes are outputs of the partition
    rcases shown with out | shown
    · intro mem
      refine kept id mem ?_
      rw [outputs]
      exact Graph.mem_boundaryOutputs.mpr ⟨computed mem, .inl out⟩
    · exact shown

/-- Two absolute values that the engine takes over, and a positive part that it does not. -/
def veiled : List BuilderCall :=
  [.addInput "x" .f32 [1], .addTensor "a" .f32, .addTensor "b" .f32, .addTensor "y" .f32,
    .addNode "first" .abs none [0] [1], .addNode "second" .abs none [1] [2],
    .addNode "third" .relu none [2] [3], .setOutputs [3]]

def veiledEngine : Interpreter :=
  ((delegate Options.all.delegate).run (ofGraph (Graph.build veiled) .all)).state

def veiledPartition : Partition :=
  ⟨Substitution.delegateName, [0, 1], [0], [2],
    ⟨[⟨.abs, .none, .none, [0], [1]⟩, ⟨.abs, .none, .none, [1], [2]⟩], [0, 1]⟩⟩

/-- The first graph has never been run, the second one has with another input; in the third one
the first absolute value has been overwritten. -/
def veiledFresh : Graph := (veiledEngine.afterAll [.setInput 0 .f32 #[.ofNat 3]]).graph

def veiledUsed : Graph := (veiledEngine.afterAll
  [.allocate, .setInput 0 .f32 #[.ofNat 2], .invoke, .setInput 0 .f32 #[.ofNat 3]]).graph

def veiledOverwritten : Graph := veiledUsed.put 1 ⟨.f32, ⟨[1], #[.ofNat 9], by decide⟩⟩

theorem veiled_alike :
    let step : Action Graph Unit := do
      veiledPartition.kernel.prepare
      veiledPartition.kernel.evaluate
    let rest : Action Graph Unit := forM [Step.builtin 2] (evaluateStep .all)
    (veiledFresh.shape 1 = .ok [0] ∧ veiledUsed.shape 1 = .ok [1]) ∧
      (step.run veiledUsed).ending = .ok () ∧
      (step.run veiledUsed).state.tensors[2]? = (step.run veiledFresh).state.tensors[2]? ∧
      (rest.run veiledOverwritten).ending = .ok () ∧
      (rest.run veiledOverwritten).state.tensors[3]? = (rest.run veiledUsed).state.tensors[3]? := by
  intro step rest
  have engaged : Engaged (Graph.build veiled) veiledEngine := .delegate .all .start
  have frame : Graph.SameFrame veiledFresh veiledUsed :=
    (steady_afterAll veiledEngine _).frame.symm.trans (steady_afterAll veiledEngine _).frame
  have input : veiledUsed.tensor 0 = veiledFresh.tensor 0 := rfl
  have same : Graph.SameAt veiledPartition.inputs veiledFresh veiledUsed :=
    List.forall_mem_singleton.mpr (frame.getElem?_of_tensor input)
  have succeeds : (step.run veiledFresh).ending = .ok () := by decide +kernel
  have shape : veiledUsed.shape 1 = .ok [1] := by decide +kernel
  have differ : Graph.Fills [1] veiledUsed veiledOverwritten := by
    obtain ⟨entry, found, same⟩ := Graph.shape_eq_ok.mp shape
    have type : veiledUsed.type 1 = .ok entry.tensor.type :=
      Graph.type_eq_ok.mpr ⟨entry, found, rfl⟩
    have single : veiledUsed.type 1 = .ok .f32 := by decide +kernel
    exact .put found (Except.ok.inj (single.symm.trans type)) same.symm (List.mem_singleton_self 1)
  have succeeds' : (rest.run veiledUsed).ending = .ok () := by decide +kernel
  obtain ⟨kernel, -, hides⟩ := boundaries_suffice engaged (p := veiledPartition)
    (by decide +kernel) (by decide +kernel) (by decide +kernel)
  obtain ⟨both, alike⟩ := kernel veiledFresh veiledUsed frame same
  obtain ⟨both', alike'⟩ := hides (Graph.numbered_build veiled) [] [.builtin 2]
    (by decide +kernel) [1] (by decide +kernel) (by decide +kernel) veiledUsed veiledOverwritten rfl
    differ
  exact ⟨⟨by decide +kernel, shape⟩, both.mp succeeds,
    alike succeeds 2 (by decide +kernel), both'.mp succeeds',
    alike' 3 (.inr (by decide))⟩

/-- An absolute value that the engine takes over, and the positive part of it, which it does not;
both nodes have one id. -/
def misnumbered : Graph where
  tensors :=
    [⟨"x", ⟨.f32, ⟨[1], #[.ofNat 5], by decide⟩⟩, false⟩,
      ⟨"t", ⟨.f32, ⟨[1], #[.ofNat 5], by decide⟩⟩, false⟩,
      ⟨"y", ⟨.f32, ⟨[1], #[.ofNat 0], by decide⟩⟩, false⟩]
  nodes := [⟨0, "first", .abs, none, [0], [1]⟩, ⟨0, "second", .relu, none, [1], [2]⟩]
  inputs := [0]
  outputs := [2]

/-- A partition takes a node with an id of its own for one of its nodes, wherever it is. What only
such a node reads does not go out, but to overwrite it changes the output of the graph. -/
theorem misnumbered_leaks :
    ¬ ∀ (g : Graph) (i : Interpreter) (p : Partition), Engaged g i → .delegated p ∈ i.plan →
      InOrder Node.inputs Node.outputs (g.nodesAt p.nodes) →
      (∀ node ∈ g.nodesAt p.nodes, ∀ id ∈ node.parameterInputs, id ∉ g.produced p.nodes) →
      ∀ before after, i.plan = before ++ .delegated p :: after →
        ∀ hidden, hidden ⊆ g.produced p.nodes → (∀ id ∈ hidden, id ∉ p.outputs) →
        ∀ s s' : Graph, s.nodes = g.nodes → Graph.Fills hidden s s' →
          let rest := forM after (evaluateStep i.registry)
          ∀ id : Nat, id ∈ g.outputs →
            (rest.run s').state.tensors[id]? = (rest.run s).state.tensors[id]? := by
  intro always
  have held : misnumbered.tensors[1]? =
      some ⟨"t", ⟨.f32, ⟨[1], #[.ofNat 5], by decide⟩⟩, false⟩ := rfl
  have differ : Graph.Fills [1] misnumbered
      (misnumbered.put 1 ⟨.f32, ⟨[1], #[.ofNat 9], by decide⟩⟩) :=
    .put held rfl rfl (List.mem_singleton_self 1)
  have same := always misnumbered
    ((delegate Options.all.delegate).run (ofGraph misnumbered .all)).state
    ⟨Substitution.delegateName, [0], [0], [], ⟨[⟨.abs, .none, .none, [0], [1]⟩], [0]⟩⟩
    (.delegate .all .start) (by decide +kernel) (by decide +kernel) (by decide +kernel) []
    [.builtin 1] (by decide +kernel) [1] (by decide +kernel) (by decide +kernel) misnumbered _ rfl
    differ 2 (by decide +kernel)
  have seen := congrArg (fun seen => seen.toOption.map Grid.values)
    (@Graph.view_congr _ _ _ .f32 same)
  revert seen
  decide +kernel

/-- Two nodes that compute one tensor, which goes out. -/
def rewritten : Graph where
  tensors :=
    [⟨"x", ⟨.f32, ⟨[1], #[.ofNat 5], by decide⟩⟩, false⟩, ⟨"t", Tensor.empty .f32, false⟩]
  nodes := [⟨0, "first", .abs, none, [0], [1]⟩, ⟨1, "second", .abs, none, [0], [1]⟩]
  inputs := [0]
  outputs := [1]

/-- Where a tensor is computed twice in a partition, its outputs name it twice. -/
theorem rewritten_outputs :
    ¬ ∀ (g : Graph) (i : Interpreter) (p : Partition), Engaged g i → .delegated p ∈ i.plan →
      g.Numbered → InOrder Node.inputs Node.outputs (g.nodesAt p.nodes) →
      (∀ node ∈ g.nodesAt p.nodes, ∀ id ∈ node.parameterInputs, id ∉ g.produced p.nodes) →
      p.outputs.Nodup := by
  intro always
  have numbered : rewritten.Numbered := by
    rintro (_ | _ | _) node found <;> cases found <;> rfl
  have distinct := always rewritten
    ((delegate Options.all.delegate).run (ofGraph rewritten .all)).state
    ⟨Substitution.delegateName, [0, 1], [0], [1, 1],
      ⟨[⟨.abs, .none, .none, [0], [1]⟩, ⟨.abs, .none, .none, [0], [1]⟩], [0, 1]⟩⟩
    (.delegate .all .start) (by decide +kernel) numbered (by decide +kernel) (by decide +kernel)
  revert distinct
  decide

end Interpreter

end TensorGraph
