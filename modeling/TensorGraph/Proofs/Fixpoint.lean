import TensorGraph.Proofs.History

/-!
# A finished invocation is a fixpoint

Where nodes are in dependency order and no tensor is computed twice, an invocation that has
succeeded leaves every node as if it had just been evaluated: what it has read has not changed
since, and neither has what it has written. Evaluating it again therefore changes nothing
(`evaluate_walk_again`), and neither does invoking again (`Interpreter.invoke_fixpoint`).

Most kernels overwrite their outputs, and so do the same again. Weaving batches into space may leave
places of the output alone, but what it has filled it fills with the same values once more
(`Kernel.repeats_batchToSpace`).
-/

namespace TensorGraph

open Substitution (Descriptor Options)

/-! ## Kernels that run again -/

/-- Where the kernel succeeds, it does the same once more with the output that it has filled. -/
def Grid.Repeats {α β : Type} (kernel : Grid β → Written α β) : Prop :=
  ∀ output a, (kernel output).1 = .ok a → kernel (kernel output).2 = kernel output

/-- Weaving once more moves the same values to the same places. -/
theorem Kernel.repeats_batchToSpace {α : Type} (block : List Nat) (crops : List (Nat × Nat))
    (input : Grid α) :
    Grid.Repeats fun output => output.overwrite (batchToSpace block crops input output) := by
  intro output a done
  dsimp only at done ⊢
  cases found : batchToSpace block crops input output with
  | error fault =>
      rw [found] at done
      cases done
  | ok filled =>
      show filled.overwrite (batchToSpace block crops input filled) = (.ok (), filled)
      rw [batchToSpace_again found]
      rfl

/-! ## Nodes that are evaluated again -/

section Nodes

variable {g g' t : Graph} {id : Nat} {node : Node} {nodes : List Node}

/-- A kernel that repeats itself leaves a tensor alone that it has filled, if it finds the same
operands again. -/
theorem Graph.computing_again {α : Type} {type : ElementType} {a : α}
    {prepare : Graph → Except Fault (Grid type.Element → Written α type.Element)}
    (reads : prepare (g'.put id (Tensor.empty type)) = prepare (g.put id (Tensor.empty type)))
    (repeats : ∀ kernel, prepare (g.put id (Tensor.empty type)) = .ok kernel →
      Grid.Keeps kernel ∧ Grid.Repeats kernel)
    (done : (computing id type prepare).outcome g = (some a, t))
    (written : g'.tensors[id]? = t.tensors[id]?) :
    (computing id type prepare).outcome g' = (some a, g') := by
  obtain ⟨grid, kernel, free, addressable, prepared, ran, rfl⟩ := computing_eq_some.mp done
  obtain ⟨keeps, repeats⟩ := repeats kernel prepared
  have again := repeats grid a ran
  have filled : g'.changeable id = .ok ⟨type, (kernel grid).2⟩ := by
    obtain ⟨entry, found, constant, -⟩ := changeable_eq_ok.mp free
    rw [getElem?_put, if_pos rfl, found, Option.map_some] at written
    exact changeable_eq_ok.mpr ⟨_, written, constant, rfl⟩
  refine computing_eq_some.mpr ⟨(kernel grid).2, kernel, filled, ?_, reads.trans prepared, ?_, ?_⟩
  · rw [keeps]
    exact addressable
  · rw [again]
    exact ran
  · rw [again]
    exact put_self filled

variable (same : node.ReadsSame g g') (apart : ∀ id ∈ node.inputs, id ∉ node.outputs)

include same apart

/-- A node that weaves batches changes nothing if it is evaluated again, even if its output has
another shape than its rule gives it. -/
theorem evaluateBatchToSpace_again (operator : node.operator = .batchToSpaceNd)
    (done : (Builtin.evaluateBatchToSpace node).outcome g = (some (), t))
    (written : node.WritesSame t g') :
    (Builtin.evaluateBatchToSpace node).outcome g' = (some (), g') := by
  have parameters : node.parameterInputs = node.inputs.drop 1 := by
    rw [Node.parameterInputs, operator]
  simp only [Builtin.evaluateBatchToSpace, Builtin.inputType, Builtin.evaluateUnary, bind_assoc,
    Action.outcome_bind, Action.outcome_get, Action.proceed_some, Action.outcome_lift,
    Action.proceed_toOption] at done ⊢
  obtain ⟨a, first, type, typed, found, read, output, out, done⟩ := done
  have out' := Node.output_eq_ok.mp out
  refine ⟨a, first, type, by rw [same.frame.type_eq, typed], found, ?_, output, out, ?_⟩
  · rw [Builtin.batchToSpaceParameters_congr same.seesSame parameters, read]
  · refine Graph.computing_again (same.view_bind apart out' 0 _ _) ?_ done (written output out')
    intro kernel prepared
    simp only [bind_eq_ok, pure_eq_ok] at prepared
    obtain ⟨_, -, input, -, rfl⟩ := prepared
    exact ⟨Kernel.keeps_batchToSpace _ _ input, Kernel.repeats_batchToSpace _ _ input⟩

/-- A node that has been evaluated changes nothing if it is evaluated again, as long as what it has
read and written stays as it is. -/
theorem Builtin.evaluate_again (one : ∃ output, node.outputs = [output])
    (done : (evaluate node).outcome g = (some (), t)) (written : node.WritesSame t g') :
    (evaluate node).outcome g' = (some (), g') := by
  by_cases weaves : node.operator = .batchToSpaceNd
  · simp only [evaluate, weaves] at done ⊢
    exact evaluateBatchToSpace_again same apart weaves done written
  · obtain ⟨t', again, written'⟩ :=
      evaluate_follows same apart (fun weaves' => absurd weaves' weaves) () t done
    have filled := (evaluate_keepsTo node).related again
    have unchanged : t' = g' := by
      apply filled.toTouches.eq
      intro id inside
      have out := Node.first_output one inside
      rw [written' id out, written id out]
    rw [unchanged] at again
    exact again

omit same

/-- What a node computes from its inputs it computes whatever its output held before. -/
theorem Builtin.evaluate_restores (one : ∃ output, node.outputs = [output])
    (settled : node.operator = .batchToSpaceNd → node.Settled g)
    (fixed : (evaluate node).outcome g = (some (), g)) (filled : Graph.Fills node.outputs g g') :
    (evaluate node).outcome g' = (some (), g) := by
  have same : node.ReadsSame g g' := ⟨filled.toSameFrame,
    fun id read => filled.elsewhere id (apart id read), fun id _ => filled.shape_eq id⟩
  obtain ⟨t, done, written⟩ := evaluate_follows same apart settled () g fixed
  have refilled := filled.trans ((evaluate_keepsTo node).related done)
  have unchanged : t = g := by
    apply refilled.toTouches.eq
    intro id inside
    exact written id (Node.first_output one inside)
  rw [unchanged] at done
  exact done

omit apart

/-- After a walk through nodes in dependency order, no two of which compute the same tensor, every
node is as if it had just been evaluated. -/
theorem evaluate_walk_again (ordered : InOrder Node.inputs Node.outputs nodes)
    (single : nodes.Pairwise fun a b => ∀ id ∈ a.outputs, id ∉ b.outputs)
    (one : ∀ node ∈ nodes, ∃ output, node.outputs = [output])
    (done : (forM nodes Builtin.evaluate).outcome g = (some (), t)) :
    ∀ node ∈ nodes, (Builtin.evaluate node).outcome t = (some (), t) := by
  induction nodes generalizing g with
  | nil => simp
  | cons node nodes ih =>
      rw [List.forM_cons, Action.outcome_bind] at done
      obtain ⟨⟨⟩, u, first, rest⟩ := Action.proceed_eq_some done
      obtain ⟨apart, single⟩ := List.pairwise_cons.mp single
      have filled := (Builtin.evaluate_keepsTo node).related first
      have filled' : Graph.Fills (nodes.flatMap Node.outputs) u t :=
        (Action.KeepsTo.forM fun _ inside => Builtin.evaluate_fills inside).related rest
      -- neither what the first node reads nor what it writes is written by the others
      have same : node.ReadsSame g t := by
        refine ⟨filled.toSameFrame.trans filled'.toSameFrame, ?_, ?_⟩
        · intro id read
          rw [filled'.elsewhere id (ordered.head_later id read),
            filled.elsewhere id (ordered.own node List.mem_cons_self id read)]
        · intro id _
          rw [filled'.shape_eq, filled.shape_eq]
      have written : node.WritesSame u t := by
        intro id out
        apply filled'.elsewhere
        intro later
        obtain ⟨other, inside, written⟩ := List.mem_flatMap.mp later
        exact apart other inside id (List.mem_of_getElem? out) written
      intro other inside
      rcases List.mem_cons.mp inside with rfl | later
      · exact Builtin.evaluate_again same (ordered.own _ List.mem_cons_self)
          (one _ List.mem_cons_self) first written
      · have one' := fun a inside => one a (List.mem_cons_of_mem _ inside)
        exact ih ordered.tail single one' rest other later

end Nodes

namespace Interpreter

variable {g : Graph} {i i' : Interpreter}

/-! ## One output each -/

/-- Allocating succeeds on nodes with one output only. -/
theorem Equipped.one_output (h : Equipped g i) (done : allocate.outcome i = (some (), i')) :
    ∀ node ∈ g.nodes, ∃ output, node.outputs = [output] := by
  intro node inside
  obtain ⟨task, listed, serves⟩ := exists_right_of_forall₂ h.tasks inside
  obtain ⟨graph, prepared, -⟩ := outcome_allocate_eq_some.mp done
  rw [outcome_prepare_tasks] at prepared
  cases task with
  | engine d =>
      obtain ⟨output, outputs, -⟩ := Descriptor.Captures.one_output serves
      exact ⟨output, outputs⟩
  | host id =>
      obtain ⟨t, t', frame, ran, -⟩ := Action.forM_succeeds (R := Graph.SameFrame) prepared
        (fun task _ _ => task.prepare_touches.toSameFrame) listed
      have found : t.nodes[id]? = some node := by
        rw [frame.nodes, h.nodes]
        exact serves
      rw [Task.prepare, h.registry, outcome_registry_prepare found] at ran
      obtain ⟨output, -, outputs, -⟩ := Builtin.prepare_eq_some ran
      exact ⟨output, outputs⟩

/-- The nodes of an interpreter that is allocated have one output each. -/
theorem Engaged.one_output (h : Engaged g i) (allocated : i.allocated = true) :
    ∀ node ∈ g.nodes, ∃ output, node.outputs = [output] := by
  induction h with
  | start => cases allocated
  | @call i call before ih =>
      rcases allocated_after allocated with rfl | earlier
      · rw [after_eq, Call.action, outcome_allocate] at allocated
        cases prepared : (forM i.plan (prepareStep i.registry)).outcome i.graph with
        | mk value graph =>
            cases value with
            | some _ =>
                exact before.equipped.one_output
                  (outcome_allocate_eq_some.mpr ⟨graph, prepared, rfl⟩)
            | none =>
                -- a failure leaves it open whether the interpreter has been allocated before
                rw [prepared] at allocated
                exact ih allocated
      · exact ih earlier
  | @putInput i input tensor _ ih =>
      obtain ⟨-, -, -, kept⟩ := putInput_keeps i input tensor
      exact ih (kept.symm.trans allocated)
  | @delegate i options _ ih =>
      have state : ((Interpreter.delegate options.delegate).run i).state =
          ((Interpreter.delegate options.delegate).outcome i).2 := rfl
      rw [state, outcome_delegate] at allocated
      split at allocated
      · cases allocated
      · exact ih allocated

/-! ## Invoking again -/

/-- An invocation that succeeds leaves every node as if it had just been evaluated. -/
theorem Engaged.evaluate_again (h : Engaged g i)
    (ordered : InOrder Node.inputs Node.outputs g.nodes) (single : g.SingleWriters)
    (invoked : invoke.outcome i = (some (), i')) :
    ∀ node ∈ g.nodes, (Builtin.evaluate node).outcome i'.graph = (some (), i'.graph) := by
  have host : AsHost i := h.equipped.asHost invoked
  obtain ⟨allocated, graph, evaluated, rfl⟩ := outcome_invoke_eq_some.mp invoked
  rw [host.evaluate, h.equipped.nodes] at evaluated
  exact evaluate_walk_again ordered single (h.one_output allocated) evaluated

/-- A descriptor that the plan runs does with the graph what the host does with some node. -/
theorem AsHost.exists_node (h : AsHost i) {partition : Partition}
    (inside : .delegated partition ∈ i.plan) {d : Descriptor}
    (captured : d ∈ partition.region.descriptors) :
    ∃ node ∈ i.graph.nodes,
      d.evaluate.outcome i.graph = (Builtin.evaluate node).outcome i.graph := by
  obtain ⟨id, -, replaces, typed⟩ :=
    exists_right_of_forall₂ (h.faithful.descriptors h.typed inside) captured
  have same := outcome_evaluateDescriptor_eq replaces typed
  obtain ⟨node, found, -⟩ := replaces
  rw [outcome_registry_evaluate found] at same
  exact ⟨node, List.mem_of_getElem? found, same⟩

/-- A graph in dependency order has been invoked, whatever engines have taken over and whatever has
happened before. Evaluating any node again then changes nothing, be it by the host or by the engine.
So nodes hold what they compute from their inputs, whatever their outputs held before; where batches
are woven, that takes an output of the right shape. Invoking again changes nothing either. -/
theorem invoke_fixpoint {calls : List BuilderCall}
    (ordered : InOrder Node.inputs Node.outputs (Graph.build calls).nodes)
    (engaged : Engaged (Graph.build calls) i) (invoked : (invoke.run i).ending = .ok ()) :
    let s := i.after .invoke
    (∀ id < s.graph.nodes.length,
      (s.registry.evaluate id).outcome s.graph = (some (), s.graph)) ∧
    (∀ partition, .delegated partition ∈ s.plan → ∀ d ∈ partition.region.descriptors,
      d.evaluate.outcome s.graph = (some (), s.graph)) ∧
    (∀ node ∈ s.graph.nodes, (node.operator = .batchToSpaceNd → node.Settled s.graph) →
      ∀ t, Graph.Fills node.outputs s.graph t →
        (Builtin.evaluate node).outcome t = (some (), s.graph)) ∧
    invoke.outcome s = (some (), s) := by
  intro s
  have invokes : invoke.outcome i = (some (), s) := outcome_of_answer .invoke invoked
  obtain ⟨allocated, graph, -, after⟩ := outcome_invoke_eq_some.mp invokes
  have steady : Steady i s := steady_after i .invoke
  have host : AsHost s := (engaged.equipped.asHost invokes).steady steady
  have nodes : s.graph.nodes = (Graph.build calls).nodes := (engaged.equipped.steady steady).nodes
  -- the engines act as the host does, so that all parts come down to the nodes evaluated again
  have again := engaged.evaluate_again ordered (Graph.singleWriters_build calls) invokes
  have one := engaged.one_output allocated
  rw [← nodes] at ordered again one
  refine ⟨?_, ?_, ?_, ?_⟩
  · intro id inside
    rw [host.registry, outcome_registry_evaluate (List.getElem?_eq_getElem inside)]
    exact again _ (List.getElem_mem inside)
  · intro partition inside d captured
    obtain ⟨node, listed, same⟩ := host.exists_node inside captured
    rw [same]
    exact again node listed
  · intro node inside settled t filled
    exact Builtin.evaluate_restores (ordered.own node inside) (one node inside) settled
      (again node inside) filled
  · have allocated' : s.allocated = true :=
      (congrArg Interpreter.allocated after).symm.trans allocated
    refine outcome_invoke_eq_some.mpr ⟨allocated', s.graph, ?_, rfl⟩
    rw [host.evaluate]
    exact Action.outcome_forM_fixed again

/-- What has been woven is rectified, which the engine can not do. -/
def rectifying : List BuilderCall :=
  weaving ++ [.addTensor "z" .f32, .addNode "rectify" .relu none [3] [4]]

/-- The weaving node has been handed over, and the block sizes have changed since allocating. -/
def rectifier : Interpreter :=
  (((delegate Options.all.delegate).run (ofGraph (Graph.build rectifying) .all)).state).afterAll
    [.setInput 0 .f32 #[.ofNat 1, .ofNat 2, .ofNat 3, .ofNat 4], .setInput 1 .i32 #[2, 2],
      .allocate, .setInput 1 .i32 #[4, 1]]

theorem engaged_rectifier : Engaged (Graph.build rectifying) rectifier :=
  .call _ (.call _ (.call _ (.call _ (.delegate .all .start))))

/-- The weaving node leaves places of its output alone then, and still repeats itself. -/
theorem rectifier_again :
    let s := rectifier.after .invoke
    (invoke.run rectifier).ending = .ok () ∧
      (∃ node ∈ s.graph.nodes, node.operator = .batchToSpaceNd ∧ ¬ node.Settled s.graph) ∧
      invoke.outcome s = (some (), s) := by
  intro s
  have invoked : (invoke.run rectifier).ending = .ok () := by decide +kernel
  have fixpoint := invoke_fixpoint (by decide +kernel) engaged_rectifier invoked
  exact ⟨invoked, by decide +kernel, fixpoint.2.2.2⟩

end Interpreter

end TensorGraph
