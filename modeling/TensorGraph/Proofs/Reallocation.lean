import TensorGraph.Proofs.Building
import TensorGraph.Proofs.Delegation
import TensorGraph.Proofs.Settling

/-!
# Invoking without allocating again

After an interpreter has been allocated, inputs may be written, and some of them may serve as
parameters that decide on shapes. Invoking then goes on with the shapes that were found before.

For almost all nodes that does no harm: their shapes do not depend on values, or, for the extremum
along an axis, the kernel insists on the shape that the axis calls for. So after a successful
invocation these nodes are settled still, and allocating again would change nothing. The kernel that
weaves batches into space insists on less. Whether its outputs are right is therefore exactly what
it takes (`reallocation_agrees_iff`), and it is not granted (`stale_weave`).
-/

namespace TensorGraph

open Substitution (Descriptor Options)

/-! ## Extrema insist on their shapes -/

section Extremum

variable {g g' : Graph} {node : Node}

/-- The shape of a reduction depends on the axis and the input, once the types have been checked. -/
theorem reducedShape_of_axis {a axis : Nat} {shape input : Shape}
    (before : Builtin.reducedShape g node = .ok shape) (frame : Graph.SameFrame g g')
    (first : node.inputs[0]? = some a) (found : g'.shape a = .ok input)
    (resolved : Builtin.reductionAxis g' node = .ok axis) :
    Builtin.reducedShape g' node = .ok (input.eraseIdx axis) := by
  unfold Builtin.reducedShape at before ⊢
  generalize Builtin.declaredType? node = declaration at before ⊢
  cases declaration with
  | none =>
      simp only [bind_eq_ok, pure_eq_ok, ensure_eq_ok, Node.input_eq_ok, Node.output_eq_ok,
        frame.type_eq] at before ⊢
      obtain ⟨_, arity, output, out, type, typed, _, index, -⟩ := before
      exact ⟨_, arity, output, out, type, typed, (), index, axis, resolved, a, first, input, found,
        rfl⟩
  | some declared =>
      simp only [bind_eq_ok, pure_eq_ok, ensure_eq_ok, Node.input_eq_ok, Node.output_eq_ok,
        frame.type_eq] at before ⊢
      obtain ⟨_, arity, output, out, type, typed, _, index, _, same, -⟩ := before
      exact ⟨_, arity, output, out, type, typed, (), index, (), same, axis, resolved, a, first,
        input, found, rfl⟩

/-- Where the kernel has run, the output has the shape that the axis calls for. -/
theorem settled_of_argExtremum {t : Graph} {largest : Bool} (settled : node.Settled g)
    (operator : node.operator = .argMax ∨ node.operator = .argMin) (frame : Graph.SameFrame g t)
    (apart : ∀ id ∈ node.inputs, id ∉ node.outputs)
    (done : (Builtin.evaluateArgExtremum node largest).outcome t = (some (), g')) :
    node.Settled t := by
  obtain ⟨output, tensor, outputs, -, before⟩ := settled
  have rule (g : Graph) : Builtin.outputShape g node = Builtin.reducedShape g node := by
    rcases operator with operator | operator <;> rw [Builtin.outputShape, operator]
  simp only [Builtin.evaluateArgExtremum, bind_assoc, Builtin.inputType, Action.outcome_bind,
    Action.outcome_get, Action.proceed_some, Action.outcome_lift, Action.proceed_toOption,
    Node.output_eq_ok] at done
  obtain ⟨_, -, _, -, _, -, _, -, indexType, -, _, -, axis, resolved, output', out, done⟩ := done
  obtain rfl : output' = output := by simpa [outputs] using out.symm
  obtain ⟨grid, kernel, free, -, prepared, ran, -⟩ := Graph.computing_eq_some.mp done
  simp only [bind_eq_ok, pure_eq_ok, Node.input_eq_ok, Graph.view_eq_ok] at prepared
  obtain ⟨a, first, input, ⟨entry, found, read, -⟩, rfl⟩ := prepared
  have fits := (Kernel.argExtremum_eq_ok.mp ran).1.2.2
  -- the empty tensor that stands in for the output is not the input
  have other : output' ≠ a := by
    rintro rfl
    exact apart output' (List.mem_of_getElem? first) (by simp [outputs])
  rw [Graph.getElem?_put, if_neg other] at found
  have shape : t.shape a = .ok input.shape :=
    Graph.shape_eq_ok.mpr ⟨entry, found, by rw [read]; rfl⟩
  rw [rule] at before
  refine ⟨output', _, outputs, free, ?_⟩
  rw [rule, reducedShape_of_axis before frame first shape resolved]
  exact congrArg Except.ok fits.symm

end Extremum

/-! ## Settled nodes before and after -/

/-- No parameter is computed by a node. -/
def Graph.ParametersGiven (g : Graph) : Prop :=
  ∀ node ∈ g.nodes, ∀ id ∈ node.parameterInputs, id ∉ g.nodes.flatMap Node.outputs

instance (g : Graph) : Decidable g.ParametersGiven :=
  inferInstanceAs (Decidable (∀ node ∈ g.nodes, _))

section Settled

variable {g g' t : Graph} {nodes : List Node} {ids : List Nat}

/-- Where all kernels have run, nodes that were settled before some values were written are so
still, apart from those that weave batches. -/
theorem settled_of_evaluate (ordered : InOrder Node.inputs Node.outputs nodes)
    (given : ∀ node ∈ nodes, ∀ id ∈ node.parameterInputs, id ∉ nodes.flatMap Node.outputs)
    (before : ∀ node ∈ nodes, node.Settled g) (written : Graph.Fills ids g g')
    (done : (forM nodes Builtin.evaluate).outcome g' = (some (), t)) {node : Node}
    (inside : node ∈ nodes) (other : node.operator ≠ .batchToSpaceNd) : node.Settled g' := by
  by_cases reduction : node.operator = .argMax ∨ node.operator = .argMin
  · -- the kernel has run in a graph that differs from `g'` in outputs only
    obtain ⟨s, s', filled, ran, -⟩ := Action.forM_succeeds
      (R := Graph.Fills (nodes.flatMap Node.outputs)) done
      (fun _ mem => Builtin.evaluate_fills mem) inside
    have here : node.Settled s := by
      have frame := written.toSameFrame.trans filled.toSameFrame
      rcases reduction with operator | operator <;> rw [Builtin.evaluate, operator] at ran
      · exact settled_of_argExtremum (before node inside) (.inl operator) frame
          (ordered.own node inside) ran
      · exact settled_of_argExtremum (before node inside) (.inr operator) frame
          (ordered.own node inside) ran
    have same : node.SeesSame g' s := .of_fills filled (given node inside)
    exact here.of_seesSame same.symm fun id _ => (filled.shape_eq id).symm
  · -- nothing that has been written is a parameter of the node
    have none : node.parameterInputs = [] := by
      rw [Node.parameterInputs]
      grind
    have same : node.SeesSame g g' := by
      apply Node.SeesSame.of_fills written
      intro id read
      rw [none] at read
      cases read
    exact (before node inside).of_seesSame same fun id _ => written.shape_eq id

/-- If preparing settles nodes and running them ends with the same tensors with and without it, then
they were settled before. -/
theorem settled_of_same_tensors {r r' : Graph}
    (given : ∀ node ∈ nodes, ∀ id ∈ node.parameterInputs, id ∉ nodes.flatMap Node.outputs)
    (prepared : Graph.Touches (nodes.flatMap Node.outputs) g g')
    (after : ∀ node ∈ nodes, node.Settled g')
    (ran : Graph.Fills ids g r) (ran' : Graph.Fills ids g' r') (same : r'.tensors = r.tensors) :
    ∀ node ∈ nodes, node.Settled g := by
  have shapes (id : Nat) : g.shape id = g'.shape id :=
    calc g.shape id = r.shape id := (ran.shape_eq id).symm
      _ = r'.shape id := by
        rw [Graph.shape, Graph.shape, Graph.tensor, Graph.tensor, Graph.entry, Graph.entry, same]
      _ = g'.shape id := ran'.shape_eq id
  intro node inside
  apply (after node inside).of_seesSame
  · refine ⟨prepared.toSameFrame.symm, fun id _ => shapes id, fun id read => ?_⟩
    exact (prepared.elsewhere id (given node inside id read)).symm
  · exact fun id _ => shapes id

end Settled

namespace Interpreter

variable {g : Graph} {i i' : Interpreter}

/-! ## Delegated to engines only -/

/-- Interpreters of a graph with any history in which only engines have taken nodes over. -/
inductive Engaged (g : Graph) : Interpreter → Prop
  | start : Engaged g (ofGraph g Registry.all)
  | call {i : Interpreter} (call : Call) : Engaged g i → Engaged g (i.after call)
  | putInput {i : Interpreter} (input : Nat) (tensor : Tensor) :
      Engaged g i → Engaged g ((putInput input tensor).run i).state
  | delegate {i : Interpreter} (options : Options) :
      Engaged g i → Engaged g ((delegate options.delegate).run i).state

theorem Substituted.engaged (h : Substituted g i) : Engaged g i := by
  induction h with
  | start => exact .start
  | delegate options _ taken ih =>
      obtain ⟨-, rfl⟩ := Action.outcome_eq_some.mp taken
      exact .delegate options ih

/-- The interpreter has all operators, and its partitions hold descriptors of their nodes. -/
structure Equipped (g : Graph) (i : Interpreter) : Prop extends Covers g i where
  registry : i.registry = Registry.all
  captures : ∀ partition, .delegated partition ∈ i.plan →
    List.Forall₂ (fun id d => ∃ node, g.nodes[id]? = some node ∧ d.Captures node)
      partition.nodes partition.region.descriptors

theorem Equipped.start : Equipped g (ofGraph g Registry.all) :=
  ⟨.start, rfl, fun _ inside => absurd inside undelegated⟩

theorem Equipped.steady (h : Equipped g i) (steady : Steady i i') : Equipped g i' :=
  ⟨h.toCovers.steady steady, steady.registry.trans h.registry,
    by rw [steady.plan]; exact h.captures⟩

/-- Replacing an input changes neither plan nor registry. -/
theorem Equipped.putInput (h : Equipped g i) (input : Nat) (tensor : Tensor) :
    Equipped g ((putInput input tensor).outcome i).2 := by
  obtain ⟨-, registry, plan, -⟩ := putInput_keeps i input tensor
  exact ⟨h.toCovers.putInput input tensor, registry.trans h.registry,
    by rw [plan]; exact h.captures⟩

/-- What the engine takes over it has captured from the nodes. -/
theorem Equipped.delegate (h : Equipped g i) (options : Options) :
    Equipped g ((delegate options.delegate).outcome i).2 := by
  have covers := h.toCovers.delegate options.delegate
  have divided := options.delegate.outcome_divide (g := i.graph) i.plan
  rw [outcome_delegate] at covers ⊢
  cases found : options.delegate.handedOver i.graph i.plan with
  | none => exact h
  | some plan =>
      rw [found] at covers divided
      refine ⟨covers, h.registry, fun partition inside => ?_⟩
      rcases Delegate.delegated_of_divide divided inside with before | ⟨taken, -⟩
      · exact h.captures partition before
      · rw [← h.nodes]
        exact captures_of_partition? taken

/-- After any history with engines only, partitions hold descriptors of their nodes. -/
theorem Engaged.equipped (h : Engaged g i) : Equipped g i := by
  induction h with
  | start => exact .start
  | call call _ ih => exact ih.steady (call_keepsTo call _)
  | putInput input tensor _ ih => exact ih.putInput input tensor
  | delegate options _ ih => exact ih.delegate options

/-! ## Running as the host does -/

/-- The interpreter's plan does what the host does with the nodes in order. -/
structure AsHost (i : Interpreter) : Prop extends Sound i where
  typed : DelegatedTyped i.graph i.plan

theorem AsHost.steady (h : AsHost i) (steady : Steady i i') : AsHost i' :=
  ⟨h.toSound.steady steady, by rw [steady.plan]; exact h.typed.of_sameFrame steady.frame⟩

/-- An interpreter that can be invoked runs as the host does: the engine makes sure of the types. -/
theorem Equipped.asHost (h : Equipped g i) (invoked : invoke.outcome i = (some (), i')) :
    AsHost i := by
  obtain ⟨-, graph, done, -⟩ := outcome_invoke_eq_some.mp invoked
  rw [h.registry] at done
  have faithful : Faithful i.graph i.plan := by
    refine ⟨by rw [h.nodes, h.plan], fun partition inside => ?_⟩
    have runnable (d : Descriptor) (captured : d ∈ partition.region.descriptors) :
        d.Runnable i.graph := by
      obtain ⟨t, t', frame, evaluated⟩ := evaluates_of_plan done inside captured
      exact (runnable_of_evaluate evaluated).of_sameFrame frame.symm
    have both := (List.forall₂_and_left _ _).mpr ⟨runnable, (h.captures partition inside).flip⟩
    apply List.Forall₂.flip
    apply both.imp
    rintro d id ⟨runnable, node, found, captures⟩
    exact ⟨node, by rw [h.nodes, found], captures, runnable⟩
  exact ⟨⟨h.registry, faithful⟩, delegatedTyped_of_evaluate faithful done⟩

/-- Going through the ids of all nodes is going through the nodes. -/
theorem outcome_range {f : Nat → Action Graph Unit} {f' : Node → Action Graph Unit}
    (keeps : ∀ id, (f id).KeepsTo Graph.SameFrame)
    (same : ∀ {g : Graph} {id : Nat} {node : Node}, g.nodes[id]? = some node →
      (f id).outcome g = (f' node).outcome g) :
    (forM (List.range g.nodes.length) f).outcome g = (forM g.nodes f').outcome g := by
  refine Action.outcome_forM_congr (R := Graph.SameFrame) ?_ (fun id _ => keeps id) (.refl g)
  refine List.forall₂_iff_get.mpr ⟨List.length_range, fun id _ inside t frame => ?_⟩
  apply same
  rw [frame.nodes, List.get_eq_getElem, List.getElem_range]
  exact List.getElem?_eq_getElem inside

/-- The plan is prepared as the nodes are, one after the other. -/
theorem AsHost.prepare (h : AsHost i) : (forM i.plan (prepareStep i.registry)).outcome i.graph =
    (forM i.graph.nodes Builtin.prepare).outcome i.graph := by
  rw [h.registry, outcome_prepare_plan h.faithful h.typed]
  exact outcome_range Registry.all.prepare_keepsTo outcome_registry_prepare

theorem AsHost.evaluate (h : AsHost i) : (forM i.plan (evaluateStep i.registry)).outcome i.graph =
    (forM i.graph.nodes Builtin.evaluate).outcome i.graph := by
  rw [h.registry, outcome_evaluate_plan h.faithful h.typed]
  exact outcome_range Registry.all.evaluate_keepsTo outcome_registry_evaluate

/-- Allocating settles the nodes of a graph with one writer for each tensor. -/
theorem AsHost.settled (h : AsHost i) (ordered : InOrder Node.inputs Node.outputs i.graph.nodes)
    (single : i.graph.SingleWriters) (done : allocate.outcome i = (some (), i')) :
    ∀ node ∈ i.graph.nodes, node.Settled i'.graph := by
  obtain ⟨graph, prepared, rfl⟩ := outcome_allocate_eq_some.mp done
  rw [h.prepare] at prepared
  refine settled_of_prepare ordered ?_ prepared
  intro node inside other inside' id written written' shape shape' found found'
  rw [single.eq_of_output inside inside' written written', found', Except.ok.injEq] at found
  exact found.symm

/-- Allocating changes nothing where all nodes are settled. -/
theorem AsHost.allocate_of_settled (h : AsHost i) (allocated : i.allocated = true)
    (settled : ∀ node ∈ i.graph.nodes, node.Settled i.graph) :
    allocate.outcome i = (some (), i) := by
  refine outcome_allocate_eq_some.mpr ⟨i.graph, ?_, by rw [← allocated]⟩
  rw [h.prepare]
  exact prepare_of_settled settled

/-- Allocating touches nothing but what nodes compute. -/
theorem AsHost.touches (h : AsHost i) (done : allocate.outcome i = (some (), i')) :
    Graph.Touches (i.graph.nodes.flatMap Node.outputs) i.graph i'.graph := by
  obtain ⟨graph, prepared, rfl⟩ := outcome_allocate_eq_some.mp done
  rw [h.prepare] at prepared
  exact (prepare_touches i.graph.nodes).related prepared

theorem AsHost.fills (h : AsHost i) (done : invoke.outcome i = (some (), i')) :
    Graph.Fills (i.graph.nodes.flatMap Node.outputs) i.graph i'.graph := by
  obtain ⟨-, graph, evaluated, rfl⟩ := outcome_invoke_eq_some.mp done
  have keeps : (forM i.graph.nodes Builtin.evaluate).KeepsTo
      (Graph.Fills (i.graph.nodes.flatMap Node.outputs)) :=
    .forM fun _ inside => Builtin.evaluate_fills inside
  rw [h.evaluate] at evaluated
  exact keeps.related evaluated

/-! ## Writing inputs -/

def Call.Writes : Call → Prop
  | setInput _ _ _ => True
  | resizeInput _ _ | allocate | invoke => False

instance : DecidablePred Call.Writes
  | .setInput _ _ _ => inferInstanceAs (Decidable True)
  | .resizeInput _ _ => inferInstanceAs (Decidable False)
  | .allocate => inferInstanceAs (Decidable False)
  | .invoke => inferInstanceAs (Decidable False)

/-- Writing inputs fills tensors and leaves an interpreter allocated that was. -/
theorem fills_writes {writes : List Call} (only : ∀ call ∈ writes, call.Writes) :
    Graph.Fills i.graph.inputs i.graph (i.afterAll writes).graph ∧
      (i.afterAll writes).allocated = i.allocated := by
  induction writes generalizing i with
  | nil => exact ⟨.refl _, rfl⟩
  | cons call writes ih =>
      cases call with
      | setInput input type values =>
          have first := (fillInput_fills i.graph input type values).mono (named_subset _ _)
          have after_eq : i.after (.setInput input type values) =
              { i with graph := ((fillInput input type values).outcome i.graph).2 } := by
            rw [after, Call.action, run_setInput]
            rfl
          generalize ((fillInput input type values).outcome i.graph).2 = graph at first after_eq
          have rest := @ih { i with graph } fun call inside =>
            only call (List.mem_cons_of_mem _ inside)
          rw [first.inputs] at rest
          rw [afterAll, List.foldl_cons, after_eq]
          exact ⟨first.trans rest.1, rest.2⟩
      | resizeInput input shape => exact absurd (only _ List.mem_cons_self) id
      | allocate => exact absurd (only _ List.mem_cons_self) id
      | invoke => exact absurd (only _ List.mem_cons_self) id

/-! ## Invoking with and without allocating again -/

/-- Allocating the interpreter and invoking it succeeds, and ends with the tensors that invoking it
right away ends with. -/
def AgreesReallocated (i : Interpreter) : Prop :=
  (allocate.run i).ending = .ok () ∧ (invoke.run (i.after .allocate)).ending = .ok () ∧
    ((i.after .allocate).after .invoke).graph.tensors = (i.after .invoke).graph.tensors

/-- After an invocation has succeeded, allocating again makes no difference exactly if all nodes are
settled. -/
theorem AsHost.agreesReallocated_iff (h : AsHost i)
    (ordered : InOrder Node.inputs Node.outputs i.graph.nodes) (given : i.graph.ParametersGiven)
    (single : i.graph.SingleWriters) (invoked : (invoke.run i).ending = .ok ()) :
    i.AgreesReallocated ↔ ∀ node ∈ i.graph.nodes, node.Settled i.graph := by
  have invoked := outcome_of_answer .invoke invoked
  constructor
  · rintro ⟨allocates, invokes, same⟩
    have allocates := outcome_of_answer .allocate allocates
    have invokes := outcome_of_answer .invoke invokes
    have h' : AsHost (i.after .allocate) := h.steady (steady_after i .allocate)
    have filled := h'.fills invokes
    rw [(steady_after i .allocate).frame.nodes] at filled
    exact settled_of_same_tensors given (h.touches allocates) (h.settled ordered single allocates)
      (h.fills invoked) filled same
  · intro settled
    have allocated := (outcome_invoke_eq_some.mp invoked).1
    obtain ⟨ending, state⟩ := Action.outcome_eq_some.mp (h.allocate_of_settled allocated settled)
    have unchanged : i.after .allocate = i := state
    refine ⟨ending, ?_, by rw [unchanged]⟩
    rw [unchanged]
    exact (Action.outcome_eq_some.mp invoked).1

/-- An interpreter of a graph that is in dependency order and computes no parameters is allocated,
and then inputs are written. If it can be invoked, then it might as well be allocated again before,
exactly if the outputs of the nodes that weave batches have the shapes that they would be given.
Other nodes notice when their parameters have changed. -/
theorem reallocation_agrees_iff {calls : List BuilderCall} {writes : List Call}
    (ordered : InOrder Node.inputs Node.outputs (Graph.build calls).nodes)
    (given : (Graph.build calls).ParametersGiven) (engaged : Engaged (Graph.build calls) i)
    (allocated : (allocate.run i).ending = .ok ()) (only : ∀ call ∈ writes, call.Writes) :
    let s := (i.after .allocate).afterAll writes
    (invoke.run s).ending = .ok () →
      (s.AgreesReallocated ↔ ∀ node ∈ (Graph.build calls).nodes,
        node.operator = .batchToSpaceNd → node.Settled s.graph) := by
  intro s invoked
  have allocates := outcome_of_answer .allocate allocated
  have invokes := outcome_of_answer .invoke invoked
  have steady : Steady i s :=
    trans_of Steady (steady_after i .allocate) (steady_afterAll (i.after .allocate) writes)
  have nodes : i.graph.nodes = (Graph.build calls).nodes := engaged.equipped.nodes
  have nodes' : s.graph.nodes = (Graph.build calls).nodes := steady.frame.nodes.trans nodes
  have host : AsHost s := (engaged.equipped.steady steady).asHost invokes
  rw [host.agreesReallocated_iff (by rwa [nodes']) (by rwa [Graph.ParametersGiven, nodes'])
    (by rw [Graph.SingleWriters, nodes']; exact Graph.singleWriters_build calls) invoked, nodes']
  constructor
  · exact fun settled node inside _ => settled node inside
  · intro woven node inside
    by_cases weaves : node.operator = .batchToSpaceNd
    · exact woven node inside weaves
    · -- other nodes compare the shape of their output while they are evaluated
      have before := (host.steady steady.symm).settled (by rwa [nodes])
        (by rw [Graph.SingleWriters, nodes]; exact Graph.singleWriters_build calls) allocates
      rw [nodes] at before
      have written := (fills_writes (i := i.after .allocate) only).1
      obtain ⟨-, graph, evaluated, -⟩ := outcome_invoke_eq_some.mp invokes
      rw [host.evaluate, nodes'] at evaluated
      exact settled_of_evaluate ordered given before written evaluated inside weaves

/-- A node that weaves batches into space, with block sizes and crops among the inputs. -/
def weaving : List BuilderCall :=
  [.addInput "x" .f32 [4, 1, 1, 1], .addInput "block" .i32 [2], .addInput "crops" .i32 [2, 2],
    .addTensor "y" .f32, .addNode "weave" .batchToSpaceNd none [0, 1, 2] [3], .setOutputs [3]]

/-- The weaving node has been handed over, and the block sizes are `2` and `2`. -/
def weaver : Interpreter :=
  (((delegate Options.all.delegate).run (ofGraph (Graph.build weaving) .all)).state).afterAll
    [.setInput 0 .f32 ((Array.range 4).map fun n => Numeric.Floating.ofNat (n + 1)),
      .setInput 1 .i32 #[2, 2]]

theorem engaged_weaver : Engaged (Graph.build weaving) weaver :=
  .call _ (.call _ (.delegate .all .start))

/-- As long as the block sizes stay, nothing is wrong. -/
theorem weaver_agrees :
    let s := (weaver.after .allocate).afterAll [.setInput 1 .i32 #[2, 2]]
    (invoke.run s).ending = .ok () ∧ s.AgreesReallocated := by
  refine ⟨by decide +kernel, (reallocation_agrees_iff ?_ ?_ engaged_weaver ?_ ?_ ?_).mpr ?_⟩
  all_goals decide +kernel

/-- Other block sizes of the same product get past the kernel, which then leaves two positions of
the output without a value. -/
theorem stale_weave :
    ¬ ∀ (calls : List BuilderCall) (i : Interpreter) (writes : List Call),
      InOrder Node.inputs Node.outputs (Graph.build calls).nodes →
      (Graph.build calls).ParametersGiven → Engaged (Graph.build calls) i →
      (allocate.run i).ending = .ok () → (∀ call ∈ writes, call.Writes) →
      (invoke.run ((i.after .allocate).afterAll writes)).ending = .ok () →
      ((i.after .allocate).afterAll writes).AgreesReallocated := by
  intro always
  obtain ⟨-, -, same⟩ := always weaving weaver [.setInput 1 .i32 #[4, 1]] (by decide +kernel)
    (by decide +kernel) engaged_weaver (by decide +kernel) (by decide +kernel) (by decide +kernel)
  have shapes := congrArg (List.map fun entry => entry.tensor.shape) same
  revert shapes
  decide +kernel

end Interpreter

end TensorGraph
