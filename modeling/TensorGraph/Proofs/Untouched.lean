import TensorGraph.Proofs.Tasks

/-!
# What a run leaves alone

While a graph is run, its constants are never touched, and of the other tensors each call changes
only some (`Call.targets`): writing or shaping an input changes that input, allocating and invoking
change what nodes compute. No call changes an element type, and invoking changes no shape. That is
so however nodes have been handed over, and whether calls succeed or not (`run_frame`).

That constants are not among the tensors that calls change is due to the builder, which lets no node
compute one (`Graph.variesFreely_build`).
-/

namespace TensorGraph

open Substitution (Options)

namespace Graph

/-! ## Constants of built graphs -/

/-- The tensors that may change: inputs, and what nodes compute. -/
def varying (g : Graph) : List Nat := g.inputs ++ g.nodes.flatMap Node.outputs

/-- No varying tensor is a constant. -/
def VariesFreely (g : Graph) : Prop := ∀ id ∈ g.varying, ∃ tensor, g.changeable id = .ok tensor

section Building

variable {g g' : Graph} {entry : TensorEntry}

theorem changeable_append {inputs : List Nat} {id : Nat} {tensor : Tensor}
    (free : g.changeable id = .ok tensor) :
    Graph.changeable { g with tensors := g.tensors ++ [entry], inputs } id = .ok tensor := by
  obtain ⟨old, found, constant, same⟩ := changeable_eq_ok.mp free
  refine changeable_eq_ok.mpr ⟨old, ?_, constant, same⟩
  exact (List.getElem?_append_left (List.getElem?_eq_some_iff.mp found).1).trans found

/-- No call makes a constant vary: constants are neither taken as inputs nor written. -/
theorem VariesFreely.grows (h : g.VariesFreely) (grows : Grows g g') : g'.VariesFreely := by
  cases grows with
  | nothing | outputs ids known => exact h
  | tensor entry =>
      intro id varies
      obtain ⟨tensor, free⟩ := h id varies
      exact ⟨tensor, changeable_append free⟩
  | input entry constant =>
      intro id varies
      have varies : id ∈ g.varying ∨ id = g.tensors.length := by
        simp only [varying, List.mem_append, List.mem_singleton] at varies ⊢
        tauto
      rcases varies with before | rfl
      · obtain ⟨tensor, free⟩ := h id before
        exact ⟨tensor, changeable_append free⟩
      · refine ⟨entry.tensor, changeable_eq_ok.mpr ⟨entry, ?_, constant, rfl⟩⟩
        exact List.getElem?_concat_length
  | node node place known apart free fresh =>
      intro id varies
      have varies : id ∈ g.varying ∨ id ∈ node.outputs := by
        simp only [varying, List.flatMap_append, List.flatMap_singleton,
          List.mem_append] at varies ⊢
        tauto
      rcases varies with before | written
      · exact h id before
      · exact free id written

/-- In a built graph no constant is an input or computed by a node. -/
theorem variesFreely_build (calls : List BuilderCall) : (build calls).VariesFreely :=
  build_of_grows (fun _ varies => absurd varies List.not_mem_nil) VariesFreely.grows calls

/-- So constants are not among what varies. -/
theorem VariesFreely.not_mem (h : g.VariesFreely) {id : Nat} (found : g.tensors[id]? = some entry)
    (constant : entry.constant = true) : id ∉ g.varying := by
  intro varies
  obtain ⟨tensor, free⟩ := h id varies
  obtain ⟨entry', found', constant', -⟩ := changeable_eq_ok.mp free
  cases found.symm.trans found'
  rw [constant] at constant'
  cases constant'

end Building

end Graph

namespace Interpreter

/-! ## One call -/

/-- The tensors that a call may change: the input that it names, or what nodes compute. -/
def Call.targets (g : Graph) : Call → List Nat
  | setInput input _ _ | resizeInput input _ => g.inputs[input]?.toList
  | allocate | invoke => g.nodes.flatMap Node.outputs

/-- A call changes only what may vary. -/
theorem Call.targets_subset (g : Graph) (call : Call) : call.targets g ⊆ g.varying := by
  cases call with
  | setInput input _ _ | resizeInput input _ =>
      exact List.Subset.trans (named_subset g input) (List.subset_append_left _ _)
  | allocate | invoke => exact List.subset_append_right _ _

theorem after_eq (i : Interpreter) (call : Call) : i.after call = (call.action.outcome i).2 := rfl

section Calls

variable {g : Graph} {i : Interpreter}

/-- The tasks of the plan compute what the nodes compute. -/
theorem Equipped.outputs (h : Equipped g i) :
    (i.plan.flatMap Step.tasks).flatMap (Task.outputs i.graph) =
      i.graph.nodes.flatMap Node.outputs := by
  rw [Task.outputs_of_nodes h.nodes, h.nodes]
  have tasks := h.tasks
  generalize i.plan.flatMap Step.tasks = steps, g.nodes = nodes at tasks ⊢
  induction tasks with
  | nil => rfl
  | cons serves _ ih => rw [List.flatMap_cons, List.flatMap_cons, serves.outputs_eq, ih]

/-- Invoking fills what nodes compute and changes no shape. -/
theorem Equipped.invoke_fills (h : Equipped g i) :
    Graph.Fills (i.graph.nodes.flatMap Node.outputs) i.graph (i.after .invoke).graph := by
  rw [after_eq, Call.action, outcome_invoke]
  split
  · rw [outcome_evaluate_tasks, ← h.outputs]
    exact evaluate_tasks_fill _
  · exact .refl i.graph

/-- A call touches nothing but the input that it names or what nodes compute. -/
theorem Equipped.touches_after (h : Equipped g i) (call : Call) :
    Graph.Touches (call.targets i.graph) i.graph (i.after call).graph := by
  cases call with
  | setInput input type values =>
      simp only [after, Call.action, run_setInput]
      exact (fillInput_fills i.graph input type values).toTouches
  | resizeInput input shape =>
      have touched := shapeInput_touches i.graph input shape
      rw [Action.outcome] at touched
      simp only [after, Call.action, run_resizeInput]
      generalize (shapeInput input shape).run i.graph = run at touched ⊢
      rcases run with ⟨_ | _, graph, events⟩ <;> exact touched
  | allocate =>
      have touched : Graph.Touches (i.graph.nodes.flatMap Node.outputs) i.graph
          ((forM i.plan (prepareStep i.registry)).outcome i.graph).2 := by
        rw [outcome_prepare_tasks, ← h.outputs]
        exact prepare_tasks_touch _
      rw [after_eq, Call.action, outcome_allocate]
      generalize (forM i.plan (prepareStep i.registry)).outcome i.graph = o at touched ⊢
      rcases o with ⟨_ | _, graph⟩ <;> exact touched
  | invoke => exact h.invoke_fills.toTouches

/-! ## Whole runs -/

/-- Calls touch nothing but inputs and what nodes compute. -/
theorem Equipped.touches_afterAll (h : Equipped g i) (calls : List Call) :
    Graph.Touches i.graph.varying i.graph (i.afterAll calls).graph := by
  induction calls generalizing i with
  | nil => exact .refl i.graph
  | cons call calls ih =>
      have steady := steady_after i call
      have rest := ih (h.steady steady)
      rw [Graph.varying, steady.frame.inputs, steady.frame.nodes] at rest
      exact ((h.touches_after call).mono (call.targets_subset i.graph)).trans rest

/-- Replacing an input changes that input alone. -/
theorem putInput_elsewhere (i : Interpreter) (input : Nat) (tensor : Tensor) :
    let graph := ((putInput input tensor).outcome i).2.graph
    graph.inputs = i.graph.inputs ∧
      ∀ id : Nat, id ∉ i.graph.inputs → graph.tensors[id]? = i.graph.tensors[id]? := by
  unfold putInput onGraph Graph.replace
  simp only [Action.outcome_bind, Action.outcome_get, Action.proceed_some, Action.outcome_lift,
    Action.outcome_onPart]
  cases named : i.inputId input with
  | error fault => exact ⟨rfl, fun _ _ => rfl⟩
  | ok id =>
      cases free : i.graph.changeable id with
      | error fault => simp [free]
      | ok old =>
          simp only [free, toOption_ok, Action.proceed_some, Action.outcome_set]
          refine ⟨rfl, fun other outside => ?_⟩
          rw [Graph.getElem?_put, if_neg]
          rintro rfl
          exact outside (List.mem_of_getElem? (require_eq_ok.mp named))

/-- With any history, an interpreter holds the tensors of its graph as they were, apart from the
varying ones. -/
theorem Engaged.elsewhere (h : Engaged g i) : i.graph.inputs = g.inputs ∧
    ∀ id : Nat, id ∉ g.varying → i.graph.tensors[id]? = g.tensors[id]? := by
  induction h with
  | start => exact ⟨rfl, fun _ _ => rfl⟩
  | @call i call before ih =>
      have touched := before.equipped.touches_after call
      refine ⟨touched.inputs.trans ih.1, fun id outside => ?_⟩
      refine (touched.elsewhere id fun inside => outside ?_).trans (ih.2 id outside)
      have varies := call.targets_subset i.graph inside
      rwa [Graph.varying, ih.1, before.equipped.nodes] at varies
  | @putInput i input tensor _ ih =>
      obtain ⟨inputs, tensors⟩ := putInput_elsewhere i input tensor
      refine ⟨inputs.trans ih.1, fun id outside => ?_⟩
      refine (tensors id fun inside => outside ?_).trans (ih.2 id outside)
      rw [ih.1] at inside
      exact List.mem_append_left _ inside
  | @delegate i options _ ih =>
      have graph : ((Interpreter.delegate options.delegate).run i).state.graph = i.graph := by
        show ((Interpreter.delegate options.delegate).outcome i).2.graph = i.graph
        rw [outcome_delegate]
        split <;> rfl
      rw [graph]
      exact ih

end Calls

/-- An interpreter of a built graph, from which engines may have taken nodes over and which may have
been through anything, is called some more. Then the constants are what they were when the graph was
built, and no element type has changed. The next call, successful or not, changes only the input
that it names or what nodes compute, and if it invokes, no shape. In the engine, inferring and
evaluating any region changes only what its descriptors compute. -/
theorem run_frame {calls : List BuilderCall} {i : Interpreter}
    (engaged : Engaged (Graph.build calls) i) (history : List Call) :
    let g := Graph.build calls
    let s := i.afterAll history
    (∀ (id : Nat) (entry : TensorEntry), g.tensors[id]? = some entry → entry.constant = true →
      s.graph.tensors[id]? = some entry) ∧
    (∀ id, s.graph.type id = i.graph.type id) ∧
    (∀ (call : Call) (id : Nat), (s.after call).graph.tensors[id]? ≠ s.graph.tensors[id]? →
      id ∈ call.targets g) ∧
    (∀ id, (s.after .invoke).graph.shape id = s.graph.shape id) ∧
    ∀ (region : Substitution.Region) (t : Graph),
      let computed := region.descriptors.flatMap Substitution.Descriptor.outputs
      Graph.Touches computed t (region.infer.outcome t).2 ∧
        Graph.Fills computed t (region.evaluate.outcome t).2 := by
  intro g s
  have steady : Steady i s := steady_afterAll i history
  have equipped : Equipped g s := engaged.equipped.steady steady
  have touched : Graph.Touches g.varying i.graph s.graph := by
    have touched := engaged.equipped.touches_afterAll history
    rwa [Graph.varying, engaged.elsewhere.1, engaged.equipped.nodes] at touched
  refine ⟨fun id entry found constant => ?_, steady.frame.type_eq, fun call id changed => ?_,
    equipped.invoke_fills.shape_eq, fun region t => ⟨?_, ?_⟩⟩
  · -- constants are neither inputs of the graph nor computed, and nothing else is ever written
    have fixed : id ∉ g.varying := (Graph.variesFreely_build calls).not_mem found constant
    rw [touched.elsewhere id fixed, engaged.elsewhere.2 id fixed, found]
  · -- what a call aims at is told by the lists of the graph, which stay as they were built
    have same : call.targets s.graph = call.targets g := by
      cases call <;>
        simp only [Call.targets, steady.frame.inputs, engaged.elsewhere.1, equipped.nodes, g]
    rw [← same]
    by_contra outside
    exact changed ((equipped.touches_after call).elsewhere id outside)
  · exact Action.KeepsTo.forM (fun d inside t => (d.infer_keepsTo t).mono fun _ written =>
      List.mem_flatMap.mpr ⟨d, inside, written⟩) t
  · exact Action.KeepsTo.forM (fun d inside => Substitution.Descriptor.evaluate_fills inside) t

/-- An input to which a constant is added. -/
def biased : List BuilderCall :=
  [.addInput "x" .f32 [2],
    .addConstant "bias" ⟨.f32, ⟨[2], #[.ofNat 5, .ofNat 6], by decide⟩⟩,
    .addTensor "y" .f32, .addNode "add" .add none [0, 1] [2], .setOutputs [2]]

/-- The addition has been handed over. -/
def biasedEngine : Interpreter :=
  ((delegate Options.all.delegate).run (ofGraph (Graph.build biased) .all)).state

/-- After a whole run only the sum has another shape, and the bias is what it was. -/
theorem biased_frame :
    let s := biasedEngine.afterAll [.allocate, .setInput 0 .f32 #[.ofNat 3, .ofNat 4], .invoke]
    s.graph.tensors[1]? = (Graph.build biased).tensors[1]? ∧
      biasedEngine.graph.shape 2 = .ok [0] ∧ s.graph.shape 2 = .ok [2] := by
  intro s
  have engaged : Engaged (Graph.build biased) biasedEngine := .delegate .all .start
  have frame := run_frame engaged
    [.allocate, .setInput 0 .f32 #[.ofNat 3, .ofNat 4], .invoke]
  exact ⟨frame.1 1 _ rfl rfl, by decide +kernel, by decide +kernel⟩

end Interpreter

end TensorGraph
