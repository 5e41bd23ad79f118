import TensorGraph.Proofs.Reshaping
import TensorGraph.Proofs.Tasks

/-!
# Preparing is idempotent

Preparing a node resizes its output to a shape that its inputs decide on. A resize may zero a tensor
whose values a later node reads as a parameter, so preparing a second time might go another way than
preparing the first time. In dependency order it does not: what a node reads is not touched from
there on, so at the end of the first pass the inputs are what they were when the node was prepared,
and the second pass resizes the same tensors to the same shapes (`resizes_of_walk`). That changes
nothing any more (`Graph.resizeAll_again`).

So preparing is idempotent, for regions and for whole plans, also if parameters are computed on the
way or tensors are computed by several nodes (`prepare_idempotent`).
-/

namespace TensorGraph

open Substitution (Descriptor Options Region)

/-! ## Walks -/

/-- Where the action succeeds, it resizes one of the outputs to a shape that depends only on the
inputs. -/
def Action.Shapes (inputs outputs : List Nat) (action : Action Graph Unit) (g : Graph) : Prop :=
  ∀ t, action.outcome g = (some (), t) → ∃ id ∈ outputs, ∃ shape, ∀ g', Graph.SameFrame g g' →
    (∀ i ∈ inputs, g'.tensors[i]? = g.tensors[i]?) →
      action.outcome g' = (Graph.resize id shape).outcome g'

section Walks

variable {α : Type} {inputs outputs : α → List Nat} {run : α → Action Graph Unit}
  {steps : List α} {g₀ g g' : Graph}

/-- A walk in dependency order resizes some tensors one after the other, and it does so again from
every graph that these resizes lead to the same end. -/
theorem resizes_of_walk (ordered : InOrder inputs outputs steps)
    (shapes : ∀ a g, Graph.SameFrame g₀ g → (run a).Shapes (inputs a) (outputs a) g)
    (frame : Graph.SameFrame g₀ g) (done : (forM steps run).outcome g = (some (), g')) :
    ∃ moves, moves.map Prod.fst ⊆ steps.flatMap outputs ∧
      (Graph.resizeAll moves).outcome g = (some (), g') ∧
      ∀ t, Graph.SameFrame g t → (Graph.resizeAll moves).outcome t = (some (), g') →
        (forM steps run).outcome t = (some (), g') := by
  induction steps generalizing g with
  | nil =>
      cases done
      exact ⟨[], List.nil_subset _, rfl, fun t _ moved => moved⟩
  | cons a steps ih =>
      rw [List.forM_cons, Action.outcome_bind] at done
      obtain ⟨⟨⟩, u, first, rest⟩ := Action.proceed_eq_some done
      obtain ⟨id, written, shape, resizes⟩ := shapes a g frame u first
      have first' : (Graph.resize id shape).outcome g = (some (), u) :=
        (resizes g (.refl g) fun _ _ => rfl).symm.trans first
      have frame' : Graph.SameFrame g u := (Graph.resize_sameFrame id shape).related first'
      obtain ⟨moves, known, moved, again⟩ := ih ordered.tail (frame.trans frame') rest
      have all (s : Graph) : (Graph.resizeAll ((id, shape) :: moves)).outcome s =
          Action.proceed ((Graph.resize id shape).outcome s) fun _ v =>
            (Graph.resizeAll moves).outcome v := Action.outcome_bind _ _ _
      have known' : ((id, shape) :: moves).map Prod.fst ⊆ (a :: steps).flatMap outputs := by
        rw [List.map_cons, List.flatMap_cons]
        exact List.cons_subset.mpr ⟨List.mem_append_left _ written,
          List.Subset.trans known (List.subset_append_right _ _)⟩
      have moved' : (Graph.resizeAll ((id, shape) :: moves)).outcome g = (some (), g') := by
        rw [all, first', Action.proceed_some, moved]
      refine ⟨(id, shape) :: moves, known', moved', fun t same moved'' => ?_⟩
      -- no resize from here on concerns what the step reads, so `t` has the inputs that `g` has
      have inputs (i : Nat) (read : i ∈ inputs a) : t.tensors[i]? = g.tensors[i]? := by
        have outside : i ∉ ((id, shape) :: moves).map Prod.fst := fun inside => by
          rcases List.mem_append.mp (known' inside) with own | later
          · exact ordered.own a List.mem_cons_self i read own
          · exact ordered.head_later i read later
        have touched := (Graph.resizeAll_touches _).related moved''
        have touched' := (Graph.resizeAll_touches _).related moved'
        exact (touched.elsewhere i outside).symm.trans (touched'.elsewhere i outside)
      rw [all] at moved''
      obtain ⟨⟨⟩, v, here, onward⟩ := Action.proceed_eq_some moved''
      have frame'' : Graph.SameFrame t v := (Graph.resize_sameFrame id shape).related here
      rw [List.forM_cons, Action.outcome_bind, resizes t same inputs, here, Action.proceed_some]
      exact again v (frame'.symm.trans (same.trans frame'')) onward

/-- Preparing a second time in dependency order changes nothing. -/
theorem walk_again (ordered : InOrder inputs outputs steps)
    (shapes : ∀ a g, Graph.SameFrame g₀ g → (run a).Shapes (inputs a) (outputs a) g)
    (frame : Graph.SameFrame g₀ g) (done : (forM steps run).outcome g = (some (), g')) :
    (forM steps run).outcome g' = (some (), g') := by
  obtain ⟨moves, -, moved, again⟩ := resizes_of_walk ordered shapes frame done
  have touched := (Graph.resizeAll_touches moves).related moved
  exact again g' touched.toSameFrame (Graph.resizeAll_again moved)

end Walks

/-! ## Descriptors -/

namespace Substitution.Descriptor

variable {g g' : Graph} {d : Descriptor} {α : Type}

def ReadsSame (d : Descriptor) (g g' : Graph) : Prop :=
  ∀ id ∈ d.inputs, g'.tensors[id]? = g.tensors[id]?

theorem ReadsSame.shapeOf (same : d.ReadsSame g g') {id : Nat} (inside : id ∈ d.inputs) :
    Descriptor.shapeOf g' id = Descriptor.shapeOf g id := by
  rw [Descriptor.shapeOf, Descriptor.shapeOf, Graph.shape_congr (same id inside)]

theorem ReadsSame.shape_bind (same : d.ReadsSame g g') (i : Nat)
    (next : Shape → Except Fault α) :
    (d.input i >>= fun id => Descriptor.shapeOf g' id >>= next) =
      d.input i >>= fun id => Descriptor.shapeOf g id >>= next := by
  apply bind_congr_ok
  intro id found
  rw [same.shapeOf (List.mem_of_getElem? (input_eq_ok.mp found))]

theorem ReadsSame.integers_bind (same : d.ReadsSame g g') (i : Nat)
    (next : List Int → Except Fault α) :
    (d.input i >>= fun id => integersOf g' id >>= next) =
      d.input i >>= fun id => integersOf g id >>= next := by
  apply bind_congr_ok
  intro id found
  rw [integersOf, integersOf, Graph.tensor, Graph.tensor, Graph.entry, Graph.entry,
    same id (List.mem_of_getElem? (input_eq_ok.mp found))]

/-- The shape that the engine finds depends only on the inputs. -/
theorem outputShape_congr (same : d.ReadsSame g g') : d.outputShape g' = d.outputShape g := by
  unfold outputShape
  rw [primaryInput, same.shape_bind]
  refine bind_congr_ok fun a _ => bind_congr_ok fun shape _ => ?_
  cases kind : d.kind <;> dsimp only
  case add | mul | atan2 | batchMatMul => simp only [same.shape_bind]
  case addN =>
    simp only [List.forM_eq_forM]
    rw [forM_congr fun id inside => ?_]
    rw [same.shapeOf (List.mem_of_mem_drop inside)]
  case argMax | argMin =>
    simp only [reductionAxis, primaryInput, same.shape_bind, same.integers_bind]
  case batchToSpaceNd =>
    simp only [batchToSpaceShape, batchToSpaceParameters, primaryInput, same.shape_bind,
      same.integers_bind]

/-- Inferring resizes the output to a shape that depends on the inputs. -/
theorem infer_shapes (d : Descriptor) (g : Graph) : d.infer.Shapes d.inputs d.outputs g := by
  intro t done
  simp only [infer, Action.outcome_bind, Action.outcome_get, Action.proceed_some,
    Action.outcome_lift, Action.proceed_toOption] at done
  obtain ⟨shape, found, output, out, -⟩ := done
  refine ⟨output, List.mem_of_getElem? (output_eq_ok.mp out), shape, fun g' _ same => ?_⟩
  simp [infer, outputShape_congr same, found, out]

end Substitution.Descriptor

/-! ## Tasks -/

namespace Task

variable {registry : Registry} {g₀ g : Graph}

theorem prepare_shapes (task : Task) (frame : Graph.SameFrame g₀ g) :
    (task.prepare registry).Shapes (task.inputs g₀) (task.outputs g₀) g := by
  cases task with
  | engine d => exact d.infer_shapes g
  | host id =>
      intro t done
      simp only [prepare, Registry.prepare, Action.outcome_bind, Action.outcome_get,
        Action.proceed_some, Action.outcome_lift, Action.proceed_toOption,
        Action.outcome_during] at done
      obtain ⟨node, found, done⟩ := done
      simp only [Builtin.prepare, Action.outcome_bind, Action.outcome_get, Action.proceed_some,
        Action.outcome_lift, Action.proceed_toOption] at done
      obtain ⟨shape, inferred, output, out, -⟩ := done
      have listed := Registry.listed_of_lookUp found
      rw [frame.nodes] at listed
      have serves : (host id).Serves g₀ node := listed
      rw [serves.inputs_eq, serves.outputs_eq]
      refine ⟨output, List.mem_of_getElem? (Node.output_eq_ok.mp out), shape,
        fun g' frame' same => ?_⟩
      have sees : node.SeesSame g g' := ⟨frame', fun id read => Graph.shape_congr (same id read),
        fun id read => same id (node.parameterInputs_subset read)⟩
      have found' : registry.lookUp g' id = .ok node := by
        rw [← found, Registry.lookUp, Registry.lookUp, Graph.node, Graph.node, frame'.nodes]
      have inferred' := (Builtin.outputShape_congr sees).trans inferred
      simp [prepare, Registry.prepare, Builtin.prepare, found', inferred', out]

end Task

/-! ## Regions and plans -/

/-- Preparing is idempotent in dependency order. Inferring a region whose descriptors read nothing
that they or later ones compute, and then inferring it again, changes nothing the second time,
whatever the graph. The same is true of allocating an interpreter whose nodes are in dependency
order, whatever engines have taken over and whatever it has been through. -/
theorem prepare_idempotent :
    (∀ (region : Region) (g g' : Graph),
      InOrder Descriptor.inputs Descriptor.outputs region.descriptors →
      region.infer.outcome g = (some (), g') → region.infer.outcome g' = (some (), g')) ∧
    ∀ (g : Graph) (i i' : Interpreter), Interpreter.Engaged g i →
      InOrder Node.inputs Node.outputs g.nodes →
      Interpreter.allocate.outcome i = (some (), i') →
        Interpreter.allocate.outcome i' = (some (), i') := by
  refine ⟨fun region g g' ordered done => ?_, fun g i i' engaged ordered done => ?_⟩
  · exact walk_again ordered (fun d g _ => d.infer_shapes g) (.refl g) done
  · obtain ⟨graph, prepared, rfl⟩ := Interpreter.outcome_allocate_eq_some.mp done
    refine Interpreter.outcome_allocate_eq_some.mpr ⟨graph, ?_, rfl⟩
    rw [Interpreter.outcome_prepare_tasks] at prepared ⊢
    exact walk_again (engaged.equipped.inOrder ordered)
      (fun task _ frame => task.prepare_shapes frame) (.refl i.graph) prepared

namespace Interpreter

/-- The second extremum is looked for along the axis that the first one finds. -/
def seeking : List BuilderCall :=
  [.addInput "scores" .f32 [1, 3], .addConstant "last" ⟨.i32, ⟨[], #[1], by decide⟩⟩,
    .addTensor "axis" .i32, .addNode "choose" .argMax none [0, 1] [2],
    .addInput "table" .f32 [2, 3], .addTensor "index" .i32,
    .addNode "reduce" .argMax none [3, 2] [4], .setOutputs [4]]

/-- Both nodes have been handed over. -/
def seeker : Interpreter :=
  ((delegate Options.all.delegate).run (ofGraph (Graph.build seeking) .all)).state

/-- While nothing has been computed yet, the axis is the first one. -/
theorem seeker_prepared_again :
    let i := seeker.after .allocate
    i.graph.shape 4 = .ok [3] ∧ allocate.outcome i = (some (), i) := by
  intro i
  have done : allocate.outcome seeker = (some (), i) :=
    outcome_of_answer .allocate (by decide +kernel)
  exact ⟨by decide +kernel,
    prepare_idempotent.2 _ _ _ (.delegate .all .start) (by decide +kernel) done⟩

end Interpreter

end TensorGraph
