import TensorGraph.Proofs.Locality
import TensorGraph.Proofs.Untouched

/-!
# Runs do not depend on history

What an interpreter has been through shows in its tensors: inputs hold what was written last,
computed tensors have old shapes and old values, and failed calls leave some of them half way. After
allocating and invoking nothing of that is left but the inputs. If nodes are in dependency order and
compute neither inputs nor parameters, then two interpreters of one graph whose inputs agree either
both get through, and hold the same tensors in the end, or both fail
(`Interpreter.runs_forget_history`).

Calls touch nothing but inputs and computed tensors (`Interpreter.Equipped.touches_afterAll`).
Preparing one node after the other makes the shapes agree, and then evaluating one node after the
other makes the values agree; `Graph.Agrees` says how far this has come.
-/

namespace TensorGraph

open TensorGraph.Action (Follows)
open Substitution (Options)

/-! ## Graphs that agree in part -/

/-- The graphs have the same frame, the same tensors apart from the first ones given, and the same
shapes apart from those of the second ones given. -/
structure Graph.Agrees (values shapes : List Nat) (g g' : Graph) : Prop
    extends Graph.SameFrame g g' where
  tensors : ∀ id : Nat, id ∉ values → g'.tensors[id]? = g.tensors[id]?
  shapes : ∀ id : Nat, id ∉ shapes → g'.shape id = g.shape id

section Agrees

variable {g g' t t' : Graph} {out rest values : List Nat}

theorem Graph.Agrees.symm {shapes : List Nat} (h : Agrees values shapes g g') :
    Agrees values shapes g' g :=
  ⟨h.toSameFrame.symm, fun id outside => (h.tensors id outside).symm,
    fun id outside => (h.shapes id outside).symm⟩

/-- Tensors of graphs with the same frame are the same entries if they have the same contents. -/
theorem Graph.SameFrame.getElem?_of_tensor {id : Nat} (frame : SameFrame g g')
    (same : g'.tensor id = g.tensor id) : g'.tensors[id]? = g.tensors[id]? := by
  have headers := frame.headers id
  cases found : g.tensors[id]? with
  | none =>
      rw [found, Option.map_none, Option.map_eq_none_iff] at headers
      exact headers
  | some entry =>
      obtain ⟨entry', found', header⟩ := frame.exists_entry found
      obtain ⟨name', tensor', constant'⟩ := entry'
      obtain ⟨name, tensor, constant⟩ := entry
      rw [tensor_eq_ok.mpr ⟨_, found, rfl⟩, tensor_eq_ok.mpr ⟨_, found', rfl⟩] at same
      cases same
      simp only [TensorEntry.header, Prod.mk.injEq] at header
      obtain ⟨rfl, -, rfl⟩ := header
      exact found'

/-- Graphs with one history agree apart from what has been touched since, as far as it is not the
same again. -/
theorem Graph.Agrees.of_touches {g₀ : Graph} {ids : List Nat} (touched : Touches ids g₀ g)
    (touched' : Touches ids g₀ g')
    (same : ∀ id ∈ ids, id ∉ values → g'.tensor id = g.tensor id) :
    Agrees values values g g' := by
  have frame := touched.toSameFrame.symm.trans touched'.toSameFrame
  have tensors (id : Nat) (outside : id ∉ values) : g'.tensors[id]? = g.tensors[id]? := by
    by_cases inside : id ∈ ids
    · exact frame.getElem?_of_tensor (same id inside outside)
    · rw [touched.elsewhere id inside, touched'.elsewhere id inside]
  exact ⟨frame, tensors, fun id outside => shape_congr (tensors id outside)⟩

/-- Graphs that agree in all tensors are the same. -/
theorem Graph.Agrees.eq {shapes : List Nat} (h : Agrees [] shapes g g') : g = g' :=
  (h.toSameFrame.eq fun id => h.tensors id List.not_mem_nil).symm

/-- Some outputs have been given shapes, on both sides the same ones. -/
theorem Graph.Agrees.shaped (h : Agrees values (out ++ rest) g g') (known : out ⊆ values)
    (touched : Touches out g t) (touched' : Touches out g' t')
    (same : ∀ id ∈ out, t'.shape id = t.shape id) : Agrees values rest t t' where
  toSameFrame := touched.toSameFrame.symm.trans (h.toSameFrame.trans touched'.toSameFrame)
  tensors id outside := by
    have untouched : id ∉ out := fun inside => outside (known inside)
    rw [touched.elsewhere id untouched, touched'.elsewhere id untouched, h.tensors id outside]
  shapes id outside := by
    by_cases inside : id ∈ out
    · exact same id inside
    · rw [shape_congr (touched.elsewhere id inside), shape_congr (touched'.elsewhere id inside)]
      exact h.shapes id (by simp [inside, outside])

/-- Some outputs have been filled, on both sides with the same values. -/
theorem Graph.Agrees.filled {shapes : List Nat} (h : Agrees (out ++ rest) shapes g g')
    (filled : Fills out g t) (filled' : Fills out g' t')
    (same : ∀ id ∈ out, t'.tensors[id]? = t.tensors[id]?) : Agrees rest shapes t t' where
  toSameFrame := filled.toSameFrame.symm.trans (h.toSameFrame.trans filled'.toSameFrame)
  tensors id outside := by
    by_cases inside : id ∈ out
    · exact same id inside
    · rw [filled.elsewhere id inside, filled'.elsewhere id inside]
      exact h.tensors id (by simp [inside, outside])
  shapes id outside := by
    rw [filled.shape_eq, filled'.shape_eq]
    exact h.shapes id outside

/-- Some outputs have been filled that do not have to agree. -/
theorem Graph.Agrees.filled_again {shapes : List Nat} (h : Agrees (out ++ rest) shapes g g')
    (again : out ⊆ rest) (filled : Fills out g t) (filled' : Fills out g' t') :
    Agrees rest shapes t t' where
  toSameFrame := filled.toSameFrame.symm.trans (h.toSameFrame.trans filled'.toSameFrame)
  tensors id outside := by
    have other : id ∉ out := fun inside => outside (again inside)
    rw [filled.elsewhere id other, filled'.elsewhere id other]
    exact h.tensors id (by simp [other, outside])
  shapes id outside := by
    rw [filled.shape_eq, filled'.shape_eq]
    exact h.shapes id outside

end Agrees

/-! ## Walks through nodes -/

section Walks

variable {g g' : Graph} {node : Node} {nodes : List Node} {rest values outside : List Nat}

/-- What a node reads has been computed by the nodes before it, if by any. -/
theorem InOrder.head_apart (h : InOrder Node.inputs Node.outputs (node :: nodes)) :
    ∀ id ∈ node.inputs, id ∉ node.outputs ++ nodes.flatMap Node.outputs := by
  intro id read
  rw [List.mem_append, not_or]
  exact ⟨h.own node List.mem_cons_self id read, h.head_later id read⟩

/-- In dependency order, a node reads nothing that is still to be computed. -/
theorem InOrder.head_apart_outside (h : InOrder Node.inputs Node.outputs (node :: nodes))
    (apart : ∀ id ∈ node.inputs, id ∉ outside) :
    ∀ id ∈ node.inputs, id ∉ node.outputs ++ (nodes.flatMap Node.outputs ++ outside) := by
  intro id read
  rw [← List.append_assoc, List.mem_append, not_or]
  exact ⟨h.head_apart id read, apart id read⟩

/-- Preparing a node makes the shapes of its outputs agree. -/
theorem Builtin.prepare_agrees (agrees : Graph.Agrees values (node.outputs ++ rest) g g')
    (known : node.outputs ⊆ values) (apart : ∀ id ∈ node.inputs, id ∉ node.outputs ++ rest)
    (given : ∀ id ∈ node.parameterInputs, id ∉ values) :
    Follows (Graph.Agrees values rest) (prepare node) (prepare node) g g' := by
  intro a t done
  have same : node.SeesSame g g' := ⟨agrees.toSameFrame,
    fun id read => agrees.shapes id (apart id read),
    fun id read => agrees.tensors id (given id read)⟩
  obtain ⟨t', done', shaped⟩ := prepare_follows same a t done
  have touched := (prepare_keepsTo node).related done
  have touched' := (prepare_keepsTo node).related done'
  obtain ⟨output, -, outputs, -⟩ := prepare_eq_some done
  exact ⟨t', done', agrees.shaped known touched touched' fun id inside =>
    shaped id (Node.first_output ⟨output, outputs⟩ inside)⟩

/-- Nodes in dependency order are given the same shapes if what they do not compute agrees, apart
from what does not matter to them. -/
theorem prepare_walk_follows (ordered : InOrder Node.inputs Node.outputs nodes)
    (apart : ∀ node ∈ nodes, ∀ id ∈ node.inputs, id ∉ outside)
    (given : ∀ node ∈ nodes, ∀ id ∈ node.parameterInputs, id ∉ values)
    (known : nodes.flatMap Node.outputs ⊆ values)
    (agrees : Graph.Agrees values (nodes.flatMap Node.outputs ++ outside) g g') :
    Follows (Graph.Agrees values outside) (forM nodes Builtin.prepare)
      (forM nodes Builtin.prepare) g g' := by
  induction nodes generalizing g g' with
  | nil =>
      intro a t done
      cases done
      exact ⟨g', rfl, agrees⟩
  | cons node nodes ih =>
      rw [List.flatMap_cons, List.append_assoc] at agrees
      rw [List.flatMap_cons] at known
      have here := Builtin.prepare_agrees agrees (List.append_subset.mp known).1
        (ordered.head_apart_outside (apart node List.mem_cons_self))
        (given node List.mem_cons_self)
      refine .bind here fun _ t t' agrees => ih ordered.tail
        (fun other later => apart other (List.mem_cons_of_mem _ later)) ?_
        (List.append_subset.mp known).2 agrees
      exact fun other later => given other (List.mem_cons_of_mem _ later)

/-- Evaluating a node makes its outputs agree, if they will not be overwritten before they are read.
-/
theorem Builtin.evaluate_agrees (agrees : Graph.Agrees (node.outputs ++ rest) outside g g')
    (apart : ∀ id ∈ node.inputs, id ∉ node.outputs ++ rest)
    (shaped : ∀ id ∈ node.outputs, id ∉ outside)
    (settled : node.outputs ⊆ rest ∨ node.Settled g) :
    Follows (Graph.Agrees rest outside) (evaluate node) (evaluate node) g g' := by
  intro a t done
  have same : node.ReadsSame g g' := ⟨agrees.toSameFrame,
    fun id read => agrees.tensors id (apart id read),
    fun id out => agrees.shapes id (shaped id out)⟩
  have own (id : Nat) (read : id ∈ node.inputs) : id ∉ node.outputs :=
    fun written => apart id read (List.mem_append_left _ written)
  rcases settled with again | settled
  · -- what the node computes does not matter, as it is computed again
    obtain ⟨t', done', -⟩ := evaluate_succeeds same own a t done
    have filled := (evaluate_keepsTo node).related done
    have filled' := (evaluate_keepsTo node).related done'
    exact ⟨t', done', agrees.filled_again again filled filled'⟩
  · obtain ⟨t', done', written⟩ := evaluate_follows same own (fun _ => settled) a t done
    have filled := (evaluate_keepsTo node).related done
    have filled' := (evaluate_keepsTo node).related done'
    obtain ⟨output, -, outputs, -⟩ := settled
    exact ⟨t', done', agrees.filled filled filled' fun id inside =>
      written id (Node.first_output ⟨output, outputs⟩ inside)⟩

/-- Settled nodes in dependency order compute the same if what they do not compute agrees, apart
from what does not matter to them. -/
theorem evaluate_walk_follows (ordered : InOrder Node.inputs Node.outputs nodes)
    (apart : ∀ node ∈ nodes, ∀ id ∈ node.tensors, id ∉ outside)
    (given : ∀ node ∈ nodes, ∀ id ∈ node.parameterInputs, id ∉ nodes.flatMap Node.outputs)
    (settled : g.LastSettled nodes)
    (agrees : Graph.Agrees (nodes.flatMap Node.outputs ++ outside) outside g g') :
    Follows (Graph.Agrees outside outside) (forM nodes Builtin.evaluate)
      (forM nodes Builtin.evaluate) g g' := by
  induction nodes generalizing g g' with
  | nil =>
      intro a t done
      cases done
      exact ⟨g', rfl, agrees⟩
  | cons node nodes ih =>
      rw [List.flatMap_cons, List.append_assoc] at agrees
      rw [List.flatMap_cons] at given
      have tensors := apart node List.mem_cons_self
      have here := Builtin.evaluate_agrees agrees
        (ordered.head_apart_outside fun id read => tensors id (List.mem_append_left _ read))
        (fun id written => tensors id (List.mem_append_right _ written))
        (settled.1.imp_left fun again => List.Subset.trans again (List.subset_append_left _ _))
      -- the other nodes stay settled while this one fills its output
      have others : ((Builtin.evaluate node).outcome g).2.LastSettled nodes := by
        apply settled.2.of_fills (Builtin.evaluate_keepsTo node g)
        intro other later id read written
        exact given other (List.mem_cons_of_mem _ later) id read (List.mem_append_left _ written)
      refine .bind (here.and_left others) fun _ t t' ⟨agrees, others⟩ => ih ordered.tail
        (fun other later => apart other (List.mem_cons_of_mem _ later)) ?_ others agrees
      intro other later id read written
      exact given other (List.mem_cons_of_mem _ later) id read (List.mem_append_right _ written)

end Walks

namespace Interpreter

/-! ## Allocating and invoking -/

def Runs (i : Interpreter) : Prop :=
  (allocate.run i).ending = .ok () ∧ (invoke.run (i.after .allocate)).ending = .ok ()

instance (i : Interpreter) : Decidable i.Runs := inferInstanceAs (Decidable (_ ∧ _))

section Runs

variable {i i' : Interpreter}

/-- Walking through the nodes as the host does. -/
theorem Sound.asHost_of_prepare {g : Graph} (h : Sound i)
    (done : (forM i.graph.nodes Builtin.prepare).outcome i.graph = (some (), g)) : AsHost i := by
  rw [← outcome_range Registry.all.prepare_keepsTo outcome_registry_prepare] at done
  exact ⟨h, delegatedTyped_of_prepare h.faithful done⟩

/-- Where an invocation succeeds, the engine has done what the host does. -/
theorem Sound.asHost_of_invoke (h : Sound i) (invoked : invoke.outcome i = (some (), i')) :
    AsHost i := by
  obtain ⟨-, graph, done, -⟩ := outcome_invoke_eq_some.mp invoked
  rw [h.registry] at done
  exact ⟨h, delegatedTyped_of_evaluate h.faithful done⟩

/-- What running the interpreter comes to: all nodes are prepared, and then all are evaluated, as
the host does it. -/
theorem Sound.runs_iff (h : Sound i) {u : Graph} :
    i.Runs ∧ ((i.after .allocate).after .invoke).graph = u ↔ ∃ t,
      (forM i.graph.nodes Builtin.prepare).outcome i.graph = (some (), t) ∧
        (forM i.graph.nodes Builtin.evaluate).outcome t = (some (), u) := by
  have steady := steady_after i .allocate
  constructor
  · rintro ⟨⟨allocates, invokes⟩, rfl⟩
    have allocates := outcome_of_answer .allocate allocates
    have invokes := outcome_of_answer .invoke invokes
    have host : AsHost (i.after .allocate) := (h.steady steady).asHost_of_invoke invokes
    obtain ⟨t, prepared, allocated⟩ := outcome_allocate_eq_some.mp allocates
    obtain ⟨-, u, evaluated, invoked⟩ := outcome_invoke_eq_some.mp invokes
    rw [(host.steady steady.symm).prepare] at prepared
    rw [host.evaluate, steady.frame.nodes, ← allocated] at evaluated
    exact ⟨t, prepared, by rw [← invoked]; exact evaluated⟩
  · rintro ⟨t, prepared, evaluated⟩
    have host : AsHost i := h.asHost_of_prepare prepared
    rw [← host.prepare] at prepared
    have allocates : Call.allocate.action.outcome i =
        (some (), { i with graph := t, allocated := true }) :=
      outcome_allocate_eq_some.mpr ⟨t, prepared, rfl⟩
    have allocated : i.after .allocate = { i with graph := t, allocated := true } := by
      rw [after_eq, allocates]
    have host' : AsHost (i.after .allocate) := host.steady steady
    rw [← steady.frame.nodes] at evaluated
    have invokes : Call.invoke.action.outcome (i.after .allocate) =
        (some (), { i.after .allocate with graph := u }) := by
      refine outcome_invoke_eq_some.mpr ⟨by rw [allocated], u, ?_, rfl⟩
      rw [host'.evaluate]
      rwa [allocated] at evaluated ⊢
    refine ⟨⟨(Action.outcome_eq_some.mp allocates).1, (Action.outcome_eq_some.mp invokes).1⟩, ?_⟩
    rw [after_eq _ .invoke, invokes]

/-- Interpreters of one graph, in dependency order and with given parameters, that agree apart from
what nodes compute: one runs if the other one does, and then they end with the same graph. -/
theorem Sound.runs_of_agrees (h : Sound i) (h' : Sound i')
    (ordered : InOrder Node.inputs Node.outputs i.graph.nodes) (given : i.graph.ParametersGiven)
    (single : i.graph.SingleWriters)
    (agrees : Graph.Agrees (i.graph.nodes.flatMap Node.outputs)
      (i.graph.nodes.flatMap Node.outputs) i.graph i'.graph) (runs : i.Runs) :
    i'.Runs ∧
      ((i'.after .allocate).after .invoke).graph = ((i.after .allocate).after .invoke).graph := by
  obtain ⟨t, prepared, evaluated⟩ := h.runs_iff.mp ⟨runs, rfl⟩
  obtain ⟨t', prepared', agrees'⟩ :=
    prepare_walk_follows ordered (fun _ _ _ _ => List.not_mem_nil) given (List.Subset.refl _)
      (by rwa [List.append_nil]) () t prepared
  have settled : ∀ node ∈ i.graph.nodes, node.Settled t := by
    refine settled_of_prepare ordered ?_ prepared
    intro node inside other inside' id written written' shape shape' found found'
    rw [single.eq_of_output inside inside' written written', found', Except.ok.injEq] at found
    exact found.symm
  obtain ⟨u', evaluated', same⟩ :=
    evaluate_walk_follows ordered (fun _ _ _ _ => List.not_mem_nil) given (.of_all settled)
      (by rwa [List.append_nil]) () _ evaluated
  rw [← same.eq] at evaluated'
  rw [← agrees.nodes] at prepared' evaluated'
  exact h'.runs_iff.mpr ⟨t', prepared', evaluated'⟩

end Runs

/-- Interpreters of a graph that is in dependency order and computes no parameters have handed nodes
over and then been called. If their inputs agree, then allocating and invoking succeeds on both or
on none, and on success they end with the same graph. -/
theorem runs_forget_history {calls : List BuilderCall} {d d' : Interpreter}
    (ordered : InOrder Node.inputs Node.outputs (Graph.build calls).nodes)
    (given : (Graph.build calls).ParametersGiven)
    (delegated : Substituted (Graph.build calls) d)
    (delegated' : Substituted (Graph.build calls) d') (history history' : List Call) :
    let i := d.afterAll history
    let i' := d'.afterAll history'
    (∀ id ∈ (Graph.build calls).inputs, i'.graph.tensor id = i.graph.tensor id) →
      (i.Runs ↔ i'.Runs) ∧
      (i.Runs → ((i'.after .allocate).after .invoke).graph =
        ((i.after .allocate).after .invoke).graph) := by
  intro i i' inputs
  have touched := delegated.engaged.equipped.touches_afterAll history
  have touched' := delegated'.engaged.equipped.touches_afterAll history'
  rw [delegated.unallocated.1] at touched
  rw [delegated'.unallocated.1] at touched'
  have nodes : i.graph.nodes = (Graph.build calls).nodes := touched.nodes
  have nodes' : i'.graph.nodes = (Graph.build calls).nodes := touched'.nodes
  -- as the inputs are equal, the histories can only differ in what they left in computed tensors
  have agrees : Graph.Agrees ((Graph.build calls).nodes.flatMap Node.outputs)
      ((Graph.build calls).nodes.flatMap Node.outputs) i.graph i'.graph := by
    refine .of_touches touched touched' fun id varies computed => inputs id ?_
    exact (List.mem_append.mp varies).resolve_right computed
  have sound : Sound i := delegated.sound.steady (steady_afterAll d history)
  have sound' : Sound i' := delegated'.sound.steady (steady_afterAll d' history')
  have single := Graph.singleWriters_build calls
  have forward (runs : i.Runs) := sound.runs_of_agrees sound' (by rwa [nodes])
    (by rwa [Graph.ParametersGiven, nodes]) (by rwa [Graph.SingleWriters, nodes])
    (by rwa [nodes]) runs
  have backward (runs : i'.Runs) := sound'.runs_of_agrees sound (by rwa [nodes'])
    (by rwa [Graph.ParametersGiven, nodes']) (by rwa [Graph.SingleWriters, nodes'])
    (by rw [nodes']; exact agrees.symm) runs
  exact ⟨⟨fun runs => (forward runs).1, fun runs => (backward runs).1⟩,
    fun runs => (forward runs).2⟩

/-- The weaving graph, with its node handed over. -/
def delegatedWeaving : Interpreter :=
  ((delegate Options.all.delegate).outcome (ofGraph (Graph.build weaving) .all)).2

theorem substituted_weaving : Substituted (Graph.build weaving) delegatedWeaving :=
  .delegate Options.all .start (Prod.ext (by decide +kernel) rfl)

/-- The image and the block sizes are set, after some other calls. -/
def weavingInputs (before : List Call) : List Call :=
  before ++ [.setInput 0 .f32 #[.ofNat 1, .ofNat 2, .ofNat 3, .ofNat 4], .setInput 1 .i32 #[2, 2]]

def weavingContents : List (Except Fault Tensor) :=
  [.ok ⟨.f32, ⟨[4, 1, 1, 1], #[.ofNat 1, .ofNat 2, .ofNat 3, .ofNat 4], by decide⟩⟩,
    .ok ⟨.i32, ⟨[2], #[2, 2], by decide⟩⟩, .ok ⟨.i32, ⟨[2, 2], #[0, 0, 0, 0], by decide⟩⟩]

/-- Other block sizes, and some that do not divide the batches, leave no trace. -/
theorem weaving_forgets_history :
    let i := delegatedWeaving.afterAll (weavingInputs [])
    let i' := delegatedWeaving.afterAll (weavingInputs
      [.setInput 1 .i32 #[4, 1], .allocate, .invoke, .setInput 1 .i32 #[3, 1], .allocate])
    (i.Runs ∧ i'.Runs) ∧
      ((i'.after .allocate).after .invoke).graph = ((i.after .allocate).after .invoke).graph := by
  intro i i'
  have runs : i.Runs := by decide +kernel
  have holds : (Graph.build weaving).inputs.map i.graph.tensor = weavingContents := rfl
  have holds' : (Graph.build weaving).inputs.map i'.graph.tensor = weavingContents := rfl
  obtain ⟨both, same⟩ := runs_forget_history (by decide +kernel) (by decide +kernel)
    substituted_weaving substituted_weaving _ _ (List.map_inj_left.mp (holds'.trans holds.symm))
  exact ⟨⟨runs, both.mp runs⟩, same runs⟩

end Interpreter

end TensorGraph
