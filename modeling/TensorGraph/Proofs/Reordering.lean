import TensorGraph.Proofs.Building
import TensorGraph.Proofs.Locality
import TensorGraph.Proofs.Reallocation

/-!
# The order of independent nodes

The order in which nodes are added to a graph is the order in which they run. It does not matter as
long as it is an order of their dependencies: two graphs with the same nodes in different orders
succeed on the same calls and end with the same tensors (`Interpreter.order_immaterial`).

A node that comes first in one order can be moved to the front of the other one. On its way it
passes nodes that neither read what it computes nor compute what it reads, and as no tensor has two
writers, the two steps may be swapped.
-/

namespace TensorGraph

open TensorGraph.Action (Follows)

/-! ## Swapping steps -/

/-- The action changes nothing but what it writes, and looks at nothing but what it reads or
writes. -/
structure Action.Confined (reads writes : List Nat) (action : Action Graph Unit) : Prop where
  touches : action.KeepsTo (Graph.Touches writes)
  looks : action.Local (reads ++ writes)

/-- Neither step reads or writes what the other one writes. -/
structure Independent {α : Type} (reads writes : α → List Nat) (a b : α) : Prop where
  left : ∀ id ∈ reads a, id ∉ writes b
  right : ∀ id ∈ reads b, id ∉ writes a
  both : ∀ id ∈ writes a, id ∉ writes b

section Walks

variable {α : Type} {f : α → Action Graph Unit} {reads writes : α → List Nat} {a b : α}
  {g u : Graph}

/-- What an independent step touches is not looked at. -/
theorem Independent.sameAt {g' : Graph} (h : Independent reads writes a b)
    (touched : Graph.Touches (writes b) g g') : Graph.SameAt (reads a ++ writes a) g g' := by
  intro id inside
  apply touched.elsewhere
  rcases List.mem_append.mp inside with read | written
  · exact h.left id read
  · exact h.both id written

theorem Independent.symm (h : Independent reads writes a b) : Independent reads writes b a :=
  ⟨h.right, h.left, fun id written written' => h.both id written' written⟩

/-- Two independent steps may be swapped. -/
theorem walk_swap {l : List α} (confined : (f a).Confined (reads a) (writes a))
    (confined' : (f b).Confined (reads b) (writes b)) (apart : Independent reads writes a b)
    (done : (forM (b :: a :: l) f).outcome g = (some (), u)) :
    (forM (a :: b :: l) f).outcome g = (some (), u) := by
  simp only [List.forM_cons, Action.outcome_bind] at done ⊢
  obtain ⟨⟨⟩, g₁, first, done⟩ := Action.proceed_eq_some done
  obtain ⟨⟨⟩, g₂, second, rest⟩ := Action.proceed_eq_some done
  have touched := confined'.touches.related first
  have touched' := confined.touches.related second
  -- both steps succeed in the other order, too, and do the same as before
  obtain ⟨h₁, second', same⟩ := (confined.looks (apart.sameAt touched).symm).follows () g₂ second
  have moved := confined.touches.related second'
  obtain ⟨h₂, first', same'⟩ := (confined'.looks (apart.symm.sameAt moved)).follows () g₁ first
  have moved' := confined'.touches.related first'
  have frame := (touched.toSameFrame.trans touched'.toSameFrame).symm.trans
    (moved.toSameFrame.trans moved'.toSameFrame)
  have ends : h₂ = g₂ := by
    apply frame.eq
    intro id
    by_cases left : id ∈ writes a
    · rw [moved'.elsewhere id (apart.both id left), same id (List.mem_append_right _ left)]
    by_cases right : id ∈ writes b
    · rw [same' id (List.mem_append_right _ right), touched'.elsewhere id left]
    · rw [moved'.elsewhere id right, moved.elsewhere id left, touched'.elsewhere id left,
        touched.elsewhere id right]
  rw [second', Action.proceed_some, first', Action.proceed_some, ends, rest]

/-- A step may be taken earlier, if it is independent of the steps that it passes. -/
theorem walk_of_moved {before after : List α}
    (confined : ∀ c ∈ before ++ a :: after, (f c).Confined (reads c) (writes c))
    (apart : ∀ b ∈ before, Independent reads writes a b)
    (done : (forM (before ++ a :: after) f).outcome g = (some (), u)) :
    (forM (a :: (before ++ after)) f).outcome g = (some (), u) := by
  induction before generalizing g with
  | nil => exact done
  | cons b before ih =>
      rw [List.cons_append, List.forM_cons, Action.outcome_bind] at done
      obtain ⟨⟨⟩, g', first, rest⟩ := Action.proceed_eq_some done
      have moved := ih (fun c inside => confined c (List.mem_cons_of_mem _ inside))
        (fun c inside => apart c (List.mem_cons_of_mem _ inside)) rest
      apply walk_swap (confined a (by simp)) (confined b (by simp)) (apart b List.mem_cons_self)
      rw [List.forM_cons, Action.outcome_bind, first]
      exact moved

/-- Confined steps with a writer for each tensor lead to the same end in all dependency orders. -/
theorem walk_of_perm {l l' : List α} (perm : l'.Perm l)
    (confined : ∀ a ∈ l, (f a).Confined (reads a) (writes a))
    (ordered : InOrder reads writes l) (ordered' : InOrder reads writes l')
    (single : l.Pairwise fun a b => ∀ id ∈ writes a, id ∉ writes b)
    (done : (forM l f).outcome g = (some (), u)) : (forM l' f).outcome g = (some (), u) := by
  induction l' generalizing l g with
  | nil =>
      rw [List.nil_perm.mp perm] at done
      exact done
  | cons a l' ih =>
      obtain ⟨before, after, rfl⟩ := List.append_of_mem (perm.mem_iff.mp List.mem_cons_self)
      have rest : l'.Perm (before ++ after) :=
        List.Perm.cons_inv (perm.trans List.perm_middle)
      have shorter : (before ++ after).Sublist (before ++ a :: after) :=
        (List.Sublist.refl before).append (List.sublist_cons_self a after)
      -- what comes before `a` in one order and after it in the other one is independent of it
      have apart : ∀ b ∈ before, Independent reads writes a b := by
        intro b earlier
        have later : b ∈ l' := rest.mem_iff.mpr (List.mem_append_left _ earlier)
        refine ⟨(List.pairwise_cons.mp ordered'.later).1 b later, ?_, ?_⟩
        · exact (List.pairwise_append.mp ordered.later).2.2 b earlier a List.mem_cons_self
        · intro id written written'
          exact (List.pairwise_append.mp single).2.2 b earlier a List.mem_cons_self id written'
            written
      have front := walk_of_moved confined apart done
      rw [List.forM_cons, Action.outcome_bind] at front ⊢
      obtain ⟨⟨⟩, g', first, done⟩ := Action.proceed_eq_some front
      rw [first, Action.proceed_some]
      refine ih rest (fun c inside => confined c (shorter.subset inside)) ?_ ordered'.tail
        (single.sublist shorter) done
      exact ⟨fun c inside => ordered.own c (shorter.subset inside), ordered.later.sublist shorter⟩

end Walks

/-! ## Nodes in another order -/

def Node.unnumbered (node : Node) : Node := { node with id := 0 }

section Nodes

variable {nodes nodes' : List Node} {g u : Graph}

/-- Where a node stands in the list does not matter for preparing it. -/
theorem Builtin.prepare_unnumbered (node : Node) : prepare node.unnumbered = prepare node := rfl

theorem Builtin.evaluate_unnumbered (node : Node) : evaluate node.unnumbered = evaluate node := rfl

/-- Preparing a node reads its inputs and writes its outputs. -/
theorem Builtin.prepare_confined (node : Node) :
    (prepare node).Confined node.inputs node.outputs :=
  ⟨prepare_keepsTo node, prepare_local node⟩

theorem Builtin.evaluate_confined (node : Node) :
    (evaluate node).Confined node.inputs node.outputs :=
  ⟨(evaluate_keepsTo node).mono fun _ _ filled => filled.toTouches, evaluate_local node⟩

/-- Steps that do not look at the place of a node lead to the same end in all dependency orders. -/
theorem walk_of_unnumbered {f : Node → Action Graph Unit}
    (confined : ∀ node, (f node).Confined node.inputs node.outputs)
    (unnumbered : ∀ node, f node.unnumbered = f node)
    (perm : (nodes'.map Node.unnumbered).Perm (nodes.map Node.unnumbered))
    (ordered : InOrder Node.inputs Node.outputs nodes)
    (ordered' : InOrder Node.inputs Node.outputs nodes')
    (single : nodes.Pairwise fun a b => ∀ id ∈ a.outputs, id ∉ b.outputs)
    (done : (forM nodes f).outcome g = (some (), u)) :
    (forM nodes' f).outcome g = (some (), u) := by
  have mapped (nodes : List Node) : forM (nodes.map Node.unnumbered) f = forM nodes f := by
    simp only [List.forM_map, unnumbered]
  have orderedMap {nodes : List Node} (ordered : InOrder Node.inputs Node.outputs nodes) :
      InOrder Node.inputs Node.outputs (nodes.map Node.unnumbered) := by
    apply ordered.of_forall₂
    exact List.forall₂_map_right_iff.mpr (List.forall₂_same.mpr fun _ _ => ⟨rfl, rfl⟩)
  rw [← mapped] at done ⊢
  exact walk_of_perm perm (fun node _ => confined node) (orderedMap ordered) (orderedMap ordered')
    (List.pairwise_map.mpr single) done

end Nodes

/-! ## Graphs with other nodes -/

/-- The graphs hold the same tensors and have the same inputs; their nodes may be others. -/
def Graph.Relisted (g g' : Graph) : Prop := g'.tensors = g.tensors ∧ g'.inputs = g.inputs

section Relisted

variable {g g' : Graph}

/-- A graph with other nodes holds the same tensors. -/
theorem Graph.Relisted.sameAt (same : Relisted g g') (ids : List Nat) : SameAt ids g g' :=
  fun _ _ => by rw [same.1]

/-- A confined step does not look at the list of nodes either. -/
theorem Action.Confined.relisted {reads writes : List Nat} {action : Action Graph Unit}
    (confined : action.Confined reads writes) (same : Graph.Relisted g g') :
    Follows Graph.Relisted action action g g' := by
  intro x t done
  obtain ⟨t', done', same'⟩ := (confined.looks (same.sameAt _)).follows x t done
  have touched := confined.touches.related done
  have touched' := confined.touches.related done'
  refine ⟨t', done', List.ext_getElem? fun id => ?_, ?_⟩
  · by_cases written : id ∈ writes
    · exact same' id (List.mem_append_right _ written)
    · rw [touched.elsewhere id written, touched'.elsewhere id written, same.1]
  · rw [touched.inputs, touched'.inputs, same.2]

/-- Walking through nodes does not look at the list that a graph has of them. -/
theorem walk_relisted {f : Node → Action Graph Unit} {nodes : List Node}
    (confined : ∀ node, (f node).Confined node.inputs node.outputs)
    (same : Graph.Relisted g g') :
    Follows Graph.Relisted (forM nodes f) (forM nodes f) g g' := by
  induction nodes generalizing g g' with
  | nil =>
      intro a t done
      cases done
      exact ⟨g', rfl, same⟩
  | cons node nodes ih => exact .bind ((confined node).relisted same) fun _ _ _ same => ih same

theorem Graph.resize_confined (id : Nat) (shape : Shape) :
    (Graph.resize id shape).Confined [] [id] :=
  ⟨resize_keepsTo shape (List.mem_singleton_self id),
    resize_local (List.mem_singleton_self id) shape⟩

theorem Graph.replace_relisted (same : Relisted g g') (id : Nat) (tensor : Tensor) :
    Follows Relisted (Graph.replace id tensor) (Graph.replace id tensor) g g' := by
  refine .get_bind (.lift_bind ?_ fun _ _ => ?_)
  · exact (same.sameAt [id]).changeable (List.mem_singleton_self id)
  · intro a t done
    cases done
    refine ⟨g'.put id tensor, rfl, ?_, same.2⟩
    show g'.tensors.modify id _ = g.tensors.modify id _
    rw [same.1]

end Relisted

namespace Interpreter

open Substitution (Options)

section Relisted

variable {g g' : Graph}

theorem fillInput_relisted (same : Graph.Relisted g g') (input : Nat) (type : ElementType)
    (values : Array type.Element) :
    Follows Graph.Relisted (fillInput input type values) (fillInput input type values) g g' := by
  refine .get_bind (.lift_bind (by rw [same.2]) fun id _ => ?_)
  refine .lift_bind ((same.sameAt [id]).changeable (List.mem_singleton_self id)) fun tensor _ => ?_
  exact .lift_bind rfl fun _ _ => .lift_bind rfl fun _ _ => .lift_bind rfl fun _ _ =>
    Graph.replace_relisted same id _

theorem shapeInput_relisted (same : Graph.Relisted g g') (input : Nat) (shape : Shape) :
    Follows Graph.Relisted (shapeInput input shape) (shapeInput input shape) g g' :=
  .get_bind (.lift_bind (by rw [same.2]) fun id _ =>
    (Graph.resize_confined id shape).relisted same)

end Relisted

/-! ## Interpreters of reordered graphs -/

/-- The interpreter does with the nodes of its graph what the host does; they are in dependency
order, and no two of them compute one tensor. -/
structure Orderly (i : Interpreter) : Prop extends AsHost i where
  ordered : InOrder Node.inputs Node.outputs i.graph.nodes
  single : i.graph.SingleWriters

/-- The interpreters hold the same tensors; their nodes are the same, but in different orders. -/
structure Reordered (i i' : Interpreter) : Prop where
  orderly : Orderly i
  orderly' : Orderly i'
  nodes : (i'.graph.nodes.map Node.unnumbered).Perm (i.graph.nodes.map Node.unnumbered)
  tensors : Graph.Relisted i.graph i'.graph
  allocated : i'.allocated = i.allocated

section Reordered

variable {i i' j : Interpreter}

/-- Calls change nothing of the order. -/
theorem Orderly.steady (h : Orderly i) (steady : Steady i j) : Orderly j := by
  refine ⟨h.toAsHost.steady steady, ?_, ?_⟩
  · rw [steady.frame.nodes]
    exact h.ordered
  · rw [Graph.SingleWriters, steady.frame.nodes]
    exact h.single

theorem Reordered.symm (h : Reordered i i') : Reordered i' i :=
  ⟨h.orderly', h.orderly, h.nodes.symm, ⟨h.tensors.1.symm, h.tensors.2.symm⟩, h.allocated.symm⟩

/-- Walking through the nodes of both interpreters leads to the same tensors. -/
theorem Reordered.walk (h : Reordered i i') {f : Node → Action Graph Unit}
    (confined : ∀ node, (f node).Confined node.inputs node.outputs)
    (unnumbered : ∀ node, f node.unnumbered = f node) :
    Follows Graph.Relisted (forM i.graph.nodes f) (forM i'.graph.nodes f) i.graph i'.graph := by
  intro a u done
  have moved := walk_of_unnumbered confined unnumbered h.nodes h.orderly.ordered
    h.orderly'.ordered h.orderly.single done
  exact walk_relisted confined h.tensors a u moved

/-- Calls that keep the tensors the same keep the interpreters reordered. -/
theorem Reordered.of_steady {j' : Interpreter} (h : Reordered i i') (steady : Steady i j)
    (steady' : Steady i' j') (tensors : Graph.Relisted j.graph j'.graph)
    (allocated : j'.allocated = j.allocated) : Reordered j j' := by
  refine ⟨h.orderly.steady steady, h.orderly'.steady steady', ?_, tensors, allocated⟩
  rw [steady.frame.nodes, steady'.frame.nodes]
  exact h.nodes

/-! ### Calls -/

/-- An action on the graph succeeds as it does by itself. -/
theorem outcome_onGraph_eq_some {action : Action Graph Unit} :
    (onGraph action).outcome i = (some (), j) ↔
      ∃ graph, action.outcome i.graph = (some (), graph) ∧ { i with graph } = j := by
  rw [onGraph, Action.outcome_onPart]
  rcases action.outcome i.graph with ⟨_ | _, graph⟩ <;> simp

theorem outcome_resizeInput_eq_some {input : Nat} {shape : Shape} :
    (resizeInput input shape).outcome i = (some (), j) ↔
      ∃ graph, (shapeInput input shape).outcome i.graph = (some (), graph) ∧
        { i with graph, allocated := false } = j := by
  rw [resizeInput_eq, onGraph, Action.outcome_bind, Action.outcome_onPart]
  rcases (shapeInput input shape).outcome i.graph with ⟨_ | _, graph⟩ <;> simp

/-- A call that succeeds on one of the interpreters succeeds on the other one, too. -/
theorem Reordered.call (h : Reordered i i') (call : Call) :
    Follows Reordered call.action call.action i i' := by
  intro ⟨⟩ j done
  -- it is enough to find an end with the same tensors
  suffices found : ∃ j', call.action.outcome i' = (some (), j') ∧
      Graph.Relisted j.graph j'.graph ∧ j'.allocated = j.allocated by
    obtain ⟨j', done', tensors, allocated⟩ := found
    have steady := (call_keepsTo call).related done
    have steady' := (call_keepsTo call).related done'
    exact ⟨j', done', h.of_steady steady steady' tensors allocated⟩
  cases call with
  | setInput input type values =>
      simp only [Call.action, setInput_eq] at done ⊢
      obtain ⟨graph, filled, rfl⟩ := outcome_onGraph_eq_some.mp done
      obtain ⟨graph', filled', same⟩ := fillInput_relisted h.tensors input type values () _ filled
      exact ⟨_, outcome_onGraph_eq_some.mpr ⟨graph', filled', rfl⟩, same, h.allocated⟩
  | resizeInput input shape =>
      obtain ⟨graph, shaped, rfl⟩ := outcome_resizeInput_eq_some.mp done
      obtain ⟨graph', shaped', same⟩ := shapeInput_relisted h.tensors input shape () _ shaped
      exact ⟨_, outcome_resizeInput_eq_some.mpr ⟨graph', shaped', rfl⟩, same, rfl⟩
  | allocate =>
      obtain ⟨graph, prepared, rfl⟩ := outcome_allocate_eq_some.mp done
      rw [h.orderly.prepare] at prepared
      obtain ⟨graph', prepared', same⟩ :=
        h.walk Builtin.prepare_confined Builtin.prepare_unnumbered () _ prepared
      rw [← h.orderly'.prepare] at prepared'
      exact ⟨_, outcome_allocate_eq_some.mpr ⟨graph', prepared', rfl⟩, same, rfl⟩
  | invoke =>
      obtain ⟨allocated, graph, evaluated, rfl⟩ := outcome_invoke_eq_some.mp done
      rw [h.orderly.evaluate] at evaluated
      obtain ⟨graph', evaluated', same⟩ :=
        h.walk Builtin.evaluate_confined Builtin.evaluate_unnumbered () _ evaluated
      rw [← h.orderly'.evaluate] at evaluated'
      exact ⟨_, outcome_invoke_eq_some.mpr ⟨h.allocated.trans allocated, graph', evaluated', rfl⟩,
        same, h.allocated⟩

end Reordered

/-! ## Runs -/

def Accepts : Interpreter → List Call → Prop
  | _, [] => True
  | i, call :: calls => (call.action.run i).ending = .ok () ∧ Accepts (i.after call) calls

instance decidableAccepts : ∀ (i : Interpreter) (calls : List Call), Decidable (i.Accepts calls)
  | _, [] => inferInstanceAs (Decidable True)
  | i, call :: calls =>
    have := decidableAccepts (i.after call) calls
    inferInstanceAs (Decidable (_ ∧ _))

/-- What one order accepts the other one does, and ends with the same tensors. -/
theorem Reordered.accepts {i i' : Interpreter} (h : Reordered i i') {calls : List Call}
    (accepted : i.Accepts calls) :
    i'.Accepts calls ∧ Reordered (i.afterAll calls) (i'.afterAll calls) := by
  induction calls generalizing i i' with
  | nil => exact ⟨trivial, h⟩
  | cons call calls ih =>
      obtain ⟨j', done, reordered⟩ := h.call call () _ (outcome_of_answer call accepted.1)
      obtain ⟨answer, rfl⟩ := Action.outcome_eq_some.mp done
      obtain ⟨accepted', reordered'⟩ := ih reordered accepted.2
      exact ⟨⟨answer, accepted'⟩, reordered'⟩

/-- A graph in dependency order with single writers is run in order. -/
theorem Orderly.start {g : Graph} (ordered : InOrder Node.inputs Node.outputs g.nodes)
    (single : g.SingleWriters) : Orderly (ofGraph g .all) :=
  ⟨⟨.start g, fun _ inside => absurd inside undelegated⟩, ordered, single⟩

/-- Two graphs with the same inputs have been built, whose nodes are the same but have been added in
different orders. If both are orders of their dependencies, then from all tensors the same calls
succeed on both, allocating and invoking among them, and end with the same tensors. -/
theorem order_immaterial {calls calls' : List BuilderCall}
    (inputs : (Graph.build calls').inputs = (Graph.build calls).inputs)
    (nodes : ((Graph.build calls').nodes.map Node.unnumbered).Perm
      ((Graph.build calls).nodes.map Node.unnumbered))
    (ordered : InOrder Node.inputs Node.outputs (Graph.build calls).nodes)
    (ordered' : InOrder Node.inputs Node.outputs (Graph.build calls').nodes)
    (tensors : List TensorEntry) (history : List Call) :
    let i := ofGraph { Graph.build calls with tensors } .all
    let i' := ofGraph { Graph.build calls' with tensors } .all
    (i.Accepts history ↔ i'.Accepts history) ∧
      (i.Accepts history →
        (i'.afterAll history).graph.tensors = (i.afterAll history).graph.tensors) := by
  intro i i'
  have reordered : Reordered i i' :=
    ⟨.start ordered (Graph.singleWriters_build calls),
      .start ordered' (Graph.singleWriters_build calls'), nodes, ⟨rfl, inputs⟩, rfl⟩
  refine ⟨⟨fun accepted => (reordered.accepts accepted).1,
    fun accepted => (reordered.symm.accepts accepted).1⟩, fun accepted => ?_⟩
  exact (reordered.accepts accepted).2.tensors.1

/-- The absolute value and the positive part of two numbers are added. Either may be computed
first. -/
def forked (first second : BuilderCall) : List BuilderCall :=
  [.addInput "x" .f32 [2], .addTensor "absolute" .f32, .addTensor "positive" .f32,
    .addTensor "sum" .f32, first, second, .addNode "sum" .add none [1, 2] [3], .setOutputs [3]]

def absolute : BuilderCall := .addNode "absolute" .abs none [0] [1]

def positive : BuilderCall := .addNode "positive" .relu none [0] [2]

/-- The two graphs start from the tensors that the first one has been built with. -/
def forkedTensors : List TensorEntry := (Graph.build (forked absolute positive)).tensors

def forkedRunner (first second : BuilderCall) : Interpreter :=
  ofGraph { Graph.build (forked first second) with tensors := forkedTensors } .all

/-- A number is written between allocating and invoking. -/
def forkedRun : List Call :=
  [.allocate, .setInput 0 .f32 #[.ofNat 1, Numeric.Floating.neg (.ofNat 2)], .invoke]

theorem forked_alike :
    ((forkedRunner absolute positive).Accepts forkedRun ∧
        (forkedRunner positive absolute).Accepts forkedRun) ∧
      ((forkedRunner positive absolute).afterAll forkedRun).graph.tensors =
        ((forkedRunner absolute positive).afterAll forkedRun).graph.tensors := by
  have accepted : (forkedRunner absolute positive).Accepts forkedRun := by decide +kernel
  have alike : ((forkedRunner absolute positive).Accepts forkedRun ↔
        (forkedRunner positive absolute).Accepts forkedRun) ∧
      ((forkedRunner absolute positive).Accepts forkedRun →
        ((forkedRunner positive absolute).afterAll forkedRun).graph.tensors =
          ((forkedRunner absolute positive).afterAll forkedRun).graph.tensors) :=
    @order_immaterial (forked absolute positive) (forked positive absolute) (by decide +kernel)
      (by decide +kernel) (by decide +kernel) (by decide +kernel) forkedTensors forkedRun
  exact ⟨⟨accepted, alike.1.mp accepted⟩, alike.2 accepted⟩

end Interpreter

end TensorGraph
