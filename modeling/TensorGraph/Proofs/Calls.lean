import TensorGraph.Proofs.Filling
import TensorGraph.Proofs.Shapes

/-!
# Calls on an interpreter

Between its construction and its end an interpreter is set inputs, resized, allocated and invoked.
None of these calls changes the plan or the frame of the graph (`Interpreter.Steady`), and those
that only concern inputs do not even look at the plan.
-/

namespace TensorGraph

/-! ## Steps of a plan -/

theorem Registry.prepare_keepsTo (registry : Registry) (id : Nat) :
    (registry.prepare id).KeepsTo Graph.SameFrame := by
  refine .bind .get fun g => .bind (.lift _) fun node => .mapFault _ ?_
  exact (Builtin.prepare_keepsTo node).mono fun _ _ h => h.toSameFrame

theorem Registry.evaluate_keepsTo (registry : Registry) (id : Nat) :
    (registry.evaluate id).KeepsTo Graph.SameFrame := by
  refine .bind .get fun g => .bind (.lift _) fun node => .mapFault _ ?_
  exact (Builtin.evaluate_keepsTo node).mono fun _ _ h => h.toSameFrame

namespace Interpreter

/-- Preparing a step, whoever runs it, changes shapes and values at most. -/
theorem prepareStep_keepsTo (registry : Registry) (step : Step) :
    (prepareStep registry step).KeepsTo Graph.SameFrame := by
  cases step with
  | builtin node => exact registry.prepare_keepsTo node
  | delegated partition => exact .mapFault _ (.forM fun d _ => d.infer_sameFrame)

theorem evaluateStep_keepsTo (registry : Registry) (step : Step) :
    (evaluateStep registry step).KeepsTo Graph.SameFrame := by
  cases step with
  | builtin node => exact registry.evaluate_keepsTo node
  | delegated partition => exact .mapFault _ (.forM fun d _ => d.evaluate_sameFrame)

/-! ## What calls keep -/

/-- The interpreters differ at most in shapes and values of tensors, and in whether they are
allocated. -/
structure Steady (i i' : Interpreter) : Prop where
  frame : Graph.SameFrame i.graph i'.graph
  registry : i'.registry = i.registry
  plan : i'.plan = i.plan

instance : IsPreorder Interpreter Steady where
  refl i := ⟨.refl i.graph, rfl, rfl⟩
  trans _ _ _ h h' := ⟨h.frame.trans h'.frame, h'.registry.trans h.registry, h'.plan.trans h.plan⟩

theorem Steady.symm {i i' : Interpreter} (h : Steady i i') : Steady i' i :=
  ⟨h.frame.symm, h.registry.symm, h.plan.symm⟩

/-- What changes shapes and values of the graph leaves the interpreter steady. -/
theorem onGraph_keepsTo {α : Type} {action : Action Graph α}
    (h : action.KeepsTo Graph.SameFrame) : (onGraph action).KeepsTo Steady :=
  fun i => ⟨h i.graph, rfl, rfl⟩

/-- Setting whether the interpreter is allocated. -/
theorem mark_keepsTo (allocated : Bool) :
    (do let i ← Action.get; Action.set { i with allocated } : Action Interpreter Unit).KeepsTo
      Steady := fun i => ⟨.refl i.graph, rfl, rfl⟩

/-! ## Inputs

Writing and shaping inputs are actions on the graph; the rest of the interpreter is only carried
along. -/

/-- Writing values into an input, as an action on the graph. -/
def fillInput (input : Nat) (type : ElementType) (values : Array type.Element) :
    Action Graph Unit := do
  let g ← Action.get
  let id ← require g.inputs[input]? (InterpreterFailure.noInput input)
  let tensor ← g.changeable id
  ensure (tensor.size = values.size)
    (InterpreterFailure.inputLength input tensor.shape values.size)
  let grid ← tensor.elements type
  let filled ← checked (Grid.ofValues? grid.shape values)
  Graph.replace id ⟨type, filled⟩

/-- Giving an input a shape, as an action on the graph. -/
def shapeInput (input : Nat) (shape : Shape) : Action Graph Unit := do
  let g ← Action.get
  let id ← require g.inputs[input]? (InterpreterFailure.noInput input)
  Graph.resize id shape

theorem onGraph_bind {α β : Type} (action : Action Graph α) (next : α → Action Graph β) :
    onGraph (action >>= next) = onGraph action >>= fun a => onGraph (next a) := by
  funext i
  show Action.onPart graph _ (action.andThen next) i =
    (onGraph action).andThen (fun a => onGraph (next a)) i
  simp only [onGraph, Action.onPart, Action.andThen, Action.run]
  rcases action i.graph with ⟨_ | a, g, events⟩ <;> rfl

theorem onGraph_lift {α : Type} (e : Except Fault α) :
    onGraph (liftM e : Action Graph α) = liftM e := rfl

/-- Writing into an input is an action on the graph alone. -/
theorem setInput_eq (input : Nat) (type : ElementType) (values : Array type.Element) :
    setInput input type values = onGraph (fillInput input type values) := by
  funext i
  show (do
    let id ← i.inputId input
    let tensor ← i.graph.changeable id
    ensure (tensor.size = values.size)
      (InterpreterFailure.inputLength input tensor.shape values.size)
    let grid ← tensor.elements type
    let filled ← checked (Grid.ofValues? grid.shape values)
    onGraph (Graph.replace id ⟨type, filled⟩) : Action Interpreter Unit) i = onGraph (do
    let id ← require i.graph.inputs[input]? (InterpreterFailure.noInput input)
    let tensor ← i.graph.changeable id
    ensure (tensor.size = values.size)
      (InterpreterFailure.inputLength input tensor.shape values.size)
    let grid ← tensor.elements type
    let filled ← checked (Grid.ofValues? grid.shape values)
    Graph.replace id ⟨type, filled⟩) i
  simp only [onGraph_bind, onGraph_lift]
  rfl

/-- Giving an input a shape is an action on the graph, after which the interpreter is not allocated.
-/
theorem resizeInput_eq (input : Nat) (shape : Shape) : resizeInput input shape = (do
    onGraph (shapeInput input shape)
    let i ← Action.get
    Action.set { i with allocated := false }) := by
  funext i
  show (do
    let id ← i.inputId input
    onGraph (Graph.resize id shape)
    let i ← Action.get
    Action.set { i with allocated := false } : Action Interpreter Unit) i = (do
    onGraph (do
      let id ← require i.graph.inputs[input]? (InterpreterFailure.noInput input)
      Graph.resize id shape)
    let i ← Action.get
    Action.set { i with allocated := false } : Action Interpreter Unit) i
  simp only [onGraph_bind, onGraph_lift, bind_assoc]
  rfl

/-- Writing values into an input changes no more than the values of that input. -/
theorem fillInput_fills (g : Graph) (input : Nat) (type : ElementType)
    (values : Array type.Element) :
    Graph.Fills g.inputs[input]?.toList g ((fillInput input type values).outcome g).2 := by
  show Graph.Fills g.inputs[input]?.toList g
    ((liftM (require _ _) >>= fun _ => _ : Action Graph Unit).outcome g).2
  refine Action.related_lift_bind fun id listed => Action.related_lift_bind fun tensor free =>
    Action.related_lift_bind fun _ _ => Action.related_lift_bind fun grid read =>
    Action.related_lift_bind fun filled fits => ?_
  show Graph.Fills _ g ((liftM (g.changeable id) >>= fun _ => _ : Action Graph Unit).outcome g).2
  refine Action.related_lift_bind fun _ _ => ?_
  obtain ⟨entry, found, -, rfl⟩ := Graph.changeable_eq_ok.mp free
  have inside : id ∈ g.inputs[input]?.toList := Option.mem_toList.mpr (require_eq_ok.mp listed)
  have read : entry.tensor = ⟨type, grid⟩ := Tensor.elements_eq_ok.mp read
  have shape := Grid.shape_of_ofValues? (checked_eq_ok.mp fits)
  refine .put found ?_ ?_ inside
  · rw [read]
  · rw [read]
    exact shape

/-- Giving an input a shape touches no other tensor. -/
theorem shapeInput_touches (g : Graph) (input : Nat) (shape : Shape) :
    Graph.Touches g.inputs[input]?.toList g ((shapeInput input shape).outcome g).2 := by
  show Graph.Touches g.inputs[input]?.toList g
    ((liftM (require _ _) >>= fun _ => _ : Action Graph Unit).outcome g).2
  refine Action.related_lift_bind fun id listed => ?_
  exact Graph.resize_keepsTo shape (Option.mem_toList.mpr (require_eq_ok.mp listed)) g

theorem named_subset (g : Graph) (input : Nat) : g.inputs[input]?.toList ⊆ g.inputs :=
  fun _ named => List.mem_of_getElem? (Option.mem_toList.mp named)

inductive Call where
  | setInput (input : Nat) (type : ElementType) (values : Array type.Element)
  | resizeInput (input : Nat) (shape : Shape)
  | allocate
  | invoke

namespace Call

def action : Call → Action Interpreter Unit
  | setInput input type values => Interpreter.setInput input type values
  | resizeInput input shape => Interpreter.resizeInput input shape
  | allocate => Interpreter.allocate
  | invoke => Interpreter.invoke

/-- Whether the call runs the plan. -/
def Runs : Call → Prop
  | allocate | invoke => True
  | setInput _ _ _ | resizeInput _ _ => False

instance : DecidablePred Runs
  | allocate => inferInstanceAs (Decidable True)
  | invoke => inferInstanceAs (Decidable True)
  | setInput _ _ _ => inferInstanceAs (Decidable False)
  | resizeInput _ _ => inferInstanceAs (Decidable False)

end Call

/-- The interpreter after a call, successful or not. -/
def after (i : Interpreter) (call : Call) : Interpreter := (call.action.run i).state

/-- What a call that succeeds comes to. -/
theorem outcome_of_answer {i : Interpreter} (call : Call)
    (answer : (call.action.run i).ending = .ok ()) :
    call.action.outcome i = (some (), i.after call) :=
  Action.outcome_eq_some.mpr ⟨answer, rfl⟩

/-- What is seen of a call: the call itself, its answer, and the tensors after it. -/
structure Observation where
  call : Call
  answer : Except Fault Unit
  tensors : List TensorEntry

/-- What is seen of calls that are made one after the other, whatever the answers are. -/
def trace : Interpreter → List Call → List Observation
  | _, [] => []
  | i, call :: calls =>
    ⟨call, (call.action.run i).ending, (i.after call).graph.tensors⟩ :: trace (i.after call) calls

theorem allocate_keepsTo : allocate.KeepsTo Steady := by
  refine .bind .get fun i => .bind (onGraph_keepsTo (.forM fun step _ => ?_)) fun _ =>
    mark_keepsTo true
  exact prepareStep_keepsTo _ step

theorem invoke_keepsTo : invoke.KeepsTo Steady := by
  refine .bind .get fun i => .bind (.lift _) fun _ => onGraph_keepsTo (.forM fun step _ => ?_)
  exact evaluateStep_keepsTo _ step

theorem resizeInput_keepsTo (input : Nat) (shape : Shape) :
    (resizeInput input shape).KeepsTo Steady := by
  refine .bind .get fun i => .bind (.lift _) fun id => .bind (onGraph_keepsTo ?_) fun _ =>
    mark_keepsTo false
  exact (Graph.resize_keepsTo shape (List.mem_singleton_self id)).mono fun _ _ h => h.toSameFrame

theorem setInput_keepsTo (input : Nat) (type : ElementType) (values : Array type.Element) :
    (setInput input type values).KeepsTo Steady := by
  rw [setInput_eq]
  apply onGraph_keepsTo
  intro g
  exact (fillInput_fills g input type values).toSameFrame

/-- Calls change shapes and values at most, and whether the interpreter is allocated. -/
theorem call_keepsTo (call : Call) : call.action.KeepsTo Steady := by
  cases call with
  | setInput input type values => exact setInput_keepsTo input type values
  | resizeInput input shape => exact resizeInput_keepsTo input shape
  | allocate => exact allocate_keepsTo
  | invoke => exact invoke_keepsTo

theorem steady_after (i : Interpreter) (call : Call) : Steady i (i.after call) :=
  call_keepsTo call i

def afterAll (i : Interpreter) (calls : List Call) : Interpreter := calls.foldl after i

/-- So do any number of calls. -/
theorem steady_afterAll (i : Interpreter) (calls : List Call) : Steady i (i.afterAll calls) := by
  induction calls generalizing i with
  | nil => exact refl_of Steady i
  | cons call calls ih => exact trans_of Steady (steady_after i call) (ih (i.after call))

end Interpreter

end TensorGraph
