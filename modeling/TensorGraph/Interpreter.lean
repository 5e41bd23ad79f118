import TensorGraph.Builtin.Registry
import TensorGraph.Interpreter.Delegation

/-!
# The interpreter

An interpreter owns a graph and a plan. At first the plan has a builtin step for every node;
delegates can take over parts of it. Allocating prepares every step, which gives all tensors their
shapes; after that, and until the shape of an input or the plan changes, the graph can be invoked.
-/

namespace TensorGraph

structure Interpreter where
  graph : Graph
  registry : Registry
  plan : List Step
  allocated : Bool

namespace Interpreter

/-- The interpreter that runs every node of the graph by itself. -/
def ofGraph (graph : Graph) (registry : Registry) : Interpreter :=
  ⟨graph, registry, (List.range graph.nodes.length).map .builtin, false⟩

def onGraph {α : Type} (action : Action Graph α) : Action Interpreter α :=
  Action.onPart Interpreter.graph (fun graph i => { i with graph }) action

/-! ### The plan -/

/-- The name of a step: the operator of a builtin step, the delegate of a delegated one. -/
def nameOf (i : Interpreter) : Step → Except Fault String
  | .builtin node => return (← i.graph.node node).operator.name
  | .delegated partition => .ok partition.delegate

def stepName (i : Interpreter) (step : Nat) : Except Fault String := do
  i.nameOf (← require i.plan[step]? (InterpreterFailure.noStep step))

/-- Hand parts of the plan over to a delegate. If that fails the plan stays as it was. -/
def delegate (delegate : Delegate) : Action Interpreter Unit := do
  let i ← Action.get
  let plan ← delegate.divide i.graph i.plan
  Action.set { i with plan, allocated := false }

/-! ### Inputs and outputs -/

def inputId (i : Interpreter) (input : Nat) : Except Fault Nat :=
  require i.graph.inputs[input]? (InterpreterFailure.noInput input)

/-- Give an input a shape. The graph has to be allocated again before it is invoked. -/
def resizeInput (input : Nat) (shape : Shape) : Action Interpreter Unit := do
  let id ← (← Action.get).inputId input
  onGraph (Graph.resize id shape)
  let i ← Action.get
  Action.set { i with allocated := false }

def putInput (input : Nat) (tensor : Tensor) : Action Interpreter Unit := do
  let id ← (← Action.get).inputId input
  onGraph (Graph.replace id tensor)

/-- Write values into an input, as many as its shape has positions. -/
def setInput (input : Nat) (type : ElementType) (values : Array type.Element) :
    Action Interpreter Unit := do
  let i ← Action.get
  let id ← i.inputId input
  let tensor ← i.graph.changeable id
  ensure (tensor.size = values.size)
    (InterpreterFailure.inputLength input tensor.shape values.size)
  let grid ← tensor.elements type
  let filled ← checked (Grid.ofValues? grid.shape values)
  onGraph (Graph.replace id ⟨type, filled⟩)

def output (i : Interpreter) (output : Nat) : Except Fault Tensor := do
  i.graph.tensor (← require i.graph.outputs[output]? (InterpreterFailure.noOutput output))

/-! ### Running -/

def prepareStep (registry : Registry) : Step → Action Graph Unit
  | .builtin node => registry.prepare node
  | .delegated partition =>
    Action.during (InterpreterFailure.preparingPartition partition.delegate partition.nodes)
      partition.region.infer

def evaluateStep (registry : Registry) : Step → Action Graph Unit
  | .builtin node => registry.evaluate node
  | .delegated partition =>
    Action.during (InterpreterFailure.runningPartition partition.delegate partition.nodes)
      partition.region.evaluate

/-- Give all tensors their shapes. -/
def allocate : Action Interpreter Unit := do
  let i ← Action.get
  onGraph (i.plan.forM (prepareStep i.registry))
  let i ← Action.get
  Action.set { i with allocated := true }

def invoke : Action Interpreter Unit := do
  let i ← Action.get
  ensure (i.allocated = true) InterpreterFailure.notAllocated
  onGraph (i.plan.forM (evaluateStep i.registry))

end Interpreter

end TensorGraph
