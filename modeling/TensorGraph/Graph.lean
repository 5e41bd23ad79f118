import TensorGraph.Action
import TensorGraph.Tensor

/-!
# Graphs

A graph is a table of tensors and a list of nodes that compute some of them from others. Tensors
are referred to by their place in the table, nodes by their place in the list, which is also the
order in which they run. Some tensors are constants; nothing may change those.

The graph also holds the tensors' values. Operators change it in two ways only: they `resize` a
tensor, or fill one through `filling`, during which the graph shows an empty tensor in its place.
-/

namespace TensorGraph

structure TensorEntry where
  name : String
  tensor : Tensor
  constant : Bool

/-- Tensors, nodes, and the tensors by which values come in and go out. -/
structure Graph where
  tensors : List TensorEntry
  nodes : List Node
  inputs : List Nat
  outputs : List Nat

namespace Node

def input (node : Node) (i : Nat) : Except Fault Nat := checked node.inputs[i]?

def output (node : Node) (i : Nat) : Except Fault Nat := checked node.outputs[i]?

end Node

namespace Graph

def empty : Graph := ⟨[], [], [], []⟩

/-! ### Looking things up -/

def node (g : Graph) (id : Nat) : Except Fault Node := require g.nodes[id]? (GraphFailure.noNode id)

def entry (g : Graph) (id : Nat) : Except Fault TensorEntry :=
  require g.tensors[id]? (GraphFailure.noTensor id)

def tensor (g : Graph) (id : Nat) : Except Fault Tensor := return (← g.entry id).tensor

def type (g : Graph) (id : Nat) : Except Fault ElementType := return (← g.tensor id).type

def shape (g : Graph) (id : Nat) : Except Fault Shape := return (← g.tensor id).shape

/-- A tensor as a grid of elements of a type. -/
def view (g : Graph) (id : Nat) (type : ElementType) : Except Fault (Grid type.Element) := do
  (← g.tensor id).view type

/-- A tensor that may be changed. -/
def changeable (g : Graph) (id : Nat) : Except Fault Tensor := do
  let entry ← g.entry id
  ensure (entry.constant = false) (GraphFailure.constantTensor id entry.name)
  return entry.tensor

/-! ### Changing tensors -/

/-- The graph with another tensor in a place of the table. -/
def put (g : Graph) (id : Nat) (tensor : Tensor) : Graph :=
  { g with tensors := g.tensors.modify id fun entry => { entry with tensor } }

def replace (id : Nat) (tensor : Tensor) : Action Graph Unit := do
  let g ← Action.get
  let _ ← g.changeable id
  Action.set (g.put id tensor)

/-- Give a tensor a shape. Nothing happens if it has that shape already. -/
def resize (id : Nat) (shape : Shape) : Action Graph Unit := do
  let g ← Action.get
  let tensor ← g.changeable id
  if tensor.shape = shape then return ()
  else
    Action.record (.resizing id tensor.shape shape)
    let resized ← tensor.resize shape
    Action.set (g.put id resized)

/-- Let a computation fill a tensor while it looks at the rest of the graph, where an empty tensor
stands in for it. What the computation wrote stays, whether it succeeds or not. -/
def filling {α : Type} (id : Nat) (fill : Graph → Tensor → Except Fault α × Tensor) :
    Action Graph α := do
  let g ← Action.get
  let tensor ← g.changeable id
  let (ending, after) := fill (g.put id (Tensor.empty tensor.type)) tensor
  Action.set (g.put id after)
  ending

/-- Let a kernel fill a tensor of the given type. First `prepare` reads the kernel's operands from
the graph; then the tensor has to be a grid of the type. -/
def computing {α : Type} (id : Nat) (type : ElementType)
    (prepare : Graph → Except Fault (Grid type.Element → Written α type.Element)) :
    Action Graph α :=
  filling id fun g output =>
    match prepare g with
    | .error fault => (.error fault, output)
    | .ok kernel => output.update type kernel

end Graph

end TensorGraph
