import TensorGraph.Graph

/-!
# Building graphs

Tensors and nodes are added one at a time and get the next id. A node is only added if its tensors
exist, if it does not read what it writes, and if what it writes is neither constant nor written by
an earlier node.
-/

namespace TensorGraph.Graph

def addEntry (entry : TensorEntry) : Action Graph Nat := do
  let g ← Action.get
  Action.set { g with tensors := g.tensors ++ [entry] }
  return g.tensors.length

/-- Add a tensor that a node will compute. It is empty until the node is prepared. -/
def addTensor (name : String) (type : ElementType) : Action Graph Nat :=
  addEntry ⟨name, Tensor.empty type, false⟩

/-- Add a tensor by which values come in, filled with zeros. -/
def addInput (name : String) (type : ElementType) (shape : Shape) : Action Graph Nat := do
  let id ← addTensor name type
  let g ← Action.get
  let tensor ← (Tensor.empty type).resize shape
  Action.set { g.put id tensor with inputs := g.inputs ++ [id] }
  return id

/-- Add a tensor that never changes. -/
def addConstant (name : String) (tensor : Tensor) : Action Graph Nat :=
  addEntry ⟨name, tensor, true⟩

/-- Add a node to the list without looking at its tensors. -/
def appendNode (name : String) (operator : Operator) (parameters : Option Parameters)
    (inputs outputs : List Nat) : Action Graph Nat := do
  let g ← Action.get
  let id := g.nodes.length
  Action.set { g with nodes := g.nodes ++ [⟨id, name, operator, parameters, inputs, outputs⟩] }
  return id

/-- Whether a new node of the given name may write a tensor. -/
def checkOutput (g : Graph) (name : String) (inputs : List Nat) (id : Nat) :
    Except Fault Unit := do
  ensure (id ∉ inputs) (GraphFailure.nodeReadsOwnOutput name id)
  let entry ← checked g.tensors[id]?
  ensure (entry.constant = false) (GraphFailure.nodeWritesConstant name id)
  match g.nodes.find? fun node => id ∈ node.outputs with
  | some producer => refuse (GraphFailure.tensorAlreadyComputed name id producer.name)
  | none => return ()

def addNode (name : String) (operator : Operator) (parameters : Option Parameters)
    (inputs outputs : List Nat) : Action Graph Nat := do
  let g ← Action.get
  (inputs ++ outputs).forM fun id =>
    (ensure (id < g.tensors.length) (GraphFailure.nodeTensorMissing name id) : Except Fault Unit)
  outputs.forM fun id => g.checkOutput name inputs id
  appendNode name operator parameters inputs outputs

/-- Name the tensors by which values go out. -/
def setOutputs (ids : List Nat) : Action Graph Unit := do
  let g ← Action.get
  ids.forM fun id =>
    (ensure (id < g.tensors.length) (GraphFailure.noTensor id) : Except Fault Unit)
  Action.set { g with outputs := ids }

end TensorGraph.Graph
