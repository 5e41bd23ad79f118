import TensorGraph.Substitution.Evaluation

/-!
# Plans and partitions

A plan lists the steps of an inference. A builtin step runs one node of the graph; a delegated step
runs several consecutive nodes through the region that a delegate captured from them.
-/

namespace TensorGraph

/-- Consecutive nodes handed over to a delegate. -/
structure Partition where
  delegate : String
  nodes : List Nat
  /-- Tensors that the partition reads and that are computed outside of it. -/
  inputs : List Nat
  /-- Tensors that the partition computes and that are needed outside of it. -/
  outputs : List Nat
  region : Substitution.Region
deriving DecidableEq

inductive Step where
  | builtin (node : Nat)
  | delegated (partition : Partition)
deriving DecidableEq

namespace Step

def nodes : Step → List Nat
  | builtin node => [node]
  | delegated partition => partition.nodes

end Step

namespace Graph

def produced (g : Graph) (nodes : List Nat) : List Nat :=
  nodes.flatMap fun id => (g.nodes[id]?.map Node.outputs).getD []

def consumed (g : Graph) (nodes : List Nat) : List Nat :=
  nodes.flatMap fun id => (g.nodes[id]?.map Node.inputs).getD []

/-- The tensors that nodes read and that are computed elsewhere, each once. -/
def boundaryInputs (g : Graph) (nodes : List Nat) : List Nat :=
  ((g.consumed nodes).filter fun t => t ∉ g.produced nodes).eraseDups

/-- The tensors that nodes compute and that go out of the graph or are read by other nodes. -/
def boundaryOutputs (g : Graph) (nodes : List Nat) : List Nat :=
  (g.produced nodes).filter fun t =>
    t ∈ g.outputs ∨ ∃ node ∈ g.nodes, node.id ∉ nodes ∧ t ∈ node.inputs

end Graph

end TensorGraph
