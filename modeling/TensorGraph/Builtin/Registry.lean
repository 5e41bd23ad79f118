import TensorGraph.Builtin.Evaluation
import TensorGraph.Builtin.OutputShape

/-!
# The registry

The operators that an interpreter has builtin kernels for.
-/

namespace TensorGraph

structure Registry where
  operators : List Operator

namespace Registry

def all : Registry := ⟨Operator.all⟩

/-- The node, if its operator is registered. -/
def lookUp (registry : Registry) (g : Graph) (id : Nat) : Except Fault Node := do
  let node ← g.node id
  ensure (node.operator ∈ registry.operators) (OperatorFailure.notRegistered node.operator)
  return node

def prepare (registry : Registry) (id : Nat) : Action Graph Unit := do
  let node ← registry.lookUp (← Action.get) id
  Action.during (OperatorFailure.preparing node.name) (Builtin.prepare node)

def evaluate (registry : Registry) (id : Nat) : Action Graph Unit := do
  let node ← registry.lookUp (← Action.get) id
  Action.during (OperatorFailure.evaluating node.name) (Builtin.evaluate node)

end Registry

end TensorGraph
