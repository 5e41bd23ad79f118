import TensorGraph.Substitution.Evaluation

/-!
# Partition kernels

The host sees a region as a kernel with a life cycle: nodes are captured once, outputs are resized
whenever input shapes may have changed, and filled for every inference. A kernel that has captured
nothing can do neither.
-/

namespace TensorGraph.Substitution

/-- A region, once nodes have been captured. -/
structure PartitionKernel where
  region : Option Region

namespace PartitionKernel

/-- The kernel before nodes are captured. -/
def fresh : PartitionKernel := ⟨none⟩

def captured (kernel : PartitionKernel) : Except Fault Region :=
  require kernel.region (.engine (.evaluation .notInitialized))

/-- Capture nodes. If that fails the kernel stays as it was. -/
def capture (kernel : PartitionKernel) (g : Graph) (nodes : List Nat) :
    Action Unit PartitionKernel := do
  let region ← Region.capture g nodes
  return { kernel with region := some region }

def prepare (kernel : PartitionKernel) : Action Graph Unit := do
  let region ← kernel.captured
  region.infer

def evaluate (kernel : PartitionKernel) : Action Graph Unit := do
  let region ← kernel.captured
  region.evaluate

end PartitionKernel

end TensorGraph.Substitution
