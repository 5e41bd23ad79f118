import TensorGraph.Graph
import TensorGraph.Kernel.Clamp

/-!
# Parameters of the host's operators

Operators take parameters from the block that the node carries, with defaults where there is none
or it belongs to another operator, and from small integer tensors: the axis of a reduction, the
block sizes and the crops of a weaving. Integer tensors are read again every time.
-/

namespace TensorGraph.Builtin

/-! ### From the parameter block -/

/-- The activation of a node, none if the block has none. -/
def activation (node : Node) : Activation :=
  (node.parameters.bind Parameters.activation?).getD .none

def poolParameters (node : Node) : PoolParameters :=
  match node.parameters with
  | some (.pool options) => options
  | _ => PoolParameters.default

def adjoints (node : Node) : Bool × Bool :=
  match node.parameters with
  | some (.batchMatMul adjointX adjointY) => (adjointX, adjointY)
  | _ => (false, false)

def declaredType? (node : Node) : Option ElementType :=
  match node.parameters with
  | some (.argMax outputType) => some outputType
  | some (.argMin outputType) => some outputType
  | _ => none

/-! ### From integer tensors -/

/-- The values of a small integer tensor. -/
def readIntegers (g : Graph) (id : Nat) : Except Fault (List Int) := do
  let entry ← g.entry id
  during (OperatorFailure.readingIntegers entry.name) entry.tensor.integers

/-- The axis along which a node reduces its input; negative ones count from the last axis. -/
def reductionAxis (g : Graph) (node : Node) : Except Fault Nat := do
  let values ← readIntegers g (← node.input 1)
  match values with
  | [axis] =>
    let rank := (← g.shape (← node.input 0)).length
    let resolved := if axis < 0 then axis + rank else axis
    ensure (0 ≤ resolved ∧ resolved < rank) (KernelFailure.axisOutOfRange axis rank)
    return resolved.toNat
  | _ => refuse (OperatorFailure.singleAxis values)

/-- The values as consecutive pairs; a last single value is dropped. -/
def pairs : List Int → List (Nat × Nat)
  | before :: after :: rest => (before.toNat, after.toNat) :: pairs rest
  | _ => []

def batchToSpaceParameters (g : Graph) (node : Node) :
    Except Fault (List Nat × List (Nat × Nat)) := do
  let rank := (← g.shape (← node.input 0)).length
  ensure (rank = 3 ∨ rank = 4) (OperatorFailure.batchToSpaceRank rank)
  let spatial := rank - 2
  let block ← readIntegers g (← node.input 1)
  let crops ← readIntegers g (← node.input 2)
  ensure (block.length = spatial) (OperatorFailure.blockCount spatial block)
  ensure (crops.length = 2 * spatial) (OperatorFailure.cropCount (2 * spatial) crops)
  ensure (∀ b ∈ block, 1 ≤ b) (OperatorFailure.blockNotPositive block)
  ensure (∀ c ∈ crops, 0 ≤ c) (OperatorFailure.cropNegative crops)
  return (block.map Int.toNat, pairs crops)

end TensorGraph.Builtin
