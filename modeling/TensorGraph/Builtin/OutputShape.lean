import TensorGraph.Builtin.Parameters
import TensorGraph.Kernel.MatrixProduct
import TensorGraph.Kernel.Padding

/-!
# Output shapes of the host's operators

Preparing a node checks its arity and the element types of its tensors, and gives its output the
shape that the inputs call for. `outputShape` makes all checks and finds the shape; `prepare` then
resizes the output.
-/

namespace TensorGraph.Builtin

/-! ### Checks -/

def checkArity (node : Node) (inputs outputs : Nat) : Except Fault Unit :=
  ensure (node.inputs.length = inputs ∧ node.outputs.length = outputs)
    (OperatorFailure.arity node.operator inputs outputs node.inputs.length node.outputs.length)

/-- The type of the first input, which the output has to have too. -/
def commonType (g : Graph) (node : Node) : Except Fault ElementType := do
  let input ← g.type (← node.input 0)
  let output ← g.type (← node.output 0)
  ensure (input = output) (OperatorFailure.outputType node.operator output input)
  return input

/-! ### Shape rules -/

/-- One input, whose shape the output takes. -/
def sameShape (g : Graph) (node : Node) : Except Fault Shape := do
  checkArity node 1 1
  let _ ← commonType g node
  g.shape (← node.input 0)

/-- Two operands of one type, broadcast against each other. -/
def binaryShape (g : Graph) (node : Node) : Except Fault Shape := do
  checkArity node 2 1
  let type ← commonType g node
  ensure ((← g.type (← node.input 1)) = type) (OperatorFailure.operandTypes node.operator)
  Shape.broadcast [← g.shape (← node.input 0), ← g.shape (← node.input 1)]

/-- Any number of inputs of one type and shape, but at least one. -/
def addNShape (g : Graph) (node : Node) : Except Fault Shape := do
  ensure (node.inputs ≠ [] ∧ node.outputs.length = 1) OperatorFailure.addNArity
  let type ← commonType g node
  let shape ← g.shape (← node.input 0)
  (node.inputs.drop 1).forM fun id => do
    ensure ((← g.type id) = type) OperatorFailure.addNTypes
    let other ← g.shape id
    ensure (other = shape) (OperatorFailure.addNShapes shape other)
  return shape

def matrixShape (g : Graph) (node : Node) : Except Fault Shape := do
  checkArity node 2 1
  let _ ← commonType g node
  let (adjointX, adjointY) := adjoints node
  let geometry ← MatrixGeometry.ofShapes (← g.shape (← node.input 0))
    (← g.shape (← node.input 1)) adjointX adjointY
  return geometry.outputShape

def poolShape (g : Graph) (node : Node) : Except Fault Shape := do
  checkArity node 1 1
  let _ ← commonType g node
  (poolParameters node).geometry.outputShape (← g.shape (← node.input 0))

/-- The input without the reduced axis. The output holds indices of one of two types, and of the
declared one if the node declares one. -/
def reducedShape (g : Graph) (node : Node) : Except Fault Shape := do
  checkArity node 2 1
  let type ← g.type (← node.output 0)
  ensure (type = .i32 ∨ type = .i64) (OperatorFailure.indexType node.operator type)
  match declaredType? node with
  | some declared =>
    ensure (declared = type) (OperatorFailure.declaredType node.operator declared type)
  | none => pure ()
  let axis ← reductionAxis g node
  return (← g.shape (← node.input 0)).eraseIdx axis

/-- The extent of a woven and cropped axis. -/
def wovenExtent (axis extent block : Nat) (crop : Nat × Nat) : Except Fault Nat := do
  let full ← require (Size.mul? extent block) (OperatorFailure.blockAxisOverflow block axis)
  require ((Size.add? crop.1 crop.2).bind (Size.sub? full))
    (OperatorFailure.cropsTooLarge crop.1 crop.2 full axis)

/-- The extents of woven axes, the first of which has the given number. -/
def wovenExtents : Nat → List Nat → List Nat → List (Nat × Nat) → Except Fault (List Nat)
  | axis, extents, b :: block, c :: crops => do
    let extent ← checked extents.head?
    let woven ← wovenExtent axis extent b c
    return woven :: (← wovenExtents (axis + 1) extents.tail block crops)
  | _, extents, _, _ => .ok extents

def batchToSpaceShape (input : Shape) (block : List Nat) (crops : List (Nat × Nat)) :
    Except Fault Shape := do
  let blockSize ← require (block.foldlM Size.mul? 1) (OperatorFailure.blockOverflow block)
  let batch ← checked input.head?
  if blockSize = 0 then .error .aborted
  ensure (batch % blockSize = 0) (OperatorFailure.batchNotMultiple batch blockSize)
  return batch / blockSize :: (← wovenExtents 1 input.tail block crops)

def wovenShape (g : Graph) (node : Node) : Except Fault Shape := do
  checkArity node 3 1
  let _ ← commonType g node
  let (block, crops) ← batchToSpaceParameters g node
  batchToSpaceShape (← g.shape (← node.input 0)) block crops

/-! ### Preparing -/

def outputShape (g : Graph) (node : Node) : Except Fault Shape :=
  match node.operator with
  | .abs | .relu => sameShape g node
  | .add | .sub | .mul | .atan2 => binaryShape g node
  | .addN => addNShape g node
  | .batchMatMul => matrixShape g node
  | .averagePool2d | .maxPool2d => poolShape g node
  | .argMax | .argMin => reducedShape g node
  | .batchToSpaceNd => wovenShape g node

/-- Give the output of a node its shape. -/
def prepare (node : Node) : Action Graph Unit := do
  let shape ← outputShape (← Action.get) node
  Graph.resize (← node.output 0) shape

end TensorGraph.Builtin
