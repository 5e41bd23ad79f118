import TensorGraph.Builtin.Parameters
import TensorGraph.Kernel.BatchToSpace
import TensorGraph.Kernel.ElementWise
import TensorGraph.Kernel.MatrixProduct
import TensorGraph.Kernel.Pooling
import TensorGraph.Kernel.Reduction

/-!
# Evaluation of the host's operators

Evaluating a node runs a kernel on its inputs that fills its output. The type of the first input
decides on the arithmetic; the other tensors have to agree with it. Shapes are those that preparing
the node has set, and the kernels refuse others.
-/

namespace TensorGraph.Builtin

def floatLike (type : ElementType) : Except Fault (FloatLike type.Element) :=
  require type.floatLike? (TensorFailure.notFloatLike type)

/-- Fill the output of a node with a kernel of one operand. -/
def evaluateUnary (node : Node) (type : ElementType)
    (kernel : Grid type.Element → Grid type.Element → Written Unit type.Element) :
    Action Graph Unit := do
  Graph.computing (← node.output 0) type fun g => do
    let input ← g.view (← node.input 0) type
    return kernel input

/-- Fill the output of a node with a kernel of two operands. -/
def evaluateBinary (node : Node) (type : ElementType)
    (kernel : Grid type.Element → Grid type.Element → Grid type.Element →
      Except Fault (Grid type.Element)) : Action Graph Unit := do
  Graph.computing (← node.output 0) type fun g => do
    let a ← g.view (← node.input 0) type
    let b ← g.view (← node.input 1) type
    return fun output => output.overwrite (kernel a b output)

def inputType (node : Node) : Action Graph ElementType := do
  let g ← Action.get
  g.type (← node.input 0)

/-- A function of each value of a floating-point tensor. -/
def evaluateFloatUnary (node : Node)
    (kernel : (type : ElementType) → FloatLike type.Element →
      Grid type.Element → Grid type.Element → Written Unit type.Element) :
    Action Graph Unit := do
  let type ← inputType node
  let arithmetic ← floatLike type
  evaluateUnary node type (kernel type arithmetic)

/-- A function of pairs of values of floating-point tensors. -/
def evaluateFloatBinary (node : Node)
    (kernel : (type : ElementType) → FloatLike type.Element →
      Grid type.Element → Grid type.Element → Grid type.Element →
      Except Fault (Grid type.Element)) : Action Graph Unit := do
  let type ← inputType node
  let arithmetic ← floatLike type
  evaluateBinary node type (kernel type arithmetic)

/-- Sums or products of integers, which have no activation. -/
def evaluateInteger (node : Node) (type : ElementType)
    (kernel : Grid type.Element → Grid type.Element → Grid type.Element →
      Except Fault (Grid type.Element)) : Action Graph Unit := do
  ensure (activation node = .none) (OperatorFailure.activationNeedsFloat node.operator)
  evaluateBinary node type kernel

/-- Sums or products, with one kernel for integers, which wrap around, and another one for
floating-point numbers, which are clamped. -/
def evaluateArithmetic (node : Node)
    (wrapping : {α : Type} → [Number α] → Grid α → Grid α → Grid α → Except Fault (Grid α))
    (clamped : {α : Type} → [FloatLike α] → ClampRange α →
      Grid α → Grid α → Grid α → Except Fault (Grid α)) : Action Graph Unit := do
  match ← inputType node with
  | .i32 => evaluateInteger node .i32 wrapping
  | .i64 => evaluateInteger node .i64 wrapping
  | _ => evaluateFloatBinary node fun _ _ => clamped (activation node).range

def evaluateAdd (node : Node) : Action Graph Unit :=
  evaluateArithmetic node Kernel.addWrapping Kernel.add

def evaluateMul (node : Node) : Action Graph Unit :=
  evaluateArithmetic node Kernel.mulWrapping Kernel.mul

def evaluateAddN (node : Node) : Action Graph Unit := do
  let type ← inputType node
  let _arithmetic ← floatLike type
  Graph.computing (← node.output 0) type fun g => do
    let inputs ← node.inputs.mapM fun id => g.view id type
    return fun output => output.overwrite (Kernel.addN inputs output)

def evaluateMatrixProduct (node : Node) : Action Graph Unit := do
  let type ← inputType node
  let _arithmetic ← floatLike type
  let (adjointX, adjointY) := adjoints node
  let geometry ← Graph.computing (← node.output 0) type fun g => do
    let a ← g.view (← node.input 0) type
    let b ← g.view (← node.input 1) type
    return Kernel.batchMatMul adjointX adjointY a b
  Action.record (.multiplying geometry adjointX adjointY)

def evaluateArgExtremum (node : Node) (largest : Bool) : Action Graph Unit := do
  let type ← inputType node
  ensure (type.number?.isSome = true) (TensorFailure.notNumber type)
  let g ← Action.get
  let indexType ← g.type (← node.output 0)
  ensure (indexType = .i32 ∨ indexType = .i64) (OperatorFailure.unsupportedOutputType indexType)
  let axis ← reductionAxis g node
  Graph.computing (← node.output 0) indexType fun g => do
    let input ← g.view (← node.input 0) type
    return Kernel.argExtremum type indexType axis largest input

def evaluateBatchToSpace (node : Node) : Action Graph Unit := do
  let type ← inputType node
  let (block, crops) ← batchToSpaceParameters (← Action.get) node
  evaluateUnary node type fun input output =>
    output.overwrite (Kernel.batchToSpace block crops input output)

def evaluate (node : Node) : Action Graph Unit :=
  match node.operator with
  | .abs => evaluateFloatUnary node fun _ _ input output =>
    output.overwrite (Kernel.abs input output)
  | .relu => evaluateFloatUnary node fun _ _ input output =>
    output.overwrite (Kernel.relu input output)
  | .add => evaluateAdd node
  | .mul => evaluateMul node
  | .sub => evaluateFloatBinary node fun _ _ => Kernel.sub (activation node).range
  | .atan2 => evaluateFloatBinary node fun _ _ => Kernel.arctan2
  | .addN => evaluateAddN node
  | .batchMatMul => evaluateMatrixProduct node
  | .averagePool2d => evaluateFloatUnary node fun _ _ =>
    Kernel.averagePoolInto (poolParameters node).geometry (poolParameters node).activation.range
  | .maxPool2d => evaluateFloatUnary node fun _ _ =>
    Kernel.maxPoolInto (poolParameters node).geometry (poolParameters node).activation.range
  | .argMax => evaluateArgExtremum node true
  | .argMin => evaluateArgExtremum node false
  | .batchToSpaceNd => evaluateBatchToSpace node

end TensorGraph.Builtin
