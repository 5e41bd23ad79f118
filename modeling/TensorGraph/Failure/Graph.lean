import TensorGraph.Failure.Kernel
import TensorGraph.Operator

/-!
# What can go wrong with graphs, the host's operators and the interpreter
-/

namespace TensorGraph

/-- Why a graph does not answer a request, or can not be extended. -/
inductive GraphFailure where
  | noTensor (id : Nat)
  | noNode (id : Nat)
  | constantTensor (id : Nat) (name : String)
  | nodeTensorMissing (node : String) (id : Nat)
  | nodeReadsOwnOutput (node : String) (id : Nat)
  | nodeWritesConstant (node : String) (id : Nat)
  | tensorAlreadyComputed (node : String) (id : Nat) (producer : String)
deriving DecidableEq

def GraphFailure.text : GraphFailure → String
  | noTensor id => s!"No tensor with id {id}"
  | noNode id => s!"No node with id {id}"
  | constantTensor id name => s!"Tensor {id} ({name}) is constant"
  | nodeTensorMissing node id => s!"Node {node}: no tensor with id {id}"
  | nodeReadsOwnOutput node id => s!"Node {node}: tensor {id} is both input and output"
  | nodeWritesConstant node id => s!"Node {node}: output tensor {id} is a constant"
  | tensorAlreadyComputed node id producer =>
    s!"Node {node}: tensor {id} is already computed by {producer}"

/-- Why a host operator can not be prepared or evaluated. -/
inductive OperatorFailure where
  | notRegistered (operator : Operator)
  | arity (operator : Operator) (inputs outputs actualInputs actualOutputs : Nat)
  | outputType (operator : Operator) (output input : ElementType)
  | operandTypes (operator : Operator)
  | addNArity
  | addNTypes
  | addNShapes (first other : Shape)
  | activationNeedsFloat (operator : Operator)
  | singleAxis (values : List Int)
  | indexType (operator : Operator) (actual : ElementType)
  | declaredType (operator : Operator) (declared actual : ElementType)
  | unsupportedOutputType (actual : ElementType)
  | batchToSpaceRank (rank : Nat)
  | blockCount (expected : Nat) (block : List Int)
  | cropCount (expected : Nat) (crops : List Int)
  | blockNotPositive (block : List Int)
  | cropNegative (crops : List Int)
  | blockOverflow (block : List Nat)
  | batchNotMultiple (batch blockSize : Nat)
  | blockAxisOverflow (block axis : Nat)
  | cropsTooLarge (before after full axis : Nat)
  | readingIntegers (tensor : String)
  | preparing (node : String)
  | evaluating (node : String)
deriving DecidableEq

def OperatorFailure.text : OperatorFailure → String
  | notRegistered operator => s!"No builtin for operator {operator}"
  | arity operator inputs outputs actualInputs actualOutputs =>
    s!"{operator} expects {inputs} inputs and {outputs} outputs, got {actualInputs} and {actualOutputs}"
  | outputType operator output input =>
    s!"{operator} output type {output} differs from input type {input}"
  | operandTypes operator => s!"{operator} operands have different types"
  | addNArity => "AddN expects at least one input and exactly one output"
  | addNTypes => "AddN inputs have different types"
  | addNShapes first other =>
    s!"AddN inputs have different shapes: {Text.list first} and {Text.list other}"
  | activationNeedsFloat operator => s!"Fused activation on {operator} requires float operands"
  | singleAxis values => s!"Expected a single axis, got {Text.list values}"
  | indexType operator actual => s!"{operator} output must be I32 or I64, got {actual}"
  | declaredType operator declared actual =>
    s!"{operator} declares output type {declared} but its output is {actual}"
  | unsupportedOutputType actual => s!"Unsupported output type {actual}"
  | batchToSpaceRank rank => s!"BatchToSpaceNd input must be rank 3 or 4, got {rank}"
  | blockCount expected block => s!"Expected {expected} block sizes, got {Text.list block}"
  | cropCount expected crops => s!"Expected {expected} crop values, got {Text.list crops}"
  | blockNotPositive block => s!"Block sizes must be positive, got {Text.list block}"
  | cropNegative crops => s!"Crops must be non-negative, got {Text.list crops}"
  | blockOverflow block => s!"Block sizes {Text.list block} overflow"
  | batchNotMultiple batch blockSize =>
    s!"Batch {batch} is not a multiple of block size {blockSize}"
  | blockAxisOverflow block axis => s!"Block size {block} overflows axis {axis}"
  | cropsTooLarge before after full axis =>
    s!"Crops ({before}, {after}) exceed spatial size {full} on axis {axis}"
  | readingIntegers tensor => s!"Reading integer parameters from {tensor}"
  | preparing node => s!"Preparing {node}"
  | evaluating node => s!"Evaluating {node}"

/-- Why the interpreter refuses a request, or where in its plan a request failed. -/
inductive InterpreterFailure where
  | noStep (step : Nat)
  | noInput (input : Nat)
  | noOutput (output : Nat)
  | inputLength (input : Nat) (shape : Shape) (values : Nat)
  | notAllocated
  | initializing (delegate : String) (nodes : List Nat)
  | preparingPartition (delegate : String) (nodes : List Nat)
  | runningPartition (delegate : String) (nodes : List Nat)
deriving DecidableEq

def InterpreterFailure.text : InterpreterFailure → String
  | noStep step => s!"No step {step} in plan"
  | noInput input => s!"No input #{input}"
  | noOutput output => s!"No output #{output}"
  | inputLength input shape values =>
    s!"Input #{input} has shape {Text.list shape}, got {values} values"
  | notAllocated => "Tensors must be allocated before invoke"
  | initializing delegate nodes => s!"Initializing {delegate} on nodes {Text.list nodes}"
  | preparingPartition delegate nodes => s!"Preparing {delegate} partition {Text.list nodes}"
  | runningPartition delegate nodes => s!"Running {delegate} partition {Text.list nodes}"

end TensorGraph
