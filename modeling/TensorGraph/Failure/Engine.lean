import TensorGraph.Failure.Kernel
import TensorGraph.Substitution.Descriptor
import TensorGraph.Text.Quoted

/-!
# What can go wrong in the substitution engine

The engine sorts its failures into four classes, so that a caller can tell a broken graph from an
unsupported type, an impossible shape and a failed evaluation.
-/

namespace TensorGraph.Substitution

/-- Why nodes can not be captured. -/
inductive GraphMalformation where
  /-- A node could not be fetched, for the given reason. -/
  | capturing (node : Nat) (reason : String)
  | notSubstitutable (name : String) (operator : Operator)
  | arity (name : String) (kind : Kind) (inputs outputs : Nat)
  | foreignParameters (name : String) (kind : Kind) (parameters : Parameters)
deriving DecidableEq

def GraphMalformation.text : GraphMalformation → String
  | capturing node reason => s!"Capturing node {node}: {reason}"
  | notSubstitutable name operator => s!"{name} ({operator}) is not a substitutable operator"
  | arity name kind inputs outputs =>
    s!"{name} ({kind}) expects {kind.inputArity.text} input(s) and {kind.outputArity} output(s), got {inputs} and {outputs}"
  | foreignParameters name kind parameters =>
    s!"{name} ({kind}) carries parameters of another operator: {parameters.text}"

/-- Which element type is not supported. -/
inductive TypeMismatch where
  | input (kind : Kind) (actual : ElementType)
  | output (kind : Kind) (actual : ElementType)
  | declared (kind : Kind) (declared actual : ElementType)
deriving DecidableEq

def TypeMismatch.text : TypeMismatch → String
  | input kind actual => s!"{kind} input is {actual}, supported: {Text.list kind.inputTypes}"
  | output kind actual => s!"{kind} output is {actual}, supported: {Text.list kind.outputTypes}"
  | declared kind promised actual =>
    s!"{kind} declares output type {promised} but its output is {actual}"

/-- Why an output shape can not be computed or set. -/
inductive ShapeProblem where
  | readingShape (tensor : Nat)
  | readingIntegers (tensor : Nat)
  | singleAxis (kind : Kind) (values : List Int)
  | axisOutOfRange (axis : Int) (rank : Nat)
  | batchToSpaceRank (rank : Nat)
  | invalidBlock (block : List Int) (spatialAxes : Nat)
  | invalidCrops (crops : List Int) (spatialAxes : Nat)
  | blockOverflow (block : List Nat)
  | batchNotMultiple (batch blockSize : Nat)
  | blockAxisOverflow (block axis : Nat)
  | cropsTooLarge (before after full : Nat)
  | operands (kind : Kind) (a b : Shape)
  | addNShapes (first other : Shape)
  | poolingRank (input : Shape)
  | pooling (input : Shape) (geometry : PoolGeometry)
  | batchMatMul (a b : Shape)
  | resizeRefused (tensor : Nat)
deriving DecidableEq

def ShapeProblem.text : ShapeProblem → String
  | readingShape tensor => s!"Reading shape of tensor {tensor}"
  | readingIntegers tensor => s!"Reading integer parameters from tensor {tensor}"
  | singleAxis kind values => s!"{kind} expects a single axis, got {Text.list values}"
  | axisOutOfRange axis rank => s!"Axis {axis} out of range for rank {rank}"
  | batchToSpaceRank rank => s!"BatchToSpaceNd input must have rank 3 or 4, got {rank}"
  | invalidBlock block spatialAxes =>
    s!"Invalid block shape {Text.list block} for {spatialAxes} spatial axes"
  | invalidCrops crops spatialAxes =>
    s!"Invalid crops {Text.list crops} for {spatialAxes} spatial axes"
  | blockOverflow block => s!"Block sizes {Text.list block} overflow"
  | batchNotMultiple batch blockSize =>
    s!"Batch size {batch} is not a multiple of the block size {blockSize}"
  | blockAxisOverflow block axis => s!"Block size {block} overflows axis {axis}"
  | cropsTooLarge before after full => s!"Crops ({before}, {after}) exceed {full}"
  | operands kind a b => s!"{kind} operands {Text.list a} and {Text.list b}"
  | addNShapes first other =>
    s!"AddN inputs have different shapes: {Text.list first} and {Text.list other}"
  | poolingRank input => s!"Pooling expects a NHWC input, got {Text.list input}"
  | pooling input geometry => s!"Pooling {Text.list input} with {geometry}"
  | batchMatMul a b => s!"BatchMatMul of {Text.list a} by {Text.list b}"
  | resizeRefused tensor => s!"Host refused to resize {tensor}"

/-- Why an evaluation failed. -/
inductive EvaluationProblem where
  | notInitialized
  | noPoolingParameters (kind : Kind)
  | noAdjointFlags (kind : Kind)
  | noDeclaredType (kind : Kind)
  | unsupportedAdjoints (adjointX adjointY : Bool)
  | kernelFailed (kind : Kind) (tensor : Nat)
deriving DecidableEq

def EvaluationProblem.text : EvaluationProblem → String
  | notInitialized => "Kernel used before init"
  | noPoolingParameters kind => s!"{kind} has no pooling parameters"
  | noAdjointFlags kind => s!"{kind} has no adjoint flags"
  | noDeclaredType kind => s!"{kind} has no declared output type"
  | unsupportedAdjoints adjointX adjointY =>
    s!"BatchMatMul only runs with adj_x=false and adj_y=true, got {Text.truth adjointX} and {Text.truth adjointY}"
  | kernelFailed kind tensor => s!"{kind} into tensor {tensor}"

inductive EngineFailure where
  | malformedGraph (problem : GraphMalformation)
  | unsupportedType (problem : TypeMismatch)
  | shape (problem : ShapeProblem)
  | evaluation (problem : EvaluationProblem)
deriving DecidableEq

inductive FailureClass where
  | malformedGraph
  | unsupportedType
  | shape
  | evaluation
deriving DecidableEq

namespace EngineFailure

def category : EngineFailure → FailureClass
  | malformedGraph _ => .malformedGraph
  | unsupportedType _ => .unsupportedType
  | shape _ => .shape
  | evaluation _ => .evaluation

def text : EngineFailure → String
  | malformedGraph problem => "Malformed graph: " ++ problem.text
  | unsupportedType problem => "Unsupported type: " ++ problem.text
  | shape problem => "Shape error: " ++ problem.text
  | evaluation problem => "Evaluation error: " ++ problem.text

end EngineFailure

end TensorGraph.Substitution
