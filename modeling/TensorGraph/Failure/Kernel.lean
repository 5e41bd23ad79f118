import TensorGraph.Element
import TensorGraph.Shape

/-!
# What can go wrong with tensors and kernels
-/

namespace TensorGraph

def cropsText (crops : List (Nat × Nat)) : String :=
  Text.bracketed (crops.map fun crop => Text.pair (toString crop.1) (toString crop.2))

/-- Why a tensor can not be made or looked at. -/
inductive TensorFailure where
  | valueCount (shape : Shape) (expected actual : Nat)
  | elementType (actual wanted : ElementType)
  | notInteger (actual : ElementType)
  | notAddressable
  | notFloatLike (type : ElementType)
  | notNumber (type : ElementType)
deriving DecidableEq

def TensorFailure.text : TensorFailure → String
  | valueCount shape expected actual =>
    s!"Shape {Text.list shape} expects {expected} elements, got {actual}"
  | elementType actual wanted =>
    s!"Tensor datum type error: tensor is {actual}, accessed as {wanted}"
  | notInteger actual => s!"Expected an integer tensor, got {actual}"
  | notAddressable => "ShapeError/Overflow: arithmetic overflow"
  | notFloatLike type => s!"{type} is not float-like"
  | notNumber type => s!"{type} is not a number"

/-- Why shapes do not go together, or a kernel refuses its arguments. -/
inductive KernelFailure where
  | incompatibleShapes (shapes : List Shape)
  | notBroadcastable (shape output : Shape)
  | elementWiseShape (output input : Shape)
  | addNEmpty
  | addNShape (input output : Shape)
  | axisOutOfRange (axis : Int) (rank : Nat)
  | emptyAxis (axis : Nat)
  | argExtremumShape (output expected : Shape)
  | indexOverflow (index : Nat) (type : ElementType)
  | geometryRank
  | zeroStride
  | emptyKernel
  | poolingRank (input : Shape)
  | poolingShape (output expected : Shape)
  | emptyWindow
  | matrixRank (a b : Shape)
  | depthMismatch (a b : Nat)
  | matrixShape (output expected : Shape)
  | batchToSpaceRank (input : Shape)
  | batchToSpaceArguments (block : List Nat) (crops : List (Nat × Nat)) (input : Shape)
  | batchToSpaceOutputRank
  | zeroBlock
  | batchToSpaceShape (output input : Shape)
deriving DecidableEq

def KernelFailure.text : KernelFailure → String
  | incompatibleShapes shapes =>
    s!"Can not broadcast shapes {Text.bracketed (shapes.map Text.list)}"
  | notBroadcastable shape output =>
    s!"Can not broadcast {Text.list shape} to output shape {Text.list output}"
  | elementWiseShape output input =>
    s!"Element-wise output shape {Text.list output} does not match input {Text.list input}"
  | addNEmpty => "AddN needs at least one input"
  | addNShape input output =>
    s!"AddN input shape {Text.list input} does not match output shape {Text.list output}"
  | axisOutOfRange axis rank => s!"Axis {axis} out of range for rank {rank}"
  | emptyAxis axis => s!"Can not reduce empty axis {axis}"
  | argExtremumShape output expected =>
    s!"ArgMinMax output shape {Text.list output}, expected {Text.list expected}"
  | indexOverflow index type => s!"Index {index} overflows {type}"
  | geometryRank => "Inconsistent geometry rank"
  | zeroStride => "Stride must be positive"
  | emptyKernel => "Kernel size and dilation must be positive"
  | poolingRank input => s!"Pooling expects a NHWC input, got {Text.list input}"
  | poolingShape output expected =>
    s!"Pooling output shape {Text.list output}, expected {Text.list expected}"
  | emptyWindow => "Empty pooling window"
  | matrixRank a b =>
    s!"BatchMatMul operands must have rank 2 or more, got {Text.list a} and {Text.list b}"
  | depthMismatch a b => s!"BatchMatMul accumulation depth mismatch: {a} != {b}"
  | matrixShape output expected =>
    s!"BatchMatMul output shape {Text.list output}, expected {Text.list expected}"
  | batchToSpaceRank input =>
    s!"BatchToSpaceNd expects a rank 3 or 4 input, got {Text.list input}"
  | batchToSpaceArguments block crops input =>
    s!"BatchToSpaceNd block {Text.list block} and crops {cropsText crops} do not fit input {Text.list input}"
  | batchToSpaceOutputRank => "BatchToSpaceNd input and output rank differ"
  | zeroBlock => "Block sizes must be positive"
  | batchToSpaceShape output input =>
    s!"BatchToSpaceNd output shape {Text.list output} inconsistent with input {Text.list input}"

end TensorGraph
