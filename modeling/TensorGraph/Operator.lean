import TensorGraph.Activation
import TensorGraph.Element
import TensorGraph.Geometry

/-!
# Operators and nodes

A node of a graph applies an operator to some tensors and names the tensors that hold the results.
It may carry a block of parameters; a node without one has the default parameters of its operator.
-/

namespace TensorGraph

inductive Operator where
  | abs
  | add
  | addN
  | argMax
  | argMin
  | atan2
  | averagePool2d
  | batchMatMul
  | batchToSpaceNd
  | maxPool2d
  | mul
  | relu
  | sub
deriving DecidableEq

namespace Operator

def all : List Operator :=
  [abs, add, addN, argMax, argMin, atan2, averagePool2d, batchMatMul, batchToSpaceNd, maxPool2d,
    mul, relu, sub]

theorem mem_all (o : Operator) : o ∈ all := by
  cases o <;> decide

def name : Operator → String
  | abs => "Abs"
  | add => "Add"
  | addN => "AddN"
  | argMax => "ArgMax"
  | argMin => "ArgMin"
  | atan2 => "Atan2"
  | averagePool2d => "AveragePool2d"
  | batchMatMul => "BatchMatMul"
  | batchToSpaceNd => "BatchToSpaceNd"
  | maxPool2d => "MaxPool2d"
  | mul => "Mul"
  | relu => "Relu"
  | sub => "Sub"

instance : ToString Operator := ⟨name⟩

end Operator

/-- Parameters of a pooling node. -/
structure PoolParameters where
  padding : Padding
  strides : Planar
  filter : Planar
  activation : Activation
deriving DecidableEq

namespace PoolParameters

/-- Windows of a single position, one per position, without activation. -/
def default : PoolParameters := ⟨.valid, ⟨1, 1⟩, ⟨1, 1⟩, .none⟩

def geometry (p : PoolParameters) : PoolGeometry := ⟨p.filter, p.strides, p.padding⟩

end PoolParameters

inductive Parameters where
  | add (activation : Activation)
  | mul (activation : Activation)
  | sub (activation : Activation)
  | pool (options : PoolParameters)
  | batchMatMul (adjointX adjointY : Bool)
  | argMax (outputType : ElementType)
  | argMin (outputType : ElementType)
deriving DecidableEq

namespace Parameters

/-- The activation in the block, for the operators that have one. -/
def activation? : Parameters → Option Activation
  | add activation => some activation
  | mul activation => some activation
  | sub activation => some activation
  | pool options => some options.activation
  | _ => none

def text : Parameters → String
  | add activation => Text.record "Add" [("activation", activation.name)]
  | mul activation => Text.record "Mul" [("activation", activation.name)]
  | sub activation => Text.record "Sub" [("activation", activation.name)]
  | pool options =>
    "Pool2d(" ++ Text.record "Pool2dOptions"
      [("padding", options.padding.name), ("strides", toString options.strides),
        ("filter", toString options.filter), ("activation", options.activation.name)] ++ ")"
  | batchMatMul adjointX adjointY =>
    Text.record "BatchMatMul" [("adj_x", Text.truth adjointX), ("adj_y", Text.truth adjointY)]
  | argMax outputType => Text.record "ArgMax" [("output_type", outputType.name)]
  | argMin outputType => Text.record "ArgMin" [("output_type", outputType.name)]

end Parameters

/-- A node: an operator, its parameters, and the ids of the tensors it reads and writes. -/
structure Node where
  id : Nat
  name : String
  operator : Operator
  parameters : Option Parameters
  inputs : List Nat
  outputs : List Nat
deriving DecidableEq

end TensorGraph
