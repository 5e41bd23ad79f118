import TensorGraph.Substitution.Catalog

/-!
# Descriptors

A descriptor holds everything that the engine needs to run one node: the kind, the activation, the
parameters as the kind reads them, and the ids of the tensors. It does not refer to the node.
-/

namespace TensorGraph.Substitution

/-- The parameters of a kind, apart from the activation. -/
inductive KindParameters where
  | none
  | pool (filter strides : Planar) (padding : Padding)
  | batchMatMul (adjointX adjointY : Bool)
  /-- The index type that the node declares, if it does. -/
  | argExtremum (outputType : Option ElementType)
deriving DecidableEq

namespace KindParameters

/-- The parameters of a node without a parameter block. -/
def defaultFor : Kind → KindParameters
  | .averagePool2d | .maxPool2d =>
    pool PoolParameters.default.filter PoolParameters.default.strides PoolParameters.default.padding
  | .batchMatMul => batchMatMul false false
  | .argMax | .argMin => argExtremum Option.none
  | _ => none

def text : KindParameters → String
  | none => "None"
  | pool filter strides padding =>
    Text.record "Pool2d"
      [("filter", toString filter), ("strides", toString strides), ("padding", padding.name)]
  | batchMatMul adjointX adjointY =>
    Text.record "BatchMatMul" [("adj_x", Text.truth adjointX), ("adj_y", Text.truth adjointY)]
  | argExtremum Option.none => Text.record "ArgMinMax" [("output_type", "None")]
  | argExtremum (some type) =>
    Text.record "ArgMinMax" [("output_type", "Some(" ++ type.name ++ ")")]

end KindParameters

/-- One captured node. -/
structure Descriptor where
  kind : Kind
  activation : Activation
  parameters : KindParameters
  inputs : List Nat
  outputs : List Nat
deriving DecidableEq

def Descriptor.text (d : Descriptor) : String :=
  Text.record "NodeDescriptor"
    [("kind", d.kind.name), ("activation", d.activation.name), ("params", d.parameters.text),
      ("inputs", Text.list d.inputs), ("outputs", Text.list d.outputs)]

end TensorGraph.Substitution
