import TensorGraph.Graph

/-!
# Regions

A region is the list of nodes that the engine runs in one go, as descriptors. Capturing nodes
decodes their parameters once and for all, and refuses nodes with the wrong numbers of tensors and
nodes that carry the parameters of another operator. It never looks at the values of tensors.
-/

namespace TensorGraph.Substitution

namespace Descriptor

def malformed {α : Type} (problem : GraphMalformation) : Except Fault α :=
  refuse (EngineFailure.malformedGraph problem)

/-- Activation and parameters of a kind, from the parameter block of a node; none if the block
belongs to another operator. -/
def decode? (kind : Kind) : Option Parameters → Option (Activation × KindParameters)
  | none => some (.none, KindParameters.defaultFor kind)
  | some parameters =>
    match kind, parameters with
    | .add, .add activation => some (activation, .none)
    | .mul, .mul activation => some (activation, .none)
    | .averagePool2d, .pool options | .maxPool2d, .pool options =>
      some (options.activation, .pool options.filter options.strides options.padding)
    | .batchMatMul, .batchMatMul adjointX adjointY =>
      some (.none, .batchMatMul adjointX adjointY)
    | .argMax, .argMax outputType | .argMin, .argMin outputType =>
      some (.none, .argExtremum (some outputType))
    | _, _ => none

def ofNode (node : Node) : Except Fault Descriptor := do
  let kind ← match Kind.ofOperator? node.operator with
    | some kind => Except.ok kind
    | none => malformed (.notSubstitutable node.name node.operator)
  if kind.inputArity.accepts node.inputs.length = false ∨
      node.outputs.length ≠ kind.outputArity then
    malformed (.arity node.name kind node.inputs.length node.outputs.length)
  match decode? kind node.parameters, node.parameters with
  | some (activation, parameters), _ =>
    return ⟨kind, activation, parameters, node.inputs, node.outputs⟩
  | none, some block => malformed (.foreignParameters node.name kind block)
  | none, none => .error .aborted

def unable {α : Type} (problem : EvaluationProblem) : Except Fault α :=
  refuse (EngineFailure.evaluation problem)

def poolGeometry (d : Descriptor) : Except Fault PoolGeometry :=
  match d.parameters with
  | .pool filter strides padding => .ok ⟨filter, strides, padding⟩
  | _ => unable (.noPoolingParameters d.kind)

def adjoints (d : Descriptor) : Except Fault (Bool × Bool) :=
  match d.parameters with
  | .batchMatMul adjointX adjointY => .ok (adjointX, adjointY)
  | _ => unable (.noAdjointFlags d.kind)

def declaredType (d : Descriptor) : Except Fault (Option ElementType) :=
  match d.parameters with
  | .argExtremum outputType => .ok outputType
  | _ => unable (.noDeclaredType d.kind)

def input (d : Descriptor) (i : Nat) : Except Fault Nat := checked d.inputs[i]?

def primaryInput (d : Descriptor) : Except Fault Nat := d.input 0

def output (d : Descriptor) : Except Fault Nat := checked d.outputs.head?

end Descriptor

/-- Nodes that the engine runs in one go. -/
structure Region where
  descriptors : List Descriptor
  /-- The nodes that the descriptors were captured from. -/
  nodes : List Nat
deriving DecidableEq

namespace Region

def empty : Region := ⟨[], []⟩

def captureNode (g : Graph) (id : Nat) : Action Unit Descriptor := do
  match g.nodes[id]? with
  | none => Descriptor.malformed (α := Descriptor) (.capturing id (GraphFailure.noNode id).text)
  | some node =>
    let descriptor ← Descriptor.ofNode node
    Action.record (.captured id node.name descriptor)
    return descriptor

def capture (g : Graph) (nodes : List Nat) : Action Unit Region := do
  let descriptors ← nodes.mapM (captureNode g)
  Action.record (.capturedRegion nodes)
  return ⟨descriptors, nodes⟩

end Region

end TensorGraph.Substitution
