import TensorGraph.Graph
import TensorGraph.Substitution.Options

/-!
# Which nodes the engine takes

The engine takes a node if it knows and is asked for its operator, if the numbers of tensors are
right, if the first input has a supported type, and if a matrix product is one that it can run.
It never looks at the values of tensors.
-/

namespace TensorGraph.Substitution

/-- Why the engine leaves a node to the host, if it does. -/
def rejection? (options : Options) (g : Graph) (id : Nat) : Option Rejection :=
  match g.nodes[id]? with
  | none => some .noSuchNode
  | some node =>
    match Kind.ofOperator? node.operator with
    | none => some (.notInCatalog node.operator)
    | some kind =>
      if options.enables kind = false then some (.notEnabled kind)
      else if kind.inputArity.accepts node.inputs.length = false ∨
          node.outputs.length ≠ kind.outputArity then some (.arity kind)
      else
        let primary := node.inputs.headD 0
        match g.tensors[primary]? with
        | none => some (.noTensor primary)
        | some entry =>
          if entry.tensor.type ∉ kind.inputTypes then some (.inputType kind entry.tensor.type)
          else if kind = .batchMatMul then
            match node.parameters with
            | some (.batchMatMul false true) => none
            | some (.batchMatMul adjointX adjointY) => some (.adjoints adjointX adjointY)
            | _ => some (.adjoints false false)
          else none

def supports (options : Options) (g : Graph) (id : Nat) : Bool := (rejection? options g id).isNone

/-- What is reported when a node is examined. -/
def examination (options : Options) (g : Graph) (id : Nat) : List Event :=
  match rejection? options g id with
  | some reason => [.staysOnHost id reason]
  | none => []

/-- Whether the engine takes a node, with a report if it does not. -/
def examine (options : Options) (g : Graph) (id : Nat) : Action Unit Bool := fun s =>
  ⟨.ok (supports options g id), s, examination options g id⟩

end TensorGraph.Substitution
