import TensorGraph.Kernel.BatchToSpace
import TensorGraph.Kernel.ElementWise
import TensorGraph.Kernel.MatrixProduct
import TensorGraph.Kernel.Pooling
import TensorGraph.Kernel.Reduction
import TensorGraph.Substitution.Inference

/-!
# Evaluation in the engine

Evaluating a descriptor checks the element types of its first input and of its output, and then
runs its kernel. The engine calculates in single precision only. A failure that does not come from
the engine itself is reported as a failure of the evaluation.
-/

namespace TensorGraph.Substitution

namespace Descriptor

def mismatch {α : Type} (problem : TypeMismatch) : Except Fault α :=
  refuse (EngineFailure.unsupportedType problem)

/-- The first input has one of the types of the kind. -/
def checkInput (d : Descriptor) (type : ElementType) : Except Fault Unit :=
  if type ∈ d.kind.inputTypes then .ok () else mismatch (.input d.kind type)

/-- The index type that the node declared, if it did, is that of the output. -/
def checkDeclared (d : Descriptor) (type : ElementType) : Except Fault Unit := do
  match ← d.declaredType with
  | some declared =>
      if declared = type then return () else mismatch (.declared d.kind declared type)
  | none => return ()

/-- The output has one of the types of the kind, and the declared one if it holds indices. -/
def checkOutput (d : Descriptor) (type : ElementType) : Except Fault Unit :=
  if type ∈ d.kind.outputTypes then
    match d.kind with
    | .argMax | .argMin => d.checkDeclared type
    | _ => .ok ()
  else mismatch (.output d.kind type)

def runUnary (d : Descriptor)
    (kernel : Grid Numeric.Single → Grid Numeric.Single → Written Unit Numeric.Single) :
    Action Graph Unit := do
  Graph.computing (← d.output) .f32 fun g => do
    let input ← g.view (← d.input 0) .f32
    return kernel input

def runBinary (d : Descriptor)
    (kernel : Grid Numeric.Single → Grid Numeric.Single → Grid Numeric.Single →
      Except Fault (Grid Numeric.Single)) : Action Graph Unit := do
  Graph.computing (← d.output) .f32 fun g => do
    let a ← g.view (← d.input 0) .f32
    let b ← g.view (← d.input 1) .f32
    return fun output => output.overwrite (kernel a b output)

def runAddN (d : Descriptor) : Action Graph Unit := do
  Graph.computing (← d.output) .f32 fun g => do
    let inputs ← d.inputs.mapM fun id => g.view id .f32
    return fun output => output.overwrite (Kernel.addN inputs output)

def runArgExtremum (d : Descriptor) (largest : Bool) : Action Graph Unit := do
  let g ← Action.get
  let axis ← d.reductionAxis g
  let output ← d.output
  let indexType := if (← g.type output) = .i32 then .i32 else .i64
  Graph.computing output indexType fun g => do
    let input ← g.view (← d.input 0) .f32
    return Kernel.argExtremum .f32 indexType axis largest input

def runPool (d : Descriptor)
    (kernel : PoolGeometry → ClampRange Numeric.Single → Grid Numeric.Single →
      Grid Numeric.Single → Written Unit Numeric.Single) : Action Graph Unit := do
  let geometry ← d.poolGeometry
  d.runUnary (kernel geometry d.activation.range)

/-- Products of matrices, of which only the second operand may be adjoint, and has to be. -/
def runMatrixProduct (d : Descriptor) : Action Graph Unit := do
  let (adjointX, adjointY) ← d.adjoints
  if adjointX = true ∨ adjointY = false then
    (unable (.unsupportedAdjoints adjointX adjointY) : Except Fault Unit)
  let geometry ← Graph.computing (← d.output) .f32 fun g => do
    let a ← g.view (← d.input 0) .f32
    let b ← g.view (← d.input 1) .f32
    return Kernel.batchMatMul false true a b
  Action.record (.multiplying geometry false true)

def runBatchToSpace (d : Descriptor) : Action Graph Unit := do
  let (block, crops) ← d.batchToSpaceParameters (← Action.get)
  d.runUnary fun input output => output.overwrite (Kernel.batchToSpace block crops input output)

def run (d : Descriptor) : Action Graph Unit :=
  match d.kind with
  | .abs => d.runUnary fun input output => output.overwrite (Kernel.abs input output)
  | .add => d.runBinary (Kernel.add d.activation.range)
  | .mul => d.runBinary (Kernel.mul d.activation.range)
  | .atan2 => d.runBinary Kernel.arctan2
  | .addN => d.runAddN
  | .argMax => d.runArgExtremum true
  | .argMin => d.runArgExtremum false
  | .averagePool2d => d.runPool Kernel.averagePoolInto
  | .maxPool2d => d.runPool Kernel.maxPoolInto
  | .batchMatMul => d.runMatrixProduct
  | .batchToSpaceNd => d.runBatchToSpace

/-- A failure without a class becomes one of the evaluation. -/
def classified (d : Descriptor) (output : Nat) : Fault → Fault
  | .aborted => .aborted
  | .failed failure =>
    if failure.category?.isSome then .failed failure
    else .failed (failure.within
      (.engine (.evaluation (.kernelFailed d.kind output))))

/-- Check the element types of a descriptor, then fill its output. -/
def evaluate (d : Descriptor) : Action Graph Unit := do
  let g ← Action.get
  d.checkInput (← g.type (← d.primaryInput))
  let output ← d.output
  d.checkOutput (← g.type output)
  Action.record (.evaluating d.kind output)
  Action.mapFault (d.classified output) d.run

end Descriptor

def Region.evaluate (region : Region) : Action Graph Unit :=
  region.descriptors.forM Descriptor.evaluate

end TensorGraph.Substitution
