import TensorGraph.Kernel.MatrixProduct
import TensorGraph.Kernel.Padding
import TensorGraph.Substitution.Region

/-!
# Shape inference of the engine

The engine finds output shapes from descriptors, with checks and messages of its own. Element types
play no part here; they are looked at when a descriptor is evaluated.
-/

namespace TensorGraph.Substitution

def shapeReason (problem : ShapeProblem) : Reason := .engine (.shape problem)

namespace Descriptor

def shapeOf (g : Graph) (id : Nat) : Except Fault Shape :=
  during (shapeReason (.readingShape id)) (g.shape id)

def integersOf (g : Graph) (id : Nat) : Except Fault (List Int) :=
  during (shapeReason (.readingIntegers id)) do (← g.tensor id).integers

/-- The axis that a reduction removes; negative ones count from the last axis. -/
def reductionAxis (d : Descriptor) (g : Graph) : Except Fault Nat := do
  let rank := (← shapeOf g (← d.primaryInput)).length
  let values ← integersOf g (← d.input 1)
  match values with
  | [axis] =>
    let resolved := if axis < 0 then axis + rank else axis
    if 0 ≤ resolved ∧ resolved < rank then return resolved.toNat
    else refuse (shapeReason (.axisOutOfRange axis rank))
  | _ => refuse (shapeReason (.singleAxis d.kind values))

/-- Consecutive values as the crops before and after an axis. -/
def cropPairs : List Int → List (Nat × Nat)
  | [] => []
  | [_] => []
  | before :: after :: rest => (before.toNat, after.toNat) :: cropPairs rest

def batchToSpaceParameters (d : Descriptor) (g : Graph) :
    Except Fault (List Nat × List (Nat × Nat)) := do
  let rank := (← shapeOf g (← d.primaryInput)).length
  ensure (rank = 3 ∨ rank = 4) (shapeReason (.batchToSpaceRank rank))
  let spatial := rank - 2
  let block ← integersOf g (← d.input 1)
  let crops ← integersOf g (← d.input 2)
  ensure (block.length = spatial ∧ ∀ b ∈ block, 1 ≤ b) (shapeReason (.invalidBlock block spatial))
  ensure (crops.length = 2 * spatial ∧ ∀ c ∈ crops, 0 ≤ c)
    (shapeReason (.invalidCrops crops spatial))
  return (block.map Int.toNat, cropPairs crops)

def wovenExtent (axis extent block : Nat) (crop : Nat × Nat) : Except Fault Nat :=
  match Size.mul? extent block with
  | none => refuse (shapeReason (.blockAxisOverflow block axis))
  | some full =>
    match Size.add? crop.1 crop.2 with
    | none => refuse (shapeReason (.cropsTooLarge crop.1 crop.2 full))
    | some cropped =>
      require (Size.sub? full cropped) (shapeReason (.cropsTooLarge crop.1 crop.2 full))

def batchToSpaceShape (d : Descriptor) (g : Graph) : Except Fault Shape := do
  let (block, crops) ← d.batchToSpaceParameters g
  let input ← shapeOf g (← d.primaryInput)
  let blockSize ← require (block.foldlM Size.mul? 1) (shapeReason (.blockOverflow block))
  let batch ← checked input.head?
  if blockSize = 0 then .error .aborted
  ensure (batch % blockSize = 0) (shapeReason (.batchNotMultiple batch blockSize))
  let axes := block.zip crops
  let woven ← axes.zipIdx.mapM fun ((b, crop), i) => do
    let extent ← checked input[i + 1]?
    wovenExtent (i + 1) extent b crop
  return batch / blockSize :: woven ++ input.drop (axes.length + 1)

def outputShape (d : Descriptor) (g : Graph) : Except Fault Shape := do
  let primary ← shapeOf g (← d.primaryInput)
  match d.kind with
  | .abs => return primary
  | .add | .mul | .atan2 =>
    let secondary ← shapeOf g (← d.input 1)
    during (shapeReason (.operands d.kind primary secondary)) (Shape.broadcast [primary, secondary])
  | .addN =>
    (d.inputs.drop 1).forM fun id => do
      let shape ← shapeOf g id
      ensure (shape = primary) (shapeReason (.addNShapes primary shape))
    return primary
  | .argMax | .argMin =>
    let axis ← d.reductionAxis g
    return primary.eraseIdx axis
  | .averagePool2d | .maxPool2d =>
    ensure (primary.length = 4) (shapeReason (.poolingRank primary))
    let geometry ← d.poolGeometry
    during (shapeReason (.pooling primary geometry)) (geometry.outputShape primary)
  | .batchMatMul =>
    let (adjointX, adjointY) ← d.adjoints
    let other ← shapeOf g (← d.input 1)
    let geometry ← during (shapeReason (.batchMatMul primary other))
      (MatrixGeometry.ofShapes primary other adjointX adjointY)
    return geometry.outputShape
  | .batchToSpaceNd => d.batchToSpaceShape g

def infer (d : Descriptor) : Action Graph Unit := do
  let shape ← d.outputShape (← Action.get)
  let output ← d.output
  Action.record (.outputShape d.kind output shape)
  Action.during (shapeReason (.resizeRefused output)) (Graph.resize output shape)

end Descriptor

def Region.infer (region : Region) : Action Graph Unit := region.descriptors.forM Descriptor.infer

end TensorGraph.Substitution
