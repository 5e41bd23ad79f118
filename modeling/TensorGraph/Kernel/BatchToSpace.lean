import TensorGraph.Grid

/-!
# From batches to space

Consecutive groups of batches are woven into the rows and columns of larger images, which are then
cropped. The batch with number `offset * outputBatches + batch` supplies, for each block of rows
and columns of image `batch`, the value at place `offset` in the block.
-/

namespace TensorGraph.Kernel

/-- How batches are woven: extents of the images before and after, block sizes and leading crops. -/
structure Weaving where
  inputBatches : Nat
  inputRows : Nat
  inputColumns : Nat
  depth : Nat
  outputBatches : Nat
  outputRows : Nat
  outputColumns : Nat
  outputDepth : Nat
  rowBlock : Nat
  columnBlock : Nat
  rowCrop : Nat
  columnCrop : Nat

namespace Weaving

/-- The shape before, as batches, rows, columns and depth. -/
def inputShape (w : Weaving) : Shape := [w.inputBatches, w.inputRows, w.inputColumns, w.depth]

def outputShape (w : Weaving) : Shape :=
  [w.outputBatches, w.outputRows, w.outputColumns, w.outputDepth]

/-- The weaving that the arguments ask for. An image without columns is one with a single column,
in blocks of one. -/
def ofShapes? (input output : Shape) (block : List Nat) (crops : List (Nat × Nat)) :
    Option Weaving :=
  match input, output, block, crops with
  | [b, h, d], [ob, oh, od], [rows], [rowCrop] =>
    some ⟨b, h, 1, d, ob, oh, 1, od, rows, 1, rowCrop.1, 0⟩
  | [b, h, w, d], [ob, oh, ow, od], [rows, columns], [rowCrop, columnCrop] =>
    some ⟨b, h, w, d, ob, oh, ow, od, rows, columns, rowCrop.1, columnCrop.1⟩
  | _, _, _, _ => none

/-- The output index along one axis, if it is not cropped: `index` blocks, and the place in the
block, less the crop. -/
def target (index block place crop extent : Nat) : Except Fault (Option Nat) := do
  let start ← checked (Size.mul? index block)
  let uncropped ← checked (Size.add? start place)
  let moved ← checked (Distance.sub? (Distance.ofSize uncropped) (Distance.ofSize crop))
  return if 0 ≤ moved ∧ moved < Distance.ofSize extent then some moved.toNat else none

/-- Where the values of one input column go: places in the output and in the input. -/
def columnMoves (w : Weaving) (b y x batch row column : Nat) : List (Nat × Nat) :=
  (List.range w.depth).map fun c =>
    (w.outputShape.offset [batch, row, column, c], w.inputShape.offset [b, y, x, c])

def moves (w : Weaving) : Except Fault (List (Nat × Nat)) := do
  let perBatch ← (List.range w.inputBatches).mapM fun b => do
    let place := b / w.outputBatches
    let perRow ← (List.range w.inputRows).mapM fun y => do
      match ← target y w.rowBlock (place / w.columnBlock) w.rowCrop w.outputRows with
      | none => return []
      | some row =>
        let perColumn ← (List.range w.inputColumns).mapM fun x => do
          match ← target x w.columnBlock (place % w.columnBlock) w.columnCrop w.outputColumns with
          | none => return []
          | some column => return w.columnMoves b y x (b % w.outputBatches) row column
        return perColumn.flatten
    return perRow.flatten
  return perBatch.flatten

end Weaving

def carryOut {α : Type} (input : Grid α) (moves : List (Nat × Nat)) (output : Grid α) : Grid α :=
  moves.foldl (fun grid move =>
    match input.values[move.2]? with
    | some value => grid.set move.1 value
    | none => grid) output

/-- Weave batches into rows and columns. Places that no value goes to keep what they held. -/
def batchToSpace {α : Type} (block : List Nat) (crops : List (Nat × Nat)) (input output : Grid α) :
    Except Fault (Grid α) := do
  ensure (input.shape.length = 3 ∨ input.shape.length = 4)
    (KernelFailure.batchToSpaceRank input.shape)
  ensure (block.length = input.shape.length - 2 ∧ crops.length = block.length)
    (KernelFailure.batchToSpaceArguments block crops input.shape)
  ensure (output.shape.length = input.shape.length) KernelFailure.batchToSpaceOutputRank
  match Weaving.ofShapes? input.shape output.shape block crops with
  | none => .error .aborted
  | some w =>
    ensure (0 < w.rowBlock ∧ 0 < w.columnBlock) KernelFailure.zeroBlock
    let images ← checked (Size.mul? w.outputBatches w.rowBlock)
    let batches ← checked (Size.mul? images w.columnBlock)
    ensure (batches = w.inputBatches ∧ w.depth = w.outputDepth)
      (KernelFailure.batchToSpaceShape w.outputShape w.inputShape)
    let moves ← w.moves
    return carryOut input moves output

end TensorGraph.Kernel
