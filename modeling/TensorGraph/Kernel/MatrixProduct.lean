import TensorGraph.Kernel.Broadcast

/-!
# Batched matrix products

The two innermost axes of an operand are the rows and columns of matrices, or the other way round
if the operand is adjoint; the outer axes count matrices and are broadcast. The output is filled
matrix by matrix: for each position of the broadcast batch one matrix is picked from each operand.
-/

namespace TensorGraph

namespace MatrixGeometry

/-- The last two extents as rows and columns, swapped for an adjoint operand. -/
def matrixExtents (shape : Shape) (adjoint : Bool) : Nat × Nat :=
  let rows := shape.getD (shape.length - 2) 0
  let columns := shape.getD (shape.length - 1) 0
  if adjoint then (columns, rows) else (rows, columns)

def batchExtents (shape : Shape) : Shape := shape.take (shape.length - 2)

/-- The geometry of the product of operands of two shapes. -/
def ofShapes (a b : Shape) (adjointA adjointB : Bool) : Except Fault MatrixGeometry := do
  ensure (2 ≤ a.length ∧ 2 ≤ b.length) (KernelFailure.matrixRank a b)
  let (m, depthA) := matrixExtents a adjointA
  let (depthB, n) := matrixExtents b adjointB
  ensure (depthA = depthB) (KernelFailure.depthMismatch depthA depthB)
  let batch ← Shape.broadcast [batchExtents a, batchExtents b]
  return ⟨batch, m, depthA, n⟩

def outputShape (g : MatrixGeometry) : Shape := g.batch ++ [g.m, g.n]

end MatrixGeometry

namespace Kernel

variable {α : Type} [Number α]

/-- The matrix of an operand that goes with a position of the broadcast batch, as a position in the
operand's own batch: additional outer axes are dropped, and on every other axis the index goes no
further than the last one. -/
def operandMatrix (shape : Shape) (position : List Nat) : Except Fault (List Nat) := do
  let batch := MatrixGeometry.batchExtents shape
  let outer ← checked (Size.sub? position.length batch.length)
  (batch.zip (position.drop outer)).mapM fun axis => do
    let last ← checked (Size.sub? axis.1 1)
    return min axis.2 last

def entry (x : Grid α) (adjoint : Bool) (matrix : List Nat) (row column : Nat) : α :=
  let place := if adjoint then [column, row] else [row, column]
  x.getD (x.shape.offset (matrix ++ place)) 0

/-- The sum of `depth` products of entries of a row and a column. -/
def dotProduct (a b : Grid α) (adjointA adjointB : Bool) (matrixA matrixB : List Nat)
    (row column depth : Nat) : α :=
  (List.range depth).foldl
    (fun sum l => sum + entry a adjointA matrixA row l * entry b adjointB matrixB l column) 0

/-- The geometry of the product of two operands, which the output has to have the shape of. -/
def productGeometry (adjointA adjointB : Bool) (a b output : Shape) :
    Except Fault MatrixGeometry := do
  let geometry ← MatrixGeometry.ofShapes a b adjointA adjointB
  ensure (output = geometry.outputShape) (KernelFailure.matrixShape output geometry.outputShape)
  return geometry

/-- The output with the product of the matrices at one position of the batch. -/
def multiply (geometry : MatrixGeometry) (adjointA adjointB : Bool) (a b output : Grid α)
    (position : List Nat) : Except Fault (Grid α) := do
  let matrixA ← operandMatrix a.shape position
  let matrixB ← operandMatrix b.shape position
  return output.writeAll <| (List.range geometry.m).flatMap fun row =>
    (List.range geometry.n).map fun column =>
      (position ++ [row, column],
        dotProduct a b adjointA adjointB matrixA matrixB row column geometry.k)

/-- The output with the products of all matrices, one position of the batch after the other. -/
def products (geometry : MatrixGeometry) (adjointA adjointB : Bool) (a b output : Grid α) :
    Except Fault (Grid α) :=
  (Shape.indices geometry.batch).foldlM (multiply geometry adjointA adjointB a b) output

/-- The products of all matrices of two operands. The kernel answers with their geometry. -/
def batchMatMul (adjointA adjointB : Bool) (a b output : Grid α) : Written MatrixGeometry α :=
  match productGeometry adjointA adjointB a.shape b.shape output.shape with
  | .error fault => (.error fault, output)
  | .ok geometry =>
    match products geometry adjointA adjointB a b output with
    | .error fault => (.error fault, output)
    | .ok filled => (.ok geometry, filled)

end Kernel

end TensorGraph
