import TensorGraph.Text.Layout

/-!
# Geometry

The extents that operators with more than element-wise structure work with: windows that slide over
the rows and columns of an image, and batches of matrices.
-/

namespace TensorGraph

/-- How a window meets the borders of the input. -/
inductive Padding where
  /-- The input is padded until the output has one position per stride begun. -/
  | same
  /-- Windows lie entirely in the input. -/
  | valid
deriving DecidableEq

def Padding.name : Padding → String
  | same => "Same"
  | valid => "Valid"

/-- One number for the rows and one for the columns. -/
structure Planar where
  height : Nat
  width : Nat
deriving DecidableEq

instance : ToString Planar := ⟨fun p => Text.list [p.height, p.width]⟩

structure PoolGeometry where
  kernel : Planar
  strides : Planar
  padding : Padding
deriving DecidableEq

instance : ToString PoolGeometry where
  toString g := Text.record "PoolGeometry"
    [("kernel", toString g.kernel), ("strides", toString g.strides), ("padding", g.padding.name)]

/-- Output positions along one axis, and the padding on its two sides. -/
structure PaddedAxis where
  input : Nat
  output : Nat
  before : Nat
  after : Nat
deriving DecidableEq

/-- The logical extents of a batched matrix product: `batch` matrices of `m` rows and `n` columns,
each entry a sum of `k` products. -/
structure MatrixGeometry where
  batch : List Nat
  m : Nat
  k : Nat
  n : Nat
deriving DecidableEq

instance : ToString MatrixGeometry where
  toString g := Text.record "BatchMatMulGeo"
    [("batch", Text.list g.batch), ("m", toString g.m), ("k", toString g.k), ("n", toString g.n)]

end TensorGraph
