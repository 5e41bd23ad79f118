import TensorGraph.Failure
import TensorGraph.Geometry

/-!
# Output positions and padding of sliding windows

A window of `kernel` values, `dilation` apart, covers a field of the input axis. With
`Padding.valid` the output has a position for every step of `stride` at which the field lies in the
input; with `Padding.same` it has one for every stride begun, and the input is padded so that all
fields fit, the larger half behind.
-/

namespace TensorGraph

namespace Padding

/-- The number of output positions of a window that covers `field` input positions. -/
def outputExtent (padding : Padding) (input field stride : Nat) : Except Fault Nat :=
  match padding with
  | same => .ok (input / stride + if input % stride = 0 then 0 else 1)
  | valid => do
    let reach ← checked (Size.add? input stride)
    return (reach - field) / stride

def axis (padding : Padding) (input kernel dilation stride : Nat) : Except Fault PaddedAxis := do
  ensure (0 < stride) KernelFailure.zeroStride
  ensure (0 < kernel ∧ 0 < dilation) KernelFailure.emptyKernel
  let gaps ← checked (Size.mul? (kernel - 1) dilation)
  let field ← checked (Size.add? gaps 1)
  let output ← padding.outputExtent input field stride
  if output = 0 then return ⟨input, output, 0, 0⟩
  else
    let lastStart ← checked (Size.mul? (output - 1) stride)
    let needed ← checked (Size.add? lastStart field)
    let total := needed - input
    return ⟨input, output, total / 2, total - total / 2⟩

/-- Output positions and padding along several axes. -/
def axes (padding : Padding) (input kernel dilations strides : List Nat) :
    Except Fault (List PaddedAxis) := do
  ensure (input.length = kernel.length ∧ dilations.length = kernel.length ∧
    strides.length = kernel.length) KernelFailure.geometryRank
  ((input.zip kernel).zip (dilations.zip strides)).mapM fun ((i, k), (d, s)) =>
    padding.axis i k d s

end Padding

namespace PoolGeometry

/-- Rows and columns of the output for an input of batches, rows, columns and channels. -/
def axes (g : PoolGeometry) (input : Shape) : Except Fault (PaddedAxis × PaddedAxis) :=
  match input with
  | [_, height, width, _] => do
    let rows ← g.padding.axis height g.kernel.height 1 g.strides.height
    let columns ← g.padding.axis width g.kernel.width 1 g.strides.width
    return (rows, columns)
  | _ => refuse (KernelFailure.poolingRank input)

/-- The output shape: rows and columns change, batches and channels stay. -/
def outputShape (g : PoolGeometry) (input : Shape) : Except Fault Shape := do
  let (rows, columns) ← g.axes input
  return [input.getD 0 0, rows.output, columns.output, input.getD 3 0]

end PoolGeometry

end TensorGraph
