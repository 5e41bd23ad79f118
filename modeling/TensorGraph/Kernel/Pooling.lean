import TensorGraph.Grid
import TensorGraph.Kernel.Clamp
import TensorGraph.Kernel.Padding

/-!
# Pooling

Images come as batches, rows, columns and channels. Each output value is a reduction of one
channel over a window of the input, cut off at the borders: padding does not take part in it.
Window bounds are calculated with signed words.
-/

namespace TensorGraph.Kernel

/-- The rows and columns of a window, each from the first one to before the second. -/
structure Window where
  rows : Nat × Nat
  columns : Nat × Nat
deriving DecidableEq

def Window.isEmpty (w : Window) : Bool :=
  w.rows.1 == w.rows.2 || w.columns.1 == w.columns.2

/-- The positions in the window, row by row. -/
def Window.positions (w : Window) : List (Nat × Nat) :=
  (List.range' w.rows.1 (w.rows.2 - w.rows.1)).flatMap fun y =>
    (List.range' w.columns.1 (w.columns.2 - w.columns.1)).map fun x => (y, x)

/-- The part of the input axis that the window at an output position covers. -/
def windowSpan (axis : PaddedAxis) (kernel stride position : Nat) : Except Fault (Nat × Nat) := do
  let shift ← checked (Size.mul? position stride)
  let start ← checked (Distance.sub? (Distance.ofSize shift) (Distance.ofSize axis.before))
  let stop ← checked (Distance.add? start (Distance.ofSize kernel))
  let first := start.toNat
  let last := max (min stop (Distance.ofSize axis.input)).toNat first
  if last ≤ axis.input then return (first, last) else .error .aborted

/-- The window at an output position. If there are channels to reduce, it may not be empty. -/
def windowAt (g : PoolGeometry) (rows columns : PaddedAxis) (channels oy ox : Nat) :
    Except Fault Window := do
  let y ← windowSpan rows g.kernel.height g.strides.height oy
  let x ← windowSpan columns g.kernel.width g.strides.width ox
  let window : Window := ⟨y, x⟩
  ensure (channels = 0 ∨ window.isEmpty = false) KernelFailure.emptyWindow
  return window

/-- Go through the windows of all output rows and columns. All batches have the same ones. -/
def checkWindows (g : PoolGeometry) (rows columns : PaddedAxis) (batches channels : Nat) :
    Except Fault Unit :=
  if batches = 0 then .ok ()
  else (List.range rows.output).forM fun oy => do
    let _rows ← windowSpan rows g.kernel.height g.strides.height oy
    (List.range columns.output).forM fun ox => do
      let _window ← windowAt g rows columns channels oy ox
      return ()

/-- The values of one batch and channel in a window, row by row. -/
def Window.values {α : Type} (w : Window) (input : Grid α) (batch channel : Nat) : List α :=
  w.positions.filterMap fun (y, x) =>
    input.values[input.shape.offset [batch, y, x, channel]]?

/-- The value at a place of the output, if there is a window to reduce. -/
def reducedAt {α : Type} (reduce : List α → α) (g : PoolGeometry) (rows columns : PaddedAxis)
    (input : Grid α) (shape : Shape) (place : Nat) : Option α :=
  match shape.index place with
  | [batch, oy, ox, channel] =>
    (windowAt g rows columns (input.shape.getD 3 0) oy ox).toOption.map fun window =>
      reduce (window.values input batch channel)
  | _ => none

/-- Rows and columns of the output, if it has the shape that pooling the input gives. -/
def outputAxes (g : PoolGeometry) (input output : Shape) :
    Except Fault (PaddedAxis × PaddedAxis) := do
  let axes ← g.axes input
  let expected ← g.outputShape input
  ensure (output = expected) (KernelFailure.poolingShape output expected)
  return axes

/-- Reduce the windows of the input one after the other. A window that cannot be cut out or is empty
ends the filling there. -/
def poolInto {α : Type} (reduce : List α → α) (g : PoolGeometry) (input output : Grid α) :
    Written Unit α :=
  match outputAxes g input.shape output.shape with
  | .error fault => (.error fault, output)
  | .ok (rows, columns) =>
    let reduced := (List.range output.values.size).map
      (reducedAt reduce g rows columns input output.shape)
    (checkWindows g rows columns (input.shape.getD 0 0) (input.shape.getD 3 0),
      output.fillWhile reduced)

variable {α : Type} [FloatLike α]

/-- The mean of some values: their sum in order, divided by their number. -/
def average (values : List α) : α :=
  values.foldl (· + ·) 0 / FloatLike.ofNat values.length

/-- The largest of some values; not-a-number does not count. -/
def maximum (values : List α) : α := values.foldl FloatLike.max FloatLike.lowest

def averagePoolInto (g : PoolGeometry) (range : ClampRange α) (input output : Grid α) :
    Written Unit α :=
  poolInto (fun values => range.clamp (average values)) g input output

def maxPoolInto (g : PoolGeometry) (range : ClampRange α) (input output : Grid α) :
    Written Unit α :=
  poolInto (fun values => range.clamp (maximum values)) g input output

/-- Means of windows, if there are values in all windows. -/
def averagePool (g : PoolGeometry) (range : ClampRange α) (input output : Grid α) :
    Except Fault (Grid α) :=
  (averagePoolInto g range input output).filled

/-- Maxima of windows, if there are values in all windows. -/
def maxPool (g : PoolGeometry) (range : ClampRange α) (input output : Grid α) :
    Except Fault (Grid α) :=
  (maxPoolInto g range input output).filled

end TensorGraph.Kernel
