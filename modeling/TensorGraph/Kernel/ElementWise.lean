import TensorGraph.Kernel.Broadcast
import TensorGraph.Kernel.Clamp

/-!
# Element-wise kernels

Functions of one operand keep its shape. Functions of two operands fill an output to whose shape
both operands broadcast, and clamp their results.
-/

namespace TensorGraph.Kernel

variable {α : Type}

/-- A function of each value. The output has the shape of the input. -/
def unary (f : α → α) (input output : Grid α) : Except Fault (Grid α) := do
  ensure (input.shape = output.shape) (KernelFailure.elementWiseShape output.shape input.shape)
  return input.map f

/-- A function of pairs of values; both operands broadcast to the output shape. -/
def zipBroadcast (f : α → α → α) (a b output : Grid α) : Except Fault (Grid α) := do
  ensure (a.shape.BroadcastsTo output.shape) (KernelFailure.notBroadcastable a.shape output.shape)
  ensure (b.shape.BroadcastsTo output.shape) (KernelFailure.notBroadcastable b.shape output.shape)
  return output.mapIdx fun place old =>
    let position := output.shape.index place
    f (a.getD (a.shape.offset (a.shape.project position)) old)
      (b.getD (b.shape.offset (b.shape.project position)) old)

section Integers

variable [Number α]

def addWrapping (a b output : Grid α) : Except Fault (Grid α) := zipBroadcast (· + ·) a b output

def mulWrapping (a b output : Grid α) : Except Fault (Grid α) := zipBroadcast (· * ·) a b output

end Integers

variable [FloatLike α]

def abs (input output : Grid α) : Except Fault (Grid α) := unary FloatLike.abs input output

/-- Values with the negative ones replaced by zero. -/
def relu (input output : Grid α) : Except Fault (Grid α) :=
  unary (fun x => FloatLike.max x 0) input output

/-- A function of pairs of values, clamped to a range. -/
def binary (f : α → α → α) (range : ClampRange α) (a b output : Grid α) :
    Except Fault (Grid α) :=
  zipBroadcast (fun x y => range.clamp (f x y)) a b output

def add (range : ClampRange α) (a b output : Grid α) : Except Fault (Grid α) :=
  binary (· + ·) range a b output

def sub (range : ClampRange α) (a b output : Grid α) : Except Fault (Grid α) :=
  binary (· - ·) range a b output

def mul (range : ClampRange α) (a b output : Grid α) : Except Fault (Grid α) :=
  binary (· * ·) range a b output

/-- Angles of the points with the given heights and abscissas. -/
def arctan2 (y x output : Grid α) : Except Fault (Grid α) :=
  binary FloatLike.arctan2 ClampRange.full y x output

end TensorGraph.Kernel
