import TensorGraph.Activation
import TensorGraph.Element

/-!
# Clamping

Every activation clamps results to a range. Not-a-number passes through unchanged; every other
result that lies outside of the range is replaced by the nearer end, infinities included.
-/

namespace TensorGraph

structure ClampRange (α : Type) where
  min : α
  max : α

namespace ClampRange

variable {α : Type} [FloatLike α]

/-- All finite numbers. -/
def full : ClampRange α := ⟨FloatLike.lowest, FloatLike.highest⟩

def clamp (r : ClampRange α) (x : α) : α :=
  if FloatLike.isNaN x then x else FloatLike.min (FloatLike.max x r.min) r.max

end ClampRange

def Activation.range {α : Type} [FloatLike α] : Activation → ClampRange α
  | none => ClampRange.full
  | relu => ⟨0, FloatLike.highest⟩
  | reluN1To1 => ⟨-1, 1⟩
  | relu6 => ⟨0, FloatLike.ofNat 6⟩

end TensorGraph
