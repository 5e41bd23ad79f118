import TensorGraph.Grid

/-!
# Broadcasting

Shapes are aligned on their innermost axes. A shape broadcasts to another one that has at least its
rank if each of its extents is 1 or equal to the other's. `Shape.broadcast` merges any number of
shapes into one that all of them broadcast to, and `Shape.project` sends a position of the larger
shape to the position of the smaller one that supplies its value.
-/

namespace TensorGraph.Shape

/-- Aligned on the innermost axes, every extent of `s` is 1 or that of `t`. -/
def BroadcastsTo (s t : Shape) : Prop :=
  s.length ≤ t.length ∧ ∀ p ∈ s.reverse.zip t.reverse, p.1 = 1 ∨ p.1 = p.2

instance (s t : Shape) : Decidable (s.BroadcastsTo t) := inferInstanceAs (Decidable (_ ∧ _))

/-- The extent that serves two extents on one axis: an extent of 1 stretches to any other. -/
def mergeExtents (a b : Nat) : Option Nat :=
  if a = b then some a else if a = 1 then some b else if b = 1 then some a else none

/-- The extent on the axis counted from the innermost one; missing axes have extent 1. -/
def extentFromInnermost (s : Shape) (axis : Nat) : Nat := s.reverse.getD axis 1

/-- The extent that serves all shapes on the axis counted from the innermost one. -/
def mergedExtent (shapes : List Shape) (axis : Nat) : Option Nat :=
  shapes.foldlM (fun wanted s => mergeExtents wanted (s.extentFromInnermost axis)) 1

def largestRank (shapes : List Shape) : Nat := shapes.foldl (fun rank s => max rank s.length) 0

/-- The shape that all the shapes broadcast to, if there is one. -/
def broadcast? (shapes : List Shape) : Option Shape :=
  ((List.range (largestRank shapes)).mapM (mergedExtent shapes)).map List.reverse

def broadcast (shapes : List Shape) : Except Fault Shape :=
  require (broadcast? shapes) (KernelFailure.incompatibleShapes shapes)

/-- The position that supplies the value of a broadcast position: additional outer axes are dropped,
and there is only index 0 on stretched axes. -/
def project (s : Shape) (position : List Nat) : List Nat :=
  List.zipWith (fun extent i => if extent = 1 then 0 else i) s
    (position.drop (position.length - s.length))

end TensorGraph.Shape
