import TensorGraph.Grid

/-!
# Tensors

A tensor is a grid of values of one element type. Reading it as a grid needs the right element type
and a shape that can be addressed; resizing it keeps the values while their number stays the same
and zeroes them otherwise.
-/

namespace TensorGraph

/-- A grid of values of one element type. -/
structure Tensor where
  type : ElementType
  grid : Grid type.Element

namespace Tensor

def shape (x : Tensor) : Shape := x.grid.shape

def size (x : Tensor) : Nat := x.grid.values.size

/-! ### Making tensors -/

/-- The single number zero in single precision. -/
def default : Tensor := ⟨.f32, ⟨[], #[ElementType.zero .f32], rfl⟩⟩

/-- A tensor without values, of shape `[0]`. -/
def empty (type : ElementType) : Tensor := ⟨type, ⟨[0], #[], rfl⟩⟩

def zeros (type : ElementType) (shape : Shape) : Except Fault Tensor :=
  match h : shape.count? with
  | some n => .ok ⟨type, ⟨shape, Array.replicate n type.zero, by simpa using h⟩⟩
  | none => .error .aborted

def ofValues (type : ElementType) (shape : Shape) (values : Array type.Element) :
    Except Fault Tensor := do
  let expected ← checked shape.count?
  match Grid.ofValues? shape values with
  | some grid => .ok ⟨type, grid⟩
  | none => refuse (TensorFailure.valueCount shape expected values.size)

/-! ### Changing tensors -/

/-- The tensor in a new shape: with its values if their number is the same, zeroed otherwise. -/
def resize (x : Tensor) (shape : Shape) : Except Fault Tensor :=
  match h : shape.count? with
  | none => .error .aborted
  | some n =>
    if same : n = x.grid.values.size then
      .ok ⟨x.type, ⟨shape, x.grid.values, same ▸ h⟩⟩
    else .ok ⟨x.type, ⟨shape, Array.replicate n x.type.zero, by simpa using h⟩⟩

/-! ### Reading tensors -/

/-- The values as elements of a type, which has to be the tensor's. -/
def elements (x : Tensor) (type : ElementType) : Except Fault (Grid type.Element) :=
  if h : x.type = type then .ok (h ▸ x.grid)
  else refuse (TensorFailure.elementType x.type type)

/-- The tensor as a grid of a type, which has to be the tensor's. The shape has to be
addressable. -/
def view (x : Tensor) (type : ElementType) : Except Fault (Grid type.Element) := do
  let grid ← x.elements type
  ensure grid.shape.Addressable TensorFailure.notAddressable
  return grid

def integers (x : Tensor) : Except Fault (List Int) :=
  match x.type.toInt? with
  | some toInt => .ok (x.grid.values.toList.map toInt)
  | none => refuse (TensorFailure.notInteger x.type)

/-- Let a computation change the grid of the tensor, which has to be of the given type. -/
def update {α : Type} (x : Tensor) (type : ElementType)
    (change : Grid type.Element → Except Fault α × Grid type.Element) : Except Fault α × Tensor :=
  match x.view type with
  | .error fault => (.error fault, x)
  | .ok grid =>
    let (ending, after) := change grid
    (ending, ⟨type, after⟩)

/-- Replace the value at a position; `false` if there is no such position. -/
def write (x : Tensor) (type : ElementType) (position : List Nat) (value : type.Element) :
    Except Fault Bool × Tensor :=
  x.update type fun grid =>
    if grid.shape.Contains position then
      (.ok true, grid.set (grid.shape.offset position) value)
    else (.ok false, grid)

/-- Replace the value at a place in row-major order; `false` beyond the end. -/
def writeFlat (x : Tensor) (type : ElementType) (place : Nat) (value : type.Element) :
    Except Fault Bool × Tensor :=
  match x.elements type with
  | .error fault => (.error fault, x)
  | .ok grid =>
    if place < grid.values.size then (.ok true, ⟨type, grid.set place value⟩)
    else (.ok false, x)

/-- Equality of type, shape and values; floating-point values are compared as numbers. -/
def same (x y : Tensor) : Bool :=
  x.shape == y.shape &&
    match y.elements x.type with
    | .ok other => (x.grid.values.toList.zip other.values.toList).all fun p => x.type.same p.1 p.2
    | .error _ => false

/-! ### Text -/

/-- At most this many values are shown, unless all are asked for. -/
def shownValues : Nat := 12

/-- The shape, the type and the values, cut off after the first few unless `full` is set. -/
def dump (x : Tensor) (full : Bool) : String :=
  let cut := decide (shownValues < x.size) && !full
  let shown := if cut then x.grid.values.toList.take shownValues else x.grid.values.toList
  String.intercalate "," (x.shape.map toString) ++ "," ++ x.type.name ++ " "
    ++ String.intercalate ", " (shown.map x.type.text) ++ (if cut then "..." else "")

/-- A tensor that is only looked at, as messages show it. -/
def viewText (x : Tensor) : String := "View(" ++ x.dump false ++ ")"

/-- A tensor that is being filled, as messages show it. -/
def outputText (x : Tensor) : String := "ViewMut(" ++ x.dump false ++ ")"

end Tensor

end TensorGraph
