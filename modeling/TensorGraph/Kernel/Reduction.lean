import TensorGraph.Grid

/-!
# Reductions

The sum of any number of tensors of one shape, and the index of the first extremum along an axis.
-/

namespace TensorGraph.Kernel

/-- The sum of all inputs, added up in their order. -/
def addN {α : Type} [Number α] (inputs : List (Grid α)) (output : Grid α) :
    Except Fault (Grid α) :=
  match inputs with
  | [] => refuse KernelFailure.addNEmpty
  | first :: others => do
    inputs.forM fun input =>
      ensure (input.shape = output.shape) (KernelFailure.addNShape input.shape output.shape)
    return output.mapIdx fun place old =>
      others.foldl (fun sum input => sum + input.getD place old) (first.getD place old)

/-- The index, counted from `next`, of the last value that is better than all before it, starting
with `best` at index `found`. -/
def firstExtremumFrom {α : Type} (better : α → α → Bool) (best : α) (found next : Nat) :
    List α → Nat
  | [] => found
  | x :: xs =>
    if better x best then firstExtremumFrom better x next (next + 1) xs
    else firstExtremumFrom better best found (next + 1) xs

/-- The index of the first value that no value is better than. -/
def firstExtremum {α : Type} (better : α → α → Bool) : List α → Nat
  | [] => 0
  | x :: xs => firstExtremumFrom better x 0 1 xs

/-- The values along an axis, through a position of the shape without that axis. -/
def lane {α : Type} (input : Grid α) (axis : Nat) (position : List Nat) : List α :=
  (List.range (input.shape.getD axis 0)).filterMap fun i =>
    input.values[input.shape.offset (position.insertIdx axis i)]?

/-- The index of the first extremum along an axis. The output has the shape of the input without
that axis. An index that the output type has no element for ends the filling there. -/
def argExtremum (type indexType : ElementType) (axis : Nat) (largest : Bool)
    (input : Grid type.Element) (output : Grid indexType.Element) :
    Written Unit indexType.Element :=
  let expected : Shape := input.shape.eraseIdx axis
  let checks : Except Fault Unit := do
    ensure (axis < input.shape.length) (KernelFailure.axisOutOfRange axis input.shape.length)
    ensure (0 < input.shape.getD axis 0) (KernelFailure.emptyAxis axis)
    ensure (output.shape = expected) (KernelFailure.argExtremumShape output.shape expected)
  match checks with
  | .error fault => (.error fault, output)
  | .ok () =>
    let better (a b : type.Element) := if largest then type.less b a else type.less a b
    let indices := (List.range output.values.size).map fun place =>
      firstExtremum better (lane input axis (expected.index place))
    let filled := output.fillWhile (indices.map indexType.ofIndex?)
    match indices.find? fun i => (indexType.ofIndex? i).isNone with
    | none => (.ok (), filled)
    | some i => (refuse (KernelFailure.indexOverflow i indexType), filled)

end TensorGraph.Kernel
