import TensorGraph.Proofs.Faults
import TensorGraph.Proofs.Frame
import TensorGraph.Proofs.Positions

/-!
# Shapes beside values

A grid carries the proof that it holds one value for each position of its shape. The two can also be
kept side by side, with nothing that binds them: `Loose` is a shape beside a store of values. The
number of positions is then counted anew wherever it is needed, and there are two more ways to fail:
the store may turn out to hold values of another type than it tells, and there may be fewer values
than positions (`Loose.Trouble`).

Every call does to the two kept apart what it does to the grid (`TensorCall.performLoose_eq`), so
neither of them ever happens, whatever has been called before, and shape and values stay in step.
-/

namespace TensorGraph

/-! ## A store of values -/

inductive Storage where
  | bool (values : Array Bool)
  | u8 (values : Array UInt8)
  | i8 (values : Array Int8)
  | i32 (values : Array Int32)
  | i64 (values : Array Int64)
  | f16 (values : Array Numeric.Half)
  | f32 (values : Array Numeric.Single)
  | f64 (values : Array Numeric.Double)

namespace Storage

def type : Storage → ElementType
  | bool _ => .bool
  | u8 _ => .u8
  | i8 _ => .i8
  | i32 _ => .i32
  | i64 _ => .i64
  | f16 _ => .f16
  | f32 _ => .f32
  | f64 _ => .f64

def size : Storage → Nat
  | bool values => values.size
  | u8 values => values.size
  | i8 values => values.size
  | i32 values => values.size
  | i64 values => values.size
  | f16 values => values.size
  | f32 values => values.size
  | f64 values => values.size

/-- The store of values of a type. -/
def of : (type : ElementType) → Array type.Element → Storage
  | .bool => bool
  | .u8 => u8
  | .i8 => i8
  | .i32 => i32
  | .i64 => i64
  | .f16 => f16
  | .f32 => f32
  | .f64 => f64

def read? : (type : ElementType) → Storage → Option (Array type.Element)
  | .bool, bool values => some values
  | .u8, u8 values => some values
  | .i8, i8 values => some values
  | .i32, i32 values => some values
  | .i64, i64 values => some values
  | .f16, f16 values => some values
  | .f32, f32 values => some values
  | .f64, f64 values => some values
  | _, _ => none

def zeros (type : ElementType) (n : Nat) : Storage := of type (Array.replicate n type.zero)

variable {type : ElementType} {values : Array type.Element}

@[simp] theorem type_of : (of type values).type = type := by cases type <;> rfl

@[simp] theorem size_of : (of type values).size = values.size := by cases type <;> rfl

/-- Values are read back as what they were stored as. -/
@[simp] theorem read?_of : (of type values).read? type = some values := by cases type <;> rfl

end Storage

/-! ## A shape beside a store -/

/-- A shape and a store of values; nothing keeps the two in step. -/
structure Loose where
  shape : Shape
  storage : Storage

namespace Loose

/-- How an operation ends without a value. -/
inductive Trouble where
  | fault (fault : Fault)
  /-- The store does not hold values of the type that it tells. -/
  | inconsistent
  /-- There are fewer values than are to be read. -/
  | short

instance : MonadLift (Except Fault) (Except Trouble) := ⟨Except.mapError .fault⟩

@[simp] theorem lift_ok {α : Type} (a : α) :
    (liftM (.ok a : Except Fault α) : Except Trouble α) = .ok a := rfl

@[simp] theorem lift_error {α : Type} (fault : Fault) :
    (liftM (.error fault : Except Fault α) : Except Trouble α) = .error (.fault fault) := rfl

/-! ### Making -/

/-- The single number zero in single precision. -/
def default : Loose := ⟨[], .f32 #[ElementType.zero .f32]⟩

def zeros (type : ElementType) (shape : Shape) : Except Trouble Loose := do
  let n ← checked shape.count?
  return ⟨shape, .zeros type n⟩

/-- Values in row-major order, of which there have to be as many as positions. -/
def ofValues (type : ElementType) (shape : Shape) (values : Array type.Element) :
    Except Trouble Loose := do
  let expected ← checked shape.count?
  ensure (expected = values.size) (TensorFailure.valueCount shape expected values.size)
  return ⟨shape, .of type values⟩

/-- What a literal holds. Its values are not counted. -/
def ofArray (type : ElementType) (shape : Shape) (values : Array type.Element) :
    Except Trouble Loose :=
  if shape.Addressable then .ok ⟨shape, .of type values⟩ else .error (.fault .aborted)

/-! ### Reading -/

variable (x : Loose)

def type : ElementType := x.storage.type

def count : Except Trouble Nat := checked x.shape.count?

def elements (type : ElementType) : Except Trouble (Array type.Element) := do
  ensure (x.type = type) (TensorFailure.elementType x.type type)
  match x.storage.read? type with
  | some values => return values
  | none => .error .inconsistent

/-- The values as elements of a type, with one for each position. -/
def view (type : ElementType) : Except Trouble (Array type.Element) := do
  let values ← x.elements type
  ensure x.shape.Addressable TensorFailure.notAddressable
  if values.size < x.shape.positions then .error .short else return values

/-- The text of the first values as elements of a type; of another type there are none. -/
def text (type : ElementType) (shown : Nat) : Except Trouble String :=
  match x.elements type with
  | .ok values =>
    if values.size < shown then .error .short
    else .ok (String.intercalate ", " ((values.toList.take shown).map type.text))
  | .error _ => .ok ""

/-- The shape, the type and the values, cut off after the first few unless `full` is set. -/
def dump (full : Bool) : Except Trouble String := do
  let size ← x.count
  let cut := decide (Tensor.shownValues < size) && !full
  let data ← x.text x.type (if cut then Tensor.shownValues else size)
  return String.intercalate "," (x.shape.map toString) ++ "," ++ x.type.name ++ " " ++ data
    ++ (if cut then "..." else "")

/-! ### Changing -/

/-- The values in a new shape if it has as many positions as the old one, zeros otherwise. -/
def resize (shape : Shape) : Except Trouble Loose := do
  let n ← checked shape.count?
  let own ← x.count
  return ⟨shape, if n ≠ own then .zeros x.type n else x.storage⟩

/-- Replace the value at a position; `false` if there is no such position. -/
def write (type : ElementType) (position : List Nat) (value : type.Element) :
    Except Trouble Bool × Loose :=
  match x.view type with
  | .error trouble => (.error trouble, x)
  | .ok values =>
    if x.shape.Contains position then
      (.ok true,
        { x with storage := .of type (values.setIfInBounds (x.shape.offset position) value) })
    else (.ok false, x)

def writeFlat (type : ElementType) (place : Nat) (value : type.Element) :
    Except Trouble Bool × Loose :=
  match x.elements type with
  | .error trouble => (.error trouble, x)
  | .ok values =>
    if place < values.size then
      (.ok true, { x with storage := .of type (values.setIfInBounds place value) })
    else (.ok false, x)

/-- Put something new in the place of what was there, if it could be made. -/
def replace : Except Trouble Loose → Except Trouble Bool × Loose
  | .ok made => (.ok true, made)
  | .error trouble => (.error trouble, x)

end Loose

/-! ## Calls -/

/-- What can be done to a tensor, or put in its place. -/
inductive TensorCall where
  | default
  | zeros (type : ElementType) (shape : Shape)
  | ofValues (type : ElementType) (shape : Shape) (values : Array type.Element)
  | scalar (type : ElementType) (value : type.Element)
  | vector (type : ElementType) (values : Array type.Element)
  | rows (type : ElementType) (columns : Nat) (rows : List (Vector type.Element columns))
  | resize (shape : Shape)
  | write (type : ElementType) (position : List Nat) (value : type.Element)
  | writeFlat (type : ElementType) (place : Nat) (value : type.Element)

namespace Tensor

/-- What a literal of an addressable shape holds. -/
def ofArray (type : ElementType) (shape : Shape) (values : Array type.Element) :
    Except Fault Tensor :=
  if shape.Addressable then ofValues type shape values else .error .aborted

/-- Put a new tensor in the place of the old one, if it could be made. -/
def replace (x : Tensor) : Except Fault Tensor → Except Fault Bool × Tensor
  | .ok made => (.ok true, made)
  | .error fault => (.error fault, x)

/-- The shape and the values of a tensor, side by side. -/
def loose (x : Tensor) : Loose := ⟨x.shape, .of x.type x.grid.values⟩

end Tensor

namespace TensorCall

def flattened {α : Type} {columns : Nat} (rows : List (Vector α columns)) : Array α :=
  (rows.flatMap Vector.toList).toArray

/-- What a call answers, and the tensor after it. -/
def perform : TensorCall → Tensor → Except Fault Bool × Tensor
  | .default, x => x.replace (.ok Tensor.default)
  | .zeros type shape, x => x.replace (Tensor.zeros type shape)
  | .ofValues type shape values, x => x.replace (Tensor.ofValues type shape values)
  | .scalar type value, x => x.replace (Tensor.ofArray type [] #[value])
  | .vector type values, x => x.replace (Tensor.ofArray type [values.size] values)
  | .rows type columns lines, x =>
    x.replace (Tensor.ofArray type [lines.length, columns] (flattened lines))
  | .resize shape, x => x.replace (x.resize shape)
  | .write type position value, x => x.write type position value
  | .writeFlat type place value, x => x.writeFlat type place value

/-- What a call answers where shape and values are kept apart, and the two after it. -/
def performLoose : TensorCall → Loose → Except Loose.Trouble Bool × Loose
  | .default, x => x.replace (.ok Loose.default)
  | .zeros type shape, x => x.replace (Loose.zeros type shape)
  | .ofValues type shape values, x => x.replace (Loose.ofValues type shape values)
  | .scalar type value, x => x.replace (Loose.ofArray type [] #[value])
  | .vector type values, x => x.replace (Loose.ofArray type [values.size] values)
  | .rows type columns lines, x =>
    x.replace (Loose.ofArray type [lines.length, columns] (flattened lines))
  | .resize shape, x => x.replace (x.resize shape)
  | .write type position value, x => x.write type position value
  | .writeFlat type place value, x => x.writeFlat type place value

def after (calls : List TensorCall) : Tensor :=
  calls.foldl (fun x call => (call.perform x).2) .default

def afterLoose (calls : List TensorCall) : Loose :=
  calls.foldl (fun x call => (call.performLoose x).2) .default

end TensorCall

/-! ## Both do the same -/

/-- What ends in a tensor, with its shape and values taken apart. -/
def Loose.parted (made : Except Fault Tensor) : Except Trouble Loose :=
  (made.map Tensor.loose).mapError .fault

/-- An answer and a tensor, with its shape and values taken apart. -/
def Loose.told (answer : Except Fault Bool × Tensor) : Except Trouble Bool × Loose :=
  (answer.1.mapError .fault, answer.2.loose)

namespace Tensor

open Loose (parted told)

variable {x : Tensor} {type : ElementType} {shape : Shape} {values : Array type.Element}

/-- Replacing a tensor replaces shape and values at once. -/
theorem loose_replace (made : Except Fault Tensor) :
    x.loose.replace (parted made) = told (x.replace made) := by
  cases made <;> rfl

theorem type_loose : x.loose.type = x.type := Storage.type_of

/-- Values are taken into a shape that has as many positions. -/
theorem ofValues_of_counted (counted : shape.count? = some values.size) :
    ofValues type shape values = .ok ⟨type, ⟨shape, values, counted⟩⟩ := by
  rw [ofValues, Grid.ofValues?, dif_pos counted, counted]
  rfl

theorem loose_zeros : Loose.zeros type shape = parted (zeros type shape) := by
  unfold zeros Loose.zeros
  split
  next n counted =>
    simp only [counted, checked, Loose.lift_ok, ok_bind]
    rfl
  next none =>
    simp only [none, checked, Loose.lift_error, error_bind]
    rfl

theorem loose_ofValues :
    Loose.ofValues type shape values = parted (ofValues type shape values) := by
  unfold Loose.ofValues
  by_cases counted : shape.count? = some values.size
  · rw [ofValues_of_counted counted]
    simp only [counted, checked, ensure, Loose.lift_ok, ok_bind, if_true]
    rfl
  · rw [ofValues, Grid.ofValues?, dif_neg counted]
    cases found : shape.count? with
    | none => rfl
    | some n =>
        have other : n ≠ values.size := fun same => counted (by rw [found, same])
        simp only [checked, ensure, if_neg other, Loose.lift_ok, ok_bind]
        rfl

/-- The values of a literal are as many as its shape has positions, so they need not be counted. -/
theorem loose_ofArray (fits : values.size = shape.positions) :
    Loose.ofArray type shape values = parted (ofArray type shape values) := by
  unfold Loose.ofArray ofArray
  by_cases addressable : shape.Addressable
  · obtain ⟨n, counted⟩ := addressable.counted
    rw [Shape.positions_of_count? counted] at fits
    rw [if_pos addressable, if_pos addressable, ofValues_of_counted (fits ▸ counted)]
    rfl
  · rw [if_neg addressable, if_neg addressable]
    rfl

/-- Resizing keeps shape and values in step. -/
theorem loose_resize : x.loose.resize shape = parted (x.resize shape) := by
  have own : x.loose.shape.count? = some x.grid.values.size := x.grid.counted
  unfold resize Loose.resize Loose.count
  split
  next none =>
    simp only [none, checked, Loose.lift_error, error_bind]
    rfl
  next n counted =>
    simp only [counted, own, checked, Loose.lift_ok, ok_bind]
    by_cases same : n = x.grid.values.size
    · rw [dif_pos same, if_neg (not_not.mpr same)]
      rfl
    · rw [dif_neg same, if_pos same, type_loose]
      rfl

theorem loose_elements :
    x.loose.elements type = ((x.elements type).map Grid.values).mapError .fault := by
  unfold Loose.elements elements
  rw [type_loose]
  by_cases same : x.type = type
  · subst same
    have held : x.loose.storage.read? x.type = some x.grid.values := Storage.read?_of
    simp only [ensure, if_true, Loose.lift_ok, ok_bind, held]
    rfl
  · rw [ensure, if_neg same, dif_neg same]
    rfl

theorem loose_view :
    x.loose.view type = ((x.view type).map Grid.values).mapError .fault := by
  unfold Loose.view view
  rw [loose_elements]
  cases seen : x.elements type with
  | error fault => rfl
  | ok grid =>
      obtain rfl := elements_eq_ok.mp seen
      have enough : ¬ grid.values.size < grid.shape.positions := by
        rw [grid.size_eq]
        exact Nat.lt_irrefl _
      show (do
          ensure grid.shape.Addressable TensorFailure.notAddressable
          if grid.values.size < grid.shape.positions then .error .short
          else return grid.values : Except Loose.Trouble _) =
        ((do
          ensure grid.shape.Addressable TensorFailure.notAddressable
          return grid : Except Fault (Grid _)).map Grid.values).mapError .fault
      rw [if_neg enough]
      by_cases addressable : grid.shape.Addressable
      · rw [ensure, if_pos addressable]
        rfl
      · rw [ensure, if_neg addressable]
        rfl

/-- Writing at a position finds the same place, or none. -/
theorem loose_write {position : List Nat} {value : type.Element} :
    x.loose.write type position value = told (x.write type position value) := by
  unfold Loose.write write update
  rw [loose_view]
  cases seen : x.view type with
  | error fault => rfl
  | ok grid =>
      obtain ⟨rfl, -⟩ := view_eq_ok.mp seen
      show (if grid.shape.Contains position then _ else _) = _
      by_cases inside : grid.shape.Contains position
      · simp only [if_pos inside]
        rfl
      · simp only [if_neg inside]
        rfl

theorem loose_writeFlat {place : Nat} {value : type.Element} :
    x.loose.writeFlat type place value = told (x.writeFlat type place value) := by
  unfold Loose.writeFlat writeFlat
  rw [loose_elements]
  cases seen : x.elements type with
  | error fault => rfl
  | ok grid =>
      obtain rfl := elements_eq_ok.mp seen
      show (if place < grid.values.size then _ else _) = _
      by_cases inside : place < grid.values.size
      · simp only [if_pos inside]
        rfl
      · simp only [if_neg inside]
        rfl

/-- The text is that of the first values. -/
theorem loose_text {shown : Nat} (enough : shown ≤ x.size) : x.loose.text x.type shown =
    .ok (String.intercalate ", " ((x.grid.values.toList.take shown).map x.type.text)) := by
  rw [Loose.text, loose_elements, elements_eq_ok.mpr rfl]
  exact if_neg (Nat.not_lt.mpr enough)

/-- As many values are shown as there are positions, or fewer, and they are all there. -/
theorem loose_dump (full : Bool) : x.loose.dump full = .ok (x.dump full) := by
  have own : x.loose.shape.count? = some x.size := x.grid.counted
  unfold dump Loose.dump Loose.count
  rw [own, type_loose]
  simp only [checked, Loose.lift_ok, ok_bind]
  cases cut : decide (shownValues < x.size) && !full with
  | true =>
      rw [Bool.and_eq_true, decide_eq_true_iff] at cut
      rw [if_pos rfl, loose_text (Nat.le_of_lt cut.1)]
      rfl
  | false =>
      have all : x.grid.values.toList.take x.size = x.grid.values.toList := List.take_length
      rw [if_neg (by decide), loose_text (Nat.le_refl _), all]
      rfl

end Tensor

namespace TensorCall

open Loose (told)

theorem size_flattened {α : Type} {columns : Nat} (lines : List (Vector α columns)) :
    (flattened lines).size = Shape.positions [lines.length, columns] := by
  simp [flattened, Shape.positions, List.length_flatMap]

/-- A call does the same to a tensor and to its shape and values, kept apart. -/
theorem performLoose_eq (call : TensorCall) (x : Tensor) :
    call.performLoose x.loose = told (call.perform x) := by
  cases call with
  | default =>
      have made : Loose.parted (.ok .default) = .ok .default := rfl
      rw [performLoose, ← made]
      exact Tensor.loose_replace _
  | zeros type shape =>
      rw [performLoose, Tensor.loose_zeros]
      exact Tensor.loose_replace _
  | ofValues type shape values =>
      rw [performLoose, Tensor.loose_ofValues]
      exact Tensor.loose_replace _
  | scalar type value =>
      rw [performLoose, Tensor.loose_ofArray rfl]
      exact Tensor.loose_replace _
  | vector type values =>
      rw [performLoose, Tensor.loose_ofArray (Nat.mul_one _).symm]
      exact Tensor.loose_replace _
  | rows type columns lines =>
      rw [performLoose, Tensor.loose_ofArray (size_flattened lines)]
      exact Tensor.loose_replace _
  | resize shape =>
      rw [performLoose, Tensor.loose_resize]
      exact Tensor.loose_replace _
  | write type position value => exact Tensor.loose_write
  | writeFlat type place value => exact Tensor.loose_writeFlat

/-- After any calls, shape and values are those of the tensor. -/
theorem afterLoose_eq (calls : List TensorCall) : afterLoose calls = (after calls).loose := by
  show calls.foldl _ Tensor.default.loose = _
  unfold after
  generalize Tensor.default = x
  induction calls generalizing x with
  | nil => rfl
  | cons call calls ih =>
      rw [List.foldl_cons, List.foldl_cons, performLoose_eq]
      exact ih _

end TensorCall

/-! ## What the calls do -/

namespace Tensor

variable {x : Tensor} {type : ElementType}

/-- Writing at a position replaces the value at its place and no other, each place is that of one
position, and places are in the order of positions. -/
structure Writes (x : Tensor) (type : ElementType) (grid : Grid type.Element) : Prop where
  written : ∀ position value, grid.shape.Contains position → ∃ after : Grid type.Element,
    x.write type position value = (.ok true, ⟨type, after⟩) ∧ after.shape = grid.shape ∧
      grid.shape.offset position < grid.values.size ∧
      ∀ place, after.values[place]? =
        if place = grid.shape.offset position then some value else grid.values[place]?
  refused : ∀ position value, ¬ grid.shape.Contains position →
    x.write type position value = (.ok false, x)
  reached : ∀ place < grid.values.size,
    ∃! position, grid.shape.Contains position ∧ grid.shape.offset position = place
  rowMajor : ∀ p q, grid.shape.Contains p → grid.shape.Contains q →
    (grid.shape.offset p < grid.shape.offset q ↔ p < q)

/-- A tensor that can be looked at can be written at each of its positions. -/
theorem writes_of_view {grid : Grid type.Element} (seen : x.view type = .ok grid) :
    x.Writes type grid := by
  obtain ⟨rfl, -⟩ := view_eq_ok.mp seen
  refine ⟨fun position value inside => ?_, fun position value outside => ?_, fun place below => ?_,
    fun p q inside inside' => Shape.offset_lt_offset inside inside'⟩
  · have place := Shape.offset_lt inside
    rw [← grid.size_eq] at place
    refine ⟨grid.set (grid.shape.offset position) value, ?_, rfl, place, fun other => ?_⟩
    · simp only [write, update, seen, if_pos inside]
    · rw [Grid.set, Array.getElem?_setIfInBounds]
      by_cases same : other = grid.shape.offset position
      · rw [if_pos same.symm, if_pos same, if_pos (same ▸ place)]
      · rw [if_neg (Ne.symm same), if_neg same]
  · simp only [write, update, seen, if_neg outside]
  · rw [grid.size_eq] at below
    refine ⟨grid.shape.index place, ⟨Shape.contains_index below, Shape.offset_index below⟩, ?_⟩
    rintro position ⟨inside, rfl⟩
    exact (Shape.index_offset inside).symm

end Tensor

namespace TensorCall

variable {call : TensorCall} {x : Tensor} {fault : Fault}

/-- What fails leaves the tensor as it was. -/
theorem perform_fails (failed : (call.perform x).1 = .error fault) : (call.perform x).2 = x := by
  have kept {made : Except Fault Tensor} (failed : (x.replace made).1 = .error fault) :
      (x.replace made).2 = x := by
    cases made with
    | ok y => cases failed
    | error => rfl
  cases call with
  | write type position value =>
      simp only [perform, Tensor.write, Tensor.update] at failed ⊢
      split at failed
      next => rfl
      next => split at failed <;> cases failed
  | writeFlat type place value =>
      simp only [perform, Tensor.writeFlat] at failed ⊢
      split at failed
      next => rfl
      next => split at failed <;> cases failed
  | _ => exact kept failed

end TensorCall

/-! ## In step -/

/-- There is one value for each position, of the type that is told, and all of them can be read. -/
structure Loose.InStep (x : Loose) : Prop where
  counted : x.shape.count? = some x.storage.size
  positions : x.storage.size = x.shape.positions
  held : ∃ values, x.storage = .of x.type values ∧ x.elements x.type = .ok values
  consistent : ∀ type, x.elements type ≠ .error .inconsistent ∧ x.view type ≠ .error .inconsistent
  enough : ∀ type, x.view type ≠ .error .short

namespace Tensor

variable (x : Tensor)

/-- Taken apart, shape and values of a tensor are in step. -/
theorem loose_inStep : x.loose.InStep where
  counted := by
    rw [loose, Storage.size_of]
    exact x.grid.counted
  positions := Storage.size_of.trans x.grid.size_eq
  held := by
    rw [type_loose]
    refine ⟨x.grid.values, rfl, ?_⟩
    rw [loose_elements, elements_eq_ok.mpr rfl]
    rfl
  consistent := by
    intro type
    rw [loose_elements, loose_view]
    constructor
    · cases x.elements type <;> rintro ⟨⟩
    · cases x.view type <;> rintro ⟨⟩
  enough := by
    intro type
    rw [loose_view]
    cases x.view type <;> rintro ⟨⟩

end Tensor

namespace TensorCall

/-- Shape and values stay in step, whatever has been called: kept apart, they are those of the
tensor, and every further call does the same to both. -/
theorem values_stay_in_step (calls : List TensorCall) :
    let x := after calls
    let apart := afterLoose calls
    apart = x.loose ∧ apart.InStep ∧ (∀ full, apart.dump full = .ok (x.dump full)) ∧
      (∀ call : TensorCall, call.performLoose apart = Loose.told (call.perform x)) ∧
      (∀ (call : TensorCall) trouble, (call.performLoose apart).1 = .error trouble →
        (∃ fault, trouble = .fault fault ∧ (call.perform x).1 = .error fault) ∧
          (call.performLoose apart).2 = apart ∧ (call.perform x).2 = x) ∧
      (∀ shape, shape.count? = none → x.resize shape = .error .aborted) ∧
      (∀ shape n, shape.count? = some n → n = shape.positions ∧
        ∃ grid : Grid x.type.Element, x.resize shape = .ok ⟨x.type, grid⟩ ∧ grid.shape = shape ∧
          grid.values = if n = x.size then x.grid.values else Array.replicate n x.type.zero) ∧
      ∀ type grid, x.view type = .ok grid → x.Writes type grid := by
  intro x apart
  have same : apart = x.loose := afterLoose_eq calls
  rw [same]
  refine ⟨rfl, x.loose_inStep, x.loose_dump, fun call => performLoose_eq call x, ?_,
    fun shape => Tensor.resize_of_not_counted, fun shape n counted =>
      ⟨(Shape.positions_of_count? counted).symm, Tensor.resize_of_counted counted⟩,
    fun type grid => Tensor.writes_of_view⟩
  -- a call on the parts answers what the call on the tensor answers
  intro call trouble failed
  rw [performLoose_eq, Loose.told] at failed ⊢
  cases ended : (call.perform x).1 with
  | ok found =>
      rw [ended] at failed
      cases failed
  | error fault =>
      rw [ended] at failed
      cases failed
      have kept := perform_fails ended
      exact ⟨⟨fault, rfl, rfl⟩, congrArg Tensor.loose kept, kept⟩

/-- Four numbers become a square and one of them is replaced. Neither a shape without end nor a
value of another type changes anything, and each number of the square is at one position. -/
theorem square_in_step :
    let calls : List TensorCall := [.vector .i32 #[1, 2, 3, 4], .resize [2, 2],
      .write .i32 [1, 0] 7, .resize [2 ^ 32, 2 ^ 32, 0], .writeFlat .i64 0 5]
    let square : Grid Int32 := ⟨[2, 2], #[1, 2, 7, 4], rfl⟩
    after calls = ⟨.i32, square⟩ ∧ (after calls).view .i32 = .ok square ∧
      afterLoose calls = ⟨[2, 2], .i32 #[1, 2, 7, 4]⟩ ∧ (after calls).Writes .i32 square ∧
      ((TensorCall.resize [2 ^ 64]).perform (after calls)).1 = .error .aborted ∧
      ((TensorCall.resize [2 ^ 64]).perform (after calls)).2 = after calls := by
  intro calls square
  have seen : (after calls).view .i32 = .ok square := rfl
  obtain ⟨apart, -, -, -, failing, uncounted, -, writes⟩ := values_stay_in_step calls
  have aborted : ((TensorCall.resize [2 ^ 64]).perform (after calls)).1 = .error .aborted := by
    rw [perform, uncounted [2 ^ 64] rfl]
    rfl
  obtain ⟨-, -, kept⟩ := failing (.resize [2 ^ 64]) (.fault .aborted) rfl
  exact ⟨rfl, seen, apart.trans rfl, writes _ _ seen, aborted, kept⟩

end TensorCall

end TensorGraph
