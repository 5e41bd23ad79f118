import TensorGraph.Numeric.Arctangent
import TensorGraph.Numeric.Decimal
import TensorGraph.Text.Layout

/-!
# Elements

What a tensor can hold: truth values, integers of four widths, and floating-point numbers of three
formats. `ElementType.Element` is the type of the values; the operations that kernels need come as
one class per family of element types, and `number?`, `integer?` and `floatLike?` give the
operations of a type that belongs to the family.
-/

namespace TensorGraph

open Numeric

inductive ElementType where
  | bool
  | u8
  | i8
  | i32
  | i64
  | f16
  | f32
  | f64
deriving DecidableEq

/-- Numbers that can be added up and multiplied. -/
class Number (α : Type) extends Add α, Mul α, Zero α

/-- Floating-point numbers as the kernels see them. -/
class FloatLike (α : Type) extends Number α, Sub α, Div α, Neg α, One α where
  abs : α → α
  isNaN : α → Bool
  less : α → α → Bool
  /-- The most negative finite number. -/
  lowest : α
  /-- The largest finite number. -/
  highest : α
  /-- The number nearest to a count. -/
  ofNat : Nat → α
  /-- The angle of the point with the given height and abscissa. -/
  arctan2 : α → α → α

namespace FloatLike

variable {α : Type} [FloatLike α]

/-- The larger number; not-a-number gives way to the other argument. -/
def max (a b : α) : α :=
  if isNaN a then b else if isNaN b then a else if less a b then b else a

/-- The smaller number; not-a-number gives way to the other argument. -/
def min (a b : α) : α :=
  if isNaN a then b else if isNaN b then a else if less b a then b else a

end FloatLike

@[reducible] def Numeric.Floating.floatLike (f : Format) : FloatLike (Floating f) where
  add := Floating.add
  sub := Floating.sub
  mul := Floating.mul
  div := Floating.div
  neg := Floating.neg
  zero := Floating.ofNat 0
  one := Floating.ofNat 1
  abs := Floating.abs
  isNaN := Floating.isNaN
  less := Floating.less
  lowest := Floating.lowest
  highest := Floating.highest
  ofNat := Floating.ofNat
  arctan2 := Floating.arctan2

instance : FloatLike Single := Floating.floatLike .single

instance : FloatLike Double := Floating.floatLike .double

/-- Half precision numbers are calculated with in single precision and rounded back. -/
instance : FloatLike Half where
  add a b := ((a.convert .single).add (b.convert .single)).convert .half
  sub a b := ((a.convert .single).sub (b.convert .single)).convert .half
  mul a b := ((a.convert .single).mul (b.convert .single)).convert .half
  div a b := ((a.convert .single).div (b.convert .single)).convert .half
  neg := Floating.neg
  zero := Floating.ofNat 0
  one := Floating.ofNat 1
  abs := Floating.abs
  isNaN := Floating.isNaN
  less := Floating.less
  lowest := Floating.lowest
  highest := Floating.highest
  ofNat n := (Floating.ofNat n : Single).convert .half
  arctan2 y x := ((y.convert .single).arctan2 (x.convert .single)).convert .half

/-- Fixed-width integers wrap around. -/
instance : Number UInt8 where zero := 0

instance : Number Int8 where zero := 0

instance : Number Int32 where zero := 0

instance : Number Int64 where zero := 0

namespace ElementType

@[reducible] def Element : ElementType → Type
  | bool => Bool
  | u8 => UInt8
  | i8 => Int8
  | i32 => Int32
  | i64 => Int64
  | f16 => Half
  | f32 => Single
  | f64 => Double

def name : ElementType → String
  | bool => "Bool"
  | u8 => "U8"
  | i8 => "I8"
  | i32 => "I32"
  | i64 => "I64"
  | f16 => "F16"
  | f32 => "F32"
  | f64 => "F64"

instance : ToString ElementType := ⟨name⟩

/-- The value that fresh storage is filled with. -/
def zero : (t : ElementType) → t.Element
  | bool => false
  | u8 => 0
  | i8 => 0
  | i32 => 0
  | i64 => 0
  | f16 => Floating.ofNat 0
  | f32 => Floating.ofNat 0
  | f64 => Floating.ofNat 0

/-- The text of a value. A half precision number is written as the single precision number of the
same value. -/
def text : (t : ElementType) → t.Element → String
  | bool, x => Text.truth x
  | u8, x => toString x.toNat
  | i8, x => toString x.toInt
  | i32, x => toString x.toInt
  | i64, x => toString x.toInt
  | f16, x => (Floating.convert .single x).text
  | f32, x => Floating.text x
  | f64, x => Floating.text x

/-- Equality of values; floating-point numbers are compared as numbers. -/
def same : (t : ElementType) → t.Element → t.Element → Bool
  | bool, x, y => x == y
  | u8, x, y => x == y
  | i8, x, y => x == y
  | i32, x, y => x == y
  | i64, x, y => x == y
  | f16, x, y => Floating.same x y
  | f32, x, y => Floating.same x y
  | f64, x, y => Floating.same x y

/-- The strict order of values; false comes before true, and not-a-number is not less than
anything, nor is anything less than it. -/
def less : (t : ElementType) → t.Element → t.Element → Bool
  | bool, x, y => !x && y
  | u8, x, y => decide (x < y)
  | i8, x, y => decide (x < y)
  | i32, x, y => decide (x < y)
  | i64, x, y => decide (x < y)
  | f16, x, y => Floating.less x y
  | f32, x, y => Floating.less x y
  | f64, x, y => Floating.less x y

/-- The value of an integer element; other types have none. -/
def toInt? : (t : ElementType) → Option (t.Element → Int)
  | u8 => some fun x => x.toNat
  | i8 => some Int8.toInt
  | i32 => some Int32.toInt
  | i64 => some Int64.toInt
  | _ => none

/-- An index as an element, if the type has one for it. Floating-point numbers take the nearest
one. -/
def ofIndex? : (t : ElementType) → Nat → Option t.Element
  | bool, _ => none
  | u8, n => if n < Nat.pow 2 8 then some (UInt8.ofNat n) else none
  | i8, n => if n < Nat.pow 2 7 then some (Int8.ofNat n) else none
  | i32, n => if n < Nat.pow 2 31 then some (Int32.ofNat n) else none
  | i64, n => if n < Nat.pow 2 63 then some (Int64.ofNat n) else none
  | f16, n => some (FloatLike.ofNat n)
  | f32, n => some (FloatLike.ofNat n)
  | f64, n => some (FloatLike.ofNat n)

def floatLike? : (t : ElementType) → Option (FloatLike t.Element)
  | f16 => some inferInstance
  | f32 => some inferInstance
  | f64 => some inferInstance
  | _ => none

/-- The wrapping arithmetic of an integer type. -/
def integer? : (t : ElementType) → Option (Number t.Element)
  | u8 => some inferInstance
  | i8 => some inferInstance
  | i32 => some inferInstance
  | i64 => some inferInstance
  | _ => none

def number? : (t : ElementType) → Option (Number t.Element)
  | bool => none
  | u8 => some inferInstance
  | i8 => some inferInstance
  | i32 => some inferInstance
  | i64 => some inferInstance
  | f16 => some inferInstance
  | f32 => some inferInstance
  | f64 => some inferInstance

end ElementType

end TensorGraph
