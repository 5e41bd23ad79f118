import TensorGraph.Numeric.Format

/-!
# Floating-point numbers

A number of a format is not-a-number, an infinity of either sign, or a signed magnitude that the
format represents. There is a single not-a-number: its sign and payload mean nothing. Arithmetic
is exact on units and then rounded once, to nearest, ties to even. Comparison is that of the
integers `order`, so it inherits their laws wherever no operand is not-a-number.
-/

namespace TensorGraph.Numeric

/-- A number of a binary floating-point format. -/
inductive Floating (f : Format) where
  | nan
  | infinity (negative : Bool)
  | finite (negative : Bool) (units : Nat) (fits : f.Fits units)
deriving DecidableEq

namespace Floating

variable {f : Format}

/-! ### Construction and rounding -/

/-- The number with this sign and magnitude; a magnitude out of the format's reach is infinite. -/
def ofUnits (negative : Bool) (units : Nat) : Floating f :=
  if fits : f.Fits units then finite negative units fits else infinity negative

/-- The number nearest to `numerator / denominator` units, an exact half going to the even
neighbour. -/
def round (negative : Bool) (numerator denominator : Nat) : Floating f :=
  let grid := Nat.pow 2 (f.spacing (numerator / denominator))
  ofUnits negative (roundHalfEven numerator (denominator * grid) * grid)

def signedZero (negative : Bool) : Floating f := ofUnits negative 0

def ofNat (n : Nat) : Floating f := round false (n * Nat.pow 2 f.scale) 1

def highest : Floating f := ofUnits false f.largest

def lowest : Floating f := ofUnits true f.largest

/-- The same value in another format, rounded where that format is narrower. -/
def convert (g : Format) : Floating f → Floating g
  | nan => nan
  | infinity negative => infinity negative
  | finite negative units _ => round negative (units * Nat.pow 2 g.scale) (Nat.pow 2 f.scale)

/-! ### Sign and order -/

def isNaN : Floating f → Bool
  | nan => true
  | _ => false

def neg : Floating f → Floating f
  | nan => nan
  | infinity negative => infinity (!negative)
  | finite negative units fits => finite (!negative) units fits

def abs : Floating f → Floating f
  | nan => nan
  | infinity _ => infinity false
  | finite _ units fits => finite false units fits

/-- The signed number of units of a finite number. -/
def signed (negative : Bool) (units : Nat) : Int :=
  if negative then -(units : Int) else units

/-- The place of a number among all numbers; not-a-number has none. Both zeros share a place. -/
def order : Floating f → Option Int
  | nan => none
  | infinity negative => some (signed negative (f.largest + 1))
  | finite negative units _ => some (signed negative units)

/-- Strictly less; false as soon as one side is not-a-number. -/
def less (a b : Floating f) : Bool :=
  match a.order, b.order with
  | some x, some y => decide (x < y)
  | _, _ => false

/-- Equal as numbers: not-a-number differs from itself, and the two zeros are equal. -/
def same (a b : Floating f) : Bool :=
  match a.order, b.order with
  | some x, some y => decide (x = y)
  | _, _ => false

/-! ### Arithmetic -/

/-- The sum, rounded once. Opposite numbers add up to the positive zero. -/
def add : Floating f → Floating f → Floating f
  | nan, _ => nan
  | _, nan => nan
  | infinity s, infinity t => if s = t then infinity s else nan
  | infinity s, finite _ _ _ => infinity s
  | finite _ _ _, infinity t => infinity t
  | finite s a _, finite t b _ =>
    let total := signed s a + signed t b
    if total = 0 then signedZero (s && t) else round (decide (total < 0)) total.natAbs 1

def sub (a b : Floating f) : Floating f := a.add b.neg

def mul : Floating f → Floating f → Floating f
  | nan, _ => nan
  | _, nan => nan
  | infinity s, infinity t => infinity (s ^^ t)
  | infinity s, finite t b _ => if b = 0 then nan else infinity (s ^^ t)
  | finite s a _, infinity t => if a = 0 then nan else infinity (s ^^ t)
  | finite s a _, finite t b _ => round (s ^^ t) (a * b) (Nat.pow 2 f.scale)

def div : Floating f → Floating f → Floating f
  | nan, _ => nan
  | _, nan => nan
  | infinity _, infinity _ => nan
  | infinity s, finite t _ _ => infinity (s ^^ t)
  | finite s _ _, infinity t => signedZero (s ^^ t)
  | finite s a _, finite t b _ =>
    if b = 0 then (if a = 0 then nan else infinity (s ^^ t))
    else round (s ^^ t) (a * Nat.pow 2 f.scale) b

/-! ### Interchange encoding -/

/-- The number stored in the bits: sign, exponent, fraction from the most significant bit on. -/
def ofBits (bits : Nat) : Floating f :=
  let fractionLimit := Nat.pow 2 (f.precision - 1)
  let exponentLimit := Nat.pow 2 f.exponentBits
  let fraction := bits % fractionLimit
  let exponent := bits / fractionLimit % exponentLimit
  let negative := bits / (fractionLimit * exponentLimit) % 2 == 1
  if exponent + 1 = exponentLimit then
    (if fraction = 0 then infinity negative else nan)
  else if exponent = 0 then ofUnits negative fraction
  else ofUnits negative ((fractionLimit + fraction) * Nat.pow 2 (exponent - 1))

/-- The stored bits; not-a-number has no bits of its own. -/
def toBits? (x : Floating f) : Option Nat :=
  let fractionLimit := Nat.pow 2 (f.precision - 1)
  let signBit (negative : Bool) :=
    if negative then fractionLimit * Nat.pow 2 f.exponentBits else 0
  match x with
  | nan => none
  | infinity negative =>
    some (signBit negative + (Nat.pow 2 f.exponentBits - 1) * fractionLimit)
  | finite negative units _ =>
    let exponent := f.spacing units
    some (signBit negative + (exponent * fractionLimit + units / Nat.pow 2 exponent))

def width (f : Format) : Nat := f.precision + f.exponentBits

end Floating

abbrev Half := Floating .half

abbrev Single := Floating .single

abbrev Double := Floating .double

end TensorGraph.Numeric
