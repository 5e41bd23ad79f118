import TensorGraph.Numeric.Floating

/-!
# Shortest decimal text

A finite number is written with the fewest decimal digits that read back to it in its format, and
among those with the digits nearest to it. It is always written out positionally, without an
exponent.

The reals that round to a number form an interval around it, which contains its ends when the
number is an even multiple of its spacing. A decimal grid `10 ^ k` with a point in that interval
also has one of the number's two neighbours on the grid in it, so trying those two on ever finer
grids finds the shortest text.
-/

namespace TensorGraph.Numeric

/-- The reals that round to one number: all of them, and the number itself, are in multiples of
`1 / denominator`. -/
structure RoundingInterval where
  low : Nat
  value : Nat
  high : Nat
  denominator : Nat
  /-- Whether the ends round to the number too. -/
  closed : Bool

/-- Whether the interval contains `numerator / denominator` of another scale. -/
def RoundingInterval.contains (r : RoundingInterval) (numerator denominator : Nat) : Bool :=
  let point := numerator * r.denominator
  if r.closed then r.low * denominator ≤ point && point ≤ r.high * denominator
  else r.low * denominator < point && point < r.high * denominator

def tenPower (k : Int) : Nat × Nat :=
  if 0 ≤ k then (Nat.pow 10 k.toNat, 1) else (1, Nat.pow 10 (-k).toNat)

/-- The multiple of `10 ^ k` in the interval that is nearest to its number, if there is one; of two
equally near ones the upper one. -/
def RoundingInterval.onGrid? (r : RoundingInterval) (k : Int) : Option Nat :=
  let (num, den) := tenPower k
  let below := r.value * den / (r.denominator * num)
  let above := below + 1
  match r.contains (below * num) den, r.contains (above * num) den with
  | false, false => none
  | true, false => some below
  | false, true => some above
  | true, true =>
    let twice := 2 * r.value * den
    if twice < (below + above) * r.denominator * num then some below else some above

/-- Digits and exponent of the coarsest grid with a point in the interval, from `10 ^ k` down. -/
def RoundingInterval.shortest (r : RoundingInterval) : Nat → Int → Nat × Int
  | 0, k => (r.value * (tenPower k).2 / (r.denominator * (tenPower k).1), k)
  | fuel + 1, k =>
    match r.onGrid? k with
    | some digits => (digits, k)
    | none => r.shortest fuel (k - 1)

/-- A decimal number `digits * 10 ^ exponent` in positional notation. -/
def positional (digits : Nat) (exponent : Int) : String :=
  let text := (toString digits).toList
  if 0 ≤ exponent then String.ofList (text ++ List.replicate exponent.toNat '0')
  else
    let places := (-exponent).toNat
    if places < text.length then
      String.ofList (text.take (text.length - places) ++ '.' :: text.drop (text.length - places))
    else String.ofList ('0' :: '.' :: List.replicate (places - text.length) '0' ++ text)

namespace Floating

variable {f : Format}

/-- The interval of a positive magnitude. Below a power of two the next number is only half as far
away as above it. -/
def roundingInterval (f : Format) (units : Nat) : RoundingInterval :=
  let spacing := f.spacing units
  let below :=
    if units = Nat.pow 2 units.log2 ∧ 0 < spacing then Nat.pow 2 (spacing - 1)
    else Nat.pow 2 spacing
  { low := 4 * units - 2 * below
    value := 4 * units
    high := 4 * units + 2 * Nat.pow 2 spacing
    denominator := 4 * Nat.pow 2 f.scale
    closed := units / Nat.pow 2 spacing % 2 == 0 }

/-- The shortest decimal text that reads back to the number in its format. -/
def text : Floating f → String
  | nan => "NaN"
  | infinity negative => if negative then "-inf" else "inf"
  | finite negative units _ =>
    let sign := if negative then "-" else ""
    if units = 0 then sign ++ "0"
    else
      let interval := roundingInterval f units
      let integerDigits := (Nat.toDigits 10 (interval.high / interval.denominator)).length
      let (digits, exponent) := interval.shortest (integerDigits + f.scale + 2) integerDigits
      sign ++ positional digits exponent

end Floating

end TensorGraph.Numeric
