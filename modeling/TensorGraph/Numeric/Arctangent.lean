import TensorGraph.Numeric.Floating

/-!
# The angle of a point

`arctan2 y x` is the angle of the point `(x, y)` with the positive horizontal axis, rounded to
nearest. Angles of points off the axes are irrational, so no rounding tie can occur: the angle is
enclosed between two multiples of `2 ^ -precision`, and the precision grows until both ends round
to the same number. On the axes and at infinity the angle is one of a few fixed ones, with the
sign of `y`.
-/

namespace TensorGraph.Numeric

/-- Two ends, in multiples of `2 ^ -precision`, that enclose a positive real number. -/
structure Enclosure where
  low : Nat
  high : Nat

namespace Enclosure

def scale (factor : Nat) (a : Enclosure) : Enclosure := ⟨factor * a.low, factor * a.high⟩

/-- A quarter or half of the enclosed number, and other parts of it. -/
def part (divisor : Nat) (a : Enclosure) : Enclosure := ⟨a.low / divisor, a.high / divisor + 1⟩

def add (a b : Enclosure) : Enclosure := ⟨a.low + b.low, a.high + b.high⟩

/-- The difference, of which the enclosed numbers are known to make it positive. -/
def sub (a b : Enclosure) : Enclosure := ⟨a.low - b.high, a.high - b.low⟩

end Enclosure

/-- The terms of the arctangent series from `power / index` on, of alternating sign, as the sum of
the terms added and the sum of those taken away. Each following power is smaller by the factor
`square / one`. -/
def arctanTerms (one square : Nat) : Nat → Nat → Nat → Nat × Nat
  | 0, _, _ => (0, 0)
  | fuel + 1, power, index =>
    if power = 0 then (0, 0)
    else
      let rest := arctanTerms one square fuel (power * square / one) (index + 2)
      (power / index + rest.2, rest.1)

/-- Bits kept beyond the wanted ones while the series is summed; the rounding errors of all its
terms together stay below one wanted unit. -/
def guardBits : Nat := 32

/-- The arctangent of `numerator / denominator`, which is at most one half, from its series. -/
def arctanSmall (precision numerator denominator : Nat) : Enclosure :=
  let one := Nat.pow 2 (precision + guardBits)
  let argument := numerator * one / denominator
  let sums := arctanTerms one (argument * argument / one) (precision + guardBits) argument 1
  let value := (sums.1 - sums.2) / Nat.pow 2 guardBits
  ⟨value - 1, value + 2⟩

/-- The arctangent of `numerator / denominator`, which is at most one. Above one half the
arctangent of one half is split off. -/
def arctanUnit (precision numerator denominator : Nat) : Enclosure :=
  if 2 * numerator ≤ denominator then arctanSmall precision numerator denominator
  else (arctanSmall precision 1 2).add
    (arctanSmall precision (2 * numerator - denominator) (2 * denominator + numerator))

/-- Half a turn: `16 arctan (1 / 5) - 4 arctan (1 / 239)`. -/
def halfTurn (precision : Nat) : Enclosure :=
  ((arctanSmall precision 1 5).scale 16).sub ((arctanSmall precision 1 239).scale 4)

def quadrantAngle (precision y x : Nat) : Enclosure :=
  if y ≤ x then arctanUnit precision y x
  else ((halfTurn precision).part 2).sub (arctanUnit precision x y)

/-- The angle of the point at height `y` and distance `x` from the vertical axis, to the left of
it when `left` is set. -/
def upperAngle (precision : Nat) (left : Bool) (y x : Nat) : Enclosure :=
  if left then (halfTurn precision).sub (quadrantAngle precision y x)
  else quadrantAngle precision y x

namespace Floating

variable {f : Format}

/-- Round an enclosed number: with every step the precision doubles, until both ends agree. -/
def roundEnclosed (negative : Bool) (enclosure : Nat → Enclosure) : Nat → Nat → Floating f
  | 0, precision =>
    round negative ((enclosure precision).low * Nat.pow 2 f.scale) (Nat.pow 2 precision)
  | steps + 1, precision =>
    let ends := enclosure precision
    let low : Floating f := round negative (ends.low * Nat.pow 2 f.scale) (Nat.pow 2 precision)
    let high : Floating f := round negative (ends.high * Nat.pow 2 f.scale) (Nat.pow 2 precision)
    if low = high then low else roundEnclosed negative enclosure steps (2 * precision)

/-- The number nearest to an enclosed angle. The precision starts at 128 bits and may double ten
times. -/
def ofAngle (negative : Bool) (enclosure : Nat → Enclosure) : Floating f :=
  roundEnclosed negative enclosure 10 128

/-- The given number of eighths of a full turn. -/
def eighths (negative : Bool) (count : Nat) : Floating f :=
  ofAngle negative fun precision => ((halfTurn precision).scale count).part 4

/-- The angle of the point `(x, y)`. -/
def arctan2 (y x : Floating f) : Floating f :=
  match y, x with
  | nan, _ => nan
  | _, nan => nan
  | infinity s, infinity left => eighths s (if left then 3 else 1)
  | infinity s, finite _ _ _ => eighths s 2
  | finite s _ _, infinity left => if left then eighths s 4 else signedZero s
  | finite s b _, finite left a _ =>
    if b = 0 then (if left then eighths s 4 else signedZero s)
    else if a = 0 then eighths s 2
    else ofAngle s fun precision => upperAngle precision left b a

end Floating

end TensorGraph.Numeric
