/-!
# Binary floating-point formats

A format is fixed by its precision and the width of its exponent field. Every finite value of a
format is a whole multiple of its least positive value, so a magnitude is a natural number of
such *units*, and the representable magnitudes are the numbers of units with at most `precision`
significant bits that do not exceed `largest`.
-/

namespace TensorGraph.Numeric

/-- A binary floating-point format. -/
structure Format where
  /-- Significant bits, counting the leading one that is not stored. -/
  precision : Nat
  /-- Width of the stored exponent. -/
  exponentBits : Nat
deriving DecidableEq

namespace Format

/-- Sixteen bits: 11 significant, 5 for the exponent. -/
def half : Format := ⟨11, 5⟩

/-- Thirty-two bits: 24 significant, 8 for the exponent. -/
def single : Format := ⟨24, 8⟩

/-- Sixty-four bits: 53 significant, 11 for the exponent. -/
def double : Format := ⟨53, 11⟩

/-- The number one is `2 ^ scale` units. -/
def scale (f : Format) : Nat := Nat.pow 2 (f.exponentBits - 1) + f.precision - 3

/-- The largest finite magnitude, in units. -/
def largest (f : Format) : Nat :=
  (Nat.pow 2 f.precision - 1) * Nat.pow 2 (Nat.pow 2 f.exponentBits - 3)

/-- Representable magnitudes around this one are the multiples of `2 ^ spacing` units. -/
def spacing (f : Format) (units : Nat) : Nat := units.log2 + 1 - f.precision

def Fits (f : Format) (units : Nat) : Prop :=
  units ≤ f.largest ∧ Nat.pow 2 (f.spacing units) ∣ units

instance (f : Format) (units : Nat) : Decidable (f.Fits units) :=
  inferInstanceAs (Decidable (_ ∧ _))

end Format

/-- The whole number nearest to `numerator / denominator`, an exact half going to the even
neighbour. -/
def roundHalfEven (numerator denominator : Nat) : Nat :=
  let quotient := numerator / denominator
  let remainder := numerator % denominator
  if 2 * remainder < denominator then quotient
  else if denominator < 2 * remainder then quotient + 1
  else quotient + quotient % 2

end TensorGraph.Numeric
