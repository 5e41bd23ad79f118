/-!
# Shapes and positions

A shape lists the extents of a tensor, outermost axis first. Values are stored in row-major order:
`offset` sends the position with the given index on each axis to its place in the store, and
`index` finds the position again. Sizes are 64-bit words; the operations of `Size` fail where a
word would overflow.

Powers are taken with `Nat.pow` and `Int.pow` by name. Which instance `^` stands for depends on what
is imported, and the sizes below are meant to be the same terms everywhere.
-/

namespace TensorGraph

namespace Size

/-- Sizes are smaller than this. -/
def limit : Nat := Nat.pow 2 64

/-- A number, if it is a size. -/
def ofNat? (n : Nat) : Option Nat := if n < limit then some n else none

def add? (a b : Nat) : Option Nat := ofNat? (a + b)

/-- The product, if it is a size. -/
def mul? (a b : Nat) : Option Nat := ofNat? (a * b)

/-- The difference, if it is not negative. -/
def sub? (a b : Nat) : Option Nat := if b ≤ a then some (a - b) else none

end Size

namespace Distance

/-- A number, if it is a signed 64-bit word. -/
def ofInt? (n : Int) : Option Int :=
  if -Int.pow 2 63 ≤ n ∧ n < Int.pow 2 63 then some n else none

/-- A size read as a signed word: sizes from `2 ^ 63` on come out negative. -/
def ofSize (n : Nat) : Int := Int.bmod n Size.limit

def add? (a b : Int) : Option Int := ofInt? (a + b)

/-- The difference, if it is a signed word. -/
def sub? (a b : Int) : Option Int := ofInt? (a - b)

end Distance

/-- The extents of a tensor, outermost axis first. -/
abbrev Shape := List Nat

namespace Shape

def positions : Shape → Nat
  | [] => 1
  | d :: s => d * positions s

/-- The number of positions as a size. The product is taken from the outermost axis on, and every
partial product has to be a size, even if a later extent is zero. -/
def count? (s : Shape) : Option Nat := s.foldlM Size.mul? 1

/-- Whether values of this shape can be addressed: the extents other than zero have a product
below `2 ^ 63`. -/
def Addressable (s : Shape) : Prop := positions (s.filter (· ≠ 0)) < Nat.pow 2 63

instance (s : Shape) : Decidable s.Addressable := inferInstanceAs (Decidable (_ < _))

/-- The place of a position in row-major order. -/
def offset : Shape → List Nat → Nat
  | _ :: s, i :: is => i * positions s + offset s is
  | _, _ => 0

/-- The position at a place in row-major order. -/
def index : Shape → Nat → List Nat
  | [], _ => []
  | _ :: s, k => k / positions s :: index s (k % positions s)

def indices (s : Shape) : List (List Nat) := (List.range (positions s)).map s.index

/-- Whether there is an index below the extent on every axis, and no other. -/
def Contains : Shape → List Nat → Prop
  | [], [] => True
  | d :: s, i :: is => i < d ∧ Contains s is
  | _, _ => False

instance Contains.decidable : (s : Shape) → (is : List Nat) → Decidable (s.Contains is)
  | [], [] => isTrue trivial
  | _ :: s, _ :: is =>
    have := Contains.decidable s is
    inferInstanceAs (Decidable (_ ∧ _))
  | [], _ :: _ => isFalse id
  | _ :: _, [] => isFalse id

end Shape

end TensorGraph
