import Mathlib.Order.Bounds.Basic
import TensorGraph.Proofs.Overwriting

/-!
# First extrema

Elements other than not-a-number are ordered as integers are (`ElementType.less_eq_rank`), so one
value is better than another if it comes earlier, or later, among the integers. Going through the
values of a lane, the kernel keeps the first of the best values so far (`Kernel.First.step`), and so
it finds the first of all (`Kernel.first_of_firstExtremum`). The lanes are numbered by the positions
of the shape without the axis, and the index found in a lane is stored at the lane's position
(`Kernel.argExtremum_finds`).
-/

namespace TensorGraph

/-! ## The order of elements -/

theorem Numeric.Floating.less_eq_order {f : Format} {x y : Floating f} (h : x.isNaN = false)
    (h' : y.isNaN = false) : x.less y = decide (x.order.getD 0 < y.order.getD 0) := by
  cases x <;> cases y <;> first | cases h; done | cases h'; done | rfl

namespace ElementType

/-- The place of an element among the integers, in the order of its type. -/
def rank : (type : ElementType) → type.Element → Int
  | bool, x => x.toNat
  | u8, x => x.toNat
  | i8, x => x.toInt
  | i32, x => x.toInt
  | i64, x => x.toInt
  | f16, x => x.order.getD 0
  | f32, x => x.order.getD 0
  | f64, x => x.order.getD 0

/-- The element is a number, or a truth value: it is not not-a-number. -/
def Ordered (type : ElementType) (x : type.Element) : Prop :=
  ∀ arithmetic ∈ type.floatLike?, arithmetic.isNaN x = false

instance (type : ElementType) (x : type.Element) : Decidable (type.Ordered x) :=
  inferInstanceAs (Decidable (∀ arithmetic ∈ type.floatLike?, arithmetic.isNaN x = false))

/-- Elements other than not-a-number are ordered as their places are. -/
theorem less_eq_rank {type : ElementType} {x y : type.Element} (h : type.Ordered x)
    (h' : type.Ordered y) : type.less x y = decide (type.rank x < type.rank y) := by
  cases type
  case bool => cases x <;> cases y <;> rfl
  case u8 => exact decide_eq_decide.mpr (UInt8.lt_iff_toNat_lt.trans Int.ofNat_lt.symm)
  case i8 => exact decide_eq_decide.mpr Int8.lt_iff_toInt_lt
  case i32 => exact decide_eq_decide.mpr Int32.lt_iff_toInt_lt
  case i64 => exact decide_eq_decide.mpr Int64.lt_iff_toInt_lt
  case f16 => exact Numeric.Floating.less_eq_order (h _ rfl) (h' _ rfl)
  case f32 => exact Numeric.Floating.less_eq_order (h _ rfl) (h' _ rfl)
  case f64 => exact Numeric.Floating.less_eq_order (h _ rfl) (h' _ rfl)

/-- The same place, counted from the other end if large elements are the better ones. -/
def key (type : ElementType) (largest : Bool) (x : type.Element) : Int :=
  if largest then -type.rank x else type.rank x

/-- Either direction of the search is one for the least key. -/
theorem better_eq_key {type : ElementType} {x y : type.Element} (largest : Bool)
    (h : type.Ordered x) (h' : type.Ordered y) :
    (if largest then type.less y x else type.less x y) =
      decide (type.key largest x < type.key largest y) := by
  cases largest
  · simp [key, less_eq_rank h h']
  · simp [key, less_eq_rank h' h]

end ElementType

namespace Kernel

/-! ## One lane -/

section Lane

variable {α : Type} {better : α → α → Bool} {key : α → Int} {seen values : List α} {found : Nat}
  {best : α}

/-- The value at the index is the first of those with the least key. -/
structure First (key : α → Int) (values : List α) (found : Nat) (best : α) : Prop where
  here : values[found]? = some best
  least : ∀ x ∈ values, key best ≤ key x
  earlier : ∀ i < found, ∀ x, values[i]? = some x → key best < key x

/-- One more value is the first of the best ones only if it is better than the best one so far. -/
theorem First.step (h : First key seen found best) (x : α) :
    if key x < key best then First key (seen ++ [x]) seen.length x
    else First key (seen ++ [x]) found best := by
  obtain ⟨inside, -⟩ := List.getElem?_eq_some_iff.mp h.here
  split
  next smaller =>
    refine ⟨by simp, fun y mem => ?_, fun i before y there => ?_⟩
    · rcases List.mem_append.mp mem with mem | mem
      · exact Int.le_trans (Int.le_of_lt smaller) (h.least y mem)
      · rw [List.mem_singleton.mp mem]
    · rw [List.getElem?_append_left before] at there
      exact Int.lt_of_lt_of_le smaller (h.least y (List.mem_of_getElem? there))
  next larger =>
    refine ⟨by rw [List.getElem?_append_left inside, h.here], fun y mem => ?_,
      fun i before y there => ?_⟩
    · rcases List.mem_append.mp mem with mem | mem
      · exact h.least y mem
      · rw [List.mem_singleton.mp mem]
        exact Int.not_lt.mp larger
    · rw [List.getElem?_append_left (Nat.lt_trans before inside)] at there
      exact h.earlier i before y there

/-- Going on through the values, the best one so far is the first of the best. -/
theorem first_of_firstExtremumFrom (h : First key seen found best)
    (compares : ∀ x ∈ seen ++ values, ∀ y ∈ seen ++ values,
      better x y = decide (key x < key y)) :
    ∃ best', First key (seen ++ values)
      (firstExtremumFrom better best found seen.length values) best' := by
  induction values generalizing seen found best with
  | nil => exact ⟨best, by rwa [List.append_nil]⟩
  | cons x values ih =>
      have step := h.step x
      have compared := compares x (by simp) best
        (List.mem_append_left _ (List.mem_of_getElem? h.here))
      rw [List.append_cons] at compares ⊢
      rw [firstExtremumFrom, compared]
      by_cases smaller : key x < key best
      · rw [if_pos smaller] at step
        simpa [smaller] using ih step compares
      · rw [if_neg smaller] at step
        simpa [smaller] using ih step compares

/-- The whole search ends with the first of the best values. -/
theorem first_of_firstExtremum (some : values ≠ [])
    (compares : ∀ x ∈ values, ∀ y ∈ values, better x y = decide (key x < key y)) :
    ∃ best, First key values (firstExtremum better values) best := by
  obtain ⟨x, rest, rfl⟩ := List.exists_cons_of_ne_nil some
  have start : First key [x] 0 x := ⟨rfl, by simp, by simp⟩
  exact first_of_firstExtremumFrom start compares

end Lane

/-! ## All lanes -/

/-- A position without an index on one axis, and an index on that axis. -/
theorem contains_insertIdx {s : Shape} {axis i : Nat} {position : List Nat}
    (inside : Shape.Contains (s.eraseIdx axis) position) (below : i < s.getD axis 0) :
    s.Contains (position.insertIdx axis i) := by
  induction s generalizing axis position with
  | nil => exact absurd below (Nat.not_lt_zero i)
  | cons d s ih =>
      cases axis with
      | zero => exact ⟨below, inside⟩
      | succ axis =>
          match position, inside with
          | j :: js, ⟨first, rest⟩ => exact ⟨first, ih rest below⟩

/-- A lane has a value for every index on the axis. -/
theorem exists_lane {α : Type} {input : Grid α} {axis : Nat} {position : List Nat}
    (nonempty : 0 < input.shape.getD axis 0)
    (inside : Shape.Contains (input.shape.eraseIdx axis) position) :
    ∃ values : Nat → α,
      (∀ i < input.shape.getD axis 0,
        input.get? (position.insertIdx axis i) = some (values i)) ∧
      lane input axis position = (List.range (input.shape.getD axis 0)).map values := by
  obtain ⟨x, -⟩ := Grid.exists_get? (contains_insertIdx inside nonempty)
  have found (i : Nat) (below : i < input.shape.getD axis 0) :
      input.get? (position.insertIdx axis i) =
        some ((input.get? (position.insertIdx axis i)).getD x) := by
    obtain ⟨y, there⟩ := Grid.exists_get? (contains_insertIdx inside below)
    rw [there, Option.getD_some]
  refine ⟨_, found, ?_⟩
  rw [lane, ← List.filterMap_eq_map]
  apply List.filterMap_congr
  intro i listed
  have below := List.mem_range.mp listed
  rw [← Grid.get?_of_contains (contains_insertIdx inside below)]
  exact found i below

/-- The grid holds, for each lane of the input along an axis, the least index such that no value of
the lane is larger, or smaller, than the one at that index. -/
structure HoldsExtrema (type indexType : ElementType) (axis : Nat) (largest : Bool)
    (input : Grid type.Element) (filled : Grid indexType.Element) : Prop where
  shape : filled.shape = input.shape.eraseIdx axis
  found : ∀ position, filled.shape.Contains position →
    ∃ (values : Nat → type.Element) (k : Nat) (index : indexType.Element),
      (∀ i < input.shape.getD axis 0, input.get? (position.insertIdx axis i) = some (values i)) ∧
      IsLeast {k | k < input.shape.getD axis 0 ∧ ∀ i < input.shape.getD axis 0,
        (if largest then type.less (values k) (values i)
          else type.less (values i) (values k)) = false} k ∧
      filled.get? position = some index ∧ indexType.ofIndex? k = some index ∧
      ∀ toInt ∈ indexType.toInt?, toInt index = k

/-- An index is stored as itself. -/
theorem toInt_of_ofIndex? {type : ElementType} {n : Nat} {x : type.Element}
    (found : type.ofIndex? n = some x) : ∀ toInt ∈ type.toInt?, toInt x = n := by
  rintro toInt value
  cases type <;> cases value <;> simp only [ElementType.ofIndex?, Option.ite_none_right_eq_some,
    Option.some.injEq] at found <;> obtain ⟨below, rfl⟩ := found
  case u8 => exact congrArg Int.ofNat (UInt8.toNat_ofNat_of_lt below)
  case i8 => exact Int8.toInt_ofNat_of_lt below
  case i32 => exact Int32.toInt_ofNat_of_lt below
  case i64 => exact Int64.toInt_ofNat_of_lt below

/-- The index that is found is the least one of a value that none is better than. -/
theorem isLeast_firstExtremum {α : Type} (better : α → α → Bool) (key : α → Int)
    {values : Nat → α} {count : Nat} (nonempty : 0 < count)
    (compares : ∀ i < count, ∀ j < count,
      better (values i) (values j) = decide (key (values i) < key (values j))) :
    IsLeast {k | k < count ∧ ∀ i < count, better (values i) (values k) = false}
      (firstExtremum better ((List.range count).map values)) := by
  have listed : (List.range count).map values ≠ [] := by simpa using Nat.ne_of_gt nonempty
  obtain ⟨best, here, least, earlier⟩ := first_of_firstExtremum listed
    (by simpa only [List.forall_mem_map, List.mem_range] using compares)
  generalize firstExtremum better ((List.range count).map values) = k at here earlier ⊢
  simp only [List.getElem?_map, Option.map_eq_some_iff, List.getElem?_eq_some_iff,
    List.length_range, List.getElem_range] at here
  obtain ⟨_, ⟨inside, rfl⟩, rfl⟩ := here
  have value (i : Nat) (below : i < count) :
      ((List.range count).map values)[i]? = some (values i) := by
    rw [List.getElem?_map, List.getElem?_range below, Option.map_some]
  refine ⟨⟨inside, fun i below => ?_⟩, fun i ⟨below, unsurpassed⟩ => ?_⟩
  · rw [compares i below k inside, decide_eq_false_iff_not, Int.not_lt]
    exact least _ (List.mem_of_getElem? (value i below))
  · -- an earlier value has a larger key, so the value at `k` is better than it
    by_contra before
    have larger := earlier i (Nat.lt_of_not_le before) _ (value i below)
    have surpassed := unsurpassed k inside
    rw [compares k inside i below, decide_eq_false_iff_not] at surpassed
    exact surpassed larger

section Extremum

variable {type indexType : ElementType} {axis : Nat} {largest : Bool} {input : Grid type.Element}
  {output : Grid indexType.Element}

/-- Where the kernel succeeds, it has found the first extremum of every lane. -/
theorem argExtremum_finds (ordered : ∀ x ∈ input.values, type.Ordered x)
    (done : (argExtremum type indexType axis largest input output).1 = .ok ()) :
    HoldsExtrema type indexType axis largest input
      (argExtremum type indexType axis largest input output).2 := by
  obtain ⟨⟨-, nonempty, fits⟩, indices⟩ := argExtremum_eq_ok.mp done
  rw [argExtremum_of_ok done]
  refine ⟨fits, fun position inside => ?_⟩
  rw [Grid.shape_fillWhile] at inside
  have place := Shape.offset_lt inside
  rw [← Grid.size_eq] at place
  obtain ⟨index, stored⟩ := Option.isSome_iff_exists.mp (indices _ place)
  obtain ⟨values, found, whole⟩ := exists_lane nonempty (fits ▸ inside)
  -- the index is found in the lane through the position
  have first : extremumIndex type axis largest input (output.shape.offset position) =
      firstExtremum (fun a b => if largest then type.less b a else type.less a b)
        ((List.range (input.shape.getD axis 0)).map values) := by
    rw [extremumIndex, ← whole, ← fits, Shape.index_offset inside]
  have ordered' (i : Nat) (below : i < input.shape.getD axis 0) : type.Ordered (values i) := by
    have there := found i below
    rw [Grid.get?_of_contains (contains_insertIdx (fits ▸ inside) below)] at there
    exact ordered _ (Array.mem_of_getElem? there)
  have compares (i : Nat) (below : i < input.shape.getD axis 0) (j : Nat)
      (below' : j < input.shape.getD axis 0) :=
    ElementType.better_eq_key largest (ordered' i below) (ordered' j below')
  refine ⟨values, _, index, found, ?_, ?_, stored, toInt_of_ofIndex? stored⟩
  · rw [first]
    exact isLeast_firstExtremum _ (type.key largest) nonempty compares
  · apply Grid.get?_fillWhile inside
    · intro value mem
      obtain ⟨place, inside, rfl⟩ := List.mem_map.mp mem
      exact indices place (List.mem_range.mp inside)
    · rw [List.getElem?_map, List.getElem?_range place, Option.map_some, stored]

end Extremum

end Kernel

end TensorGraph
