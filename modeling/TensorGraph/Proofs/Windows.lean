import Mathlib.Data.List.Intervals
import Mathlib.Data.List.ProdSigma
import TensorGraph.Proofs.Axes

/-!
# Pooling windows lie in the input

The output positions of a pooling operator are counted when its shape is inferred, its windows are
cut out when it is evaluated, with signed words. The count is right: the window at every counted
position begins before the input ends and ends after the input begins, so what is left of it after
cutting is never empty, and is just what of the window lies in the input
(`Kernel.windowSpan_covered`). As long as input and window together are shorter than `2 ^ 63`, none
of the words overflows on the way.
-/

namespace TensorGraph

/-! ## Axes with output positions -/

section Axes

variable {padding : Padding} {input kernel stride : Nat}

/-- What is known of an axis with output positions: where the last window begins, and that half of
what it lacks is padded in front. -/
structure PaddedAxis.Counts (axis : PaddedAxis) (input kernel stride : Nat) : Prop where
  input_eq : axis.input = input
  nonempty : 0 < kernel
  lastStart : (axis.output - 1) * stride < input
  before_eq : axis.before = ((axis.output - 1) * stride + kernel - input) / 2

/-- What is known of an axis: its extents and how half of what the windows lack is padded in
front. -/
theorem Padding.axis_of_ok {axis : PaddedAxis} (h : padding.axis input kernel 1 stride = .ok axis) :
    0 < stride ∧ 0 < kernel ∧ axis.input = input ∧
      padding.outputExtent input kernel stride = .ok axis.output ∧ (0 < axis.output →
        axis.before = ((axis.output - 1) * stride + kernel - input) / 2) := by
  obtain ⟨⟨positive, nonempty, -⟩, output, extent, -, rfl⟩ := (axis_eq_ok_iff rfl).mp h
  rw [Nat.mul_one, Nat.sub_add_cancel nonempty] at extent ⊢
  refine ⟨positive, nonempty, rfl, extent, fun some => ?_⟩
  exact congrArg (· / 2) (if_neg (Nat.ne_of_gt some))

theorem Padding.axis_counts {axis : PaddedAxis}
    (h : padding.axis input kernel 1 stride = .ok axis) (counted : 0 < axis.output) :
    axis.Counts input kernel stride := by
  obtain ⟨positive, nonempty, same, extent, before⟩ := axis_of_ok h
  exact ⟨same, nonempty, lastStart_lt extent positive nonempty counted, before counted⟩

end Axes

/-! ## Windows -/

/-- The indices of the input axis that the window at an output position covers, in order. -/
def PaddedAxis.covered (axis : PaddedAxis) (kernel stride position : Nat) : List Nat :=
  (List.range axis.input).filter fun i =>
    ((position * stride : Nat) : Int) - axis.before ≤ i ∧
      (i : Int) < ((position * stride : Nat) : Int) - axis.before + kernel

/-- The input positions that the window at an output position covers, row by row. -/
def PoolGeometry.covered (g : PoolGeometry) (rows columns : PaddedAxis) (oy ox : Nat) :
    List (Nat × Nat) :=
  (rows.covered g.kernel.height g.strides.height oy).product
    (columns.covered g.kernel.width g.strides.width ox)

/-- The indices between two bounds, picked out of all. -/
theorem filter_range_eq_range' {n : Nat} {p : Nat → Bool} (first last : Nat) (inside : last ≤ n)
    (between : ∀ i < n, p i = true ↔ first ≤ i ∧ i < last) :
    (List.range n).filter p = List.range' first (last - first) := by
  calc (List.range n).filter p
      = ((List.Ico 0 n).filter fun i => i < last).filter fun i => first ≤ i := by
        rw [List.filter_filter, List.Ico.zero_bot]
        refine List.filter_congr fun i mem => ?_
        rw [Bool.eq_iff_iff, between i (List.mem_range.mp mem)]
        simp
    _ = List.Ico first last := by
        rw [List.Ico.filter_lt, List.Ico.filter_le, Nat.zero_max, Nat.min_eq_right inside]
    _ = List.range' first (last - first) := rfl

namespace Kernel

/-- The window at every output position covers something of the input, and no word overflows. -/
theorem windowSpan_inside {axis : PaddedAxis} {input kernel stride position : Nat}
    (counts : axis.Counts input kernel stride) (short : input + kernel < 2 ^ 63)
    (inside : position < axis.output) :
    ∃ first last, windowSpan axis kernel stride position = .ok (first, last) ∧ first < last ∧
      axis.covered kernel stride position = List.range' first (last - first) := by
  obtain ⟨rfl, nonempty, lastStart, before⟩ := counts
  -- an earlier position begins earlier
  have earlier : position * stride ≤ (axis.output - 1) * stride :=
    Nat.mul_le_mul_right stride (by omega)
  unfold PaddedAxis.covered
  -- from here on all arithmetic is linear in the place where the window begins
  generalize shifted : position * stride = shift at earlier ⊢
  have first : Distance.sub? (Distance.ofSize shift) (Distance.ofSize axis.before) =
      some (shift - axis.before : Int) := by
    rw [Distance.ofSize_of_lt (by omega), Distance.ofSize_of_lt (by omega)]
    exact Distance.ofInt?_eq_some.mpr ⟨by omega, rfl⟩
  have last : Distance.add? (shift - axis.before : Int) (Distance.ofSize kernel) =
      some (shift - axis.before + kernel : Int) := by
    rw [Distance.ofSize_of_lt (by omega)]
    exact Distance.ofInt?_eq_some.mpr ⟨by omega, rfl⟩
  have product : Size.mul? position stride = some shift :=
    Size.ofNat?_eq_some.mpr ⟨by omega, shifted⟩
  refine ⟨(shift - axis.before : Int).toNat,
    max (min (shift - axis.before + kernel : Int) axis.input).toNat
      (shift - axis.before : Int).toNat, ?_, by omega, ?_⟩
  · simp only [windowSpan, bind_eq_ok, checked_eq_ok]
    refine ⟨shift, product, _, first, _, last, ?_⟩
    rw [Distance.ofSize_of_lt (n := axis.input) (by omega), if_pos (by omega)]
    rfl
  · apply filter_range_eq_range' _ _ (by omega)
    intro i below
    rw [decide_eq_true_eq]
    omega

/-- A row or column of output positions has a window at every position. -/
theorem windowSpan_covered {padding : Padding} {axis : PaddedAxis}
    {input kernel stride position : Nat} (h : padding.axis input kernel 1 stride = .ok axis)
    (short : input + kernel < 2 ^ 63) (inside : position < axis.output) :
    ∃ first last, windowSpan axis kernel stride position = .ok (first, last) ∧ first < last ∧
      axis.covered kernel stride position = List.range' first (last - first) :=
  windowSpan_inside (Padding.axis_counts h (by omega)) short inside

end Kernel

/-- Extents of the input's rows and columns, and of the windows on them, are below a limit. -/
structure PoolGeometry.Below (g : PoolGeometry) (limit : Nat) (input : Shape) : Prop where
  inputRows : input.getD 1 0 < limit
  inputColumns : input.getD 2 0 < limit
  windowRows : g.kernel.height < limit
  windowColumns : g.kernel.width < limit

instance (g : PoolGeometry) (limit : Nat) (input : Shape) : Decidable (g.Below limit input) :=
  decidable_of_iff (_ ∧ _ ∧ _ ∧ _) ⟨fun ⟨a, b, c, d⟩ => ⟨a, b, c, d⟩,
    fun ⟨a, b, c, d⟩ => ⟨a, b, c, d⟩⟩

/-- A window may begin at the end of the input's rows or columns, and still ends at a signed
word. -/
structure PoolGeometry.Counted (g : PoolGeometry) (input : Shape) : Prop where
  rows : input.getD 1 0 + g.kernel.height < 2 ^ 63
  columns : input.getD 2 0 + g.kernel.width < 2 ^ 63

/-- Below the limit no signed word overflows. -/
theorem PoolGeometry.Below.counted {g : PoolGeometry} {input : Shape}
    (below : g.Below (2 ^ 62) input) : g.Counted input := by
  obtain ⟨inputRows, inputColumns, windowRows, windowColumns⟩ := below
  exact ⟨by omega, by omega⟩

theorem PoolGeometry.axes_eq_ok {g : PoolGeometry} {input : Shape} {rows columns : PaddedAxis}
    (h : g.axes input = .ok (rows, columns)) :
    g.padding.axis (input.getD 1 0) g.kernel.height 1 g.strides.height = .ok rows ∧
      g.padding.axis (input.getD 2 0) g.kernel.width 1 g.strides.width = .ok columns := by
  unfold PoolGeometry.axes at h
  split at h
  · simp only [bind_eq_ok, pure_eq_ok, Prod.mk.injEq] at h
    obtain ⟨_, found, _, found', rfl, rfl⟩ := h
    exact ⟨found, found'⟩
  · simp at h

namespace Kernel

variable {α : Type} {g : PoolGeometry}

/-- No window at a counted position is empty. -/
theorem windowAt_succeeds {rows columns : PaddedAxis} {input : Shape}
    (h : g.axes input = .ok (rows, columns)) (counted : g.Counted input) {oy ox : Nat}
    (row : oy < rows.output) (column : ox < columns.output) (channels : Nat) :
    ∃ window, windowAt g rows columns channels oy ox = .ok window ∧
      window.positions = g.covered rows columns oy ox ∧ g.covered rows columns oy ox ≠ [] := by
  obtain ⟨rowAxis, columnAxis⟩ := PoolGeometry.axes_eq_ok h
  obtain ⟨first, last, y, someRow, rowsCovered⟩ := windowSpan_covered rowAxis counted.rows row
  obtain ⟨first', last', x, someColumn, columnsCovered⟩ :=
    windowSpan_covered columnAxis counted.columns column
  -- a window is empty only if its rows or its columns are
  have nonempty : Window.isEmpty ⟨(first, last), (first', last')⟩ = false := by
    simp [Window.isEmpty, Nat.ne_of_lt someRow, Nat.ne_of_lt someColumn]
  have corner : (first, first') ∈ g.covered rows columns oy ox := by
    rw [PoolGeometry.covered, rowsCovered, columnsCovered, List.pair_mem_product, List.mem_range',
      List.mem_range']
    exact ⟨⟨0, by omega, rfl⟩, 0, by omega, rfl⟩
  refine ⟨⟨(first, last), (first', last')⟩, by simp [windowAt, y, x, nonempty], ?_,
    List.ne_nil_of_mem corner⟩
  rw [PoolGeometry.covered, rowsCovered, columnsCovered]
  rfl

/-- If no word overflows, all windows can be cut out and none is empty. -/
theorem checkWindows_succeeds {rows columns : PaddedAxis} {input : Shape}
    (h : g.axes input = .ok (rows, columns)) (counted : g.Counted input)
    (batches channels : Nat) : checkWindows g rows columns batches channels = .ok () := by
  obtain ⟨rowAxis, -⟩ := PoolGeometry.axes_eq_ok h
  unfold checkWindows
  split
  · rfl
  · rw [List.forM_eq_forM, forM_eq_ok]
    intro oy row
    rw [List.mem_range] at row
    obtain ⟨first, last, y, -⟩ := windowSpan_covered rowAxis counted.rows row
    simp only [y, bind_eq_ok, Except.ok.injEq, exists_eq_left', forM_eq_ok]
    intro ox column
    obtain ⟨window, found, -⟩ :=
      windowAt_succeeds h counted row (List.mem_range.mp column) channels
    exact ⟨window, found, rfl⟩

/-- Pooling into an output of the inferred shape succeeds. -/
theorem poolInto_succeeds {reduce : List α → α} {input output : Grid α}
    (h : g.outputShape input.shape = .ok output.shape) (counted : g.Counted input.shape) :
    (poolInto reduce g input output).1 = .ok () := by
  have inferred := h
  simp only [PoolGeometry.outputShape, bind_eq_ok] at inferred
  obtain ⟨⟨rows, columns⟩, axes, -⟩ := inferred
  rw [poolInto, outputAxes_eq_ok.mpr ⟨axes, h⟩]
  exact checkWindows_succeeds axes counted _ _

end Kernel

end TensorGraph
