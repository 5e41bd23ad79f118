import TensorGraph.Proofs.Overwriting
import TensorGraph.Proofs.Windows

/-!
# Pooled values

Pooling reduces, for each position of the output, the values of the input that the window there
covers (`Kernel.poolInto_at`). Without padding that is the whole window; if the input is padded, and
windows are no further apart than they are long, each input position is in one of them. An output
of another shape is refused before anything is written.
-/

namespace TensorGraph

/-! ## Covered indices -/

section Axes

variable {input kernel stride : Nat}

/-- A window covers the indices in its bounds that are indices of the input. -/
theorem PaddedAxis.mem_covered {axis : PaddedAxis} {position i : Nat} :
    i ∈ axis.covered kernel stride position ↔ i < axis.input ∧
      ((position * stride : Nat) : Int) - axis.before ≤ i ∧
      (i : Int) < ((position * stride : Nat) : Int) - axis.before + kernel := by
  rw [covered, List.mem_filter, List.mem_range, decide_eq_true_eq]

/-- Without padding all of each window is covered. -/
theorem PaddedAxis.covered_of_valid {axis : PaddedAxis} {position : Nat}
    (h : Padding.valid.axis input kernel 1 stride = .ok axis) (inside : position < axis.output) :
    axis.covered kernel stride position = List.range' (position * stride) kernel := by
  obtain ⟨positive, -, rfl, extent, before⟩ := Padding.axis_of_ok h
  have stop := Padding.lastStop_le extent positive (by omega)
  have none : axis.before = 0 := by
    rw [before (by omega)]
    omega
  have earlier : position * stride ≤ (axis.output - 1) * stride :=
    Nat.mul_le_mul_right stride (by omega)
  unfold covered
  generalize position * stride = start at earlier ⊢
  rw [filter_range_eq_range' start (start + kernel) (by omega), Nat.add_sub_cancel_left]
  intro i below
  rw [decide_eq_true_eq, none]
  omega

/-- If windows are no further apart than they are long, padding makes them cover every index. -/
theorem PaddedAxis.mem_covered_of_same {axis : PaddedAxis} {i : Nat}
    (h : Padding.same.axis input kernel 1 stride = .ok axis) (close : stride ≤ kernel)
    (inside : i < input) : ∃ position < axis.output, i ∈ axis.covered kernel stride position := by
  obtain ⟨positive, -, rfl, extent, before⟩ := Padding.axis_of_ok h
  have enough := Padding.le_strides extent positive
  have some : 0 < axis.output := by
    apply Nat.pos_of_ne_zero
    intro none
    rw [none] at enough
    omega
  have half := before some
  have last : axis.output * stride = (axis.output - 1) * stride + stride := by
    rw [← Nat.succ_mul, Nat.succ_eq_add_one, Nat.sub_add_cancel some]
  have mem {position : Nat} (start : position * stride ≤ i + axis.before)
      (stop : i + axis.before < position * stride + kernel) :
      i ∈ axis.covered kernel stride position := by
    rw [mem_covered]
    exact ⟨inside, by omega, by omega⟩
  -- the window that begins last before the index, if there is a position for it
  by_cases earlier : (i + axis.before) / stride < axis.output
  · have parts := Nat.div_add_mod' (i + axis.before) stride
    have rest := Nat.mod_lt (i + axis.before) positive
    exact ⟨_, earlier, mem (by omega) (by omega)⟩
  · have begun := (Nat.le_div_iff_mul_le positive).mp (Nat.le_of_not_lt earlier)
    exact ⟨axis.output - 1, by omega, mem (by omega) (by omega)⟩

end Axes

namespace Kernel

variable {α : Type} {g : PoolGeometry} {rows columns : PaddedAxis} {input output : Grid α}

/-! ## Reduced values -/

theorem inputs_of_axes {n h w c : Nat} (axes : g.axes [n, h, w, c] = .ok (rows, columns)) :
    rows.input = h ∧ columns.input = w := by
  obtain ⟨rowAxis, columnAxis⟩ := PoolGeometry.axes_eq_ok axes
  exact ⟨(Padding.axis_of_ok rowAxis).2.2.1, (Padding.axis_of_ok columnAxis).2.2.1⟩

/-- The shape of the output is told by its axes. -/
theorem outputShape_of_axes {n h w c : Nat} (axes : g.axes [n, h, w, c] = .ok (rows, columns)) :
    g.outputShape [n, h, w, c] = .ok [n, rows.output, columns.output, c] := by
  simp [PoolGeometry.outputShape, axes]

/-- Covered positions are positions of the input. -/
theorem lt_of_mem_covered {oy ox y x : Nat} (mem : (y, x) ∈ g.covered rows columns oy ox) :
    y < rows.input ∧ x < columns.input := by
  rw [PoolGeometry.covered, List.pair_mem_product, PaddedAxis.mem_covered,
    PaddedAxis.mem_covered] at mem
  exact ⟨mem.1.1, mem.2.1⟩

/-- No covered position lies outside of the input, so a window has a value for each of them. -/
theorem map_get?_covered {n h w c : Nat} (shape : input.shape = [n, h, w, c])
    (axes : g.axes [n, h, w, c] = .ok (rows, columns)) {window : Window} {b oy ox ch : Nat}
    (positions : window.positions = g.covered rows columns oy ox) (batch : b < n)
    (channel : ch < c) :
    (g.covered rows columns oy ox).map (fun p => input.get? [b, p.1, p.2, ch]) =
      (window.values input b ch).map some := by
  obtain ⟨tall, wide⟩ := inputs_of_axes axes
  have read (y x : Nat) (mem : (y, x) ∈ g.covered rows columns oy ox) :
      input.get? [b, y, x, ch] = input.values[input.shape.offset [b, y, x, ch]]? ∧
        input.values[input.shape.offset [b, y, x, ch]]?.isSome = true := by
    obtain ⟨row, column⟩ := lt_of_mem_covered mem
    have inside : input.shape.Contains [b, y, x, ch] := by
      rw [shape]
      exact ⟨batch, tall ▸ row, wide ▸ column, channel, trivial⟩
    have there := Shape.offset_lt inside
    rw [← Grid.size_eq] at there
    simp [Grid.get?, inside, there]
  rw [Window.values, List.map_filterMap_some_eq_filter_map_isSome, positions,
    List.filter_eq_self.mpr]
  · refine List.map_congr_left ?_
    rintro ⟨y, x⟩ mem
    exact (read y x mem).1
  · intro value mem
    obtain ⟨⟨y, x⟩, covered, rfl⟩ := List.mem_map.mp mem
    exact (read y x covered).2

/-- Each output value is the reduction of the input values that its window covers, row by row. -/
theorem poolInto_at {n h w c : Nat} (shape : input.shape = [n, h, w, c])
    (axes : g.axes [n, h, w, c] = .ok (rows, columns)) (counted : g.Counted [n, h, w, c])
    (inferred : output.shape = [n, rows.output, columns.output, c]) {b oy ox ch : Nat}
    (batch : b < n) (row : oy < rows.output) (column : ox < columns.output) (channel : ch < c) :
    ∃ values : List α,
      (g.covered rows columns oy ox).map (fun p => input.get? [b, p.1, p.2, ch]) =
        values.map some ∧
      ∀ reduce : List α → α,
        (poolInto reduce g input output).2.get? [b, oy, ox, ch] = some (reduce values) := by
  obtain ⟨window, found, positions, -⟩ := windowAt_succeeds axes counted row column c
  refine ⟨_, map_get?_covered shape axes positions batch channel, fun reduce => ?_⟩
  have accepted : outputAxes g input.shape output.shape = .ok (rows, columns) := by
    rw [outputAxes_eq_ok, shape, inferred]
    exact ⟨axes, outputShape_of_axes axes⟩
  have checks :
      checkWindows g rows columns (input.shape.getD 0 0) (input.shape.getD 3 0) = .ok () :=
    checkWindows_succeeds axes counted _ _
  have position : output.shape.Contains [b, oy, ox, ch] := by
    rw [inferred]
    exact ⟨batch, row, column, channel, trivial⟩
  have place := Shape.offset_lt position
  have size := Grid.size_eq output
  rw [poolInto, accepted]
  dsimp only
  -- filling would end at the first place without a value, but all of them have one
  apply Grid.get?_fillWhile position
  · intro value mem
    obtain ⟨place, inside, rfl⟩ := List.mem_map.mp mem
    rw [List.mem_range, size] at inside
    exact reducedAt_isSome accepted checks inside
  · rw [List.getElem?_map, List.getElem?_range (size ▸ place)]
    simp [reducedAt, Shape.index_offset position, shape, found]

/-- An output of another shape is refused. -/
theorem poolInto_refuses {reduce : List α → α} {n h w c : Nat} (shape : input.shape = [n, h, w, c])
    (axes : g.axes [n, h, w, c] = .ok (rows, columns))
    (differs : output.shape ≠ [n, rows.output, columns.output, c]) :
    poolInto reduce g input output = (refuse (KernelFailure.poolingShape output.shape
      [n, rows.output, columns.output, c]), output) := by
  have refused : outputAxes g input.shape output.shape =
      refuse (KernelFailure.poolingShape output.shape [n, rows.output, columns.output, c]) := by
    have expected := outputShape_of_axes axes
    rw [outputAxes, shape, axes, expected]
    show (ensure (output.shape = [n, rows.output, columns.output, c]) _ >>= fun _ => pure _) = _
    rw [ensure, if_neg differs]
    rfl
  rw [poolInto, refused]
  rfl

/-! ## Means and maxima -/

/-- Pooling windows are exact and never empty. Into an output of the inferred shape, means and
maxima are taken of just those values, row by row, that lie in the window and in the input, and
there is always one. Without padding all of the window lies in the input; with padding every value
of the input is in some window, if windows are no further apart than they are long. Outputs of other
shapes are refused and left as they were. -/
theorem pooling_covers [FloatLike α] {n h w c : Nat} (range : ClampRange α)
    (shape : input.shape = [n, h, w, c]) (axes : g.axes [n, h, w, c] = .ok (rows, columns))
    (tall : h + g.kernel.height < 2 ^ 63) (wide : w + g.kernel.width < 2 ^ 63) :
    g.outputShape [n, h, w, c] = .ok [n, rows.output, columns.output, c] ∧
    (∀ output : Grid α, output.shape = [n, rows.output, columns.output, c] →
      (averagePoolInto g range input output).1 = .ok () ∧
      (maxPoolInto g range input output).1 = .ok () ∧
      ∀ b < n, ∀ oy < rows.output, ∀ ox < columns.output, ∀ ch < c,
        g.covered rows columns oy ox ≠ [] ∧ ∃ values : List α,
          (g.covered rows columns oy ox).map (fun p => input.get? [b, p.1, p.2, ch]) =
            values.map some ∧
          (averagePoolInto g range input output).2.get? [b, oy, ox, ch] =
            some (range.clamp (values.foldl (· + ·) 0 /
              FloatLike.ofNat (g.covered rows columns oy ox).length)) ∧
          (maxPoolInto g range input output).2.get? [b, oy, ox, ch] =
            some (range.clamp (values.foldl FloatLike.max FloatLike.lowest))) ∧
    (g.padding = .valid → ∀ oy < rows.output, ∀ ox < columns.output,
      g.covered rows columns oy ox =
        (List.range' (oy * g.strides.height) g.kernel.height).product
          (List.range' (ox * g.strides.width) g.kernel.width)) ∧
    (g.padding = .same → g.strides.height ≤ g.kernel.height → g.strides.width ≤ g.kernel.width →
      ∀ y < h, ∀ x < w, ∃ oy < rows.output, ∃ ox < columns.output,
        (y, x) ∈ g.covered rows columns oy ox) ∧
    ∀ output : Grid α, output.shape ≠ [n, rows.output, columns.output, c] →
      let refused := refuse (KernelFailure.poolingShape output.shape
        [n, rows.output, columns.output, c])
      averagePoolInto g range input output = (refused, output) ∧
        maxPoolInto g range input output = (refused, output) := by
  have counted : g.Counted [n, h, w, c] := ⟨tall, wide⟩
  obtain ⟨rowAxis, columnAxis⟩ := PoolGeometry.axes_eq_ok axes
  refine ⟨outputShape_of_axes axes, fun output inferred => ⟨?_, ?_, ?_⟩, ?_, ?_, ?_⟩
  · exact poolInto_succeeds (by rw [shape, inferred, outputShape_of_axes axes]) (shape ▸ counted)
  · exact poolInto_succeeds (by rw [shape, inferred, outputShape_of_axes axes]) (shape ▸ counted)
  · -- means and maxima are reductions of the values in one window
    intro b batch oy row ox column ch channel
    obtain ⟨window, -, -, some⟩ := windowAt_succeeds axes counted row column c
    obtain ⟨values, read, written⟩ :=
      poolInto_at shape axes counted inferred batch row column channel
    have number : (g.covered rows columns oy ox).length = values.length := by
      simpa using congrArg List.length read
    exact ⟨some, values, read, by rw [number]; exact written _, written _⟩
  · intro valid oy row ox column
    rw [valid] at rowAxis columnAxis
    rw [PoolGeometry.covered, PaddedAxis.covered_of_valid rowAxis row,
      PaddedAxis.covered_of_valid columnAxis column]
  · intro same closeRows closeColumns y tall x wide
    rw [same] at rowAxis columnAxis
    obtain ⟨oy, row, inRow⟩ := PaddedAxis.mem_covered_of_same rowAxis closeRows tall
    obtain ⟨ox, column, inColumn⟩ := PaddedAxis.mem_covered_of_same columnAxis closeColumns wide
    exact ⟨oy, row, ox, column, List.pair_mem_product.mpr ⟨inRow, inColumn⟩⟩
  · intro output differs
    exact ⟨poolInto_refuses shape axes differs, poolInto_refuses shape axes differs⟩

/-- Means of windows of two rows and two columns that go beyond an image of that size: of all four
values, of the right and the lower two, and of the last one. -/
theorem corners_averaged :
    let g : PoolGeometry := ⟨⟨2, 2⟩, ⟨1, 1⟩, .same⟩
    let number (n : Nat) : Numeric.Single := .ofNat n
    let input : Grid Numeric.Single :=
      ⟨[1, 2, 2, 1], #[number 1, number 2, number 3, number 4], by decide⟩
    let output : Grid Numeric.Single :=
      ⟨[1, 2, 2, 1], #[number 0, number 0, number 0, number 0], by decide⟩
    g.axes [1, 2, 2, 1] = .ok (⟨2, 2, 0, 1⟩, ⟨2, 2, 0, 1⟩) ∧ 2 + g.kernel.height < 2 ^ 63 ∧
      (averagePoolInto g .full input output).1 = .ok () ∧
      (averagePoolInto g .full input output).2.values =
        #[number 5 / number 2, number 3, number 7 / number 2, number 4] ∧
      ∀ y < 2, ∀ x < 2, ∃ oy < 2, ∃ ox < 2, (y, x) ∈ g.covered ⟨2, 2, 0, 1⟩ ⟨2, 2, 0, 1⟩ oy ox := by
  intro g number input output
  have axes : PoolGeometry.axes ⟨⟨2, 2⟩, ⟨1, 1⟩, .same⟩ [1, 2, 2, 1] =
      .ok (⟨2, 2, 0, 1⟩, ⟨2, 2, 0, 1⟩) := rfl
  have shape : input.shape = [1, 2, 2, 1] := rfl
  obtain ⟨-, pooled, -, covers, -⟩ := pooling_covers .full shape axes (by decide) (by decide)
  exact ⟨axes, by decide, (pooled output rfl).1, by decide +kernel,
    covers rfl (by decide) (by decide)⟩

end Kernel

end TensorGraph
