import TensorGraph.Proofs.Shapes
import TensorGraph.Proofs.Kernels

/-!
# Weaving into the inferred shape

The shape of a woven output is inferred with checks that no product of extents and blocks is too
large; the kernel calculates places with signed words and casts sizes to them. Batches are what
makes this safe: an image can only be enlarged in blocks if there are that many batches of it, so
enlarged extents are no longer than products of extents of the input, and those are addressable.
-/

namespace TensorGraph.Kernel

variable {α : Type}

/-- Blocks and crops fit the images: batches are divided into blocks without remainder, and if there
are any, enlarged images are larger than their crops and can be counted in signed words. -/
structure Weaving.Fits (w : Weaving) : Prop where
  batches : w.outputBatches * w.rowBlock * w.columnBlock = w.inputBatches
  small : w.inputBatches < 2 ^ 63
  rows : w.inputBatches ≠ 0 →
    w.rowCrop ≤ w.inputRows * w.rowBlock ∧ w.inputRows * w.rowBlock < 2 ^ 63
  columns : w.inputBatches ≠ 0 →
    w.columnCrop ≤ w.inputColumns * w.columnBlock ∧ w.inputColumns * w.columnBlock < 2 ^ 63

/-- A place in an enlarged axis that can be counted is found, or is cropped. -/
theorem Weaving.target_succeeds {index extent block place crop : Nat} (inside : index < extent)
    (below : place < block) (enlarged : crop ≤ extent * block ∧ extent * block < 2 ^ 63)
    (output : Nat) : ∃ found, target index block place crop output = .ok found := by
  have next : (index + 1) * block ≤ extent * block := Nat.mul_le_mul_right block inside
  rw [Nat.add_mul, Nat.one_mul] at next
  generalize extent * block = full at *
  have start : Size.mul? index block = some (index * block) :=
    Size.ofNat?_eq_some.mpr ⟨by omega, rfl⟩
  have uncropped : Size.add? (index * block) place = some (index * block + place) :=
    Size.ofNat?_eq_some.mpr ⟨by omega, rfl⟩
  have moved : Distance.sub? (Distance.ofSize (index * block + place)) (Distance.ofSize crop) =
      some (↑(index * block + place) - crop : Int) := by
    rw [Distance.ofSize_of_lt (by omega), Distance.ofSize_of_lt (by omega)]
    exact Distance.ofInt?_eq_some.mpr ⟨by omega, rfl⟩
  simp only [target, bind_eq_ok, checked_eq_ok, pure_eq_ok]
  exact ⟨_, _, start, _, uncropped, _, moved, rfl⟩

/-- The place in a block that a batch supplies. -/
theorem place_lt {b batches rows columns : Nat} (h : b < batches * rows * columns) :
    b / batches / columns < rows ∧ b / batches % columns < columns := by
  -- without columns there would be no batches
  have positive : 0 < columns := by
    apply Nat.pos_of_ne_zero
    rintro rfl
    omega
  rw [Nat.mul_assoc, Nat.mul_comm] at h
  have place := Nat.div_lt_of_lt_mul (Nat.mul_comm _ batches ▸ h)
  rw [Nat.mul_comm] at place
  exact ⟨Nat.div_lt_of_lt_mul place, Nat.mod_lt _ positive⟩

theorem Weaving.moves_succeed {w : Weaving} (fits : w.Fits) : ∃ moves, w.moves = .ok moves := by
  refine bind_succeeds (mapM_succeeds fun b inside => ?_) fun perBatch _ => ⟨_, rfl⟩
  rw [List.mem_range] at inside
  obtain ⟨rowPlace, columnPlace⟩ := place_lt (fits.batches ▸ inside)
  have some : w.inputBatches ≠ 0 := by omega
  refine bind_succeeds (mapM_succeeds fun y inside => ?_) fun perRow _ => ⟨_, rfl⟩
  refine bind_succeeds (target_succeeds (List.mem_range.mp inside) rowPlace (fits.rows some) _) ?_
  rintro (_ | row) -
  · -- the row is cropped
    exact ⟨[], rfl⟩
  · refine bind_succeeds (mapM_succeeds fun x inside => ?_) fun perColumn _ => ⟨_, rfl⟩
    refine bind_succeeds
      (target_succeeds (List.mem_range.mp inside) columnPlace (fits.columns some) _) ?_
    rintro (_ | column) -
    · exact ⟨[], rfl⟩
    · exact ⟨_, rfl⟩

/-! ## Inferred shapes -/

/-- An extent is enlarged as far as sizes go, and no more is cropped than there is. -/
theorem wovenExtent_eq_ok {axis extent block woven : Nat} {crop : Nat × Nat} :
    Builtin.wovenExtent axis extent block crop = .ok woven ↔ extent * block < 2 ^ 64 ∧
      crop.1 + crop.2 ≤ extent * block ∧ extent * block - (crop.1 + crop.2) = woven := by
  simp only [Builtin.wovenExtent, bind_eq_ok, require_eq_ok, Size.mul?, Size.add?, Size.sub?,
    Option.bind_eq_some_iff, Size.ofNat?_eq_some, Option.ite_none_right_eq_some, Option.some.injEq]
  constructor
  · rintro ⟨_, ⟨small, rfl⟩, _, ⟨-, rfl⟩, cropped, same⟩
    exact ⟨small, cropped, same⟩
  · rintro ⟨small, cropped, same⟩
    exact ⟨_, ⟨small, rfl⟩, _, ⟨by omega, rfl⟩, cropped, same⟩

theorem length_pairs (values : List Int) : (Builtin.pairs values).length = values.length / 2 := by
  induction values using Builtin.pairs.induct with
  | case1 before after rest ih =>
      simp only [Builtin.pairs, List.length_cons, ih]
      omega
  | case2 values short =>
      rcases values with _ | ⟨before, _ | ⟨after, rest⟩⟩
      · rfl
      · simp [Builtin.pairs]
      · exact absurd rfl (short before after rest)

/-- There is one block size and one pair of crops for each axis between batches and channels. -/
theorem lengths_of_parameters {g : Graph} {node : Node} {block : List Nat}
    {crops : List (Nat × Nat)}
    (h : Builtin.batchToSpaceParameters g node = .ok (block, crops)) :
    ∃ a shape, node.inputs[0]? = some a ∧ g.shape a = .ok shape ∧
      (shape.length = 3 ∨ shape.length = 4) ∧ block.length = shape.length - 2 ∧
      crops.length = block.length := by
  simp only [Builtin.batchToSpaceParameters, bind_eq_ok, ensure_eq_ok, pure_eq_ok,
    Node.input_eq_ok, Prod.mk.injEq] at h
  obtain ⟨a, first, shape, found, _, rank, b, _, blocks, _, c, _, values, _, _, count, _, count', _,
    _, _, _, rfl, rfl⟩ := h
  refine ⟨a, shape, first, found, rank, ?_, ?_⟩
  · rw [List.length_map, count]
  · rw [List.length_map, length_pairs]
    omega

/-- An extent that is enlarged by no more than the number of batches can be counted in signed
words. -/
theorem enlarged_lt {shape : Shape} {batches extent block : Nat} (addressable : shape.Addressable)
    (sub : [batches, extent].Sublist shape) (enough : block ≤ batches) (some : batches ≠ 0) :
    extent * block < 2 ^ 63 := by
  by_cases none : extent = 0
  · rw [none, Nat.zero_mul]
    exact Nat.two_pow_pos 63
  · have product := addressable.positions_lt sub (by simp [Ne.symm none, Ne.symm some])
    rw [Shape.positions, Shape.positions, Shape.positions, Nat.mul_one, Nat.mul_comm] at product
    exact Nat.lt_of_le_of_lt (Nat.mul_le_mul_left extent enough) product

/-- In an addressable shape each extent is a signed word. -/
theorem small_of_mem {shape : Shape} {extent : Nat} (addressable : shape.Addressable)
    (inside : extent ∈ shape) : extent < 2 ^ 63 := by
  by_cases none : extent = 0
  · rw [none]
    exact Nat.two_pow_pos 63
  · have product := addressable.positions_lt (List.singleton_sublist.mpr inside)
      (by simp [Ne.symm none])
    rwa [Shape.positions, Shape.positions, Nat.mul_one] at product

/-- An input and its inferred output give a weaving that fits. -/
theorem Weaving.fits_of_shape {input output : Shape} {block : List Nat} {crops : List (Nat × Nat)}
    (h : Builtin.batchToSpaceShape input block crops = .ok output)
    (rank : input.length = 3 ∨ input.length = 4) (blocks : block.length = input.length - 2)
    (pairs : crops.length = block.length) (addressable : input.Addressable) :
    ∃ w, ofShapes? input output block crops = some w ∧ w.Fits ∧ output.length = input.length ∧
      (0 < w.rowBlock ∧ 0 < w.columnBlock) ∧ w.depth = w.outputDepth := by
  obtain ⟨blockSize, batch, extents, product, first, positive, multiple, woven, rfl⟩ :=
    Builtin.batchToSpaceShape_eq_ok.mp h
  match input, block, crops with
  | [b, h, d], [r], [c] =>
    -- one axis is woven, and the other one stands for a single column
    simp only [List.foldlM_cons, List.foldlM_nil, Option.bind_eq_bind, Option.bind_eq_some_iff,
      Size.mul?, Size.ofNat?_eq_some, Nat.one_mul, Option.pure_def, Option.some.injEq] at product
    simp only [Builtin.wovenExtents, List.tail_cons, List.head?_cons, checked_eq_ok, bind_eq_ok,
      pure_eq_ok, wovenExtent_eq_ok, Option.some.injEq, Except.ok.injEq] at woven
    obtain ⟨_, ⟨-, rfl⟩, rfl⟩ := product
    obtain ⟨_, rfl, row, ⟨-, rows, rfl⟩, _, rfl, rfl⟩ := woven
    cases first
    have divided := Nat.div_mul_cancel (Nat.dvd_of_mod_eq_zero multiple)
    have enough (some : batch ≠ 0) : r ≤ batch :=
      Nat.le_of_dvd (Nat.pos_of_ne_zero some) (Nat.dvd_of_mod_eq_zero multiple)
    refine ⟨_, rfl, ⟨?_, ?_, fun some => ⟨?_, ?_⟩, fun _ => ?_⟩, rfl, ?_, rfl⟩
    all_goals dsimp only
    · rw [divided, Nat.mul_one]
    · exact small_of_mem addressable (by simp)
    · omega
    · exact enlarged_lt addressable (by simp) (enough some) some
    · omega
    · omega
  | [b, h, w, d], [r, s], [c, e] =>
    -- the product of both block sizes divides the batches, so each of them is at most their number
    simp only [List.foldlM_cons, List.foldlM_nil, Option.bind_eq_bind, Option.bind_eq_some_iff,
      Size.mul?, Size.ofNat?_eq_some, Nat.one_mul, Option.pure_def, Option.some.injEq] at product
    simp only [Builtin.wovenExtents, List.tail_cons, List.head?_cons, checked_eq_ok, bind_eq_ok,
      pure_eq_ok, wovenExtent_eq_ok, Option.some.injEq, Except.ok.injEq] at woven
    obtain ⟨_, ⟨-, rfl⟩, _, ⟨-, rfl⟩, rfl⟩ := product
    obtain ⟨_, rfl, row, ⟨-, rows, rfl⟩, _, ⟨_, rfl, column, ⟨-, columns, rfl⟩, _, rfl, rfl⟩,
      rfl⟩ := woven
    cases first
    have divided := Nat.div_mul_cancel (Nat.dvd_of_mod_eq_zero multiple)
    have enough (some : batch ≠ 0) : r * s ≤ batch :=
      Nat.le_of_dvd (Nat.pos_of_ne_zero some) (Nat.dvd_of_mod_eq_zero multiple)
    have rowPositive := Nat.pos_of_mul_pos_right (Nat.pos_of_ne_zero positive)
    have columnPositive := Nat.pos_of_mul_pos_left (Nat.pos_of_ne_zero positive)
    refine ⟨_, rfl, ⟨?_, ?_, fun some => ⟨?_, ?_⟩, fun some => ⟨?_, ?_⟩⟩, rfl, ⟨?_, ?_⟩, rfl⟩
    all_goals dsimp only
    · rw [Nat.mul_assoc, divided]
    · exact small_of_mem addressable (by simp)
    · omega
    · have block := Nat.le_trans (Nat.le_mul_of_pos_right r columnPositive) (enough some)
      exact enlarged_lt addressable (by simp) block some
    · omega
    · have block := Nat.le_trans (Nat.le_mul_of_pos_left s rowPositive) (enough some)
      exact enlarged_lt addressable (by simp) block some
    · exact rowPositive
    · exact columnPositive

/-- Weaving into an output of the inferred shape succeeds. -/
theorem batchToSpace_succeeds {block : List Nat} {crops : List (Nat × Nat)} {input output : Grid α}
    (h : Builtin.batchToSpaceShape input.shape block crops = .ok output.shape)
    (rank : input.shape.length = 3 ∨ input.shape.length = 4)
    (blocks : block.length = input.shape.length - 2) (pairs : crops.length = block.length)
    (addressable : input.shape.Addressable) :
    ∃ filled, batchToSpace block crops input output = .ok filled := by
  obtain ⟨w, shapes, fits, sameRank, positive, depth⟩ :=
    Weaving.fits_of_shape h rank blocks pairs addressable
  obtain ⟨moves, carried⟩ := Weaving.moves_succeed fits
  have bound : w.outputBatches * w.rowBlock ≤ w.outputBatches * w.rowBlock * w.columnBlock :=
    Nat.le_mul_of_pos_right _ positive.2
  have small := fits.small
  have images : Size.mul? w.outputBatches w.rowBlock = some (w.outputBatches * w.rowBlock) :=
    Size.ofNat?_eq_some.mpr ⟨by have := fits.batches; omega, rfl⟩
  have batches : Size.mul? (w.outputBatches * w.rowBlock) w.columnBlock = some w.inputBatches :=
    Size.ofNat?_eq_some.mpr ⟨by have := fits.batches; omega, fits.batches⟩
  apply bind_succeeds ⟨(), ensure_eq_ok.mpr rank⟩
  intro _ _
  apply bind_succeeds ⟨(), ensure_eq_ok.mpr ⟨blocks, pairs⟩⟩
  intro _ _
  apply bind_succeeds ⟨(), ensure_eq_ok.mpr sameRank⟩
  intro _ _
  simp [shapes, positive, images, batches, depth, carried]

end TensorGraph.Kernel
