import Mathlib.Data.Set.Function
import TensorGraph.Proofs.Covering

/-!
# Where weaving puts the values

The kernel goes through the input and scatters its values over the output; what it comes to is read
the other way. The value at a position of the output comes from the position that `Weaving.origin`
finds, if that is in the input, and is left as it was otherwise (`Weaving.carryOut_at`). Into an
output of the inferred shape just one value goes to each position, and without crops origins are a
one-to-one correspondence of the positions of the output and those of the input.
-/

namespace TensorGraph.Kernel

variable {α : Type}

/-! ## Moves that agree about a place -/

/-- A place that holds a value keeps it, if that is what all moves bring there. -/
theorem carryOut_holds {input output : Grid α} {moves : List (Nat × Nat)} {place source : Nat}
    (only : ∀ source', (place, source') ∈ moves → source' = source)
    (within : source < input.values.size)
    (holds : output.values[place]? = input.values[source]?) :
    (carryOut input moves output).values[place]? = input.values[source]? := by
  induction moves generalizing output with
  | nil => exact holds
  | cons move moves ih =>
      obtain ⟨target, source'⟩ := move
      rw [carryOut, List.foldl_cons, ← carryOut]
      apply ih fun source' later => only source' (List.mem_cons_of_mem _ later)
      dsimp only
      split
      next value found =>
        by_cases here : target = place
        · subst here
          obtain rfl := only source' List.mem_cons_self
          have inside : target < output.values.size := by
            by_contra beyond
            rw [Array.getElem?_eq_none (by omega), Array.getElem?_eq_getElem within] at holds
            cases holds
          simp [Grid.set, inside, found]
        · simpa [Grid.set, Array.getElem?_setIfInBounds_ne here] using holds
      next => exact holds

/-- A place that a value is moved to holds it in the end, if all moves there bring the same one. -/
theorem carryOut_brought {input output : Grid α} {moves : List (Nat × Nat)} {place source : Nat}
    (only : ∀ source', (place, source') ∈ moves → source' = source)
    (brought : (place, source) ∈ moves) (within : source < input.values.size)
    (inside : place < output.values.size) :
    (carryOut input moves output).values[place]? = input.values[source]? := by
  -- it makes no difference if the value is there from the start
  have ahead : (carryOut input moves (output.set place input.values[source])).values[place]? =
      input.values[source]? :=
    carryOut_holds only within (by simp [Grid.set, inside, within])
  rw [← ahead]
  exact getElem?_carryOut (by simp [Grid.set]) (.inr ⟨source, within, brought⟩)

namespace Weaving

variable {w : Weaving} {moves : List (Nat × Nat)} {input output : Grid α}

/-! ## Gathering -/

/-- After all moves a position holds the value from its origin, or what it held if that is not in
the input. -/
theorem carryOut_at (checked : w.Checked) (small : w.Small) (done : w.moves = .ok moves)
    (sizes : w.inputShape.positions = input.values.size ∧
      w.outputShape.positions = output.values.size)
    {o y x c : Nat} (inside : w.outputShape.Contains [o, y, x, c]) :
    (carryOut input moves output).values[w.outputShape.offset [o, y, x, c]]? =
      if (y + w.rowCrop) / w.rowBlock < w.inputRows ∧
          (x + w.columnCrop) / w.columnBlock < w.inputColumns then
        input.values[w.inputShape.offset (w.origin [o, y, x, c])]?
      else output.values[w.outputShape.offset [o, y, x, c]]? := by
  have comes := mem_moves_iff checked small done inside
  split
  next there =>
    have origin := Shape.offset_lt (contains_origin checked inside there.1 there.2)
    exact carryOut_brought (fun source brought => ((comes _).mp brought).2.symm)
      ((comes _).mpr ⟨there, rfl⟩) (sizes.1 ▸ origin) (sizes.2 ▸ Shape.offset_lt inside)
  next missing => exact carryOut_elsewhere fun source _ brought => missing ((comes _).mp brought).1

/-! ## One value for each position -/

/-- Moves start and end within the shapes. -/
theorem moves_inside (checked : w.Checked) (small : w.Small) (done : w.moves = .ok moves)
    {move : Nat × Nat} (mem : move ∈ moves) : ∃ o y x c, w.outputShape.Contains [o, y, x, c] ∧
      w.outputShape.offset [o, y, x, c] = move.1 ∧ move.2 < w.inputShape.positions := by
  obtain ⟨b, batch, y', row, x', column, moved⟩ := ((moves_enumerate done).mem _).mp mem
  rw [List.mem_range] at batch row column
  obtain ⟨o, y, x, c, inside, rfl, rfl, rfl⟩ := moved.origin checked small batch row column
  exact ⟨o, y, x, c, inside, rfl, Shape.offset_lt (contains_origin checked inside row column)⟩

/-- No two moves go to one place. -/
theorem targets_nodup (checked : w.Checked) (small : w.Small) (done : w.moves = .ok moves) :
    (moves.map Prod.fst).Nodup := by
  have listed := moves_enumerate done
  refine List.Nodup.map_on ?_ listed.nodup
  rintro ⟨place, source⟩ mem ⟨_, source'⟩ mem' rfl
  obtain ⟨o, y, x, c, inside, rfl, -⟩ := moves_inside checked small done mem
  rw [mem_moves_iff checked small done inside] at mem mem'
  rw [← mem.2, ← mem'.2]

/-- To every place of an output of the inferred shape there is just one move. -/
theorem count_targets (checked : w.Checked) (small : w.Small) (done : w.moves = .ok moves)
    (reaches : w.Reaches) {place : Nat} (inside : place < w.outputShape.positions) :
    (moves.map Prod.fst).count place = 1 := by
  apply List.count_eq_one_of_mem (targets_nodup checked small done)
  obtain ⟨o, y, x, c, position, batch, row, column, channel⟩ := Shape.index_of_lt inside
  have place_eq := Shape.offset_index inside
  rw [outputShape, position] at place_eq
  have contained : w.outputShape.Contains [o, y, x, c] := ⟨batch, row, column, channel, trivial⟩
  rw [List.mem_map]
  exact ⟨_, (mem_moves_iff checked small done contained _).mpr ⟨reaches.origin contained, rfl⟩,
    place_eq⟩

/-! ## Without crops -/

/-- The position in the uncropped output that the value at a position of the input goes to. -/
def destination (w : Weaving) : List Nat → List Nat
  | [b, y, x, c] =>
    [b % w.outputBatches, y * w.rowBlock + b / w.outputBatches / w.columnBlock,
      x * w.columnBlock + b / w.outputBatches % w.columnBlock, c]
  | position => position

/-- Nothing is cropped: all of the enlarged rows and columns are those of the output. -/
structure Uncropped (w : Weaving) : Prop where
  rowCrop : w.rowCrop = 0
  columnCrop : w.columnCrop = 0
  rows : w.outputRows = w.inputRows * w.rowBlock
  columns : w.outputColumns = w.inputColumns * w.columnBlock

theorem Uncropped.reaches (uncropped : w.Uncropped) (checked : w.Checked) : w.Reaches :=
  ⟨by rw [uncropped.rowCrop, uncropped.rows, Nat.add_zero],
    by rw [uncropped.columnCrop, uncropped.columns, Nat.add_zero], checked.depth⟩

/-- Without crops, every position of the input is the origin of one position of the output. -/
theorem origin_bijOn (checked : w.Checked) (uncropped : w.Uncropped) :
    Set.BijOn w.origin {position | w.outputShape.Contains position}
      {position | w.inputShape.Contains position} := by
  have reaches := uncropped.reaches checked
  refine Set.InvOn.bijOn (⟨?_, ?_⟩ : Set.InvOn w.destination w.origin _ _) ?_ ?_
  · -- the batch number, taken apart, gives the image and the place in the block
    rintro position inside
    obtain ⟨o, y, x, c, rfl, batch, -⟩ := Shape.exists_of_contains inside
    have rowPlace := Nat.mod_lt (y + w.rowCrop) checked.rowBlock
    have columnPlace := Nat.mod_lt (x + w.columnCrop) checked.columnBlock
    obtain ⟨placeBelow, quotient, remainder⟩ := parts_of_lt rowPlace columnPlace
    obtain ⟨-, number, image⟩ := parts_of_lt placeBelow batch
    rw [origin, destination, image, number, quotient, remainder, Nat.div_add_mod',
      Nat.div_add_mod', uncropped.rowCrop, uncropped.columnCrop, Nat.add_zero, Nat.add_zero]
  · rintro position inside
    obtain ⟨b, y, x, c, rfl, batch, row, column, -⟩ := Shape.exists_of_contains inside
    obtain ⟨rowBelow, columnBelow⟩ := place_lt (checked.batches ▸ batch)
    obtain ⟨-, rowQuotient, rowRest⟩ := parts_of_lt row rowBelow
    obtain ⟨-, columnQuotient, columnRest⟩ := parts_of_lt column columnBelow
    rw [destination, origin, uncropped.rowCrop, uncropped.columnCrop, Nat.add_zero, Nat.add_zero,
      rowQuotient, rowRest, columnQuotient, columnRest, Nat.div_add_mod', Nat.div_add_mod']
  · rintro position inside
    obtain ⟨o, y, x, c, rfl, -⟩ := Shape.exists_of_contains inside
    have there := reaches.origin inside
    exact contains_origin checked inside there.1 there.2
  · rintro position inside
    obtain ⟨b, y, x, c, rfl, batch, row, column, channel⟩ := Shape.exists_of_contains inside
    obtain ⟨rowBelow, columnBelow⟩ := place_lt (checked.batches ▸ batch)
    exact ⟨checked.image_lt batch, uncropped.rows ▸ (parts_of_lt row rowBelow).1,
      uncropped.columns ▸ (parts_of_lt column columnBelow).1, checked.depth ▸ channel, trivial⟩

/-- The inferred shape, if no crops are asked for, is that of the enlarged images. -/
theorem uncropped_of_shape {input output : Shape} {block : List Nat} {crops : List (Nat × Nat)}
    (h : Builtin.batchToSpaceShape input block crops = .ok output)
    (shapes : ofShapes? input output block crops = some w)
    (none : ∀ crop ∈ crops, crop = (0, 0)) : w.Uncropped := by
  obtain ⟨rowEnd, columnEnd, rows, columns, -, zero⟩ := extents_of_shape h shapes
  obtain ⟨⟨rowCrop, rfl⟩, columnCrop, rfl⟩ := zero none
  exact ⟨rowCrop, columnCrop, by omega, by omega⟩

/-- Crops are signed words if those in front are, and extents of an addressable output are. -/
theorem small_of_shapes {input output : Shape} {block : List Nat} {crops : List (Nat × Nat)}
    (shapes : ofShapes? input output block crops = some w)
    (leading : ∀ crop ∈ crops, crop.1 < 2 ^ 63) (addressable : output.Addressable) : w.Small := by
  unfold ofShapes? at shapes
  split at shapes <;> cases shapes
  · exact ⟨leading _ (by simp), Nat.two_pow_pos 63, small_of_mem addressable (by simp),
      Nat.one_lt_two_pow (by decide)⟩
  · exact ⟨leading _ (by simp), leading _ (by simp), small_of_mem addressable (by simp),
      small_of_mem addressable (by simp)⟩

end Weaving

/-! ## Woven outputs -/

/-- Weaving puts every value where it belongs. A position of the output holds the value from its
origin, if the row and the column there are in the input, and what it held before otherwise. If the
output has the inferred shape, one value is written to each of its places, and if nothing is cropped
either, origins are a one-to-one correspondence of the positions of output and input. -/
theorem batchToSpace_places {block : List Nat} {crops : List (Nat × Nat)}
    {input output filled : Grid α} (leading : ∀ crop ∈ crops, crop.1 < 2 ^ 63)
    (addressable : output.shape.Addressable)
    (done : batchToSpace block crops input output = .ok filled) :
    ∃ w moves, Weaving.ofShapes? input.shape output.shape block crops = some w ∧
      w.moves = .ok moves ∧ filled = carryOut input moves output ∧
      filled.shape = output.shape ∧
      (∀ o < w.outputBatches, ∀ y < w.outputRows, ∀ x < w.outputColumns, ∀ c < w.outputDepth,
        if (y + w.rowCrop) / w.rowBlock < w.inputRows ∧
            (x + w.columnCrop) / w.columnBlock < w.inputColumns then
          w.inputShape.Contains (w.origin [o, y, x, c]) ∧
            filled.values[w.outputShape.offset [o, y, x, c]]? =
              input.values[w.inputShape.offset (w.origin [o, y, x, c])]?
        else
          filled.values[w.outputShape.offset [o, y, x, c]]? =
            output.values[w.outputShape.offset [o, y, x, c]]?) ∧
      (∀ move ∈ moves, move.1 < output.values.size ∧ move.2 < input.values.size) ∧
      (Builtin.batchToSpaceShape input.shape block crops = .ok output.shape →
        (∀ place < output.values.size, (moves.map Prod.fst).count place = 1) ∧
        ((∀ crop ∈ crops, crop = (0, 0)) →
          Set.BijOn w.origin {position | w.outputShape.Contains position}
            {position | w.inputShape.Contains position})) := by
  obtain ⟨w, moves, shapes, checked, found, writes⟩ := moves_of_batchToSpace done
  have small := Weaving.small_of_shapes shapes leading addressable
  obtain ⟨inputPositions, outputPositions⟩ := Weaving.positions_of_shapes shapes
  rw [← Grid.size_eq] at inputPositions outputPositions
  rw [writes output rfl, Except.ok.injEq] at done
  subst done
  refine ⟨w, moves, shapes, found, rfl, carryOut_shape _ _ _, ?_, ?_, fun inferred => ⟨?_, ?_⟩⟩
  · intro o batch y row x column c channel
    have inside : w.outputShape.Contains [o, y, x, c] := ⟨batch, row, column, channel, trivial⟩
    -- moves to other places do not reach this one, and those to it come from its origin
    have gathered :=
      Weaving.carryOut_at checked small found ⟨inputPositions, outputPositions⟩ inside
    split at gathered
    next there =>
      rw [if_pos there]
      exact ⟨Weaving.contains_origin checked inside there.1 there.2, gathered⟩
    next missing => rwa [if_neg missing]
  · intro move mem
    obtain ⟨o, y, x, c, inside, target, source⟩ := Weaving.moves_inside checked small found mem
    rw [← target, ← inputPositions, ← outputPositions]
    exact ⟨Shape.offset_lt inside, source⟩
  · rw [← outputPositions]
    have reaches := Weaving.reaches_of_shape inferred shapes
    exact fun place inside => Weaving.count_targets checked small found reaches inside
  · intro none
    exact Weaving.origin_bijOn checked (Weaving.uncropped_of_shape inferred shapes none)

/-- Four images of one row and two columns, woven into one image of two rows and four columns, of
which the first column is cropped. -/
theorem interleaved_places :
    let input : Grid Nat := ⟨[4, 1, 2, 1], #[1, 2, 3, 4, 5, 6, 7, 8], by decide⟩
    let output : Grid Nat := ⟨[1, 2, 3, 1], #[0, 0, 0, 0, 0, 0], by decide⟩
    let filled : Grid Nat := ⟨[1, 2, 3, 1], #[3, 2, 4, 7, 6, 8], by decide⟩
    batchToSpace [2, 2] [(0, 0), (1, 0)] input output = .ok filled ∧
      ∃ w moves, Weaving.ofShapes? input.shape output.shape [2, 2] [(0, 0), (1, 0)] = some w ∧
        w.moves = .ok moves ∧ w.rowCrop = 0 ∧ w.columnCrop = 1 ∧
        (∀ place < 6, (moves.map Prod.fst).count place = 1) := by
  intro input output filled
  have done : batchToSpace [2, 2] [(0, 0), (1, 0)] input output = .ok filled := rfl
  obtain ⟨w, moves, shapes, found, -, -, -, -, once⟩ :=
    batchToSpace_places (by decide) (by decide) done
  refine ⟨done, w, moves, shapes, found, ?_, ?_, (once rfl).1⟩ <;> cases shapes <;> rfl

end TensorGraph.Kernel
