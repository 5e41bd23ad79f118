import Mathlib.Data.List.Nodup
import TensorGraph.Proofs.Positions
import TensorGraph.Proofs.Weaving

/-!
# Weaving covers the inferred shape

Weaving batches into space carries values from the input to the output, one move for each value that
is not cropped. `Weaving.moves_enumerate` says which moves there are, seen from the input, and
`Weaving.mem_moves_iff` says it seen from the output. Into an output of the inferred shape there is
one to every place (`Weaving.covers`), so all that the output held before is overwritten.
-/

namespace TensorGraph.Kernel

variable {α : Type}

/-! ## Carrying out moves -/

/-- Two outputs of one size are alike at a place after some moves, if they were before or if one of
the moves brings a value there. -/
theorem getElem?_carryOut {input output output' : Grid α} {moves : List (Nat × Nat)} {place : Nat}
    (size : output'.values.size = output.values.size)
    (h : output'.values[place]? = output.values[place]? ∨
      ∃ source < input.values.size, (place, source) ∈ moves) :
    (carryOut input moves output').values[place]? =
      (carryOut input moves output).values[place]? := by
  -- by induction on the moves, for all outputs of one size, since every move changes both
  induction moves generalizing output output' with
  | nil =>
      rcases h with same | ⟨_, _, inside⟩
      · exact same
      · cases inside
  | cons move moves ih =>
      obtain ⟨target, source⟩ := move
      rw [carryOut, carryOut, List.foldl_cons, List.foldl_cons, ← carryOut, ← carryOut]
      dsimp only
      cases found : input.values[source]? with
      | none =>
          refine ih size (h.imp_right ?_)
          rintro ⟨source', within, inside⟩
          rcases List.mem_cons.mp inside with same | later
          · cases same
            rw [Array.getElem?_eq_getElem within] at found
            cases found
          · exact ⟨source', within, later⟩
      | some value =>
          refine ih (by simp [Grid.set, size]) ?_
          by_cases here : target = place
          · -- the move brings the same value to both
            left
            simp [Grid.set, here, Array.getElem?_setIfInBounds, size]
          · refine h.imp ?_ ?_
            · intro same
              simp [Grid.set, Array.getElem?_setIfInBounds_ne here, same]
            · rintro ⟨source', within, inside⟩
              rcases List.mem_cons.mp inside with same | later
              · cases same
                exact absurd rfl here
              · exact ⟨source', within, later⟩

/-- Moves leave alone what they bring no value to. -/
theorem carryOut_elsewhere {input output : Grid α} {moves : List (Nat × Nat)} {place : Nat}
    (none : ∀ source < input.values.size, (place, source) ∉ moves) :
    (carryOut input moves output).values[place]? = output.values[place]? := by
  induction moves generalizing output with
  | nil => rfl
  | cons move moves ih =>
      obtain ⟨target, source⟩ := move
      have others (source' : Nat) (within : source' < input.values.size) :
          (place, source') ∉ moves :=
        fun later => none source' within (List.mem_cons_of_mem _ later)
      rw [carryOut, List.foldl_cons, ← carryOut, ih others]
      cases found : input.values[source]? with
      | none => rfl
      | some value =>
          obtain ⟨within, -⟩ := Array.getElem?_eq_some_iff.mp found
          have elsewhere : target ≠ place := by
            rintro rfl
            exact none source within List.mem_cons_self
          exact Array.getElem?_setIfInBounds_ne elsewhere

/-- Carrying out moves once more changes nothing. -/
theorem carryOut_again (input : Grid α) (moves : List (Nat × Nat)) (output : Grid α) :
    carryOut input moves (carryOut input moves output) = carryOut input moves output := by
  have shape := carryOut_shape input output moves
  apply Grid.eq_of_values (carryOut_shape _ _ _)
  apply Array.ext_getElem?
  intro place
  apply getElem?_carryOut (by rw [Grid.size_eq, Grid.size_eq, shape])
  by_cases brought : ∃ source < input.values.size, (place, source) ∈ moves
  · exact .inr brought
  · push Not at brought
    exact .inl (carryOut_elsewhere brought)

/-! ## Which moves there are -/

/-- A list holds what has a property, each thing once and nothing else. -/
structure Enumerates {γ : Type} (l : List γ) (P : γ → Prop) : Prop where
  mem : ∀ c, c ∈ l ↔ P c
  nodup : l.Nodup

/-- The lists that different elements of a list give, one after the other, if nothing is in two of
them. -/
theorem Enumerates.flatten_of_mapM {β γ : Type} {f : β → Except Fault (List γ)} {l : List β}
    {found : List (List γ)} {P : β → γ → Prop} (h : l.mapM f = .ok found) (different : l.Nodup)
    (parts : ∀ b ∈ l, ∀ part, f b = .ok part → Enumerates part (P b))
    (apart : ∀ b ∈ l, ∀ b' ∈ l, ∀ c, P b c → P b' c → b = b') :
    Enumerates found.flatten fun c => ∃ b ∈ l, P b c := by
  rw [mapM_eq_ok] at h
  induction h with
  | nil => exact ⟨by simp, List.nodup_nil⟩
  | @cons b part l found first _ ih =>
      rw [List.nodup_cons] at different
      have front := parts b List.mem_cons_self part first
      have rest := ih different.2 (fun b inside => parts b (List.mem_cons_of_mem _ inside))
        fun b inside b' inside' =>
          apart b (List.mem_cons_of_mem _ inside) b' (List.mem_cons_of_mem _ inside')
      rw [List.flatten_cons]
      constructor
      · intro c
        rw [List.mem_append, front.mem, rest.mem]
        simp
      · refine List.nodup_append.mpr ⟨front.nodup, rest.nodup, ?_⟩
        rintro c here c' later rfl
        obtain ⟨b', inside, other⟩ := (rest.mem c).mp later
        cases apart b List.mem_cons_self b' (List.mem_cons_of_mem _ inside) c
          ((front.mem c).mp here) other
        exact different.1 inside

namespace Weaving

variable {w : Weaving} {moves : List (Nat × Nat)}

/-- The value at a position of the input goes to a position of the output. -/
def Moves (w : Weaving) (move : Nat × Nat) (b y x : Nat) : Prop :=
  ∃ row column,
    target y w.rowBlock (b / w.outputBatches / w.columnBlock) w.rowCrop w.outputRows =
      .ok (some row) ∧
    target x w.columnBlock (b / w.outputBatches % w.columnBlock) w.columnCrop w.outputColumns =
      .ok (some column) ∧
    ∃ c < w.depth, (w.outputShape.offset [b % w.outputBatches, row, column, c],
      w.inputShape.offset [b, y, x, c]) = move

/-- A move tells the position that it starts from. -/
theorem Moves.index_source {move : Nat × Nat} {b y x : Nat} (h : w.Moves move b y x)
    (batch : b ∈ List.range w.inputBatches) (row : y ∈ List.range w.inputRows)
    (column : x ∈ List.range w.inputColumns) :
    ∃ c, w.inputShape.index move.2 = [b, y, x, c] := by
  obtain ⟨_, _, -, -, c, channel, rfl⟩ := h
  rw [List.mem_range] at batch row column
  exact ⟨c, Shape.index_offset ⟨batch, row, column, channel, trivial⟩⟩

/-- The moves are those of the values that are not cropped, and each is made once. -/
theorem moves_enumerate (done : w.moves = .ok moves) :
    Enumerates moves fun move => ∃ b ∈ List.range w.inputBatches, ∃ y ∈ List.range w.inputRows,
      ∃ x ∈ List.range w.inputColumns, w.Moves move b y x := by
  simp only [Weaving.moves, bind_eq_ok, pure_eq_ok] at done
  obtain ⟨perBatch, batches, rfl⟩ := done
  refine Enumerates.flatten_of_mapM batches List.nodup_range (fun b batch part ofBatch => ?_) ?_
  · simp only [bind_eq_ok, pure_eq_ok] at ofBatch
    obtain ⟨perRow, rows, rfl⟩ := ofBatch
    refine Enumerates.flatten_of_mapM rows List.nodup_range (fun y row part ofRow => ?_) ?_
    · rw [bind_eq_ok] at ofRow
      obtain ⟨_ | row', target, ofRow⟩ := ofRow
      · -- the row is cropped
        cases pure_eq_ok.mp ofRow
        exact ⟨by simp [Moves, target], List.nodup_nil⟩
      · simp only [bind_eq_ok, pure_eq_ok] at ofRow
        obtain ⟨perColumn, columns, rfl⟩ := ofRow
        refine Enumerates.flatten_of_mapM columns List.nodup_range
          (fun x column part ofColumn => ?_) ?_
        · rw [bind_eq_ok] at ofColumn
          obtain ⟨_ | column', target', ofColumn⟩ := ofColumn <;> cases pure_eq_ok.mp ofColumn
          · exact ⟨by simp [Moves, target, target'], List.nodup_nil⟩
          · refine ⟨by simp [Moves, target, target', columnMoves], ?_⟩
            rw [List.mem_range] at batch row column
            refine List.Nodup.map_on (fun c channel c' channel' same => ?_) List.nodup_range
            have inside {c : Nat} (channel : c ∈ List.range w.depth) :
                w.inputShape.Contains [b, y, x, c] :=
              ⟨batch, row, column, List.mem_range.mp channel, trivial⟩
            cases Shape.offset_inj (inside channel) (inside channel') (congrArg Prod.snd same)
            rfl
        · rintro x column x' column' move this other
          obtain ⟨_, source⟩ := this.index_source batch row column
          obtain ⟨_, source'⟩ := other.index_source batch row column'
          cases source.symm.trans source'
          rfl
    · rintro y row y' row' move ⟨x, column, this⟩ ⟨x', column', other⟩
      obtain ⟨_, source⟩ := this.index_source batch row column
      obtain ⟨_, source'⟩ := other.index_source batch row' column'
      cases source.symm.trans source'
      rfl
  · rintro b batch b' batch' move ⟨y, row, x, column, this⟩ ⟨y', row', x', column', other⟩
    obtain ⟨_, source⟩ := this.index_source batch row column
    obtain ⟨_, source'⟩ := other.index_source batch' row' column'
    cases source.symm.trans source'
    rfl

/-! ## Where the value at a position comes from -/

/-- The position in the input of the value that belongs at a position of the output. -/
def origin (w : Weaving) : List Nat → List Nat
  | [o, y, x, c] =>
    [((y + w.rowCrop) % w.rowBlock * w.columnBlock + (x + w.columnCrop) % w.columnBlock) *
        w.outputBatches + o,
      (y + w.rowCrop) / w.rowBlock, (x + w.columnCrop) / w.columnBlock, c]
  | position => position

/-- What the kernel checks of a weaving: there are just enough batches for all places in blocks. -/
structure Checked (w : Weaving) : Prop where
  rowBlock : 0 < w.rowBlock
  columnBlock : 0 < w.columnBlock
  batches : w.outputBatches * w.rowBlock * w.columnBlock = w.inputBatches
  depth : w.depth = w.outputDepth

/-- If there are batches in the input, there are images in the output. -/
theorem Checked.image_lt (checked : w.Checked) {b : Nat} (batch : b < w.inputBatches) :
    b % w.outputBatches < w.outputBatches := by
  refine Nat.mod_lt _ (Nat.pos_of_ne_zero fun none => ?_)
  rw [← checked.batches, none] at batch
  omega

/-- Crops and cropped extents can be counted in signed words. -/
structure Small (w : Weaving) : Prop where
  rowCrop : w.rowCrop < 2 ^ 63
  columnCrop : w.columnCrop < 2 ^ 63
  outputRows : w.outputRows < 2 ^ 63
  outputColumns : w.outputColumns < 2 ^ 63

/-- A number below a product, taken apart again. -/
theorem parts_of_lt {m n a i : Nat} (first : a < m) (second : i < n) :
    a * n + i < m * n ∧ (a * n + i) / n = a ∧ (a * n + i) % n = i := by
  have next := Nat.mul_le_mul_right n (Nat.succ_le_of_lt first)
  rw [Nat.succ_mul] at next
  refine ⟨by omega, ?_, ?_⟩
  · rw [Nat.mul_comm, Nat.mul_add_div (Nat.zero_lt_of_lt second), Nat.div_eq_of_lt second,
      Nat.add_zero]
  · rw [Nat.mul_add_mod_of_lt second]

/-- An index that is found is the uncropped one less the crop. Words would wrap around only where
the difference overflows. -/
theorem target_eq_ok {index block place crop extent : Nat} {found : Option Nat}
    (done : target index block place crop extent = .ok found) (crop_lt : crop < 2 ^ 63)
    (extent_lt : extent < 2 ^ 63) (o : Nat) :
    found = some o ↔ index * block + place = o + crop ∧ o < extent := by
  simp only [target, bind_eq_ok, checked_eq_ok, pure_eq_ok, Size.mul?, Size.add?,
    Size.ofNat?_eq_some, Distance.sub?, Distance.ofInt?_eq_some] at done
  obtain ⟨_, ⟨-, rfl⟩, uncropped, ⟨small, rfl⟩, moved, ⟨word, difference⟩, rfl⟩ := done
  have limit : Size.limit = 2 ^ 64 := rfl
  rw [Distance.ofSize_of_lt crop_lt, Distance.ofSize, limit, Int.bmod_def] at difference word
  rw [Distance.ofSize_of_lt extent_lt]
  rw [Option.ite_none_right_eq_some, Option.some.injEq]
  generalize index * block = start at *
  constructor
  · rintro ⟨inside, rfl⟩
    omega
  · rintro ⟨sum, inside⟩
    omega

/-- Every row of the input is looked for in the output, and every column of a row that is there. -/
theorem targets_of_moves (done : w.moves = .ok moves) {b y : Nat} (batch : b < w.inputBatches)
    (row : y < w.inputRows) : ∃ found,
    target y w.rowBlock (b / w.outputBatches / w.columnBlock) w.rowCrop w.outputRows = .ok found ∧
      ∀ o, found = some o → ∀ x < w.inputColumns, ∃ found',
        target x w.columnBlock (b / w.outputBatches % w.columnBlock) w.columnCrop
          w.outputColumns = .ok found' := by
  simp only [Weaving.moves, bind_eq_ok, pure_eq_ok] at done
  obtain ⟨_, batches, -⟩ := done
  obtain ⟨_, -, ofBatch⟩ :=
    exists_right_of_forall₂ (mapM_eq_ok.mp batches) (List.mem_range.mpr batch)
  simp only [bind_eq_ok, pure_eq_ok] at ofBatch
  obtain ⟨_, rows, -⟩ := ofBatch
  obtain ⟨_, -, ofRow⟩ := exists_right_of_forall₂ (mapM_eq_ok.mp rows) (List.mem_range.mpr row)
  rw [bind_eq_ok] at ofRow
  obtain ⟨found, target, ofRow⟩ := ofRow
  refine ⟨found, target, ?_⟩
  rintro o rfl x column
  simp only [bind_eq_ok, pure_eq_ok] at ofRow
  obtain ⟨_, columns, -⟩ := ofRow
  obtain ⟨_, -, ofColumn⟩ :=
    exists_right_of_forall₂ (mapM_eq_ok.mp columns) (List.mem_range.mpr column)
  rw [bind_eq_ok] at ofColumn
  exact ofColumn.imp fun _ h => h.1

variable {o y x c : Nat}

/-- There is a batch for every place in a block. -/
theorem contains_origin (checked : w.Checked) (inside : w.outputShape.Contains [o, y, x, c])
    (row : (y + w.rowCrop) / w.rowBlock < w.inputRows)
    (column : (x + w.columnCrop) / w.columnBlock < w.inputColumns) :
    w.inputShape.Contains (w.origin [o, y, x, c]) := by
  obtain ⟨batch, -, -, channel, -⟩ := inside
  have rowPlace := Nat.mod_lt (y + w.rowCrop) checked.rowBlock
  have columnPlace := Nat.mod_lt (x + w.columnCrop) checked.columnBlock
  have below := (parts_of_lt (parts_of_lt rowPlace columnPlace).1 batch).1
  rw [Nat.mul_comm (w.rowBlock * w.columnBlock), ← Nat.mul_assoc, checked.batches] at below
  exact ⟨below, row, column, checked.depth ▸ channel, trivial⟩

/-- A move goes to a position of the output, and comes from its origin. -/
theorem Moves.origin (checked : w.Checked) (small : w.Small) {move : Nat × Nat} {b y' x' : Nat}
    (h : w.Moves move b y' x') (batch : b < w.inputBatches) (row : y' < w.inputRows)
    (column : x' < w.inputColumns) : ∃ o y x c, w.outputShape.Contains [o, y, x, c] ∧
      (y + w.rowCrop) / w.rowBlock = y' ∧ (x + w.columnCrop) / w.columnBlock = x' ∧
      (w.outputShape.offset [o, y, x, c], w.inputShape.offset (w.origin [o, y, x, c])) = move := by
  obtain ⟨y, x, rowFound, columnFound, c, channel, rfl⟩ := h
  obtain ⟨rowSum, rowInside⟩ := (target_eq_ok rowFound small.rowCrop small.outputRows y).mp rfl
  obtain ⟨columnSum, columnInside⟩ :=
    (target_eq_ok columnFound small.columnCrop small.outputColumns x).mp rfl
  -- the place in a block is what is left over of the uncropped row and column
  obtain ⟨rowBelow, columnBelow⟩ := place_lt (checked.batches ▸ batch)
  obtain ⟨-, rowQuotient, rowRest⟩ := parts_of_lt row rowBelow
  obtain ⟨-, columnQuotient, columnRest⟩ := parts_of_lt column columnBelow
  rw [rowSum] at rowQuotient rowRest
  rw [columnSum] at columnQuotient columnRest
  have channel' : c < w.outputDepth := checked.depth ▸ channel
  refine ⟨b % w.outputBatches, y, x, c,
    ⟨checked.image_lt batch, rowInside, columnInside, channel', trivial⟩, rowQuotient,
    columnQuotient, ?_⟩
  rw [Weaving.origin, rowQuotient, columnQuotient, rowRest, columnRest, Nat.div_add_mod',
    Nat.div_add_mod']

/-- From an origin in the input there is a move. -/
theorem mem_moves_of_origin (checked : w.Checked) (small : w.Small) (done : w.moves = .ok moves)
    (inside : w.outputShape.Contains [o, y, x, c])
    (row : (y + w.rowCrop) / w.rowBlock < w.inputRows)
    (column : (x + w.columnCrop) / w.columnBlock < w.inputColumns) :
    (w.outputShape.offset [o, y, x, c], w.inputShape.offset (w.origin [o, y, x, c])) ∈ moves := by
  have rowPlace := Nat.mod_lt (y + w.rowCrop) checked.rowBlock
  have columnPlace := Nat.mod_lt (x + w.columnCrop) checked.columnBlock
  have source := contains_origin checked inside row column
  -- the batch number, taken apart, gives the image and the place in the block
  obtain ⟨placeBelow, quotient, remainder⟩ := parts_of_lt rowPlace columnPlace
  obtain ⟨-, number, image⟩ := parts_of_lt placeBelow inside.1
  obtain ⟨oy, rowFound, columns⟩ := targets_of_moves done source.1 row
  rw [number, quotient] at rowFound
  cases (target_eq_ok rowFound small.rowCrop small.outputRows y).mpr
    ⟨Nat.div_add_mod' _ _, inside.2.1⟩
  obtain ⟨ox, columnFound⟩ := columns y rfl _ column
  rw [number, remainder] at columnFound
  cases (target_eq_ok columnFound small.columnCrop small.outputColumns x).mpr
    ⟨Nat.div_add_mod' _ _, inside.2.2.1⟩
  refine ((moves_enumerate done).mem _).mpr ⟨_, List.mem_range.mpr source.1, _,
    List.mem_range.mpr row, _, List.mem_range.mpr column, y, x, ?_, ?_, c, source.2.2.2.1, ?_⟩
  · rw [number, quotient]
    exact rowFound
  · rw [number, remainder]
    exact columnFound
  · rw [image]
    rfl

/-- A value goes to a position of the output just if it comes from its origin, and that is in the
input. -/
theorem mem_moves_iff (checked : w.Checked) (small : w.Small) (done : w.moves = .ok moves)
    (inside : w.outputShape.Contains [o, y, x, c]) (source : Nat) :
    (w.outputShape.offset [o, y, x, c], source) ∈ moves ↔
      ((y + w.rowCrop) / w.rowBlock < w.inputRows ∧
        (x + w.columnCrop) / w.columnBlock < w.inputColumns) ∧
      w.inputShape.offset (w.origin [o, y, x, c]) = source := by
  constructor
  · intro mem
    obtain ⟨b, batch, y', row, x', column, moved⟩ := ((moves_enumerate done).mem _).mp mem
    rw [List.mem_range] at batch row column
    obtain ⟨o', y'', x'', c', inside', rfl, rfl, same⟩ :=
      moved.origin checked small batch row column
    obtain ⟨place, rfl⟩ := Prod.mk.inj same
    cases Shape.offset_inj inside' inside place
    exact ⟨⟨row, column⟩, rfl⟩
  · rintro ⟨⟨row, column⟩, rfl⟩
    exact mem_moves_of_origin checked small done inside row column

/-! ## Every place is covered -/

/-- The output rows and columns, with the crops in front of them, are among the enlarged ones of the
input. -/
structure Reaches (w : Weaving) : Prop where
  rows : w.outputRows + w.rowCrop ≤ w.inputRows * w.rowBlock
  columns : w.outputColumns + w.columnCrop ≤ w.inputColumns * w.columnBlock
  depth : w.depth = w.outputDepth

/-- The rows and columns of the output come from rows and columns of the input. -/
theorem Reaches.origin (reaches : w.Reaches) (inside : w.outputShape.Contains [o, y, x, c]) :
    (y + w.rowCrop) / w.rowBlock < w.inputRows ∧
      (x + w.columnCrop) / w.columnBlock < w.inputColumns := by
  obtain ⟨-, row, column, -⟩ := inside
  have rows := reaches.rows
  have columns := reaches.columns
  exact ⟨Nat.div_lt_of_lt_mul (Nat.mul_comm w.inputRows _ ▸ (by omega)),
    Nat.div_lt_of_lt_mul (Nat.mul_comm w.inputColumns _ ▸ (by omega))⟩

/-- Some value of the input goes to every position of the output. -/
theorem covers (fits : w.Fits) (reaches : w.Reaches) (done : w.moves = .ok moves) {place : Nat}
    (inside : place < w.outputShape.positions) :
    ∃ source < w.inputShape.positions, (place, source) ∈ moves := by
  obtain ⟨o, y, x, c, position, batch, row, column, channel⟩ := Shape.index_of_lt inside
  have place_eq := Shape.offset_index inside
  rw [outputShape, position] at place_eq
  have contained : w.outputShape.Contains [o, y, x, c] := ⟨batch, row, column, channel, trivial⟩
  have rows := reaches.rows
  have columns := reaches.columns
  have checked : w.Checked :=
    ⟨Nat.pos_of_mul_pos_left (a := w.inputRows) (by omega),
      Nat.pos_of_mul_pos_left (a := w.inputColumns) (by omega), fits.batches, reaches.depth⟩
  have some : w.inputBatches ≠ 0 := by
    rw [← fits.batches]
    exact Nat.ne_of_gt (Nat.mul_pos (Nat.mul_pos (Nat.zero_lt_of_lt batch) checked.rowBlock)
      checked.columnBlock)
  have enlarged := fits.rows some
  have enlarged' := fits.columns some
  have small : w.Small := ⟨by omega, by omega, by omega, by omega⟩
  have origin := reaches.origin contained
  refine ⟨_, Shape.offset_lt (contains_origin checked contained origin.1 origin.2), ?_⟩
  rw [← place_eq]
  exact (mem_moves_iff checked small done contained _).mpr ⟨origin, rfl⟩

/-- Rows and columns of the inferred shape are those that are left after cropping at both ends. -/
theorem extents_of_shape {input output : Shape} {block : List Nat} {crops : List (Nat × Nat)}
    (h : Builtin.batchToSpaceShape input block crops = .ok output)
    (shapes : ofShapes? input output block crops = some w) : ∃ rowEnd columnEnd,
      w.outputRows + w.rowCrop + rowEnd = w.inputRows * w.rowBlock ∧
      w.outputColumns + w.columnCrop + columnEnd = w.inputColumns * w.columnBlock ∧
      w.depth = w.outputDepth ∧ ((∀ crop ∈ crops, crop = (0, 0)) →
        (w.rowCrop = 0 ∧ rowEnd = 0) ∧ (w.columnCrop = 0 ∧ columnEnd = 0)) := by
  obtain ⟨blockSize, batch, extents, -, -, -, -, woven, same⟩ :=
    Builtin.batchToSpaceShape_eq_ok.mp h
  unfold ofShapes? at shapes
  split at shapes
  next rowCrop =>
    cases shapes
    simp only [Builtin.wovenExtents, List.tail_cons, List.head?_cons, checked_eq_ok, bind_eq_ok,
      pure_eq_ok, wovenExtent_eq_ok, Option.some.injEq, Except.ok.injEq] at woven
    obtain ⟨_, rfl, row, ⟨-, rows, rfl⟩, _, rfl, rfl⟩ := woven
    cases same
    refine ⟨rowCrop.2, 0, by dsimp only; omega, rfl, rfl, fun uncropped => ?_⟩
    rw [uncropped rowCrop (by simp)]
    simp
  next rowCrop columnCrop =>
    cases shapes
    simp only [Builtin.wovenExtents, List.tail_cons, List.head?_cons, checked_eq_ok, bind_eq_ok,
      pure_eq_ok, wovenExtent_eq_ok, Option.some.injEq, Except.ok.injEq] at woven
    obtain ⟨_, rfl, row, ⟨-, rows, rfl⟩, _, ⟨_, rfl, column, ⟨-, columns, rfl⟩, _, rfl, rfl⟩,
      rfl⟩ := woven
    cases same
    refine ⟨rowCrop.2, columnCrop.2, by dsimp only; omega, by dsimp only; omega, rfl,
      fun uncropped => ?_⟩
    rw [uncropped rowCrop (by simp), uncropped columnCrop (by simp)]
    simp
  · cases shapes

theorem reaches_of_shape {input output : Shape} {block : List Nat} {crops : List (Nat × Nat)}
    (h : Builtin.batchToSpaceShape input block crops = .ok output)
    (shapes : ofShapes? input output block crops = some w) : w.Reaches := by
  obtain ⟨_, _, rows, columns, depth, -⟩ := extents_of_shape h shapes
  exact ⟨by omega, by omega, depth⟩

theorem positions_of_shapes {input output : Shape} {block : List Nat} {crops : List (Nat × Nat)}
    (shapes : ofShapes? input output block crops = some w) :
    w.inputShape.positions = input.positions ∧ w.outputShape.positions = output.positions := by
  unfold ofShapes? at shapes
  split at shapes <;> cases shapes <;> simp [inputShape, outputShape, Shape.positions]

end Weaving

section Outputs

variable {block : List Nat} {crops : List (Nat × Nat)} {input output filled : Grid α}

/-- The moves that the kernel carries out depend on shapes only. -/
theorem moves_of_batchToSpace (done : batchToSpace block crops input output = .ok filled) :
    ∃ w moves, Weaving.ofShapes? input.shape output.shape block crops = some w ∧ w.Checked ∧
      w.moves = .ok moves ∧ ∀ output' : Grid α, output'.shape = output.shape →
        batchToSpace block crops input output' = .ok (carryOut input moves output') := by
  simp only [batchToSpace, bind_eq_ok, ensure_eq_ok] at done
  obtain ⟨_, rank, _, arguments, _, outputRank, done⟩ := done
  cases shapes : Weaving.ofShapes? input.shape output.shape block crops with
  | none =>
      rw [shapes] at done
      cases done
  | some w =>
      rw [shapes] at done
      simp only [bind_eq_ok, ensure_eq_ok, checked_eq_ok, pure_eq_ok] at done
      obtain ⟨_, blocks, images, counted, batches, counted', _, fits, moves, found, rfl⟩ := done
      have checked : w.Checked := by
        obtain ⟨-, rfl⟩ := Size.ofNat?_eq_some.mp counted
        obtain ⟨-, rfl⟩ := Size.ofNat?_eq_some.mp counted'
        exact ⟨blocks.1, blocks.2, fits.1, fits.2⟩
      refine ⟨w, moves, rfl, checked, found, fun output' same => ?_⟩
      simp only [batchToSpace, bind_eq_ok, ensure_eq_ok, same, shapes]
      refine ⟨(), rank, (), arguments, (), outputRank, ?_⟩
      simp only [checked_eq_ok, pure_eq_ok]
      exact ⟨(), blocks, images, counted, batches, counted', (), fits, moves, found, rfl⟩

/-- Weaving into an output that it has filled changes nothing, whatever the shape. -/
theorem batchToSpace_again (done : batchToSpace block crops input output = .ok filled) :
    batchToSpace block crops input filled = .ok filled := by
  obtain ⟨w, moves, -, -, -, writes⟩ := moves_of_batchToSpace done
  rw [writes output rfl, Except.ok.injEq] at done
  subst done
  rw [writes _ (carryOut_shape input output moves), carryOut_again]

/-- Into outputs of the inferred shape the kernel writes the same, whatever they hold. -/
theorem batchToSpace_congr {output' : Grid α}
    (h : Builtin.batchToSpaceShape input.shape block crops = .ok output.shape)
    (addressable : input.shape.Addressable) (same : output'.shape = output.shape)
    (done : batchToSpace block crops input output = .ok filled) :
    batchToSpace block crops input output' = .ok filled := by
  have checks := done
  simp only [batchToSpace, bind_eq_ok, ensure_eq_ok] at checks
  obtain ⟨_, rank, _, ⟨blocks, pairs⟩, -⟩ := checks
  obtain ⟨w, moves, shapes, -, found, writes⟩ := moves_of_batchToSpace done
  obtain ⟨w', shapes', fits, -⟩ := Weaving.fits_of_shape h rank blocks pairs addressable
  obtain rfl : w = w' := Option.some.inj (shapes.symm.trans shapes')
  obtain ⟨inputPositions, outputPositions⟩ := Weaving.positions_of_shapes shapes
  rw [writes output rfl] at done
  rw [writes output' same, ← Except.ok.inj done]
  have size : output'.values.size = output.values.size := by
    rw [Grid.size_eq, Grid.size_eq, same]
  congr 1
  apply Grid.eq_of_values
  · rw [carryOut_shape, carryOut_shape, same]
  apply Array.ext_getElem?
  intro place
  apply getElem?_carryOut size
  by_cases inside : place < output.values.size
  · right
    rw [Grid.size_eq, ← outputPositions] at inside
    rw [Grid.size_eq, ← inputPositions]
    exact Weaving.covers fits (Weaving.reaches_of_shape h shapes) found inside
  · left
    rw [Array.getElem?_eq_none (by omega), Array.getElem?_eq_none (by omega)]

end Outputs

end TensorGraph.Kernel
