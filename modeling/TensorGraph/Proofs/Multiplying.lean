import Mathlib.Data.Finset.Fold
import TensorGraph.Proofs.Positions

/-!
# Multiplying matrices

The kernel fills its output matrix by matrix, for one position of the batch after the other. One
step fills the positions that begin with that of the batch and leaves the others alone
(`Kernel.get?_of_multiply`), so after all steps every position has been filled
(`Kernel.batchMatMul_fills`), whatever the output held before.

That a step does not fail is due to broadcasting. An operand has no matrix on an empty axis, but if
there is such an axis there is no position of the batch either.
-/

namespace TensorGraph.Kernel

variable {α : Type} [Number α] {geometry : MatrixGeometry} {adjointA adjointB : Bool}
  {a b output : Grid α}

/-! ## Operands -/

/-- Two operands can be multiplied if their matrices fit and their batches can be merged. -/
theorem ofShapes_eq_ok {s t : Shape} :
    MatrixGeometry.ofShapes s t adjointA adjointB = .ok geometry ↔
      (2 ≤ s.length ∧ 2 ≤ t.length) ∧
      MatrixGeometry.matrixExtents s adjointA = (geometry.m, geometry.k) ∧
      MatrixGeometry.matrixExtents t adjointB = (geometry.k, geometry.n) ∧
      Shape.broadcast [MatrixGeometry.batchExtents s, MatrixGeometry.batchExtents t] =
        .ok geometry.batch := by
  obtain ⟨batch, m, k, n⟩ := geometry
  simp only [MatrixGeometry.ofShapes, bind_eq_ok, ensure_eq_ok, pure_eq_ok, Prod.ext_iff,
    MatrixGeometry.mk.injEq]
  grind

/-- The matrices of an operand are numbered by the positions of its own batch. -/
theorem operandMatrix_eq_ok {shape batch : Shape} {position : List Nat}
    (below : (MatrixGeometry.batchExtents shape).BroadcastsTo batch)
    (inside : batch.Contains position) :
    operandMatrix shape position = .ok ((MatrixGeometry.batchExtents shape).project position) := by
  have indices := below.innermost inside
  have rank : (MatrixGeometry.batchExtents shape).length ≤ position.length := by
    rw [(Shape.contains_iff_forall₂.mp inside).length_eq]
    exact below.1
  simp only [operandMatrix, bind_eq_ok, checked_eq_ok, Size.sub?, if_pos rank, Option.some.injEq,
    exists_eq_left', mapM_eq_ok, Shape.project]
  clear below rank
  generalize MatrixGeometry.batchExtents shape = extents at indices ⊢
  generalize position.drop (position.length - extents.length) = p at indices ⊢
  induction indices with
  | nil => exact .nil
  | @cons extent i _ _ first _ ih =>
      refine .cons ⟨extent - 1, if_pos first.1, ?_⟩ ih
      dsimp only
      rw [pure_eq_ok]
      split <;> omega

/-- An operand is made of matrices, in the order in which their two axes are stored. -/
theorem eq_batchExtents_append {shape : Shape} {adjoint : Bool} {rows columns : Nat}
    (rank : 2 ≤ shape.length)
    (extents : MatrixGeometry.matrixExtents shape adjoint = (rows, columns)) :
    shape = MatrixGeometry.batchExtents shape ++
      if adjoint then [columns, rows] else [rows, columns] := by
  obtain ⟨outer, x, y, rfl⟩ : ∃ outer x y, shape = outer ++ [x, y] := by
    obtain ⟨x, y, last⟩ := List.length_eq_two.mp
      (show (shape.drop (shape.length - 2)).length = 2 by rw [List.length_drop]; omega)
    exact ⟨_, x, y, by rw [← last, List.take_append_drop]⟩
  have second : outer.length + 2 - 1 = outer.length + 1 := rfl
  cases adjoint <;>
    simp_all [MatrixGeometry.matrixExtents, MatrixGeometry.batchExtents]

/-- The entry of a matrix of an operand is there. -/
theorem get?_entry {x : Grid α} {batch : Shape} {adjoint : Bool} {rows columns row column : Nat}
    {position : List Nat} (rank : 2 ≤ x.shape.length)
    (extents : MatrixGeometry.matrixExtents x.shape adjoint = (rows, columns))
    (below : (MatrixGeometry.batchExtents x.shape).BroadcastsTo batch)
    (inside : batch.Contains position) (inRow : row < rows) (inColumn : column < columns) :
    x.get? ((MatrixGeometry.batchExtents x.shape).project position ++
        if adjoint then [column, row] else [row, column]) =
      some (entry x adjoint ((MatrixGeometry.batchExtents x.shape).project position) row
        column) := by
  refine Grid.get?_eq_getD ?_ 0
  have outer := Shape.contains_project below inside
  have inner : Shape.Contains (if adjoint then [columns, rows] else [rows, columns])
      (if adjoint then [column, row] else [row, column]) := by
    cases adjoint
    · exact ⟨inRow, inColumn, trivial⟩
    · exact ⟨inColumn, inRow, trivial⟩
  have whole := (Shape.contains_append (Shape.contains_iff_forall₂.mp outer).length_eq).mpr
    ⟨outer, inner⟩
  rwa [← eq_batchExtents_append rank extents] at whole

/-! ## Step and run -/

def productAt (geometry : MatrixGeometry) (adjointA adjointB : Bool) (a b : Grid α)
    (position : List Nat) : α :=
  let batch := position.take geometry.batch.length
  dotProduct a b adjointA adjointB ((MatrixGeometry.batchExtents a.shape).project batch)
    ((MatrixGeometry.batchExtents b.shape).project batch)
    (position.getD geometry.batch.length 0) (position.getD (geometry.batch.length + 1) 0) geometry.k

/-- A position of the product is one of the batch, a row and a column. -/
theorem exists_of_contains_outputShape {position : List Nat}
    (inside : geometry.outputShape.Contains position) :
    ∃ outer row column, position = outer ++ [row, column] ∧
      Shape.Contains geometry.batch outer ∧ row < geometry.m ∧ column < geometry.n := by
  obtain ⟨outer, inner, rfl, within, place⟩ := Shape.exists_of_contains_append inside
  match inner, place with
  | [row, column], ⟨inRow, inColumn, _⟩ =>
    exact ⟨outer, row, column, rfl, within, inRow, inColumn⟩

/-- An entry is the product of a row and a column, in the matrices that the batch is projected to.
-/
theorem productAt_append {position : List Nat} (inside : Shape.Contains geometry.batch position)
    (row column : Nat) :
    productAt geometry adjointA adjointB a b (position ++ [row, column]) =
      dotProduct a b adjointA adjointB ((MatrixGeometry.batchExtents a.shape).project position)
        ((MatrixGeometry.batchExtents b.shape).project position) row column geometry.k := by
  have rank := (Shape.contains_iff_forall₂.mp inside).length_eq
  simp [productAt, ← rank]

/-- One step fills the positions that begin with that of the batch. -/
theorem get?_of_multiply {position : List Nat} (fits : output.shape = geometry.outputShape)
    (left : (MatrixGeometry.batchExtents a.shape).BroadcastsTo geometry.batch)
    (right : (MatrixGeometry.batchExtents b.shape).BroadcastsTo geometry.batch)
    (inside : Shape.Contains geometry.batch position) :
    ∃ filled, multiply geometry adjointA adjointB a b output position = .ok filled ∧
      filled.shape = output.shape ∧
      ∀ position', geometry.outputShape.Contains position' →
        filled.get? position' = if position'.take geometry.batch.length = position
          then some (productAt geometry adjointA adjointB a b position')
          else output.get? position' := by
  have rank := (Shape.contains_iff_forall₂.mp inside).length_eq
  simp only [multiply, operandMatrix_eq_ok left inside, operandMatrix_eq_ok right inside,
    bind_eq_ok, Except.ok.injEq, exists_eq_left', pure_eq_ok, Grid.shape_writeAll, true_and]
  intro position' inside'
  rw [Grid.get?_writeAll (productAt geometry adjointA adjointB a b) _ (fits ▸ inside')]
  · -- a position is written exactly if it begins with that of the batch
    obtain ⟨outer, row, column, rfl, within, inRow, inColumn⟩ :=
      exists_of_contains_outputShape inside'
    have rank' := (Shape.contains_iff_forall₂.mp within).length_eq
    refine if_congr ?_ rfl rfl
    simp only [List.take_left' rank', List.mem_map, List.mem_flatMap, List.mem_range]
    constructor
    · rintro ⟨_, ⟨row', _, column', _, rfl⟩, same⟩
      exact (List.append_inj_left same (rank.trans rank'.symm)).symm
    · rintro rfl
      exact ⟨_, ⟨row, inRow, column, inColumn, rfl⟩, rfl⟩
  · simp only [List.mem_flatMap, List.mem_map, List.mem_range]
    rintro _ ⟨row, inRow, column, inColumn, rfl⟩
    refine ⟨?_, (productAt_append inside row column).symm⟩
    rw [fits, MatrixGeometry.outputShape, Shape.contains_append rank]
    exact ⟨inside, inRow, inColumn, trivial⟩

/-- All steps together fill the positions that begin with one of those gone through. -/
theorem get?_of_steps (adjointA adjointB : Bool) {positions : List (List Nat)}
    (fits : output.shape = geometry.outputShape)
    (left : (MatrixGeometry.batchExtents a.shape).BroadcastsTo geometry.batch)
    (right : (MatrixGeometry.batchExtents b.shape).BroadcastsTo geometry.batch)
    (inside : ∀ position ∈ positions, Shape.Contains geometry.batch position) :
    ∃ filled, positions.foldlM (multiply geometry adjointA adjointB a b) output = .ok filled ∧
      filled.shape = output.shape ∧
      ∀ position', geometry.outputShape.Contains position' →
        filled.get? position' = if position'.take geometry.batch.length ∈ positions
          then some (productAt geometry adjointA adjointB a b position')
          else output.get? position' := by
  induction positions generalizing output with
  | nil => exact ⟨output, rfl, rfl, fun _ _ => rfl⟩
  | cons position positions ih =>
      rw [List.forall_mem_cons] at inside
      obtain ⟨next, first, shape, values⟩ := get?_of_multiply fits left right inside.1
      obtain ⟨filled, others, shape', values'⟩ := ih (shape.trans fits) inside.2
      refine ⟨filled, ?_, shape'.trans shape, fun position' inside' => ?_⟩
      · rw [List.foldlM_cons, first]
        exact others
      · rw [values' position' inside', values position' inside']
        simp only [List.mem_cons]
        split <;> split <;> simp_all

/-- Where the product has a geometry, the kernel fills an output of its shape with the product. -/
theorem batchMatMul_fills
    (found : MatrixGeometry.ofShapes a.shape b.shape adjointA adjointB = .ok geometry)
    (fits : output.shape = geometry.outputShape) :
    ∃ filled, batchMatMul adjointA adjointB a b output = (.ok geometry, filled) ∧
      filled.shape = geometry.outputShape ∧
      ∀ position, geometry.outputShape.Contains position →
        filled.get? position = some (productAt geometry adjointA adjointB a b position) := by
  obtain ⟨-, -, -, batch⟩ := ofShapes_eq_ok.mp found
  have left := Shape.broadcastsTo_of_broadcast batch (.head _)
  have right := Shape.broadcastsTo_of_broadcast batch (.tail _ (.head _))
  obtain ⟨filled, done, shape, values⟩ := get?_of_steps adjointA adjointB fits left right
    fun _ => Shape.mem_indices.mp
  refine ⟨filled, ?_, shape.trans fits, fun position inside => ?_⟩
  · rw [batchMatMul, productGeometry_eq_ok.mpr ⟨found, fits⟩]
    dsimp only
    rw [products, done]
  · obtain ⟨outer, inner, rfl, within, -⟩ := Shape.exists_of_contains_append inside
    rw [values _ inside, if_pos]
    rwa [List.take_left' (Shape.contains_iff_forall₂.mp within).length_eq, Shape.mem_indices]

/-- The kernel succeeds exactly if the operands have a product and the output has its shape. -/
theorem batchMatMul_eq_ok :
    (batchMatMul adjointA adjointB a b output).1 = .ok geometry ↔
      MatrixGeometry.ofShapes a.shape b.shape adjointA adjointB = .ok geometry ∧
        output.shape = geometry.outputShape := by
  rw [← productGeometry_eq_ok]
  constructor
  · intro done
    unfold batchMatMul at done
    split at done
    · cases done
    next found =>
      split at done <;> cases done
      exact found
  · intro checked
    obtain ⟨found, fits⟩ := productGeometry_eq_ok.mp checked
    obtain ⟨filled, done, -⟩ := batchMatMul_fills found fits
    rw [done]

/-! ## Sums of products -/

/-- A sum that is taken in order, as one that is not. -/
theorem foldl_add_eq_fold [Std.Commutative ((· + ·) : α → α → α)]
    [Std.Associative ((· + ·) : α → α → α)] (f : Nat → α) (count : Nat) :
    (List.range count).foldl (fun sum l => sum + f l) 0 =
      (Finset.range count).fold (· + ·) 0 f := by
  induction count with
  | zero => rfl
  | succ count ih =>
      rw [List.range_succ, List.foldl_append, ih, Finset.range_add_one,
        Finset.fold_insert Finset.notMem_range_self]
      exact Std.Commutative.comm _ _

/-- The product of two operands whose shapes go together. The output is filled if it has the shape
of the product, and otherwise nothing is written. A value of the product is the sum, over the depth,
of the products of entries of a row and a column; it is zero if the depth is zero. Both entries are
taken from where the position of the batch is projected to, with index 0 on stretched axes. If there
are no positions of the batch, no matrix is picked and nothing is written. -/
theorem batchMatMul_sums [Std.Commutative ((· + ·) : α → α → α)]
    [Std.Associative ((· + ·) : α → α → α)]
    (found : MatrixGeometry.ofShapes a.shape b.shape adjointA adjointB = .ok geometry) :
    (∀ output : Grid α, output.shape = geometry.outputShape → ∃ filled,
      batchMatMul adjointA adjointB a b output = (.ok geometry, filled) ∧
      filled.shape = geometry.outputShape ∧
      (∀ p i j, Shape.Contains geometry.batch p → i < geometry.m → j < geometry.n →
        ∃ x y : Nat → α,
          (∀ l < geometry.k,
            a.get? ((MatrixGeometry.batchExtents a.shape).project p ++
              if adjointA then [l, i] else [i, l]) = some (x l) ∧
            b.get? ((MatrixGeometry.batchExtents b.shape).project p ++
              if adjointB then [j, l] else [l, j]) = some (y l)) ∧
          filled.get? (p ++ [i, j]) =
            some ((Finset.range geometry.k).fold (· + ·) 0 fun l => x l * y l)) ∧
      (geometry.k = 0 → ∀ position, geometry.outputShape.Contains position →
        filled.get? position = some 0) ∧
      (0 ∈ geometry.batch → Shape.indices geometry.batch = [] ∧ filled = output)) ∧
    (∀ output : Grid α, output.shape ≠ geometry.outputShape →
      batchMatMul adjointA adjointB a b output =
        (refuse (KernelFailure.matrixShape output.shape geometry.outputShape), output)) := by
  obtain ⟨⟨rankA, rankB⟩, extentsA, extentsB, batch⟩ := ofShapes_eq_ok.mp found
  have left := Shape.broadcastsTo_of_broadcast batch (.head _)
  have right := Shape.broadcastsTo_of_broadcast batch (.tail _ (.head _))
  refine ⟨fun output fits => ?_, fun output other => ?_⟩
  · obtain ⟨filled, done, shape, values⟩ := batchMatMul_fills found fits
    refine ⟨filled, done, shape, ?_, ?_, ?_⟩
    · intro p i j inside inRow inColumn
      refine ⟨_, _, fun l below => ⟨get?_entry rankA extentsA left inside inRow below,
        get?_entry rankB extentsB right inside below inColumn⟩, ?_⟩
      rw [values, productAt_append inside, dotProduct, foldl_add_eq_fold]
      exact (Shape.contains_append (Shape.contains_iff_forall₂.mp inside).length_eq).mpr
        ⟨inside, inRow, inColumn, trivial⟩
    · intro depth position inside
      rw [values position inside, productAt, depth]
      rfl
    · -- without positions of the batch no step is made
      intro empty
      have none : Shape.indices geometry.batch = [] := by
        rw [List.eq_nil_iff_forall_not_mem]
        exact fun p listed => Shape.not_contains_of_empty empty (Shape.mem_indices.mp listed)
      rw [batchMatMul, productGeometry_eq_ok.mpr ⟨found, fits⟩] at done
      dsimp only at done
      rw [products, none] at done
      cases done
      exact ⟨none, rfl⟩
  · -- the shape of the output is compared before any value is read
    have refused : productGeometry adjointA adjointB a.shape b.shape output.shape =
        refuse (KernelFailure.matrixShape output.shape geometry.outputShape) := by
      rw [productGeometry, found]
      show (ensure _ _ >>= _) = _
      rw [ensure, if_neg other]
      rfl
    rw [batchMatMul, refused]
    rfl

/-- Two rows are multiplied with one matrix of three rows that is taken as three columns. The last
value of the second product comes from the second row, 3 and 4, and the last column, 5 and 6. -/
theorem rows_multiplied :
    let a : Grid Int32 := ⟨[2, 1, 2], #[1, 2, 3, 4], rfl⟩
    let b : Grid Int32 := ⟨[1, 3, 2], #[1, 2, 3, 4, 5, 6], rfl⟩
    let output : Grid Int32 := ⟨[2, 1, 3], #[7, 7, 7, 7, 7, 7], rfl⟩
    MatrixGeometry.ofShapes a.shape b.shape false true = .ok ⟨[2], 1, 2, 3⟩ ∧
      (batchMatMul false true a b output).1 = .ok ⟨[2], 1, 2, 3⟩ ∧
      (∃ x y : Nat → Int32, a.get? [1, 0, 0] = some (x 0) ∧ b.get? [0, 2, 0] = some (y 0) ∧
        a.get? [1, 0, 1] = some (x 1) ∧ b.get? [0, 2, 1] = some (y 1) ∧
        (batchMatMul false true a b output).2.get? [1, 0, 2] =
          some ((Finset.range 2).fold (fun sum term : Int32 => sum + term) 0
            fun l => x l * y l)) ∧
      (batchMatMul false true a b output).2.values = #[5, 11, 17, 11, 25, 39] := by
  intro a b output
  have found : MatrixGeometry.ofShapes a.shape b.shape false true = .ok ⟨[2], 1, 2, 3⟩ := rfl
  obtain ⟨filled, done, -, values, -⟩ :=
    (batchMatMul_sums (a := a) (b := b) found).1 output rfl
  obtain ⟨x, y, entries, sum⟩ := values [1] 0 2 (by decide) (by decide) (by decide)
  obtain ⟨first, first'⟩ := entries 0 (by decide)
  obtain ⟨second, second'⟩ := entries 1 (by decide)
  rw [done]
  have whole : filled.values = #[5, 11, 17, 11, 25, 39] := by
    rw [← show (batchMatMul false true a b output).2 = filled by rw [done]]
    decide +kernel
  exact ⟨found, rfl, ⟨x, y, first, first', second, second', sum⟩, whole⟩

end TensorGraph.Kernel
