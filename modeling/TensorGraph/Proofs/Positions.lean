import TensorGraph.Kernel.Broadcast
import TensorGraph.Proofs.Kernels

/-!
# Positions and places

The places of a grid are numbered in row-major order. Every place is that of a position of the shape
(`Shape.offset_index`), every position of the shape has a place of its own in the grid
(`Shape.offset_lt`, `Shape.index_offset`), and a position of a broadcast shape is projected to a
position of the shape that is broadcast (`Shape.contains_project`). So what kernels read is always
there, and a grid is given by its values at positions (`Grid.eq_of_get?`).
-/

namespace TensorGraph

namespace Shape

variable {s t : Shape} {position : List Nat} {place : Nat}

/-! ## Counting -/

/-- If the positions are counted, their number is the product of the extents. -/
theorem foldlM_mul?_eq_some {start n : Nat} (h : s.foldlM Size.mul? start = some n) :
    n = start * positions s := by
  induction s generalizing start with
  | nil =>
      rw [← Option.some.inj h]
      exact (Nat.mul_one start).symm
  | cons d s ih =>
      rw [List.foldlM_cons, Option.bind_eq_bind, Option.bind_eq_some_iff] at h
      obtain ⟨product, first, rest⟩ := h
      obtain ⟨-, rfl⟩ := Size.ofNat?_eq_some.mp first
      rw [ih rest, positions, Nat.mul_assoc]

/-- The size that a shape has is the number of its positions. -/
theorem positions_of_count? {n : Nat} (h : s.count? = some n) : positions s = n := by
  rw [foldlM_mul?_eq_some h, Nat.one_mul]

/-- They are counted if the extents other than zero have a product that is a size. -/
theorem exists_foldlM_mul? {start : Nat} (small : start * positions (s.filter (· ≠ 0)) < 2 ^ 64) :
    ∃ n, s.foldlM Size.mul? start = some n := by
  induction s generalizing start with
  | nil => exact ⟨start, rfl⟩
  | cons d s ih =>
      -- from an empty axis on, all products are zero
      have next : start * d * positions (s.filter (· ≠ 0)) < 2 ^ 64 := by
        by_cases empty : d = 0
        · simp [empty]
        · simpa [empty, positions, Nat.mul_assoc] using small
      have product : Size.mul? start d = some (start * d) := by
        refine Size.ofNat?_eq_some.mpr ⟨Nat.lt_of_le_of_lt ?_ next, rfl⟩
        exact Nat.le_mul_of_pos_right _ (positions_le_of_sublist (List.nil_sublist _) (by simp))
      rw [List.foldlM_cons, product]
      exact ih next

/-- The positions of an addressable shape can be counted. -/
theorem Addressable.counted (h : s.Addressable) : ∃ n, s.count? = some n := by
  apply exists_foldlM_mul?
  rw [Nat.one_mul]
  exact Nat.lt_trans h (by decide)

/-- An addressable shape without some of its axes is addressable. -/
theorem Addressable.sublist (h : s.Addressable) (sub : t.Sublist s) : t.Addressable :=
  Nat.lt_of_le_of_lt (positions_le_of_sublist (sub.filter _) (by simp)) h

/-- All axes of a single position have one index. -/
theorem getD_of_single (single : positions s = 1) {axis : Nat} (inside : axis < s.length) :
    s.getD axis 0 = 1 := by
  induction s generalizing axis with
  | nil => cases inside
  | cons d s ih =>
      cases axis with
      | zero => exact Nat.eq_one_of_mul_eq_one_right single
      | succ axis =>
          exact ih (Nat.eq_one_of_mul_eq_one_left single) (Nat.lt_of_succ_lt_succ inside)

/-! ## Row-major order -/

theorem contains_iff_forall₂ : s.Contains position ↔ List.Forall₂ (· < ·) position s := by
  induction s generalizing position with
  | nil => cases position <;> simp [Contains]
  | cons d s ih => cases position <;> simp [Contains, ih]

/-- A shape with an empty axis has no position. -/
theorem not_contains_of_empty (empty : 0 ∈ s) : ¬ s.Contains position := by
  intro inside
  obtain ⟨i, -, below⟩ := exists_right_of_forall₂ (contains_iff_forall₂.mp inside).flip empty
  exact Nat.not_lt_zero i below

/-- Every position has a place. -/
theorem offset_lt (h : s.Contains position) : s.offset position < positions s := by
  induction s generalizing position with
  | nil =>
      match position, h with
      | [], _ => exact Nat.one_pos
  | cons d s ih =>
      match position, h with
      | i :: is, ⟨first, rest⟩ =>
        have next : (i + 1) * positions s ≤ d * positions s := Nat.mul_le_mul_right _ first
        rw [Nat.add_mul, Nat.one_mul] at next
        rw [offset, positions]
        exact Nat.lt_of_lt_of_le (Nat.add_lt_add_left (ih rest) _) next

/-- Every place has a position. -/
theorem contains_index (h : place < positions s) : s.Contains (s.index place) := by
  induction s generalizing place with
  | nil => trivial
  | cons d s ih =>
      have some : 0 < positions s := Nat.pos_of_mul_pos_left (Nat.zero_lt_of_lt h)
      exact ⟨Nat.div_lt_of_lt_mul (Nat.mul_comm d _ ▸ h), ih (Nat.mod_lt _ some)⟩

theorem offset_index (h : place < positions s) : s.offset (s.index place) = place := by
  induction s generalizing place with
  | nil =>
      rw [positions, Nat.lt_one_iff] at h
      rw [h]
      rfl
  | cons d s ih =>
      have some : 0 < positions s := Nat.pos_of_mul_pos_left (Nat.zero_lt_of_lt h)
      rw [index, offset, ih (Nat.mod_lt _ some), Nat.mul_comm, Nat.div_add_mod]

/-- The position at the place of a position is that position again. -/
theorem index_offset (h : s.Contains position) : s.index (s.offset position) = position := by
  induction s generalizing position with
  | nil =>
      match position, h with
      | [], _ => rfl
  | cons d s ih =>
      match position, h with
      | i :: is, ⟨_, rest⟩ =>
        have below := offset_lt rest
        have some : 0 < positions s := Nat.zero_lt_of_lt below
        rw [offset, index, Nat.mul_comm, Nat.mul_add_div some, Nat.div_eq_of_lt below, Nat.add_zero,
          Nat.mul_add_mod, Nat.mod_eq_of_lt below, ih rest]

/-- Different positions have different places. -/
theorem offset_inj {position' : List Nat} (h : s.Contains position) (h' : s.Contains position')
    (same : s.offset position = s.offset position') : position = position' := by
  rw [← index_offset h, same, index_offset h']

/-- Places are in the lexicographic order of positions. -/
theorem offset_lt_offset {position' : List Nat} (h : s.Contains position)
    (h' : s.Contains position') :
    s.offset position < s.offset position' ↔ position < position' := by
  induction s generalizing position position' with
  | nil =>
      match position, position', h, h' with
      | [], [], _, _ => simp [offset]
  | cons d s ih =>
      match position, position', h, h' with
      | i :: is, j :: js, ⟨_, rest⟩, ⟨_, rest'⟩ =>
        have below := offset_lt rest
        have below' := offset_lt rest'
        rw [offset, offset, List.cons_lt_cons_iff, ← ih rest rest']
        rcases Nat.lt_trichotomy i j with less | rfl | greater
        · have next : (i + 1) * positions s ≤ j * positions s := Nat.mul_le_mul_right _ less
          rw [Nat.add_mul, Nat.one_mul] at next
          omega
        · omega
        · have next : (j + 1) * positions s ≤ i * positions s := Nat.mul_le_mul_right _ greater
          rw [Nat.add_mul, Nat.one_mul] at next
          omega

/-- A position on some axes followed by others. -/
theorem contains_append {position' : List Nat} (rank : position.length = s.length) :
    Contains (s ++ t) (position ++ position') ↔ s.Contains position ∧ t.Contains position' := by
  induction s generalizing position with
  | nil =>
      rw [List.length_nil, List.length_eq_zero_iff] at rank
      subst rank
      simp [Contains]
  | cons d s ih =>
      match position, rank with
      | i :: is, rank =>
        rw [List.length_cons, List.length_cons, Nat.succ_inj] at rank
        simp only [List.cons_append, Contains, ih rank, and_assoc]

theorem exists_of_contains_append (inside : Contains (s ++ t) position) :
    ∃ outer inner, position = outer ++ inner ∧ s.Contains outer ∧ t.Contains inner := by
  have rank := (contains_iff_forall₂.mp inside).length_eq
  rw [List.length_append] at rank
  rw [← List.take_append_drop s.length position, contains_append (by simp; omega)] at inside
  exact ⟨_, _, (List.take_append_drop s.length position).symm, inside⟩

/-- The positions in row-major order are all that there are. -/
theorem mem_indices : position ∈ s.indices ↔ s.Contains position := by
  rw [indices, List.mem_map]
  constructor
  · rintro ⟨place, inside, rfl⟩
    exact contains_index (List.mem_range.mp inside)
  · intro inside
    exact ⟨s.offset position, List.mem_range.mpr (offset_lt inside), index_offset inside⟩

/-- A position on four axes. -/
theorem exists_of_contains {b h w d : Nat} (inside : Contains [b, h, w, d] position) :
    ∃ i j k l, position = [i, j, k, l] ∧ i < b ∧ j < h ∧ k < w ∧ l < d := by
  match position, inside with
  | [i, j, k, l], ⟨first, second, third, fourth, _⟩ =>
    exact ⟨i, j, k, l, rfl, first, second, third, fourth⟩

theorem index_of_lt {b h w d place : Nat} (inside : place < positions [b, h, w, d]) :
    ∃ i j k l, index [b, h, w, d] place = [i, j, k, l] ∧ i < b ∧ j < h ∧ k < w ∧ l < d :=
  exists_of_contains (contains_index inside)

/-! ## Broadcasting -/

/-- The extents of a shape, side by side with the innermost ones of a shape that it broadcasts
to. -/
theorem BroadcastsTo.forall₂ (h : s.BroadcastsTo t) :
    List.Forall₂ (fun extent wanted => extent = 1 ∨ extent = wanted) s
      (t.drop (t.length - s.length)) := by
  obtain ⟨rank, extents⟩ := h
  rw [← List.forall₂_reverse_iff, ← List.take_reverse, List.forall₂_iff_get]
  refine ⟨by simp [rank], fun i within within' => ?_⟩
  have inside : i < (s.reverse.zip t.reverse).length := by
    simp only [List.length_reverse, List.length_take] at within within'
    simp only [List.length_zip, List.length_reverse]
    omega
  have related := extents _ (List.getElem_mem inside)
  simpa using related

/-- The extents of a shape, side by side with the innermost indices of a position of a shape that
it broadcasts to: where the index goes too far, the axis is stretched. -/
theorem BroadcastsTo.innermost (h : s.BroadcastsTo t) (inside : t.Contains position) :
    List.Forall₂ (fun extent i => 0 < extent ∧ (extent = 1 ∨ i < extent)) s
      (position.drop (position.length - s.length)) := by
  rw [contains_iff_forall₂] at inside
  have indices := List.forall₂_drop (t.length - s.length) inside
  have extents := h.forall₂
  rw [inside.length_eq]
  clear h
  generalize position.drop (t.length - s.length) = p at indices
  generalize t.drop (t.length - s.length) = t at indices extents
  induction extents generalizing p with
  | nil => cases indices; exact .nil
  | cons first _ ih =>
      cases indices with
      | cons below rest => exact .cons (by omega) (ih _ rest)

/-- A broadcast position is projected to a position of the operand. -/
theorem contains_project (h : s.BroadcastsTo t) (inside : t.Contains position) :
    s.Contains (s.project position) := by
  have indices := h.innermost inside
  rw [contains_iff_forall₂, project]
  clear h
  generalize position.drop (position.length - s.length) = p at indices
  induction indices with
  | nil => exact .nil
  | cons first _ ih =>
      refine .cons ?_ ih
      dsimp only
      split <;> omega

end Shape

namespace Grid

variable {α : Type} {g g' : Grid α} {place : Nat}

theorem size_eq (g : Grid α) : g.values.size = g.shape.positions :=
  (Shape.positions_of_count? g.counted).symm

/-- A grid is given by its shape and its values. -/
theorem eq_of_values (shape : g.shape = g'.shape) (values : g.values = g'.values) :
    g = g' := by
  obtain ⟨_, _, _⟩ := g
  cases shape
  cases values
  rfl

/-- Within the grid it does not matter what would be read beyond its end. -/
theorem getD_of_lt (h : place < g.shape.positions) (fallback fallback' : α) :
    g.getD place fallback = g.getD place fallback' := by
  rw [← size_eq] at h
  simp [getD, h]

/-! ## Values at positions -/

variable {position : List Nat}

theorem get?_of_contains (inside : g.shape.Contains position) :
    g.get? position = g.values[g.shape.offset position]? := if_pos inside

/-- At every position of the shape there is a value. -/
theorem exists_get? (inside : g.shape.Contains position) : ∃ x, g.get? position = some x := by
  have place := Shape.offset_lt inside
  rw [← size_eq] at place
  exact ⟨_, (get?_of_contains inside).trans (Array.getElem?_eq_getElem place)⟩

/-- Read at the place of a position, the value does not come from beyond the end. -/
theorem get?_eq_getD (inside : g.shape.Contains position) (fallback : α) :
    g.get? position = some (g.getD (g.shape.offset position) fallback) := by
  obtain ⟨x, found⟩ := exists_get? inside
  rw [found, Option.some.injEq]
  rw [get?_of_contains inside] at found
  simp [getD, found]

/-- Grids of one shape with the same values at all positions are equal. -/
theorem eq_of_get? (shape : g.shape = g'.shape)
    (values : ∀ position, g.shape.Contains position → g.get? position = g'.get? position) :
    g = g' := by
  apply eq_of_values shape
  apply Array.ext_getElem?
  intro place
  by_cases inside : place < g.shape.positions
  · have same := values _ (Shape.contains_index inside)
    have inside' := Shape.contains_index inside
    rwa [get?_of_contains inside', get?_of_contains (shape ▸ inside'), ← shape,
      Shape.offset_index inside] at same
  · have size := size_eq g'
    rw [← shape] at size
    rw [Array.getElem?_eq_none (by rw [size_eq]; omega), Array.getElem?_eq_none (by omega)]

/-- Each value is made from the value that was at its place. -/
theorem get?_mapIdx {f : Nat → α → α} (inside : g.shape.Contains position) :
    (g.mapIdx f).get? position = (g.get? position).map (f (g.shape.offset position)) := by
  rw [get?_of_contains inside, get?_of_contains (g := g.mapIdx f) inside]
  simp [mapIdx]

/-- A value is replaced at one position only. -/
theorem get?_set {position' : List Nat} (inside : g.shape.Contains position)
    (inside' : g.shape.Contains position') (value : α) :
    (g.set (g.shape.offset position) value).get? position' =
      if position' = position then some value else g.get? position' := by
  have place := Shape.offset_lt inside
  rw [← size_eq] at place
  rw [get?_of_contains (g := g.set _ _) inside', get?_of_contains inside', shape_set, set,
    Array.getElem?_setIfInBounds]
  split
  next same => rw [if_pos (Shape.offset_inj inside inside' same).symm]
  next other => rw [if_neg fun same => other (by rw [same])]

/-- What is written at a position is there afterwards, if no two values are written at one; all
other positions keep their values. -/
theorem get?_writeAll {cells : List (List Nat × α)} (value : List Nat → α)
    (inside : ∀ cell ∈ cells, g.shape.Contains cell.1 ∧ cell.2 = value cell.1)
    (contained : g.shape.Contains position) :
    (g.writeAll cells).get? position =
      if position ∈ cells.map Prod.fst then some (value position) else g.get? position := by
  induction cells generalizing g with
  | nil => rfl
  | cons cell cells ih =>
      rw [List.forall_mem_cons] at inside
      obtain ⟨⟨here, written⟩, others⟩ := inside
      show ((g.set (g.shape.offset cell.1) cell.2).writeAll cells).get? position = _
      rw [ih (g := g.set _ _) others contained, get?_set here contained, List.map_cons, written]
      simp only [List.mem_cons]
      by_cases later : position ∈ cells.map Prod.fst
      · rw [if_pos later, if_pos (.inr later)]
      · rw [if_neg later]
        split
        next same => rw [if_pos (.inl same), same]
        next other => rw [if_neg (not_or.mpr ⟨other, later⟩)]

end Grid

end TensorGraph
