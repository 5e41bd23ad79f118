import TensorGraph.Kernel.BatchToSpace
import TensorGraph.Kernel.ElementWise
import TensorGraph.Kernel.MatrixProduct
import TensorGraph.Kernel.Pooling
import TensorGraph.Kernel.Reduction
import TensorGraph.Proofs.Frame

/-!
# What kernels ask for, and what they keep

A kernel fills an output whose shape it never changes, so every kernel is one that `Grid.Keeps`
speaks of. Before it fills anything it looks at shapes; an `_eq_ok` lemma says what exactly has to
hold of them for the kernel to succeed.
-/

namespace TensorGraph

/-! ## Words -/

theorem Size.ofNat?_eq_some {n m : Nat} : Size.ofNat? n = some m ↔ n < 2 ^ 64 ∧ n = m := by
  rw [Size.ofNat?, Option.ite_none_right_eq_some, Option.some.injEq]
  exact Iff.rfl

theorem Distance.ofInt?_eq_some {n m : Int} :
    Distance.ofInt? n = some m ↔ (-(2 ^ 63) ≤ n ∧ n < 2 ^ 63) ∧ n = m := by
  rw [Distance.ofInt?, Option.ite_none_right_eq_some, Option.some.injEq]
  exact Iff.rfl

theorem Distance.ofSize_of_lt {n : Nat} (small : n < 2 ^ 63) : Distance.ofSize n = n := by
  have limit : Size.limit = 2 ^ 64 := rfl
  rw [Distance.ofSize, limit, Int.bmod_def]
  omega

/-! ## Extents -/

namespace Shape

/-- A shape does not shrink by further axes, as long as none is empty. -/
theorem positions_le_of_sublist {s t : Shape} (sub : t.Sublist s) (nonzero : 0 ∉ s) :
    t.positions ≤ s.positions := by
  induction sub with
  | slnil => exact Nat.le_refl _
  | cons d _ ih =>
      rw [List.mem_cons, not_or] at nonzero
      exact Nat.le_trans (ih nonzero.2) (Nat.le_mul_of_pos_left _
        (Nat.pos_of_ne_zero (Ne.symm nonzero.1)))
  | cons_cons d _ ih =>
      rw [List.mem_cons, not_or] at nonzero
      exact Nat.mul_le_mul_left d (ih nonzero.2)

/-- Some of the extents of an addressable shape, unless one of them is zero, have a product that is
a signed word. -/
theorem Addressable.positions_lt {s t : Shape} (h : s.Addressable) (sub : t.Sublist s)
    (nonzero : 0 ∉ t) : t.positions < 2 ^ 63 := by
  have kept : t.filter (· ≠ 0) = t :=
    List.filter_eq_self.mpr fun d inside => decide_eq_true fun zero => nonzero (zero ▸ inside)
  have sub' := sub.filter (· ≠ 0)
  rw [kept] at sub'
  exact Nat.lt_of_le_of_lt (positions_le_of_sublist sub' (by simp)) h

/-- Only an extent of one is stretched. -/
theorem mergeExtents_eq_some {a b extent : Nat} (h : mergeExtents a b = some extent) :
    (a = 1 ∨ a = extent) ∧ (b = 1 ∨ b = extent) := by
  unfold mergeExtents at h
  split at h
  · cases h
    omega
  · split at h
    · cases h
      omega
    · split at h <;> cases h
      omega

/-- On every axis each shape has the merged extent, or an extent of one. -/
theorem merged_of_mergedExtent {shapes : List Shape} {axis wanted extent : Nat}
    (h : shapes.foldlM (fun wanted s => mergeExtents wanted (s.extentFromInnermost axis)) wanted =
      some extent) : (wanted = 1 ∨ wanted = extent) ∧
      ∀ s ∈ shapes, s.extentFromInnermost axis = 1 ∨ s.extentFromInnermost axis = extent := by
  induction shapes generalizing wanted with
  | nil =>
      cases h
      simp
  | cons s shapes ih =>
      rw [List.foldlM_cons, Option.bind_eq_bind, Option.bind_eq_some_iff] at h
      obtain ⟨merged, first, others⟩ := h
      obtain ⟨left, right⟩ := mergeExtents_eq_some first
      obtain ⟨grown, rest⟩ := ih others
      refine ⟨by omega, fun t inside => ?_⟩
      rcases List.mem_cons.mp inside with rfl | inside
      · omega
      · exact rest t inside

theorem length_le_foldl_max (shapes : List Shape) (rank : Nat) :
    rank ≤ shapes.foldl (fun rank s => max rank s.length) rank ∧
      ∀ s ∈ shapes, s.length ≤ shapes.foldl (fun rank s => max rank s.length) rank := by
  induction shapes generalizing rank with
  | nil => simp
  | cons t shapes ih =>
      obtain ⟨grown, others⟩ := ih (max rank t.length)
      rw [List.foldl_cons]
      refine ⟨by omega, fun s inside => ?_⟩
      rcases List.mem_cons.mp inside with rfl | inside
      · omega
      · exact others s inside

/-- Merged shapes broadcast to the shape that they are merged into. -/
theorem broadcastsTo_of_broadcast {shapes : List Shape} {s shape : Shape}
    (h : broadcast shapes = .ok shape) (inside : s ∈ shapes) : s.BroadcastsTo shape := by
  rw [broadcast, require_eq_ok, broadcast?, Option.map_eq_some_iff] at h
  obtain ⟨extents, merged, rfl⟩ := h
  rw [mapM_eq_some, List.forall₂_iff_get] at merged
  obtain ⟨rank, merged⟩ := merged
  rw [List.length_range] at rank
  refine ⟨by rw [List.length_reverse, ← rank]; exact (length_le_foldl_max shapes 0).2 s inside,
    fun p mem => ?_⟩
  rw [List.reverse_reverse] at mem
  obtain ⟨axis, found⟩ := List.mem_iff_getElem?.mp mem
  rw [List.getElem?_zip_eq_some] at found
  obtain ⟨own, common⟩ := found
  obtain ⟨within, common⟩ := List.getElem?_eq_some_iff.mp common
  have extent := (merged_of_mergedExtent (merged axis (by simpa [rank] using within) within)).2 s
    inside
  simpa [extentFromInnermost, own, common] using extent

end Shape

end TensorGraph

namespace TensorGraph.Kernel

variable {α : Type}

/-! ## Element-wise kernels -/

theorem unary_eq_ok {f : α → α} {input output filled : Grid α} :
    unary f input output = .ok filled ↔ input.shape = output.shape ∧ input.map f = filled := by
  simp [unary]

theorem keeps_unary (f : α → α) (input : Grid α) :
    Grid.Keeps fun output => output.overwrite (unary f input output) := by
  apply Grid.keeps_overwrite
  intro output filled h
  obtain ⟨same, rfl⟩ := unary_eq_ok.mp h
  exact same

/-- A kernel of pairs succeeds exactly if both operands broadcast to the output. -/
theorem zipBroadcast_eq_ok {f : α → α → α} {a b output : Grid α} :
    (∃ filled, zipBroadcast f a b output = .ok filled) ↔
      a.shape.BroadcastsTo output.shape ∧ b.shape.BroadcastsTo output.shape := by
  simp [zipBroadcast]

theorem keeps_zipBroadcast (f : α → α → α) (a b : Grid α) :
    Grid.Keeps fun output => output.overwrite (zipBroadcast f a b output) := by
  apply Grid.keeps_overwrite
  intro output filled h
  simp only [zipBroadcast, bind_eq_ok, pure_eq_ok] at h
  obtain ⟨_, _, _, _, rfl⟩ := h
  rfl

/-- Clamping does not change what a kernel of pairs keeps. -/
theorem keeps_binary [FloatLike α] (f : α → α → α) (range : ClampRange α) (a b : Grid α) :
    Grid.Keeps fun output => output.overwrite (binary f range a b output) :=
  keeps_zipBroadcast (fun x y => range.clamp (f x y)) a b

/-- A sum needs an input, and all inputs in the shape of the output. -/
theorem addN_eq_ok [Number α] {inputs : List (Grid α)} {output : Grid α} :
    (∃ filled, addN inputs output = .ok filled) ↔
      inputs ≠ [] ∧ ∀ input ∈ inputs, input.shape = output.shape := by
  cases inputs with
  | nil => simp [addN]
  | cons first others =>
      simp [addN, forM_eq_ok]

theorem keeps_addN [Number α] (inputs : List (Grid α)) :
    Grid.Keeps fun output => output.overwrite (addN inputs output) := by
  apply Grid.keeps_overwrite
  intro output filled h
  cases inputs with
  | nil => simp [addN] at h
  | cons first others =>
      simp only [addN, bind_eq_ok, pure_eq_ok] at h
      obtain ⟨_, _, rfl⟩ := h
      rfl

/-! ## Pooling and weaving -/

/-- Only an output of the shape that the windows give is filled. -/
theorem outputAxes_eq_ok {g : PoolGeometry} {input output : Shape}
    {axes : PaddedAxis × PaddedAxis} :
    outputAxes g input output = .ok axes ↔
      g.axes input = .ok axes ∧ g.outputShape input = .ok output := by
  simp only [outputAxes, bind_eq_ok, ensure_eq_ok, pure_eq_ok]
  constructor
  · rintro ⟨_, found, _, shape, _, rfl, rfl⟩
    exact ⟨found, shape⟩
  · rintro ⟨found, shape⟩
    exact ⟨axes, found, output, shape, (), rfl, rfl⟩

theorem keeps_poolInto (reduce : List α → α) (g : PoolGeometry) (input : Grid α) :
    Grid.Keeps (poolInto reduce g input) := by
  intro output
  unfold poolInto
  split <;> rfl

theorem carryOut_shape (input output : Grid α) (moves : List (Nat × Nat)) :
    (carryOut input moves output).shape = output.shape := by
  unfold carryOut
  induction moves generalizing output with
  | nil => rfl
  | cons move moves ih =>
      rw [List.foldl_cons, ih]
      split <;> rfl

theorem keeps_batchToSpace (block : List Nat) (crops : List (Nat × Nat)) (input : Grid α) :
    Grid.Keeps fun output => output.overwrite (batchToSpace block crops input output) := by
  apply Grid.keeps_overwrite
  intro output filled h
  simp only [batchToSpace, bind_eq_ok, ensure_eq_ok] at h
  obtain ⟨-, -, -, -, -, -, h⟩ := h
  split at h
  · cases h
  · simp only [bind_eq_ok, pure_eq_ok] at h
    obtain ⟨-, -, -, -, -, -, -, -, -, -, rfl⟩ := h
    exact carryOut_shape input output _

/-! ## Products and indices -/

/-- Only an output of the shape of the product is filled. -/
theorem productGeometry_eq_ok {adjointA adjointB : Bool} {a b output : Shape}
    {geometry : MatrixGeometry} :
    productGeometry adjointA adjointB a b output = .ok geometry ↔
      MatrixGeometry.ofShapes a b adjointA adjointB = .ok geometry ∧
        output = geometry.outputShape := by
  simp only [productGeometry, bind_eq_ok, ensure_eq_ok, pure_eq_ok]
  constructor
  · rintro ⟨_, found, -, same, rfl⟩
    exact ⟨found, same⟩
  · rintro ⟨found, same⟩
    exact ⟨geometry, found, (), same, rfl⟩

theorem shape_of_multiply [Number α] {geometry : MatrixGeometry} {adjointA adjointB : Bool}
    {a b output filled : Grid α} {position : List Nat}
    (done : multiply geometry adjointA adjointB a b output position = .ok filled) :
    filled.shape = output.shape := by
  simp only [multiply, bind_eq_ok, pure_eq_ok] at done
  obtain ⟨_, _, _, _, rfl⟩ := done
  exact Grid.shape_writeAll _ _

theorem shape_of_products [Number α] {geometry : MatrixGeometry} {adjointA adjointB : Bool}
    {a b output filled : Grid α}
    (done : products geometry adjointA adjointB a b output = .ok filled) :
    filled.shape = output.shape := by
  unfold products at done
  generalize Shape.indices geometry.batch = positions at done
  induction positions generalizing output with
  | nil =>
      cases done
      rfl
  | cons position positions ih =>
      rw [List.foldlM_cons, bind_eq_ok] at done
      obtain ⟨next, first, rest⟩ := done
      exact (ih rest).trans (shape_of_multiply first)

theorem keeps_batchMatMul [Number α] (adjointA adjointB : Bool) (a b : Grid α) :
    Grid.Keeps (batchMatMul adjointA adjointB a b) := by
  intro output
  unfold batchMatMul
  split
  · rfl
  · split
    · rfl
    next done => exact shape_of_products done

def extremumIndex (type : ElementType) (axis : Nat) (largest : Bool) (input : Grid type.Element)
    (place : Nat) : Nat :=
  firstExtremum (fun a b => if largest then type.less b a else type.less a b)
    (lane input axis (Shape.index (input.shape.eraseIdx axis) place))

/-- The checks of the kernel pass, and the output type has an element for every index. -/
theorem argExtremum_eq_ok {type indexType : ElementType} {axis : Nat} {largest : Bool}
    {input : Grid type.Element} {output : Grid indexType.Element} :
    (argExtremum type indexType axis largest input output).1 = .ok () ↔
      (axis < input.shape.length ∧ 0 < input.shape.getD axis 0 ∧
        output.shape = input.shape.eraseIdx axis) ∧
      ∀ place < output.values.size,
        (indexType.ofIndex? (extremumIndex type axis largest input place)).isSome = true := by
  -- after the checks, filling ends at the first index that the output type has no element for
  unfold argExtremum
  dsimp only
  split
  next fault failed =>
    constructor
    · intro h
      cases h
    · rintro ⟨⟨inRange, nonempty, same⟩, -⟩
      rw [ensure, if_pos inRange, ensure, if_pos nonempty, ensure, if_pos same] at failed
      cases failed
  next passed =>
    simp only [bind_eq_ok, ensure_eq_ok, exists_and_left, exists_const] at passed
    split
    next found =>
      rw [List.find?_eq_none] at found
      refine ⟨fun _ => ⟨passed, fun place inside => ?_⟩, fun _ => rfl⟩
      have some := found _ (List.mem_map.mpr ⟨place, List.mem_range.mpr inside, rfl⟩)
      simpa [extremumIndex, Option.isSome_iff_ne_none] using some
    next i found =>
      refine ⟨fun h => by simp at h, ?_⟩
      rintro ⟨-, all⟩
      obtain ⟨place, inside, rfl⟩ := List.mem_map.mp (List.mem_of_find?_eq_some found)
      have none := List.find?_some found
      have some := all place (List.mem_range.mp inside)
      rw [Option.isNone_iff_eq_none] at none
      rw [extremumIndex, none] at some
      cases some

/-- The index that is found is that of one of the values. -/
theorem firstExtremumFrom_lt (better : α → α → Bool) (best : α) {found next : Nat} (values : List α)
    (earlier : found < next) :
    firstExtremumFrom better best found next values < next + values.length := by
  induction values generalizing best found next with
  | nil => exact earlier
  | cons x values ih =>
      rw [firstExtremumFrom, List.length_cons, Nat.add_comm values.length, ← Nat.add_assoc]
      split
      · exact ih x (by omega)
      · exact ih best (by omega)

/-- The index that is found lies on the axis. -/
theorem extremumIndex_lt {type : ElementType} {axis : Nat} {input : Grid type.Element}
    (nonempty : 0 < input.shape.getD axis 0) (largest : Bool) (place : Nat) :
    extremumIndex type axis largest input place < input.shape.getD axis 0 := by
  have short : (lane input axis (Shape.index (input.shape.eraseIdx axis) place)).length ≤
      input.shape.getD axis 0 := by
    rw [lane]
    exact Nat.le_trans (List.length_filterMap_le _ _) (Nat.le_of_eq List.length_range)
  unfold extremumIndex
  generalize lane input axis (Shape.index (input.shape.eraseIdx axis) place) = values at short
  cases values with
  | nil => exact nonempty
  | cons x values =>
      have index := firstExtremumFrom_lt
        (fun a b => if largest then type.less b a else type.less a b) x values Nat.one_pos
      rw [List.length_cons] at short
      exact Nat.lt_of_lt_of_le index (by omega)

/-- The kernel succeeds if the output type has an element for every index on the axis. -/
theorem argExtremum_succeeds {type indexType : ElementType} {axis : Nat} {input : Grid type.Element}
    {output : Grid indexType.Element} (inRange : axis < input.shape.length)
    (nonempty : 0 < input.shape.getD axis 0) (fits : output.shape = input.shape.eraseIdx axis)
    (indices : ∀ i < input.shape.getD axis 0, (indexType.ofIndex? i).isSome = true)
    (largest : Bool) : (argExtremum type indexType axis largest input output).1 = .ok () :=
  argExtremum_eq_ok.mpr ⟨⟨inRange, nonempty, fits⟩,
    fun place _ => indices _ (extremumIndex_lt nonempty largest place)⟩

/-- Indices on an axis of at most `2 ^ 31` values are elements of both index types. -/
theorem ofIndex?_isSome {type : ElementType} {i : Nat} (index : type = .i32 ∨ type = .i64)
    (small : i < 2 ^ 31) : (type.ofIndex? i).isSome = true := by
  rcases index with rfl | rfl
  · have fits : i < Nat.pow 2 31 := small
    simp only [ElementType.ofIndex?, if_pos fits, Option.isSome_some]
  · have fits : i < Nat.pow 2 63 := Nat.lt_trans small (by decide)
    simp only [ElementType.ofIndex?, if_pos fits, Option.isSome_some]

theorem keeps_argExtremum (type indexType : ElementType) (axis : Nat) (largest : Bool)
    (input : Grid type.Element) :
    Grid.Keeps (argExtremum type indexType axis largest input) := by
  intro output
  unfold argExtremum
  dsimp only
  split
  · rfl
  · split <;> rfl

end TensorGraph.Kernel
