import Mathlib.Data.List.TakeWhile
import TensorGraph.Proofs.Covering
import TensorGraph.Proofs.Multiplying

/-!
# Kernels overwrite their outputs

A tensor that keeps its number of elements keeps its old values when it is given another shape, so a
kernel may find anything in its output. Nothing of that is left where it succeeds: of the output, a
kernel depends on the shape alone (`Grid.Overwrites`). Most kernels do so for all shapes. Weaving
batches into space leaves those places alone that no move goes to, and overwrites outputs of the
inferred shape only.
-/

namespace TensorGraph

namespace Grid

variable {α β : Type}

/-- Where the kernel succeeds on an output of the shape, it does with every other output of the
shape what it does with this one: of what the output held before, nothing is left. -/
def Overwrites (shape : Shape) (kernel : Grid β → Written α β) : Prop :=
  ∀ output output' : Grid β, output.shape = shape → output'.shape = shape →
    ∀ a, (kernel output).1 = .ok a → kernel output' = kernel output

/-- A kernel overwrites its output if it makes the same grid of all outputs of the shape. -/
theorem overwrites_overwrite {shape : Shape} {kernel : Grid β → Except Fault (Grid β)}
    (h : ∀ output output' filled : Grid β, output.shape = shape → output'.shape = shape →
      kernel output = .ok filled → kernel output' = .ok filled) :
    Overwrites shape fun output => output.overwrite (kernel output) := by
  intro output output' same same' a done
  dsimp only at done ⊢
  cases found : kernel output with
  | error fault =>
      rw [found] at done
      cases done
  | ok filled => rw [h output output' filled same same' found]; rfl

/-- What a place is filled with may depend on what it held, as long as it does not within the
grid. -/
theorem mapIdx_congr {output output' : Grid α} {f f' : Nat → α → β}
    (shape : output'.shape = output.shape)
    (same : ∀ place < output.shape.positions, ∀ old old', f' place old' = f place old) :
    output'.mapIdx f' = output.mapIdx f := by
  apply eq_of_values (show (output'.mapIdx f').shape = (output.mapIdx f).shape from shape)
  have size : output'.values.size = output.values.size := by rw [size_eq, size_eq, shape]
  apply Array.ext
  · simp [mapIdx, size]
  · intro place within within'
    simp only [mapIdx, Array.getElem_mapIdx]
    apply same
    rw [← size_eq]
    simpa [mapIdx] using within'

/-- If no value is missing, each is written to its place. -/
theorem get?_fillWhile {output : Grid α} {position : List Nat} {values : List (Option α)}
    {value : α} (inside : output.shape.Contains position)
    (all : ∀ value ∈ values, value.isSome = true)
    (found : values[output.shape.offset position]? = some (some value)) :
    (output.fillWhile values).get? position = some value := by
  obtain ⟨within, present⟩ := List.getElem?_eq_some_iff.mp found
  have place := Shape.offset_lt inside
  rw [← size_eq] at place
  rw [get?_of_contains (g := output.fillWhile values) inside, shape_fillWhile, fillWhile,
    List.takeWhile_eq_self_iff.mpr all]
  simp [mapIdx, place, within, present]

/-- Where no value is missing, all places are filled. -/
theorem fillWhile_congr {output output' : Grid α} {values : List (Option α)}
    (shape : output'.shape = output.shape) (count : values.length = output.shape.positions)
    (all : ∀ value ∈ values, value.isSome = true) :
    output'.fillWhile values = output.fillWhile values := by
  apply mapIdx_congr shape
  intro place inside old old'
  rw [← count] at inside
  obtain ⟨value, found⟩ := Option.isSome_iff_exists.mp (all _ (List.getElem_mem inside))
  have present : values.toArray.getD place none = some value := by simp [inside, found]
  rw [List.takeWhile_eq_self_iff.mpr all, if_pos inside, if_pos inside, present]
  rfl

end Grid

namespace Kernel

variable {α : Type} {shape : Shape}

/-! ## Element by element -/

theorem overwrites_unary (f : α → α) (input : Grid α) :
    Grid.Overwrites shape fun output => output.overwrite (unary f input output) := by
  apply Grid.overwrites_overwrite
  intro output output' filled same same' done
  obtain ⟨fits, rfl⟩ := unary_eq_ok.mp done
  exact unary_eq_ok.mpr ⟨by rw [fits, same, same'], rfl⟩

/-- Every position of the output has its value in an operand that is broadcast to it. -/
theorem getD_project {s : Shape} {a : Grid α} {place : Nat} (h : a.shape.BroadcastsTo s)
    (inside : place < s.positions) (old old' : α) :
    a.getD (a.shape.offset (a.shape.project (s.index place))) old =
      a.getD (a.shape.offset (a.shape.project (s.index place))) old' :=
  Grid.getD_of_lt (Shape.offset_lt (Shape.contains_project h (Shape.contains_index inside))) _ _

theorem overwrites_zipBroadcast (f : α → α → α) (a b : Grid α) :
    Grid.Overwrites shape fun output => output.overwrite (zipBroadcast f a b output) := by
  apply Grid.overwrites_overwrite
  intro output output' filled same same' done
  simp only [zipBroadcast, bind_eq_ok, ensure_eq_ok, pure_eq_ok, same] at done
  obtain ⟨_, left, _, right, rfl⟩ := done
  simp only [zipBroadcast, bind_eq_ok, ensure_eq_ok, pure_eq_ok, same']
  refine ⟨(), left, (), right, Grid.mapIdx_congr (same'.trans same.symm) ?_⟩
  intro place inside old old'
  rw [same] at inside
  rw [getD_project left inside old' old, getD_project right inside old' old]

/-- Clamping does not change that a kernel of pairs overwrites its output. -/
theorem overwrites_binary [FloatLike α] (f : α → α → α) (range : ClampRange α) (a b : Grid α) :
    Grid.Overwrites shape fun output => output.overwrite (binary f range a b output) :=
  overwrites_zipBroadcast (fun x y => range.clamp (f x y)) a b

theorem overwrites_addN [Number α] (inputs : List (Grid α)) :
    Grid.Overwrites shape fun output => output.overwrite (addN inputs output) := by
  apply Grid.overwrites_overwrite
  intro output output' filled same same' done
  match inputs, done with
  | first :: others, done =>
    simp only [addN, bind_eq_ok, pure_eq_ok, same] at done
    obtain ⟨_, fit, rfl⟩ := done
    simp only [addN, bind_eq_ok, pure_eq_ok, same']
    refine ⟨(), fit, Grid.mapIdx_congr (same'.trans same.symm) ?_⟩
    intro place inside old old'
    simp only [List.forM_eq_forM, forM_eq_ok, ensure_eq_ok] at fit
    have read (input : Grid α) (mem : input ∈ first :: others) :
        input.getD place old' = input.getD place old := by
      apply Grid.getD_of_lt
      rwa [fit input mem, ← same]
    rw [read first List.mem_cons_self]
    apply List.foldl_ext
    intro sum input mem
    rw [read input (List.mem_cons_of_mem _ mem)]

/-! ## Matrices -/

theorem overwrites_batchMatMul [Number α] (adjointA adjointB : Bool) (a b : Grid α) :
    Grid.Overwrites shape (batchMatMul adjointA adjointB a b) := by
  rintro output output' same rfl geometry done
  obtain ⟨found, fits⟩ := batchMatMul_eq_ok.mp done
  obtain ⟨filled, run, kept, values⟩ := batchMatMul_fills found fits
  obtain ⟨filled', run', kept', values'⟩ := batchMatMul_fills found (same.symm.trans fits)
  rw [run, run', Grid.eq_of_get? (kept'.trans kept.symm)]
  intro position inside
  rw [kept'] at inside
  rw [values position inside, values' position inside]

/-! ## Indices of extrema -/

section Extremum

variable {type indexType : ElementType} {axis : Nat} {largest : Bool} {input : Grid type.Element}

/-- A kernel that succeeds has filled the output with the indices that it has found. -/
theorem argExtremum_of_ok {output : Grid indexType.Element}
    (done : (argExtremum type indexType axis largest input output).1 = .ok ()) :
    argExtremum type indexType axis largest input output =
      (.ok (), output.fillWhile ((List.range output.values.size).map fun place =>
        indexType.ofIndex? (extremumIndex type axis largest input place))) := by
  unfold argExtremum at done ⊢
  dsimp only at done ⊢
  split at done
  · cases done
  next passed =>
    split at done
    · simp only [List.map_map]
      rfl
    · cases done

/-- A kernel that succeeds does the same with every input of the shape in which it finds the same
indices, whatever the output held. -/
theorem argExtremum_congr {input' : Grid type.Element} {output output' : Grid indexType.Element}
    (shape : input'.shape = input.shape) (same : output'.shape = output.shape)
    (indices : ∀ place, extremumIndex type axis largest input' place =
      extremumIndex type axis largest input place)
    (done : (argExtremum type indexType axis largest input output).1 = .ok ()) :
    argExtremum type indexType axis largest input' output' =
      argExtremum type indexType axis largest input output := by
  have size : output'.values.size = output.values.size := by
    rw [Grid.size_eq, Grid.size_eq, same]
  have done' : (argExtremum type indexType axis largest input' output').1 = .ok () := by
    rw [argExtremum_eq_ok] at done ⊢
    simpa only [shape, same, size, indices] using done
  rw [argExtremum_of_ok done, argExtremum_of_ok done', size]
  simp only [indices]
  rw [Grid.fillWhile_congr same (by simp [Grid.size_eq])]
  intro value mem
  obtain ⟨place, inside, rfl⟩ := List.mem_map.mp mem
  exact (argExtremum_eq_ok.mp done).2 place (List.mem_range.mp inside)

/-- Indices are written at all places, or the kernel fails. -/
theorem overwrites_argExtremum :
    Grid.Overwrites shape (argExtremum type indexType axis largest input) :=
  fun _ _ same same' _ done => argExtremum_congr rfl (same'.trans same.symm) (fun _ => rfl) done

end Extremum

/-! ## Windows -/

section Windows

variable {g : PoolGeometry} {rows columns : PaddedAxis}

/-- If there are batches, every output position has its window. -/
theorem windowAt_of_checkWindows {batches channels : Nat}
    (h : checkWindows g rows columns batches channels = .ok ()) (some : batches ≠ 0) {oy ox : Nat}
    (row : oy < rows.output) (column : ox < columns.output) :
    ∃ window, windowAt g rows columns channels oy ox = .ok window := by
  rw [checkWindows, if_neg some, List.forM_eq_forM, forM_eq_ok] at h
  have inRow := h oy (List.mem_range.mpr row)
  simp only [bind_eq_ok, forM_eq_ok] at inRow
  obtain ⟨_, -, inRow⟩ := inRow
  obtain ⟨window, found, -⟩ := inRow ox (List.mem_range.mpr column)
  exact ⟨window, found⟩

/-- The output of a pooling kernel has batches, rows, columns and channels. -/
theorem shape_of_outputShape {input shape : Shape} (axes : g.axes input = .ok (rows, columns))
    (h : g.outputShape input = .ok shape) :
    shape = [input.getD 0 0, rows.output, columns.output, input.getD 3 0] := by
  simp only [PoolGeometry.outputShape, bind_eq_ok, axes, pure_eq_ok, Except.ok.injEq] at h
  obtain ⟨_, rfl, rfl⟩ := h
  rfl

/-- Where all windows are there, no place is left out. -/
theorem reducedAt_isSome {reduce : List α → α} {input : Grid α}
    (axes : outputAxes g input.shape shape = .ok (rows, columns))
    (h : checkWindows g rows columns (input.shape.getD 0 0) (input.shape.getD 3 0) = .ok ())
    {place : Nat} (inside : place < shape.positions) :
    (reducedAt reduce g rows columns input shape place).isSome = true := by
  obtain ⟨axes, inferred⟩ := outputAxes_eq_ok.mp axes
  obtain rfl := shape_of_outputShape axes inferred
  obtain ⟨batch, oy, ox, channel, position, some, row, column, -⟩ :=
    Shape.index_of_lt inside
  obtain ⟨window, found⟩ :=
    windowAt_of_checkWindows h (Nat.ne_of_gt (Nat.zero_lt_of_lt some)) row column
  simp only [reducedAt, position, found, toOption_ok, Option.map_some, Option.isSome_some]

theorem overwrites_poolInto (reduce : List α → α) (g : PoolGeometry) (input : Grid α) :
    Grid.Overwrites shape (poolInto reduce g input) := by
  intro output output' same same' _ done
  have size : output'.values.size = output.values.size := by
    rw [Grid.size_eq, Grid.size_eq, same, same']
  simp only [poolInto, same, same', size] at done ⊢
  cases axes : outputAxes g input.shape shape with
  | error fault =>
      rw [axes] at done
      cases done
  | ok found =>
      rw [axes] at done
      dsimp only at done ⊢
      rw [Grid.fillWhile_congr (same'.trans same.symm) (by simp [Grid.size_eq])]
      intro value mem
      obtain ⟨place, inside, rfl⟩ := List.mem_map.mp mem
      rw [List.mem_range, Grid.size_eq, same] at inside
      exact reducedAt_isSome axes done inside

end Windows

/-! ## Weaving -/

/-- A weaving overwrites an output of just the woven shape, as every place in it is reached then. -/
theorem overwrites_batchToSpace {block : List Nat} {crops : List (Nat × Nat)} {input : Grid α}
    (h : Builtin.batchToSpaceShape input.shape block crops = .ok shape)
    (addressable : input.shape.Addressable) :
    Grid.Overwrites shape fun output =>
      output.overwrite (batchToSpace block crops input output) := by
  apply Grid.overwrites_overwrite
  rintro output output' filled rfl same' done
  exact batchToSpace_congr h addressable same' done

end Kernel

end TensorGraph
