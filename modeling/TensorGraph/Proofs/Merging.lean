import TensorGraph.Proofs.Kernels

/-!
# Merging shapes

Broadcasting orders shapes: a shape is below the shapes that it broadcasts to, and `Shape.broadcast`
finds least upper bounds. All of that is in one equivalence, `Shape.exists_broadcast?_iff`: the
merged shape exists and broadcasts to `t` exactly if all the shapes that went into it do. What is
merged only depends on which shapes there are, and any of them may be merged first.

On a single axis the order is that of `Shape.Stretches`, with the extent 1 below all others, and
`Shape.mergeExtents` finds the least upper bound there.
-/

namespace TensorGraph.Shape

/-! ## One axis -/

/-- An extent that can be repeated to give another one. -/
def Stretches (extent wanted : Nat) : Prop := extent = 1 ∨ extent = wanted

/-- Two extents merge into the least one that they both stretch to. -/
theorem exists_mergeExtents_iff {a b wanted : Nat} :
    (∃ merged ∈ mergeExtents a b, Stretches merged wanted) ↔
      Stretches a wanted ∧ Stretches b wanted := by
  unfold mergeExtents Stretches
  split
  · simp only [Option.mem_some_iff, exists_eq_left']
    omega
  · split
    · simp only [Option.mem_some_iff, exists_eq_left']
      omega
    · split
      · simp only [Option.mem_some_iff, exists_eq_left']
        omega
      · simp only [Option.not_mem_none, false_and, exists_false, false_iff]
        omega

/-- The extents of shapes on an axis merge into the least one that all of them stretch to. -/
theorem exists_mergedExtent_iff {shapes : List Shape} {axis start wanted : Nat} :
    (∃ merged ∈ shapes.foldlM (fun wanted s => mergeExtents wanted (s.extentFromInnermost axis))
        start, Stretches merged wanted) ↔
      Stretches start wanted ∧ ∀ s ∈ shapes, Stretches (s.extentFromInnermost axis) wanted := by
  induction shapes generalizing start with
  | nil => simp
  | cons s shapes ih =>
      rw [List.forall_mem_cons, ← and_assoc, ← exists_mergeExtents_iff, List.foldlM_cons]
      constructor
      · rintro ⟨merged, found, stretches⟩
        obtain ⟨first, here, rest⟩ := Option.bind_eq_some_iff.mp found
        obtain ⟨grown, others⟩ := ih.mp ⟨merged, rest, stretches⟩
        exact ⟨⟨first, here, grown⟩, others⟩
      · rintro ⟨⟨first, here, grown⟩, others⟩
        obtain ⟨merged, rest, stretches⟩ := ih.mpr ⟨grown, others⟩
        exact ⟨merged, Option.bind_eq_some_iff.mpr ⟨first, here, rest⟩, stretches⟩

/-! ## The order of shapes -/

variable {s t u : Shape} {shapes shapes' : List Shape}

/-- A shape of no higher rank broadcasts to another one if it stretches on every axis; on those that
it does not have its extent is 1. -/
theorem broadcastsTo_iff : s.BroadcastsTo t ↔ s.length ≤ t.length ∧
    ∀ axis, Stretches (s.extentFromInnermost axis) (t.extentFromInnermost axis) := by
  refine and_congr_right fun rank => ?_
  simp only [extentFromInnermost, List.getD_eq_getElem?_getD]
  constructor
  · intro extents axis
    cases own : s.reverse[axis]? with
    | none => exact .inl rfl
    | some extent =>
        obtain ⟨inside, -⟩ := List.getElem?_eq_some_iff.mp own
        rw [List.length_reverse] at inside
        obtain ⟨wanted, other⟩ : ∃ wanted, t.reverse[axis]? = some wanted :=
          ⟨_, List.getElem?_eq_getElem (by rw [List.length_reverse]; omega)⟩
        have pair := List.getElem?_zip_eq_some (z := (extent, wanted)).mpr ⟨own, other⟩
        rw [other]
        exact extents _ (List.mem_of_getElem? pair)
  · rintro extents ⟨extent, wanted⟩ mem
    obtain ⟨axis, found⟩ := List.mem_iff_getElem?.mp mem
    obtain ⟨own, other⟩ := List.getElem?_zip_eq_some.mp found
    have stretches := extents axis
    rwa [own, other] at stretches

theorem BroadcastsTo.refl (s : Shape) : s.BroadcastsTo s :=
  broadcastsTo_iff.mpr ⟨Nat.le_refl _, fun _ => .inr rfl⟩

/-- What broadcasts in two steps does so in one. -/
theorem BroadcastsTo.trans (h : s.BroadcastsTo t) (h' : t.BroadcastsTo u) : s.BroadcastsTo u := by
  rw [broadcastsTo_iff] at h h' ⊢
  refine ⟨Nat.le_trans h.1 h'.1, fun axis => ?_⟩
  have below := h.2 axis
  have above := h'.2 axis
  unfold Stretches at *
  omega

/-- Two shapes broadcast to each other only if they are the same. -/
theorem BroadcastsTo.antisymm (h : s.BroadcastsTo t) (h' : t.BroadcastsTo s) : s = t := by
  rw [broadcastsTo_iff] at h h'
  have rank : s.length = t.length := Nat.le_antisymm h.1 h'.1
  rw [← List.reverse_inj]
  apply List.ext_getElem (by simp [rank])
  intro axis inside inside'
  have below := h.2 axis
  have above := h'.2 axis
  simp only [extentFromInnermost, List.getD_eq_getElem?_getD, List.getElem?_eq_getElem inside,
    List.getElem?_eq_getElem inside', Option.getD_some] at below above
  unfold Stretches at below above
  omega

/-! ## Least upper bounds -/

/-- The largest rank is the least upper bound of all ranks. -/
theorem largestRank_le_iff {rank : Nat} :
    largestRank shapes ≤ rank ↔ ∀ s ∈ shapes, s.length ≤ rank := by
  have from_start (start : Nat) :
      shapes.foldl (fun rank s => max rank s.length) start ≤ rank ↔
        start ≤ rank ∧ ∀ s ∈ shapes, s.length ≤ rank := by
    induction shapes generalizing start with
    | nil => simp
    | cons s shapes ih => rw [List.foldl_cons, ih, List.forall_mem_cons, Nat.max_le, and_assoc]
  exact (from_start 0).trans (by simp)

/-- There is a merged shape that broadcasts to `t` exactly if all the shapes broadcast to `t`. -/
theorem exists_broadcast?_iff :
    (∃ merged ∈ broadcast? shapes, merged.BroadcastsTo t) ↔ ∀ s ∈ shapes, s.BroadcastsTo t := by
  constructor
  · rintro ⟨merged, found, below⟩ s inside
    have bound := broadcastsTo_of_broadcast (by rw [broadcast, found]; rfl) inside
    exact bound.trans below
  · intro bounds
    simp only [broadcastsTo_iff] at bounds
    have extents (axis : Nat) :
        ∃ merged ∈ mergedExtent shapes axis, Stretches merged (t.extentFromInnermost axis) :=
      exists_mergedExtent_iff.mpr ⟨.inl rfl, fun s inside => (bounds s inside).2 axis⟩
    choose extent found stretches using extents
    have merged : (List.range (largestRank shapes)).mapM (mergedExtent shapes) =
        some ((List.range (largestRank shapes)).map extent) := by
      rw [mapM_eq_some, List.forall₂_map_right_iff, List.forall₂_same]
      exact fun axis _ => found axis
    refine ⟨_, Option.map_eq_some_iff.mpr ⟨_, merged, rfl⟩, broadcastsTo_iff.mpr ⟨?_, ?_⟩⟩
    · rw [List.length_reverse, List.length_map, List.length_range, largestRank_le_iff]
      exact fun s inside => (bounds s inside).1
    · intro axis
      rw [extentFromInnermost, List.reverse_reverse, List.getD_eq_getElem?_getD, List.getElem?_map]
      by_cases inside : axis < largestRank shapes
      · rw [List.getElem?_range inside]
        exact stretches axis
      · rw [List.getElem?_eq_none (by rw [List.length_range]; omega)]
        exact .inl rfl

/-- Optional shapes that are below the same shapes are equal. -/
theorem eq_of_bounds {merged merged' : Option Shape}
    (h : ∀ t : Shape, (∃ s ∈ merged, s.BroadcastsTo t) ↔ ∃ s ∈ merged', s.BroadcastsTo t) :
    merged = merged' := by
  have below {x y : Option Shape} {s : Shape}
      (h : ∀ t : Shape, (∃ s ∈ x, s.BroadcastsTo t) → ∃ s ∈ y, s.BroadcastsTo t)
      (found : x = some s) : ∃ s' ∈ y, s'.BroadcastsTo s :=
    h s ⟨s, found, .refl s⟩
  cases found : merged with
  | none =>
      cases found' : merged' with
      | none => rfl
      | some s' =>
          obtain ⟨_, none, -⟩ := below (fun t => (h t).mpr) found'
          rw [found] at none
          cases none
  | some s =>
      obtain ⟨s', found', low⟩ := below (fun t => (h t).mp) found
      obtain ⟨s'', found'', high⟩ := below (fun t => (h t).mpr) found'
      obtain rfl : s = s'' := by simpa [found] using found''
      rw [found', low.antisymm high]

/-- What `exists_broadcast?_iff` says of the merged shape alone. -/
theorem exists_broadcast_iff :
    (∃ merged ∈ (broadcast shapes).toOption, merged.BroadcastsTo t) ↔
      ∀ s ∈ shapes, s.BroadcastsTo t := by
  rw [broadcast, toOption_require, exists_broadcast?_iff]

/-! ## Merging in parts -/

/-- A computation in two steps has a value with a property if the second step has one from a value
of the first. -/
theorem exists_bind_iff {α β : Type} {e : Except Fault α} {next : α → Except Fault β}
    {p : β → Prop} : (∃ b ∈ (e >>= next).toOption, p b) ↔
      ∃ a ∈ e.toOption, ∃ b ∈ (next a).toOption, p b := by
  simp only [toOption_bind, Option.mem_def, Option.bind_eq_some_iff]
  grind

/-- Groups of shapes are merged, and then what has come out of them. -/
theorem exists_mergedGroups_iff {groups : List (List Shape)} :
    (∃ merged ∈ (groups.mapM broadcast >>= broadcast).toOption, merged.BroadcastsTo t) ↔
      ∀ s ∈ groups.flatten, s.BroadcastsTo t := by
  rw [exists_bind_iff]
  simp only [exists_broadcast_iff, List.mem_flatten]
  constructor
  · rintro ⟨parts, merged, bounds⟩ s ⟨group, listed, inside⟩
    obtain ⟨part, mem, found⟩ :=
      exists_right_of_forall₂ (mapM_eq_ok.mp (toOption_eq_some.mp merged)) listed
    exact (broadcastsTo_of_broadcast found inside).trans (bounds part mem)
  · intro bounds
    have parts : ∀ group ∈ groups, ∃ part, broadcast group = .ok part ∧ part.BroadcastsTo t := by
      intro group listed
      obtain ⟨part, found, below⟩ :=
        exists_broadcast_iff.mpr fun s inside => bounds s ⟨group, listed, inside⟩
      exact ⟨part, toOption_eq_some.mp found, below⟩
    choose! part found below using parts
    have merged : groups.mapM broadcast = .ok (groups.map part) := by
      rw [mapM_eq_ok, List.forall₂_map_right_iff, List.forall₂_same]
      exact found
    exact ⟨_, toOption_eq_some.mpr merged, List.forall_mem_map.mpr below⟩

/-- Shapes are merged one after the other into a first one. -/
theorem exists_mergedInto_iff {start : Shape} :
    (∃ merged ∈ (shapes.foldlM (fun merged s => broadcast [merged, s]) start).toOption,
        merged.BroadcastsTo t) ↔
      start.BroadcastsTo t ∧ ∀ s ∈ shapes, s.BroadcastsTo t := by
  induction shapes generalizing start with
  | nil => simp [List.foldlM_nil]
  | cons s shapes ih =>
      have first : (∃ merged ∈ (broadcast [start, s]).toOption, merged.BroadcastsTo t) ↔
          start.BroadcastsTo t ∧ s.BroadcastsTo t := exists_broadcast_iff.trans (by simp)
      rw [List.forall_mem_cons, ← and_assoc, ← first, List.foldlM_cons, exists_bind_iff]
      simp only [ih, ← and_assoc, exists_and_right]

/-- Merging finds the least shape that all the shapes broadcast to, and it finds one if there is
any. It makes no difference in which order the shapes are given or how often, nor if groups of them
are merged first, or one after the other. -/
theorem broadcast_least (shapes : List Shape) :
    ((∃ merged, broadcast shapes = .ok merged) ↔ ∃ t : Shape, ∀ s ∈ shapes, s.BroadcastsTo t) ∧
    (∀ merged, broadcast shapes = .ok merged → (∀ s ∈ shapes, s.BroadcastsTo merged) ∧
      ∀ t : Shape, (∀ s ∈ shapes, s.BroadcastsTo t) → merged.BroadcastsTo t) ∧
    (∀ shapes' : List Shape, (∀ s, s ∈ shapes' ↔ s ∈ shapes) →
      (broadcast shapes').toOption = (broadcast shapes).toOption) ∧
    (∀ groups : List (List Shape), groups.flatten = shapes →
      (groups.mapM broadcast >>= broadcast).toOption = (broadcast shapes).toOption) ∧
    (shapes.foldlM (fun merged s => broadcast [merged, s]) []).toOption =
      (broadcast shapes).toOption := by
  refine ⟨⟨?_, ?_⟩, fun merged found => ⟨?_, ?_⟩, ?_, ?_, ?_⟩
  · rintro ⟨merged, found⟩
    exact ⟨merged, fun s => broadcastsTo_of_broadcast found⟩
  · rintro ⟨t, bounds⟩
    obtain ⟨merged, found, -⟩ := exists_broadcast_iff.mpr bounds
    exact ⟨merged, toOption_eq_some.mp found⟩
  · exact fun s => broadcastsTo_of_broadcast found
  · intro t bounds
    obtain ⟨merged', found', below⟩ := exists_broadcast_iff.mpr bounds
    rw [found] at found'
    cases found'
    exact below
  · -- shapes with the same upper bounds have the same least one
    intro shapes' same
    apply eq_of_bounds
    intro t
    simp only [exists_broadcast_iff, same]
  · rintro groups rfl
    apply eq_of_bounds
    intro t
    rw [exists_broadcast_iff, exists_mergedGroups_iff]
  · apply eq_of_bounds
    intro t
    rw [exists_broadcast_iff, exists_mergedInto_iff]
    exact and_iff_right ⟨Nat.zero_le _, by simp⟩

end TensorGraph.Shape
