import Mathlib.Data.List.Induction
import TensorGraph.Proofs.Following

/-!
# Reshaping twice

A tensor in a new shape keeps its values as long as their number is the same, and is zeroed
otherwise. So a tensor that has been through a list of shapes stays what it is if it goes through
the same shapes again: either their numbers of positions are all the same and nothing is ever lost,
or the values are lost both times (`Tensor.reshape_again`). The same is true of a graph whose
tensors are resized one after the other (`Graph.resizeAll_again`), also if some are resized several
times.
-/

namespace TensorGraph

/-! ## Tensors -/

namespace Tensor

variable {x y z : Tensor} {shape : Shape} {shapes : List Shape}

/-- The shape decides on the number of values. -/
theorem size_of_shape (same : x.shape = y.shape) : x.size = y.size := by
  have counted := x.grid.counted
  rw [show x.grid.shape = y.grid.shape from same, y.grid.counted] at counted
  exact (Option.some.inj counted).symm

/-- A tensor in its own shape stays as it is. -/
theorem resize_shape (x : Tensor) : x.resize x.shape = .ok x := by
  obtain ⟨type, ⟨shape, values, counted⟩⟩ := x
  unfold resize
  split
  next none => exact absurd (none.symm.trans counted) (by simp)
  next n found =>
    have fits : n = values.size := Option.some.inj (found.symm.trans counted)
    exact dif_pos fits

/-- Where the values have been kept, only the shape is another one, and the next shape does not
depend on it. -/
theorem resize_of_size (made : x.resize shape = .ok y) (kept : y.size = x.size) (next : Shape) :
    y.resize next = x.resize next := by
  unfold resize at made
  split at made
  · cases made
  next n counted =>
    split at made
    next fits =>
      cases made
      rfl
    next other =>
      cases made
      exact absurd (by simpa [size] using kept) other

/-- Where the values have been lost, it does not matter what they were. -/
theorem resize_of_size_ne (made : x.resize shape = .ok y) (lost : y.size ≠ x.size)
    (type : z.type = x.type) (lost' : y.size ≠ z.size) : z.resize shape = .ok y := by
  unfold resize at made ⊢
  split at made
  · cases made
  next n counted =>
    split at made
    next fits =>
      cases made
      exact absurd rfl lost
    next other =>
      cases made
      obtain ⟨type', grid⟩ := z
      obtain rfl : type' = x.type := type
      exact dif_neg (by simpa [size] using lost')

/-- The last shape is given after all others. -/
theorem reshape_concat : (shapes ++ [shape]).foldlM resize x = .ok y ↔
    ∃ u, shapes.foldlM resize x = .ok u ∧ u.resize shape = .ok y := by
  simp only [List.foldlM_append, List.foldlM_cons, List.foldlM_nil, bind_eq_ok, pure_eq_ok,
    exists_eq_right]

/-- Every tensor goes through the shapes that one of them goes through, and has the last one in the
end. -/
theorem reshape_succeeds (made : shapes.foldlM resize x = .ok y) (z : Tensor) :
    ∃ w, shapes.foldlM resize z = .ok w ∧ w.type = z.type ∧ (shapes ≠ [] → w.shape = y.shape) := by
  induction shapes using List.reverseRecOn generalizing y with
  | nil => exact ⟨z, rfl, rfl, fun some => absurd rfl some⟩
  | append_singleton shapes shape ih =>
      obtain ⟨u, before, made⟩ := reshape_concat.mp made
      obtain ⟨w, before', type, -⟩ := ih before
      have shaped := (resize_eq_ok made).2
      have counted : shape.count? = some y.grid.values.size := shaped ▸ y.grid.counted
      obtain ⟨w', made'⟩ := resize_succeeds w counted
      obtain ⟨type', shaped'⟩ := resize_eq_ok made'
      exact ⟨w', reshape_concat.mpr ⟨w, before', made'⟩, type'.trans type,
        fun _ => shaped'.trans shaped.symm⟩

/-- A tensor that has been through some shapes may go through them again and is what it was. -/
theorem reshape_again (made : shapes.foldlM resize x = .ok y) : shapes.foldlM resize y = .ok y := by
  induction shapes using List.reverseRecOn generalizing y with
  | nil => rfl
  | append_singleton shapes shape ih =>
      obtain ⟨u, before, last⟩ := reshape_concat.mp made
      have again := ih before
      obtain ⟨w, through, type, shaped⟩ := reshape_succeeds before y
      refine reshape_concat.mpr ⟨w, through, ?_⟩
      obtain ⟨types, shaped'⟩ := resize_eq_ok last
      by_cases none : shapes = []
      · -- there is only the one shape
        subst none
        cases through
        rw [← shaped']
        exact resize_shape y
      · by_cases kept : y.size = u.size
        · -- the values have been kept, so the first shape leads back to where it led before
          have same : w = u := by
            obtain ⟨first, rest, rfl⟩ := List.exists_cons_of_ne_nil none
            rw [List.foldlM_cons, resize_of_size last kept, ← List.foldlM_cons, again] at through
            exact (Except.ok.inj through).symm
          rw [same, last]
        · apply resize_of_size_ne last kept (type.trans types)
          rwa [size_of_shape (shaped none)]

end Tensor

/-! ## Graphs -/

namespace Graph

def resizeAll (moves : List (Nat × Shape)) : Action Graph Unit :=
  forM moves fun move => resize move.1 move.2

/-- The shapes that a tensor is given on the way. -/
def shapesOf (moves : List (Nat × Shape)) (id : Nat) : List Shape :=
  moves.filterMap fun move => if move.1 = id then some move.2 else none

variable {g g' : Graph} {moves : List (Nat × Shape)} {move : Nat × Shape}

theorem shapesOf_cons_self : shapesOf (move :: moves) move.1 = move.2 :: shapesOf moves move.1 := by
  simp [shapesOf]

/-- A move of another tensor does not matter. -/
theorem shapesOf_cons_of_ne {id : Nat} (other : move.1 ≠ id) :
    shapesOf (move :: moves) id = shapesOf moves id := by
  simp [shapesOf, other]

/-- Resizing a tensor is putting the tensor in its new shape where it was, also where it has that
shape already. -/
theorem put_of_resize {id : Nat} {shape : Shape}
    (done : (resize id shape).outcome g = (some (), g')) :
    ∃ x y, g.changeable id = .ok x ∧ x.resize shape = .ok y ∧ g.put id y = g' := by
  simp only [resize, Action.outcome_bind, Action.outcome_get, Action.proceed_some,
    Action.outcome_lift, Action.proceed_toOption] at done
  obtain ⟨x, free, done⟩ := done
  split at done
  next same =>
    cases done
    subst same
    exact ⟨x, x, free, x.resize_shape, put_self free⟩
  next =>
    simp only [Action.outcome_bind, Action.outcome_record, Action.proceed_some,
      Action.outcome_lift, Action.proceed_toOption, Action.outcome_set, Prod.mk.injEq] at done
    obtain ⟨y, made, -, same⟩ := done
    exact ⟨x, y, free, made, same⟩

theorem resizeAll_touches (moves : List (Nat × Shape)) :
    (resizeAll moves).KeepsTo (Touches (moves.map Prod.fst)) :=
  .forM fun _ inside => resize_keepsTo _ (List.mem_map_of_mem inside)

/-- Each tensor goes through the shapes that are meant for it. -/
theorem reshape_of_resizeAll (done : (resizeAll moves).outcome g = (some (), g')) {id : Nat}
    {entry : TensorEntry} (found : g.tensors[id]? = some entry) :
    ∃ y, (shapesOf moves id).foldlM Tensor.resize entry.tensor = .ok y ∧
      g'.tensors[id]? = some { entry with tensor := y } := by
  induction moves generalizing g entry with
  | nil =>
      cases done
      exact ⟨entry.tensor, rfl, found⟩
  | cons move moves ih =>
      rw [resizeAll, List.forM_cons, Action.outcome_bind] at done
      obtain ⟨⟨⟩, t, first, rest⟩ := Action.proceed_eq_some done
      obtain ⟨x, y, free, made, rfl⟩ := put_of_resize first
      by_cases here : move.1 = id
      · subst here
        obtain ⟨entry', found', -, rfl⟩ := changeable_eq_ok.mp free
        cases found.symm.trans found'
        have put : (g.put move.1 y).tensors[move.1]? = some { entry with tensor := y } := by
          rw [getElem?_put, if_pos rfl, found]
          rfl
        obtain ⟨z, onward, final⟩ := ih rest put
        refine ⟨z, ?_, final⟩
        rw [shapesOf_cons_self, List.foldlM_cons, made]
        exact onward
      · obtain ⟨z, onward, final⟩ := ih rest (by rw [getElem?_put, if_neg here, found])
        refine ⟨z, ?_, final⟩
        rwa [shapesOf_cons_of_ne here]

/-- Resizing the same tensors to the same shapes in the same order changes nothing any more, also
where a tensor has been given several shapes on the way. -/
theorem resizeAll_again (done : (resizeAll moves).outcome g = (some (), g')) :
    (resizeAll moves).outcome g' = (some (), g') := by
  have keeps (move : Nat × Shape) := resize_sameFrame move.1 move.2
  have again : ∃ t, (resizeAll moves).outcome g' = (some (), t) := by
    refine Action.forM_of_steps (R := SameFrame) (fun move inside t frame => ?_)
      (fun move _ => keeps move) (.refl g')
    -- in the first pass the tensor could be given this shape
    obtain ⟨u, u', -, first, onward⟩ := Action.forM_succeeds (R := SameFrame) done
      (fun move _ => keeps move) inside
    obtain ⟨x, free, shaped⟩ := resize_eq_some first
    obtain ⟨x', free'⟩ := (onward.trans frame).changeable_isSome free
    have counted : move.2.count? = some x.size := by
      rw [← shaped]
      exact x.grid.counted
    exact resize_succeeds free' counted
  obtain ⟨t, again⟩ := again
  have frame : SameFrame g' t := ((resizeAll_touches moves).related again).toSameFrame
  have same : t = g' := by
    refine frame.eq fun id => ?_
    cases found : g'.tensors[id]? with
    | none =>
        have headers := frame.headers id
        rwa [found, Option.map_none, Option.map_eq_none_iff] at headers
    | some entry' =>
        have touched := (resizeAll_touches moves).related done
        obtain ⟨entry, before, -⟩ := touched.toSameFrame.symm.exists_entry found
        obtain ⟨y, through, after⟩ := reshape_of_resizeAll done before
        cases found.symm.trans after
        obtain ⟨z, through', after'⟩ := reshape_of_resizeAll again found
        rw [Tensor.reshape_again through, Except.ok.injEq] at through'
        rw [after', ← through']
  rw [same] at again
  exact again

end Graph

end TensorGraph
