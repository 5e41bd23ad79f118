import Mathlib.Data.Set.Card
import TensorGraph.Proofs.Kernels

/-!
# Output positions and padding

The number of output positions along an axis is calculated by a division that rounds up or down, but
it is meant as a count: without padding, of the windows that lie in the input, and with padding, of
the strides that begin in it. `Padding.mem_starts_iff` says that the positions counted are just the
ones before the number, and where the last window begins and ends follows from there. The padding is
what the last window lacks, and no less would do; an odd one has its larger half behind. As long as
the input and a stride, and the input and a window, are words together, no word overflows on the way
(`Padding.axis_pads`).
-/

namespace TensorGraph

namespace Padding

variable {padding : Padding} {input kernel dilation stride field output : Nat}

/-! ## Output positions -/

/-- The positions that a window has on an input: all at which it ends in the input, or, if padding
makes up for what it lacks there, all at which its stride begins in the input. -/
def starts (padding : Padding) (input field stride : Nat) : Set Nat :=
  match padding with
  | same => {i | i * stride < input}
  | valid => {i | i * stride + field ≤ input}

/-- The positions are the ones before the number of them. -/
theorem mem_starts_iff (h : padding.outputExtent input field stride = .ok output)
    (positive : 0 < stride) {i : Nat} : i ∈ padding.starts input field stride ↔ i < output := by
  cases padding with
  | valid =>
      simp only [outputExtent, bind_eq_ok, checked_eq_ok, pure_eq_ok, Size.add?,
        Size.ofNat?_eq_some] at h
      obtain ⟨_, ⟨-, rfl⟩, rfl⟩ := h
      rw [starts, Set.mem_ofPred_eq, Nat.lt_iff_add_one_le, Nat.le_div_iff_mul_le positive,
        Nat.add_mul, Nat.one_mul]
      omega
  | same =>
      cases h
      have parts := Nat.div_add_mod' input stride
      have rest := Nat.mod_lt input positive
      rw [starts, Set.mem_ofPred_eq]
      -- only the stride that the input ends in may begin there or not
      rcases Nat.lt_trichotomy i (input / stride) with before | rfl | behind
      · have next := Nat.mul_le_mul_right stride (Nat.succ_le_of_lt before)
        rw [Nat.succ_mul] at next
        split <;> omega
      · split <;> omega
      · have next := Nat.mul_le_mul_right stride (Nat.succ_le_of_lt behind)
        rw [Nat.succ_mul] at next
        split <;> omega

/-- So their number is the number of output positions. -/
theorem encard_starts (h : padding.outputExtent input field stride = .ok output)
    (positive : 0 < stride) : (padding.starts input field stride).encard = output := by
  have before : padding.starts input field stride = {i | i < output} :=
    Set.ext fun _ => mem_starts_iff h positive
  rw [before, Set.Nat.encard_range]

/-- The number is found if input and stride are a word together. -/
theorem outputExtent_succeeds (reach : input + stride < 2 ^ 64) :
    ∃ output, padding.outputExtent input field stride = .ok output := by
  cases padding with
  | same => exact ⟨_, rfl⟩
  | valid =>
      refine bind_succeeds ⟨input + stride, ?_⟩ fun _ _ => ⟨_, rfl⟩
      rw [checked_eq_ok, Size.add?, Size.ofNat?_eq_some]
      exact ⟨reach, rfl⟩

/-! ## Padding -/

/-- What the window at the last output position has outside of the input. -/
def lacking (input field stride output : Nat) : Nat :=
  if output = 0 then 0 else (output - 1) * stride + field - input

/-- The axis with the given padding, divided between its two sides. -/
def divided (input output total : Nat) : PaddedAxis :=
  ⟨input, output, total / 2, total - total / 2⟩

theorem before_add_after_divided (total : Nat) :
    (divided input output total).before + (divided input output total).after = total := by
  simp only [divided]
  omega

/-- All that is checked and found on the way to the output positions and the padding. -/
theorem axis_eq_ok_iff {axis : PaddedAxis} (covers : (kernel - 1) * dilation + 1 = field) :
    padding.axis input kernel dilation stride = .ok axis ↔
      (0 < stride ∧ 0 < kernel ∧ 0 < dilation ∧ field < 2 ^ 64) ∧
        ∃ output, padding.outputExtent input field stride = .ok output ∧
          (0 < output → (output - 1) * stride + field < 2 ^ 64) ∧
          divided input output (lacking input field stride output) = axis := by
  subst covers
  simp only [Padding.axis, bind_eq_ok, ensure_eq_ok, checked_eq_ok, Size.mul?, Size.add?,
    Size.ofNat?_eq_some]
  constructor
  · rintro ⟨_, positive, _, nonempty, _, ⟨-, rfl⟩, _, ⟨word, rfl⟩, output, extent, h⟩
    refine ⟨⟨positive, nonempty.1, nonempty.2, word⟩, output, extent, ?_⟩
    split at h
    next none =>
      cases h
      exact ⟨fun some => absurd none (Nat.ne_of_gt some), by rw [lacking, if_pos none]; rfl⟩
    next some =>
      simp only [bind_eq_ok, checked_eq_ok, Size.ofNat?_eq_some, pure_eq_ok] at h
      obtain ⟨_, ⟨-, rfl⟩, _, ⟨stop, rfl⟩, rfl⟩ := h
      exact ⟨fun _ => stop, by rw [lacking, if_neg some]; rfl⟩
  · rintro ⟨⟨positive, nonempty, apart, word⟩, output, extent, stop, rfl⟩
    refine ⟨(), positive, (), ⟨nonempty, apart⟩, _, ⟨by omega, rfl⟩, _, ⟨word, rfl⟩, output,
      extent, ?_⟩
    split
    next none => rw [lacking, if_pos none]; rfl
    next some =>
      have stop := stop (Nat.pos_of_ne_zero some)
      simp only [bind_eq_ok, checked_eq_ok, Size.ofNat?_eq_some, pure_eq_ok]
      exact ⟨_, ⟨by omega, rfl⟩, _, ⟨stop, rfl⟩, by rw [lacking, if_neg some]; rfl⟩

/-- The last output position begins a field in the input. -/
theorem lastStart_lt (h : padding.outputExtent input field stride = .ok output)
    (positive : 0 < stride) (nonempty : 0 < field) (counted : 0 < output) :
    (output - 1) * stride < input := by
  have last := (mem_starts_iff h positive).mpr (Nat.sub_one_lt_of_lt counted)
  cases padding with
  | same => exact last
  | valid => exact Nat.lt_of_lt_of_le (Nat.lt_add_of_pos_right nonempty) last

/-- Without padding the last window ends in the input. -/
theorem lastStop_le (h : valid.outputExtent input field stride = .ok output)
    (positive : 0 < stride) (counted : 0 < output) : (output - 1) * stride + field ≤ input :=
  (mem_starts_iff h positive).mpr (Nat.sub_one_lt_of_lt counted)

/-- With padding there is an output position for every stride that begins in the input. -/
theorem le_strides (h : same.outputExtent input field stride = .ok output)
    (positive : 0 < stride) : input ≤ output * stride :=
  Nat.le_of_not_lt fun more => Nat.lt_irrefl _ ((mem_starts_iff h positive).mp more)

theorem lacking_of_valid (h : valid.outputExtent input field stride = .ok output)
    (positive : 0 < stride) : lacking input field stride output = 0 := by
  unfold lacking
  split
  next => rfl
  next some => exact Nat.sub_eq_zero_of_le (lastStop_le h positive (Nat.pos_of_ne_zero some))

/-- The padding makes up for what the last window lacks, and no less does. -/
theorem isLeast_lacking (counted : 0 < output) :
    IsLeast {t | (output - 1) * stride + field ≤ input + t}
      (lacking input field stride output) := by
  rw [lacking, if_neg (Nat.ne_of_gt counted)]
  constructor
  · rw [Set.mem_ofPred_eq]
    exact le_add_tsub
  · intro t enough
    rw [Set.mem_ofPred_eq] at enough
    exact Nat.sub_le_iff_le_add'.mpr enough

/-- The output positions along an axis are the ones that the window has there, and the padding is
the least with which the last window ends in the padded input. -/
theorem axis_pads (padding : Padding) (input kernel dilation stride field : Nat)
    (nonempty : 0 < kernel) (apart : 0 < dilation) (positive : 0 < stride)
    (covers : (kernel - 1) * dilation + 1 = field) (reach : input + stride < 2 ^ 64)
    (padded : input + field < 2 ^ 64) :
    ∃ axis, padding.axis input kernel dilation stride = .ok axis ∧ axis.input = input ∧
      (padding.starts input field stride).encard = axis.output ∧
      (axis.output = 0 → axis.before + axis.after = 0) ∧
      (0 < axis.output → IsLeast {t | (axis.output - 1) * stride + field ≤ input + t}
        (axis.before + axis.after)) ∧
      (axis.after = axis.before ∨ axis.after = axis.before + 1) ∧
      (padding = .valid → axis.before = 0 ∧ axis.after = 0) := by
  obtain ⟨output, extent⟩ := @outputExtent_succeeds padding input stride field reach
  refine ⟨divided input output (lacking input field stride output), ?_, rfl,
    encard_starts extent positive, fun none => ?_, fun some => ?_, ?_, ?_⟩
  · have word : field < 2 ^ 64 := by omega
    refine (axis_eq_ok_iff covers).mpr ⟨⟨positive, nonempty, apart, word⟩, output, extent, ?_, rfl⟩
    -- the last window begins in the input, so it stops before a whole field has followed
    intro some
    have last := lastStart_lt extent positive (by omega) some
    omega
  · rw [before_add_after_divided]
    exact if_pos none
  · rw [before_add_after_divided]
    exact isLeast_lacking some
  · simp only [divided]
    omega
  · rintro rfl
    rw [lacking_of_valid extent positive]
    exact ⟨rfl, rfl⟩

/-- Three values, every second of an input of six, cover five positions. There are three windows at
every second position, and the last one lacks three. -/
theorem dilated_axis_pads :
    same.axis 6 3 2 2 = .ok ⟨6, 3, 1, 2⟩ ∧ {i | i * 2 < 6}.encard = 3 ∧
      IsLeast {t | 2 * 2 + 5 ≤ 6 + t} 3 := by
  obtain ⟨axis, found, -, counted, -, least, -⟩ := axis_pads same 6 3 2 2 5 (by decide)
    (by decide) (by decide) rfl (by decide) (by decide)
  have calculated : same.axis 6 3 2 2 = .ok ⟨6, 3, 1, 2⟩ := rfl
  cases found.symm.trans calculated
  exact ⟨calculated, counted, least (by decide)⟩

end Padding

end TensorGraph
