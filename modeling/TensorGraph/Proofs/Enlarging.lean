import Mathlib.Algebra.Order.BigOperators.GroupWithZero.List
import Mathlib.Algebra.Order.Ring.Nat
import TensorGraph.Proofs.Parity
import TensorGraph.Proofs.Positions

/-!
# Enlarged and cropped shapes

The shape of a woven output is calculated with sizes, which are words, and every step is checked.
`Weaves` says what the shape is to be when the same is calculated with integers of any magnitude,
and `Weavable` says when all sizes on the way are words. The two describe the shape rule of the host
completely (`batchToSpaceShape_iff`): no check hides behind another one that has come before, not
even where there are no batches or an axis is empty.

The engine calculates the shape in a way of its own, and also reads the block sizes and the crops on
its own. Both find the same, and what they read is exactly what the tensors hold.
-/

namespace TensorGraph

open Substitution (Descriptor)

namespace Builtin

/-- The output has the extents of the input, woven and cropped: batches are divided among the places
of a block; on each axis that has a block, the extent is multiplied by the size of the block and
loses both crops; the axes behind stay as they are. -/
structure Weaves (input : Shape) (block : List Nat) (crops : List (Nat × Nat)) (output : Shape) :
    Prop where
  rank : output.length = input.length
  batches : (output.getD 0 0 : Int) = input.getD 0 0 / block.prod
  woven : ∀ i < block.length, (output.getD (i + 1) 0 : Int) =
    input.getD (i + 1) 0 * block.getD i 0 - (crops.getD i (0, 0)).1 - (crops.getD i (0, 0)).2
  behind : output.drop (block.length + 1) = input.drop (block.length + 1)

/-- Blocks and crops suit the input: there is no remainder of batches, no more is cropped than there
is, and the size of a whole block and all enlarged extents are words. -/
structure Weavable (input : Shape) (block : List Nat) (crops : List (Nat × Nat)) : Prop where
  product : block.prod < 2 ^ 64
  batches : block.prod ∣ input.getD 0 0
  enlarged : ∀ i < block.length, input.getD (i + 1) 0 * block.getD i 0 < 2 ^ 64
  cropped : ∀ i < block.length,
    (crops.getD i (0, 0)).1 + (crops.getD i (0, 0)).2 ≤ input.getD (i + 1) 0 * block.getD i 0

variable {input output : Shape} {block : List Nat} {crops : List (Nat × Nat)}

/-! ## The size of a block -/

/-- Multiplied by positive numbers, a product only grows. So if one of the partial products is no
word, the last one is none. -/
theorem foldlM_mul?_iff (positive : ∀ b ∈ block, 1 ≤ b) {start product : Nat}
    (word : start < 2 ^ 64) : block.foldlM Size.mul? start = some product ↔
      start * block.prod < 2 ^ 64 ∧ start * block.prod = product := by
  induction block generalizing start with
  | nil =>
      simp only [List.foldlM_nil, Option.pure_def, Option.some.injEq, List.prod_nil, Nat.mul_one]
      exact (and_iff_right word).symm
  | cons b block ih =>
      rw [List.forall_mem_cons] at positive
      obtain ⟨first, others⟩ := positive
      have least : 1 ≤ block.prod := List.prod_pos others
      simp only [List.foldlM_cons, Option.bind_eq_bind, Option.bind_eq_some_iff, Size.mul?,
        Size.ofNat?_eq_some, List.prod_cons, ← Nat.mul_assoc]
      constructor
      · rintro ⟨_, ⟨small, rfl⟩, rest⟩
        exact (ih others small).mp rest
      · intro fits
        have small : start * b < 2 ^ 64 :=
          Nat.lt_of_le_of_lt (Nat.le_mul_of_pos_right _ least) fits.1
        exact ⟨_, ⟨small, rfl⟩, (ih others small).mpr fits⟩

/-! ## Axis by axis -/

/-- The recursion over the axes takes each of them on its own. -/
theorem wovenExtents_iff {axis : Nat} {extents woven : List Nat}
    (pairs : crops.length = block.length) (enough : block.length ≤ extents.length) :
    wovenExtents axis extents block crops = .ok woven ↔ woven.length = extents.length ∧
      (∀ i < block.length, wovenExtent (axis + i) (extents.getD i 0) (block.getD i 0)
        (crops.getD i (0, 0)) = .ok (woven.getD i 0)) ∧
      woven.drop block.length = extents.drop block.length := by
  induction block generalizing axis extents crops woven with
  | nil =>
      simp only [wovenExtents, Except.ok.injEq, List.length_nil, List.drop_zero, Nat.not_lt_zero,
        false_implies, implies_true, true_and]
      exact ⟨fun same => ⟨congrArg _ same.symm, same.symm⟩, fun same => same.2.symm⟩
  | cons b block ih =>
      obtain ⟨crop, crops, rfl⟩ := List.exists_cons_of_length_eq_add_one pairs
      obtain ⟨extent, extents, rfl⟩ := List.exists_cons_of_length_pos (l := extents)
        (Nat.lt_of_lt_of_le (Nat.succ_pos _) enough)
      rw [List.length_cons, List.length_cons, Nat.succ_inj] at pairs
      have rest {woven : List Nat} := @ih crops (axis + 1) extents woven pairs
        (Nat.le_of_succ_le_succ enough)
      simp only [wovenExtents, List.head?_cons, List.tail_cons, bind_eq_ok, checked_eq_ok,
        pure_eq_ok, Option.some.injEq, exists_eq_left', rest, List.length_cons, List.drop_succ_cons,
        Nat.forall_lt_succ_left', List.getD_cons_zero, List.getD_cons_succ, Nat.add_zero,
        Nat.add_assoc, Nat.add_comm 1]
      constructor
      · rintro ⟨w, first, woven, ⟨rank, others, behind⟩, rfl⟩
        exact ⟨congrArg Nat.succ rank, ⟨first, others⟩, behind⟩
      · rintro ⟨rank, ⟨first, others⟩, behind⟩
        obtain ⟨w, woven, rfl⟩ := List.exists_cons_of_length_eq_add_one rank
        exact ⟨w, first, woven, ⟨Nat.succ_inj.mp rank, others, behind⟩, rfl⟩

theorem wovenExtents_succeeds {k : Nat} {extents : List Nat}
    (pairs : crops.length = block.length) (enough : block.length ≤ extents.length)
    (each : ∀ i < block.length, ∃ w, wovenExtent (k + i) (extents.getD i 0) (block.getD i 0)
      (crops.getD i (0, 0)) = .ok w) : ∃ woven, wovenExtents k extents block crops = .ok woven := by
  choose! w done using each
  refine ⟨(List.range block.length).map w ++ extents.drop block.length,
    (wovenExtents_iff pairs enough).mpr ⟨?_, fun i inside => ?_, ?_⟩⟩
  · simp only [List.length_append, List.length_map, List.length_range, List.length_drop]
    omega
  · rw [done i inside]
    simp [List.getD_eq_getElem?_getD, List.getElem?_append_left, inside]
  · exact List.drop_left' (by simp)

/-! ## The whole shape -/

/-- The shape rule finds the shape that weaving gives over the integers, as long as all sizes on the
way are words. -/
theorem batchToSpaceShape_iff (positive : ∀ b ∈ block, 1 ≤ b) (pairs : crops.length = block.length)
    (enough : block.length < input.length) : batchToSpaceShape input block crops = .ok output ↔
      Weavable input block crops ∧ Weaves input block crops output := by
  obtain ⟨batch, extents, rfl⟩ := List.exists_cons_of_length_pos (Nat.zero_lt_of_lt enough)
  have size {product : Nat} := @foldlM_mul?_iff block positive 1 product (by decide)
  have axes {woven : List Nat} := @wovenExtents_iff block crops 1 extents woven pairs
    (Nat.le_of_lt_succ enough)
  simp only [Nat.one_mul] at size
  simp only [batchToSpaceShape_eq_ok, size, List.head?_cons, List.tail_cons, Option.some.injEq,
    axes, Kernel.wovenExtent_eq_ok]
  constructor
  · rintro ⟨_, _, woven, ⟨word, rfl⟩, rfl, -, multiple, ⟨rank, each, behind⟩, rfl⟩
    refine ⟨⟨word, Nat.dvd_of_mod_eq_zero multiple, fun i inside => (each i inside).1,
      fun i inside => (each i inside).2.1⟩, congrArg Nat.succ rank, Int.natCast_ediv _ _,
      fun i inside => ?_, behind⟩
    obtain ⟨-, cropped, same⟩ := each i inside
    rw [List.getD_cons_succ, List.getD_cons_succ, ← same, ← Int.natCast_mul]
    omega
  · rintro ⟨⟨word, multiple, enlarged, cropped⟩, rank, batches, woven, behind⟩
    obtain ⟨divided, extents', rfl⟩ := List.exists_cons_of_length_eq_add_one rank
    have least : 1 ≤ block.prod := List.prod_pos positive
    refine ⟨_, _, extents', ⟨word, rfl⟩, rfl, Nat.ne_of_gt least, Nat.mod_eq_zero_of_dvd multiple,
      ⟨Nat.succ_inj.mp rank, fun i inside => ⟨enlarged i inside, cropped i inside, ?_⟩, behind⟩, ?_⟩
    · have exact := woven i inside
      have fits := cropped i inside
      rw [List.getD_cons_succ, List.getD_cons_succ, ← Int.natCast_mul] at exact
      rw [List.getD_cons_succ] at fits
      omega
    · rw [List.getD_cons_zero, List.getD_cons_zero, ← Int.natCast_ediv, Int.natCast_inj] at batches
      rw [batches]

/-- Where blocks and crops suit the input, there is a shape. -/
theorem batchToSpaceShape_succeeds (positive : ∀ b ∈ block, 1 ≤ b)
    (pairs : crops.length = block.length) (enough : block.length < input.length)
    (suits : Weavable input block crops) :
    ∃ output, batchToSpaceShape input block crops = .ok output := by
  obtain ⟨batch, extents, rfl⟩ := List.exists_cons_of_length_pos (Nat.zero_lt_of_lt enough)
  obtain ⟨woven, found⟩ := wovenExtents_succeeds (k := 1) pairs (Nat.le_of_lt_succ enough)
    fun i inside => ⟨_, Kernel.wovenExtent_eq_ok.mpr
      ⟨suits.enlarged i inside, suits.cropped i inside, rfl⟩⟩
  have least : 1 ≤ block.prod := List.prod_pos positive
  refine ⟨_, batchToSpaceShape_eq_ok.mpr ⟨block.prod, batch, woven, ?_, rfl, Nat.ne_of_gt least,
    Nat.mod_eq_zero_of_dvd suits.batches, found, rfl⟩⟩
  exact (foldlM_mul?_iff positive (by decide)).mpr
    ⟨by simpa using suits.product, Nat.one_mul _⟩

/-! ## Reading blocks and crops -/

/-- Pairs of integers that are not negative, put in a row again. -/
theorem flatMap_pairs {values : List Int} (even : values.length % 2 = 0)
    (nonnegative : ∀ c ∈ values, 0 ≤ c) :
    (pairs values).flatMap (fun crop => [(crop.1 : Int), (crop.2 : Int)]) = values := by
  induction values using pairs.induct with
  | case1 before after rest ih =>
      simp only [List.forall_mem_cons] at nonnegative
      obtain ⟨first, second, others⟩ := nonnegative
      rw [List.length_cons, List.length_cons] at even
      rw [pairs, List.flatMap_cons, ih (by omega) others, Int.toNat_of_nonneg first,
        Int.toNat_of_nonneg second]
      rfl
  | case2 values short =>
      rcases values with _ | ⟨before, _ | ⟨after, rest⟩⟩
      · rfl
      · simp at even
      · exact absurd rfl (short before after rest)

/-- The block sizes and crops that a node is run with are those that its tensors hold. They are what
the shape rule asks for. -/
theorem batchToSpaceParameters_exact {g : Graph} {node : Node}
    (h : batchToSpaceParameters g node = .ok (block, crops)) :
    (∃ b ∈ node.inputs[1]?, readIntegers g b = .ok (block.map Int.ofNat)) ∧
    (∃ c ∈ node.inputs[2]?,
      readIntegers g c = .ok (crops.flatMap fun crop => [(crop.1 : Int), (crop.2 : Int)])) ∧
    (∀ b ∈ block, 1 ≤ b) ∧ crops.length = block.length ∧
    ∃ a ∈ node.inputs[0]?, ∃ input, g.shape a = .ok input ∧ block.length < input.length := by
  obtain ⟨a, input, first, found, rank, blocks, count⟩ := Kernel.lengths_of_parameters h
  have positive := positive_of_parameters h
  simp only [batchToSpaceParameters, bind_eq_ok, ensure_eq_ok, pure_eq_ok, Node.input_eq_ok,
    Prod.mk.injEq] at h
  obtain ⟨-, -, shape, -, -, -, b, second, blockValues, read, c, third, cropValues, read', -, -, -,
    pairs, -, least, -, nonnegative, rfl, rfl⟩ := h
  refine ⟨⟨b, second, ?_⟩, ⟨c, third, ?_⟩, positive, count, a, first, input, found, by omega⟩
  · have same : blockValues.map (Int.ofNat ∘ Int.toNat) = blockValues.map id :=
      List.map_congr_left fun value inside =>
        Int.toNat_of_nonneg (Int.le_trans Int.one_nonneg (least value inside))
    rw [read, List.map_map, same, List.map_id]
  · rw [read', flatMap_pairs (by omega) nonnegative]

/-! ## Exact shapes -/

/-- The host's shape rule is exact. It is never aborted and finds a shape if and only if blocks and
crops suit the input, and then the shape is the one that weaving gives over the integers.

The engine reads the same block sizes and crops from the tensors, or none where the host finds none,
and it infers the same shape from them, or none. What is read is what the tensors hold, and it is
such that the rule applies. -/
theorem batchToSpaceShape_exact :
    (∀ (input : Shape) (block : List Nat) (crops : List (Nat × Nat)),
      (∀ b ∈ block, 1 ≤ b) → crops.length = block.length → block.length < input.length →
      batchToSpaceShape input block crops ≠ .error .aborted ∧
      ((∃ output, batchToSpaceShape input block crops = .ok output) ↔
        Weavable input block crops) ∧
      ∀ output, batchToSpaceShape input block crops = .ok output →
        Weaves input block crops output) ∧
    ∀ (g : Graph) (node : Node) (d : Descriptor), d.inputs = node.inputs →
      (d.batchToSpaceParameters g).toOption = (batchToSpaceParameters g node).toOption ∧
      (d.batchToSpaceShape g).toOption =
        (do
          let (block, crops) ← batchToSpaceParameters g node
          batchToSpaceShape (← g.shape (← node.input 0)) block crops :
            Except Fault Shape).toOption ∧
      ∀ block crops, batchToSpaceParameters g node = .ok (block, crops) →
        (∃ b ∈ node.inputs[1]?, readIntegers g b = .ok (block.map Int.ofNat)) ∧
        (∃ c ∈ node.inputs[2]?,
          readIntegers g c = .ok (crops.flatMap fun crop => [(crop.1 : Int), (crop.2 : Int)])) ∧
        (∀ b ∈ block, 1 ≤ b) ∧ crops.length = block.length ∧
        ∃ a ∈ node.inputs[0]?, ∃ input, g.shape a = .ok input ∧ block.length < input.length := by
  refine ⟨fun input block crops positive pairs enough => ⟨?_, ⟨?_, ?_⟩, ?_⟩,
    fun g node d same => ⟨?_, ?_, fun block crops => batchToSpaceParameters_exact⟩⟩
  · exact fun aborted => isFailure_batchToSpaceShape enough positive _ aborted rfl
  · rintro ⟨output, found⟩
    exact ((batchToSpaceShape_iff positive pairs enough).mp found).1
  · exact batchToSpaceShape_succeeds positive pairs enough
  · exact fun output found => ((batchToSpaceShape_iff positive pairs enough).mp found).2
  · ext parameters
    rw [toOption_eq_some, toOption_eq_some, batchToSpaceParameters_agree same]
  · ext shape
    rw [toOption_eq_some, toOption_eq_some, batchToSpaceShape_agrees same]
    simp only [bind_eq_ok, Node.input_eq_ok]
    constructor
    · rintro ⟨block, crops, a, input, parameters, first, found, woven⟩
      exact ⟨(block, crops), parameters, a, first, input, found, woven⟩
    · rintro ⟨⟨block, crops⟩, parameters, a, first, input, found, woven⟩
      exact ⟨block, crops, a, input, parameters, first, found, woven⟩

/-- Eight images of three rows and five columns, woven in blocks of four, lose a row in front and
two behind, and three columns behind. Blocks of `2 ^ 63 - 1` rows are too large for images of three
rows, even if there are none. What a node reads with its descriptor comes from its tensors. -/
theorem cropped_exactly :
    let g : Graph := ⟨[⟨"x", ⟨.f32, ⟨[0, 3, 1], #[], rfl⟩⟩, false⟩,
      ⟨"block", ⟨.i64, ⟨[1], #[2], rfl⟩⟩, true⟩, ⟨"crops", ⟨.i64, ⟨[1, 2], #[1, 0], rfl⟩⟩, true⟩,
      ⟨"y", Tensor.empty .f32, false⟩], [], [0], [3]⟩
    let d : Descriptor := ⟨.batchToSpaceNd, .none, .none, [0, 1, 2], [3]⟩
    batchToSpaceShape [8, 3, 5, 7] [2, 2] [(1, 2), (0, 3)] = .ok [2, 3, 7, 7] ∧
      Weaves [8, 3, 5, 7] [2, 2] [(1, 2), (0, 3)] [2, 3, 7, 7] ∧
      (¬ ∃ output, batchToSpaceShape [0, 3, 1] [2 ^ 63 - 1] [(0, 0)] = .ok output) ∧
      d.batchToSpaceParameters g = .ok ([2], [(1, 0)]) ∧ d.batchToSpaceShape g = .ok [0, 5, 1] := by
  intro g d
  have shape : batchToSpaceShape [8, 3, 5, 7] [2, 2] [(1, 2), (0, 3)] = .ok [2, 3, 7, 7] := rfl
  obtain ⟨-, -, exact⟩ := batchToSpaceShape_exact.1 [8, 3, 5, 7] [2, 2] [(1, 2), (0, 3)]
    (by decide) rfl (by decide)
  obtain ⟨-, suits, -⟩ := batchToSpaceShape_exact.1 [0, 3, 1] [2 ^ 63 - 1] [(0, 0)]
    (by decide) rfl (by decide)
  obtain ⟨parameters, inferred, -⟩ := batchToSpaceShape_exact.2 g
    ⟨0, "weave", .batchToSpaceNd, none, [0, 1, 2], [3]⟩ d rfl
  refine ⟨shape, exact _ shape, fun found => ?_, ?_, ?_⟩
  · have word := (suits.mp found).enlarged 0 (by decide)
    exact absurd word (by decide)
  · exact toOption_eq_some.mp (parameters.trans rfl)
  · exact toOption_eq_some.mp (inferred.trans rfl)

end Builtin

end TensorGraph
