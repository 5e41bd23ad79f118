import TensorGraph.Proofs.Combining
import TensorGraph.Proofs.Pooled

/-!
# Results without an activation

An operator without an activation clamps its results all the same, to the range of all finite
numbers. That leaves finite results alone, and not-a-number as well, but not infinities: they become
the largest or the most negative finite number (`ElementType.clamp_none`). So sums, differences,
products and means without an activation are the plain ones where these are not infinite. Adding up
any number of tensors does not clamp, and differs from adding two of them in infinite sums.
-/

namespace TensorGraph

open Substitution (Descriptor)

/-! ## Infinite numbers -/

namespace Numeric.Floating

variable {f : Format}

def isInfinite : Floating f → Bool
  | infinity _ => true
  | _ => false

/-- The number itself, or the finite number next to it if it is infinite. -/
def saturate : Floating f → Floating f
  | infinity negative => ofUnits negative f.largest
  | x => x

theorem ofUnits_largest (fits : f.Fits f.largest) (negative : Bool) :
    ofUnits negative f.largest = finite negative f.largest fits := dif_pos fits

/-- Only infinite numbers are changed. -/
theorem saturate_eq_self_iff (fits : f.Fits f.largest) {x : Floating f} :
    x.saturate = x ↔ x.isInfinite = false := by
  cases x with
  | nan | finite => exact iff_of_true rfl rfl
  | infinity negative =>
      rw [saturate, ofUnits_largest fits]
      simp [isInfinite]

/-- They become the outermost finite ones. -/
theorem saturate_of_isInfinite {x : Floating f} (infinite : x.isInfinite = true) :
    x.saturate = lowest ∨ x.saturate = highest := by
  cases x with
  | nan | finite => cases infinite
  | infinity negative =>
      cases negative
      · exact .inr rfl
      · exact .inl rfl

/-! Only infinite numbers lie outside of the range of all finite ones. -/

theorem signed_within {units : Nat} (within : f.Fits units) (negative : Bool) :
    -(f.largest : Int) ≤ signed negative units ∧ signed negative units ≤ f.largest := by
  have small := within.1
  cases negative
  · simp only [signed, Bool.false_eq_true, if_false]
    omega
  · simp only [signed, if_true]
    omega

/-- Only negative infinity lies below all finite numbers. -/
theorem less_lowest_iff (fits : f.Fits f.largest) {x : Floating f} :
    x.less lowest = true ↔ x = infinity true := by
  rw [lowest, ofUnits_largest fits]
  cases x with
  | nan => exact iff_of_false Bool.false_ne_true (by simp)
  | infinity negative =>
      cases negative <;> simp [less, order, signed]
      all_goals omega
  | finite negative units within =>
      refine iff_of_false ?_ (by simp)
      have small := (signed_within within negative).1
      simpa [less, order, signed] using small

theorem highest_less_iff (fits : f.Fits f.largest) {x : Floating f} :
    highest.less x = true ↔ x = infinity false := by
  rw [highest, ofUnits_largest fits]
  cases x with
  | nan => exact iff_of_false Bool.false_ne_true (by simp)
  | infinity negative =>
      cases negative <;> simp [less, order, signed]
      all_goals omega
  | finite negative units within =>
      refine iff_of_false ?_ (by simp)
      have small := (signed_within within negative).2
      simpa [less, order, signed] using small

/-- Clamping to all finite numbers changes infinite ones only. -/
theorem clamp_full (fits : f.Fits f.largest) (x : Floating f) :
    @ClampRange.clamp _ (floatLike f) (@ClampRange.full _ (floatLike f)) x = x.saturate := by
  have low : (lowest : Floating f) = finite true f.largest fits := ofUnits_largest fits true
  have high : (highest : Floating f) = finite false f.largest fits := ofUnits_largest fits false
  have number : isNaN (lowest : Floating f) = false ∧ isNaN (highest : Floating f) = false := by
    rw [low, high]
    exact ⟨rfl, rfl⟩
  let raised := if x.isNaN then lowest else if isNaN (lowest : Floating f) then x
    else if x.less lowest then lowest else x
  show (if x.isNaN then x else if raised.isNaN then highest
    else if isNaN (highest : Floating f) then raised
    else if highest.less raised then highest else raised) = x.saturate
  have raise (h : x.isNaN = false) : raised = if x = infinity true then lowest else x := by
    simp only [raised, h, number.1, less_lowest_iff fits, Bool.false_eq_true, if_false]
  simp only [number.2, highest_less_iff fits, Bool.false_eq_true, if_false]
  cases x with
  | nan => rfl
  | infinity negative =>
      rw [raise rfl]
      cases negative
      · simp [isNaN, saturate, highest]
      · simp [isNaN, saturate, low, ofUnits_largest fits]
  | finite negative units within =>
      rw [raise rfl]
      simp [isNaN, saturate]

end Numeric.Floating

namespace ElementType

open Numeric (Floating)

def isInfinite : (type : ElementType) → type.Element → Bool
  | f16, x => Floating.isInfinite x
  | f32, x => Floating.isInfinite x
  | f64, x => Floating.isInfinite x
  | _, _ => false

/-- The element itself, or the finite number next to it if it is infinite. -/
def saturate : (type : ElementType) → type.Element → type.Element
  | f16, x => Floating.saturate x
  | f32, x => Floating.saturate x
  | f64, x => Floating.saturate x
  | _, x => x

variable {type : ElementType} {arithmetic : FloatLike type.Element}

theorem saturate_eq_self_iff {x : type.Element} :
    type.saturate x = x ↔ type.isInfinite x = false := by
  cases type
  case f16 => exact Floating.saturate_eq_self_iff (by decide +kernel)
  case f32 => exact Floating.saturate_eq_self_iff (by decide +kernel)
  case f64 => exact Floating.saturate_eq_self_iff (by decide +kernel)
  all_goals exact iff_of_true rfl rfl

theorem saturate_of_isInfinite (float : type.floatLike? = some arithmetic) {x : type.Element}
    (infinite : type.isInfinite x = true) :
    type.saturate x = FloatLike.lowest ∨ type.saturate x = FloatLike.highest := by
  cases type <;> cases float
  all_goals exact Floating.saturate_of_isInfinite infinite

/-- Without an activation, only infinite results are changed. -/
theorem clamp_none (float : type.floatLike? = some arithmetic) (x : type.Element) :
    (Activation.none.range : ClampRange type.Element).clamp x = type.saturate x := by
  cases type <;> cases float
  case f16 => exact Floating.clamp_full (by decide +kernel) x
  case f32 => exact Floating.clamp_full (by decide +kernel) x
  case f64 => exact Floating.clamp_full (by decide +kernel) x

end ElementType

/-! ## Kernels -/

/-- The innermost indices of a position of the shape itself are those of the position. -/
theorem Shape.project_self {s : Shape} {position : List Nat} (inside : s.Contains position) :
    s.project position = position := by
  have indices := Shape.contains_iff_forall₂.mp inside
  rw [project, indices.length_eq, Nat.sub_self, List.drop_zero]
  clear inside
  induction indices with
  | nil => rfl
  | @cons i extent is s below _ ih =>
      rw [List.zipWith_cons_cons, ih]
      congr 1
      split <;> omega

namespace Kernel

variable {type : ElementType} {arithmetic : FloatLike type.Element}

/-- Without an activation, a kernel of pairs stores what it calculates, unless that is infinite. -/
theorem combines_unclamped (float : type.floatLike? = some arithmetic)
    (op : type.Element → type.Element → type.Element) :
    Combines (fun x y => type.saturate (op x y)) (binary op Activation.none.range) := by
  have same : (fun x y => Activation.none.range.clamp (op x y)) =
      fun x y => type.saturate (op x y) := by
    funext x y
    exact ElementType.clamp_none float (op x y)
  rw [← same]
  exact combines_binary op _

/-- Means are stored as they are as well, unless they are infinite. -/
theorem averagePoolInto_unclamped (float : type.floatLike? = some arithmetic) (g : PoolGeometry)
    (input output : Grid type.Element) : averagePoolInto g Activation.none.range input output =
      poolInto (fun values => type.saturate (average values)) g input output := by
  have same : (fun values => Activation.none.range.clamp (average values)) =
      fun values => type.saturate (average values) := by
    funext values
    exact ElementType.clamp_none float (average values)
  rw [averagePoolInto, same]

/-- Two operands of the shape of the output are added up without clamping. -/
theorem addN_pair {α : Type} [Number α] {a b output : Grid α} (left : a.shape = output.shape)
    (right : b.shape = output.shape) : ∃ sum, addN [a, b] output = .ok sum ∧
      sum.shape = output.shape ∧ ∀ position, output.shape.Contains position → ∃ x y,
        a.get? position = some x ∧ b.get? position = some y ∧ sum.get? position = some (x + y) := by
  have done : addN [a, b] output =
      .ok (output.mapIdx fun place old => a.getD place old + b.getD place old) := by
    have fits : ([a, b].forM fun input => (ensure (input.shape = output.shape)
        (KernelFailure.addNShape input.shape output.shape) : Except Fault Unit)) = .ok () := by
      rw [List.forM_eq_forM]
      exact forM_eq_ok.mpr (by simp [left, right])
    rw [addN, fits]
    rfl
  refine ⟨_, done, rfl, fun position inside => ?_⟩
  obtain ⟨old, held⟩ := Grid.exists_get? inside
  refine ⟨_, _, Grid.get?_eq_getD (left ▸ inside) old, Grid.get?_eq_getD (right ▸ inside) old, ?_⟩
  rw [Grid.get?_mapIdx inside, held, left, right]
  rfl

end Kernel

/-! ## Nodes -/

namespace Builtin

variable {g : Graph} {node : Node} {output : Nat} {type : ElementType}
  {arithmetic : FloatLike type.Element} {op : type.Element → type.Element → type.Element}
  {x y z : Grid type.Element}

/-- Adding, subtracting and multiplying without an activation come to one kernel. -/
theorem outcome_evaluate_plain (h : Operands g node output type x y z)
    (float : type.floatLike? = some arithmetic) (plain : activation node = .none)
    (operator : node.operator = .add ∧ op = (· + ·) ∨ node.operator = .sub ∧ op = (· - ·) ∨
      node.operator = .mul ∧ op = (· * ·)) : (evaluate node).outcome g =
        (evaluateBinary node type (Kernel.binary op Activation.none.range)).outcome g := by
  obtain ⟨a, first, typed⟩ := h.first
  have binary := outcome_evaluateFloatBinary first typed float
  have arithmetic := outcome_evaluateArithmetic first typed float
  rw [evaluate]
  rcases operator with ⟨operator, rfl⟩ | ⟨operator, rfl⟩ | ⟨operator, rfl⟩ <;> rw [operator]
  case inl =>
    dsimp only
    rw [evaluateAdd, arithmetic, binary, plain]
    rfl
  case inr.inl =>
    dsimp only
    rw [binary, plain]
    rfl
  case inr.inr =>
    dsimp only
    rw [evaluateMul, arithmetic, binary, plain]
    rfl

/-- The output of such a node holds what is calculated, unless that is infinite. -/
theorem evaluate_plain (h : Operands g node output type x y z)
    (float : type.floatLike? = some arithmetic) (plain : activation node = .none)
    (operator : node.operator = .add ∧ op = (· + ·) ∨ node.operator = .sub ∧ op = (· - ·) ∨
      node.operator = .mul ∧ op = (· * ·)) :
    ∃ filled, (evaluate node).outcome g = (some (), g.put output ⟨type, filled⟩) ∧
      filled.shape = z.shape ∧ ∀ position, z.shape.Contains position → ∃ m n,
        x.get? (x.shape.project position) = some m ∧ y.get? (y.shape.project position) = some n ∧
        filled.get? position = some (type.saturate (op m n)) := by
  rw [outcome_evaluate_plain h float plain operator]
  exact evaluateBinary_fills h (Kernel.combines_unclamped float op)

/-- In single precision the engine does the same. -/
theorem evaluate_captured {d : Descriptor} (h : Operands g node output type x y z)
    (single : type = .f32) (captures : d.Captures node)
    (operator : node.operator = .add ∨ node.operator = .sub ∨ node.operator = .mul) :
    d.evaluate.outcome g = (evaluate node).outcome g := by
  subst single
  obtain ⟨a, first, typed⟩ := h.first
  have kind : d.kind = .add ∨ d.kind = .mul := by
    rw [captures.operator] at operator
    cases kind : d.kind <;> rw [kind] at operator <;> simp_all [Substitution.Kind.operator]
  have runnable : d.Runnable g := by
    refine ⟨⟨a, by rw [captures.inputs, List.head?_eq_getElem?, first], typed⟩, fun product => ?_⟩
    rcases kind with kind | kind <;> rw [kind] at product <;> cases product
  refine outcome_evaluate_eq captures runnable
    ⟨output, .f32, by rw [h.outputs]; rfl, Graph.type_of_changeable h.free, ?_, ?_⟩
  · obtain ⟨a, b, inputs, seen, seen'⟩ := h.inputs
    have operands : node.typedInputs = [a, b] := by
      rcases operator with operator | operator | operator <;>
        simp [Node.typedInputs, operator, inputs]
    simp [operands, Graph.type_of_view seen, Graph.type_of_view seen']
  · intro reduction
    rcases operator with operator | operator | operator <;> simp [operator] at reduction

/-- Adding up two tensors of the shape of the output does not clamp. -/
theorem evaluateAddN_fills (h : Operands g node output type x y z)
    (float : type.floatLike? = some arithmetic) (operator : node.operator = .addN)
    (left : x.shape = z.shape) (right : y.shape = z.shape) :
    ∃ sum, (evaluate node).outcome g = (some (), g.put output ⟨type, sum⟩) ∧
      sum.shape = z.shape ∧ ∀ position, z.shape.Contains position → ∃ m n,
        x.get? position = some m ∧ y.get? position = some n ∧
          sum.get? position = some (m + n) := by
  obtain ⟨sum, done, shape, values⟩ := Kernel.addN_pair left right
  refine ⟨sum, ?_, shape, values⟩
  obtain ⟨first, found, typed⟩ := h.first
  obtain ⟨a, b, inputs, seen, seen'⟩ := h.inputs
  have out : node.outputs[0]? = some output := by rw [h.outputs]; rfl
  simp only [evaluate, operator, evaluateAddN, Action.outcome_bind, outcome_inputType found typed,
    Action.proceed_some, Action.outcome_lift, Builtin.floatLike, toOption_require, float,
    Node.output_eq_ok.mpr out, toOption_ok]
  have written : z.overwrite (Kernel.addN [x, y] z) = (.ok (), sum) := by
    rw [done]
    rfl
  refine Graph.computing_eq_some.mpr ⟨z, fun z => z.overwrite (Kernel.addN [x, y] z), h.free,
    h.small, ?_, congrArg Prod.fst written,
    congrArg (fun written => g.put output ⟨type, written.2⟩) written⟩
  have read : (node.inputs.mapM fun id =>
      (g.put output (Tensor.empty type)).view id type) = .ok [x, y] := by
    rw [mapM_eq_ok, inputs]
    refine .cons ?_ (.cons ?_ .nil)
    · rw [view_put_input h.unread (by simp [inputs]) out, seen]
    · rw [view_put_input h.unread (by simp [inputs]) out, seen']
  rw [read]
  rfl

/-- A sum of two tensors without an activation is that of any number of tensors exactly if no sum
of two values is infinite. -/
theorem sums_agree_iff {node' : Node} (h : Operands g node output type x y z)
    (h' : Operands g node' output type x y z) (float : type.floatLike? = some arithmetic)
    (operator : node.operator = .add) (plain : activation node = .none)
    (operator' : node'.operator = .addN) (left : x.shape = z.shape) (right : y.shape = z.shape) :
    (evaluate node).outcome g = (evaluate node').outcome g ↔ ∀ position m n,
      x.get? position = some m → y.get? position = some n → type.isInfinite (m + n) = false := by
  obtain ⟨filled, ran, shape, values⟩ := evaluate_plain h float plain (.inl ⟨operator, rfl⟩)
  obtain ⟨sum, ran', shape', values'⟩ := evaluateAddN_fills h' float operator' left right
  rw [ran, ran']
  -- at each position one node stores the saturated sum and the other one the sum
  have both {position : List Nat} {m n : type.Element} (inside : z.shape.Contains position)
      (read : x.get? position = some m) (read' : y.get? position = some n) :
      filled.get? position = some (type.saturate (m + n)) ∧ sum.get? position = some (m + n) := by
    obtain ⟨m₁, n₁, found, found', stored⟩ := values position inside
    obtain ⟨m₂, n₂, again, again', stored'⟩ := values' position inside
    rw [Shape.project_self (left ▸ inside), read] at found
    rw [Shape.project_self (right ▸ inside), read'] at found'
    cases found
    cases found'
    cases read.symm.trans again
    cases read'.symm.trans again'
    exact ⟨stored, stored'⟩
  constructor
  · intro same position m n read read'
    have seen := view_put h.free h.small shape
    rw [(Prod.mk.inj same).2, view_put h.free h.small shape', Except.ok.injEq] at seen
    have inside : z.shape.Contains position := by
      by_contra outside
      rw [Grid.get?, left, if_neg outside] at read
      cases read
    obtain ⟨stored, stored'⟩ := both inside read read'
    rw [← seen, stored', Option.some.injEq] at stored
    exact ElementType.saturate_eq_self_iff.mp stored.symm
  · intro finite
    have same : filled = sum := by
      refine Grid.eq_of_get? (shape.trans shape'.symm) fun position inside => ?_
      rw [shape] at inside
      obtain ⟨m, n, read, read', -⟩ := values' position inside
      obtain ⟨stored, stored'⟩ := both inside read read'
      rw [stored, stored', ElementType.saturate_eq_self_iff.mpr (finite position m n read read')]
    rw [same]

end Builtin

/-- Without an activation, infinite results become the largest or the most negative finite number,
and all others are stored as they are. This goes for sums, differences and products of operands
that broadcast to the output, for nodes that calculate them, on the host and in the engine, and for
means of windows. Adding any number of tensors stores all sums as they are, so the two ways of
adding two tensors agree exactly if no sum is infinite. -/
theorem plain_results_saturate {type : ElementType} {arithmetic : FloatLike type.Element}
    (float : type.floatLike? = some arithmetic) :
    (∀ x : type.Element, (type.isInfinite x = false ↔ type.saturate x = x) ∧
      (type.isInfinite x = true →
        type.saturate x = FloatLike.lowest ∨ type.saturate x = FloatLike.highest)) ∧
    Kernel.Combines (fun x y => type.saturate (x + y)) (Kernel.add Activation.none.range) ∧
    Kernel.Combines (fun x y => type.saturate (x - y)) (Kernel.sub Activation.none.range) ∧
    Kernel.Combines (fun x y => type.saturate (x * y)) (Kernel.mul Activation.none.range) ∧
    (∀ (geometry : PoolGeometry) (input output : Grid type.Element),
      Kernel.averagePoolInto geometry Activation.none.range input output =
        Kernel.poolInto (fun values => type.saturate (Kernel.average values)) geometry input
          output) ∧
    (∀ (g : Graph) (node : Node) (output : Nat) (op : type.Element → type.Element → type.Element)
      (x y z : Grid type.Element), Builtin.Operands g node output type x y z →
      Builtin.activation node = .none →
      node.operator = .add ∧ op = (· + ·) ∨ node.operator = .sub ∧ op = (· - ·) ∨
        node.operator = .mul ∧ op = (· * ·) →
      ∃ filled, (Builtin.evaluate node).outcome g = (some (), g.put output ⟨type, filled⟩) ∧
        (∀ d : Descriptor, type = .f32 → d.Captures node →
          d.evaluate.outcome g = (some (), g.put output ⟨type, filled⟩)) ∧
        filled.shape = z.shape ∧ ∀ position, z.shape.Contains position → ∃ m n,
          x.get? (x.shape.project position) = some m ∧ y.get? (y.shape.project position) = some n ∧
          filled.get? position = some (type.saturate (op m n))) ∧
    ∀ (g : Graph) (node node' : Node) (output : Nat) (x y z : Grid type.Element),
      Builtin.Operands g node output type x y z → Builtin.Operands g node' output type x y z →
      node.operator = .add → Builtin.activation node = .none → node'.operator = .addN →
      x.shape = z.shape → y.shape = z.shape →
      ((Builtin.evaluate node).outcome g = (Builtin.evaluate node').outcome g ↔
        ∀ position m n, x.get? position = some m → y.get? position = some n →
          type.isInfinite (m + n) = false) := by
  refine ⟨fun x => ⟨ElementType.saturate_eq_self_iff.symm,
      ElementType.saturate_of_isInfinite float⟩, Kernel.combines_unclamped float _,
    Kernel.combines_unclamped float _, Kernel.combines_unclamped float _,
    Kernel.averagePoolInto_unclamped float, ?_, ?_⟩
  · intro g node output op x y z operands plain operator
    obtain ⟨filled, ran, shape, values⟩ := Builtin.evaluate_plain operands float plain operator
    refine ⟨filled, ran, fun d single captures => ?_, shape, values⟩
    rw [← ran]
    exact Builtin.evaluate_captured operands single captures
      (operator.imp And.left (Or.imp And.left And.left))
  · intro g node node' output x y z operands operands' operator plain operator' left right
    exact Builtin.sums_agree_iff operands operands' float operator plain operator' left right

theorem count?_single : Shape.count? [1] = some 1 := rfl

/-- One and two, and the place of their sum. -/
def summands : Graph where
  tensors :=
    [⟨"one", ⟨.f32, ⟨[1], #[.ofNat 1], count?_single⟩⟩, false⟩,
      ⟨"two", ⟨.f32, ⟨[1], #[.ofNat 2], count?_single⟩⟩, false⟩,
      ⟨"sum", ⟨.f32, ⟨[1], #[.ofNat 0], count?_single⟩⟩, false⟩]
  nodes := [⟨0, "sum", .add, none, [0, 1], [2]⟩, ⟨1, "sum of all", .addN, none, [0, 1], [2]⟩]
  inputs := [0, 1]
  outputs := [2]

theorem summands_operands {node : Node} (inputs : node.inputs = [0, 1])
    (outputs : node.outputs = [2]) : Builtin.Operands summands node 2 .f32
      ⟨[1], #[.ofNat 1], rfl⟩ ⟨[1], #[.ofNat 2], rfl⟩ ⟨[1], #[.ofNat 0], rfl⟩ where
  inputs := ⟨0, 1, inputs, rfl, rfl⟩
  outputs := outputs
  apart := by rw [inputs]; decide
  free := rfl
  small := by decide
  left := .refl _
  right := .refl _

/-- The sum of one and two is the same in both ways, and is three. -/
theorem small_sums_agree :
    let node : Node := ⟨0, "sum", .add, none, [0, 1], [2]⟩
    let node' : Node := ⟨1, "sum of all", .addN, none, [0, 1], [2]⟩
    (Builtin.evaluate node).outcome summands = (Builtin.evaluate node').outcome summands ∧
      ∃ filled : Grid Numeric.Single,
        (Builtin.evaluate node).outcome summands = (some (), summands.put 2 ⟨.f32, filled⟩) ∧
        filled.get? [0] = some (.ofNat 3) := by
  intro node node'
  have float : ElementType.floatLike? .f32 = some (inferInstance : FloatLike Numeric.Single) := rfl
  obtain ⟨-, -, -, -, -, evaluates, sums⟩ := plain_results_saturate float
  have only {grid : Grid Numeric.Single} {position : List Nat} {m : Numeric.Single}
      (read : grid.get? position = some m) : m ∈ grid.values := by
    unfold Grid.get? at read
    split at read
    · exact Array.mem_of_getElem? read
    · cases read
  constructor
  · refine (sums summands node node' 2 _ _ _ (summands_operands rfl rfl)
      (summands_operands rfl rfl) rfl rfl rfl rfl rfl).mpr fun position m n read read' => ?_
    obtain rfl : m = .ofNat 1 := Array.mem_singleton.mp (only read)
    obtain rfl : n = .ofNat 2 := Array.mem_singleton.mp (only read')
    decide +kernel
  · obtain ⟨filled, ran, -, -, values⟩ :=
      evaluates summands node 2 (· + ·) _ _ _ (summands_operands rfl rfl) rfl (.inl ⟨rfl, rfl⟩)
    obtain ⟨m, n, read, read', stored⟩ := values [0] (by decide)
    obtain rfl : m = .ofNat 1 := Array.mem_singleton.mp (only read)
    obtain rfl : n = .ofNat 2 := Array.mem_singleton.mp (only read')
    exact ⟨filled, ran, stored.trans (by decide +kernel)⟩

/-- Twice the largest number is stored as the largest number, and not as infinity; as a sum of any
number of tensors, it is stored as infinity. -/
theorem overflow_saturates :
    let top : Grid Numeric.Single := ⟨[1], #[.highest], rfl⟩
    (Kernel.add Activation.none.range top top top).toOption.map Grid.values = some #[.highest] ∧
      (Numeric.Floating.highest + Numeric.Floating.highest : Numeric.Single) = .infinity false ∧
      (Numeric.Floating.highest : Numeric.Single) ≠ .infinity false ∧
      (Kernel.addN [top, top] top).toOption.map Grid.values = some #[.infinity false] := by
  decide +kernel

end TensorGraph
