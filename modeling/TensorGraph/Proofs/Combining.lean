import TensorGraph.Proofs.Following
import TensorGraph.Proofs.Merging
import TensorGraph.Proofs.Positions
import TensorGraph.Proofs.Settling
import TensorGraph.Proofs.Values

/-!
# Combining two operands

Shapes are broadcast twice, in different ways: preparing a node merges the shapes of its operands,
and the kernel then asks of each operand alone whether it broadcasts to the output. The two agree,
because the merged shape is the least one (`Kernel.combines_zipBroadcast`): the kernel succeeds
exactly if the merged shape broadcasts to the output, which may be larger. Integers are combined
exactly, up to what their type cannot hold (`ElementType.wrap`).

On the host nothing is left to check when a node of integers has been prepared, unless it reads the
tensor that it fills; an empty tensor stands in for that one.
-/

namespace TensorGraph

/-! ## Wrapping around -/

namespace ElementType

/-- What a type keeps of an integer: the element that differs from it by a multiple of the number of
elements. -/
def wrap : ElementType → Int → Int
  | u8, n => n % 2 ^ 8
  | i8, n => n.bmod (2 ^ 8)
  | i32, n => n.bmod (2 ^ 32)
  | i64, n => n.bmod (2 ^ 64)
  | _, n => n

variable {type : ElementType} {arithmetic : Number type.Element} {toInt : type.Element → Int}

/-- Sums and products of elements are those of their values, up to what the type keeps. -/
theorem toInt_arithmetic (integer : type.integer? = some arithmetic)
    (value : type.toInt? = some toInt) :
    (∀ x y, toInt (x + y) = type.wrap (toInt x + toInt y)) ∧
      ∀ x y, toInt (x * y) = type.wrap (toInt x * toInt y) := by
  cases type <;> cases integer <;> cases value
  case u8 =>
    exact ⟨fun x y => congrArg Int.ofNat (UInt8.toNat_add x y),
      fun x y => congrArg Int.ofNat (UInt8.toNat_mul x y)⟩
  case i8 => exact ⟨Int8.toInt_add, Int8.toInt_mul⟩
  case i32 => exact ⟨Int32.toInt_add, Int32.toInt_mul⟩
  case i64 => exact ⟨Int64.toInt_add, Int64.toInt_mul⟩

end ElementType

/-! ## Kernels -/

/-- The kernel gives every position of its output `f` of the two values that the position is
projected to. It does so if the operands can be merged and their merged shape broadcasts to that of
the output; otherwise it fails and writes nothing. -/
structure Kernel.Combines {α : Type} (f : α → α → α)
    (kernel : Grid α → Grid α → Grid α → Except Fault (Grid α)) : Prop where
  fills (a b output : Grid α) (merged : Shape) :
    Shape.broadcast [a.shape, b.shape] = .ok merged → merged.BroadcastsTo output.shape →
      ∃ filled, output.overwrite (kernel a b output) = (.ok (), filled) ∧
        filled.shape = output.shape ∧
        ∀ position, output.shape.Contains position → ∃ x y,
          a.get? (a.shape.project position) = some x ∧
          b.get? (b.shape.project position) = some y ∧ filled.get? position = some (f x y)
  refuses (a b output : Grid α) :
    (¬ ∃ merged, Shape.broadcast [a.shape, b.shape] = .ok merged ∧
      merged.BroadcastsTo output.shape) →
    ∃ failure, output.overwrite (kernel a b output) = (.error (.failed failure), output)

namespace Kernel

variable {α : Type}

/-- The merged shape broadcasts wherever both operands do. -/
theorem exists_merged_iff {s t u : Shape} :
    (∃ merged, Shape.broadcast [s, t] = .ok merged ∧ merged.BroadcastsTo u) ↔
      s.BroadcastsTo u ∧ t.BroadcastsTo u := by
  have bounds : (∃ merged ∈ (Shape.broadcast [s, t]).toOption, merged.BroadcastsTo u) ↔
      ∀ v ∈ [s, t], v.BroadcastsTo u := Shape.exists_broadcast_iff
  simpa [toOption_eq_some] using bounds

/-- The kernel reads both operands at the places that a position is projected to. -/
theorem combines_zipBroadcast (f : α → α → α) : Combines f (zipBroadcast f) where
  fills a b output merged found below := by
    obtain ⟨left, right⟩ := exists_merged_iff.mp ⟨merged, found, below⟩
    simp only [zipBroadcast, ensure, if_pos left, if_pos right]
    refine ⟨_, rfl, rfl, fun position inside => ?_⟩
    obtain ⟨old, held⟩ := Grid.exists_get? inside
    refine ⟨_, _, Grid.get?_eq_getD (Shape.contains_project left inside) old,
      Grid.get?_eq_getD (Shape.contains_project right inside) old, ?_⟩
    rw [Grid.get?_mapIdx inside, held, Option.map_some, Shape.index_offset inside]
  refuses a b output apart := by
    rw [exists_merged_iff] at apart
    unfold zipBroadcast ensure
    by_cases left : a.shape.BroadcastsTo output.shape
    · have right : ¬ b.shape.BroadcastsTo output.shape := fun right => apart ⟨left, right⟩
      rw [if_pos left, if_neg right]
      exact ⟨_, rfl⟩
    · rw [if_neg left]
      exact ⟨_, rfl⟩

/-- Clamping is part of what a kernel of pairs combines with. -/
theorem combines_binary [FloatLike α] (f : α → α → α) (range : ClampRange α) :
    Combines (fun x y => range.clamp (f x y)) (binary f range) :=
  combines_zipBroadcast _

end Kernel

/-! ## Nodes of integers -/

/-- A shape that broadcasts to an addressable one is addressable: apart from ones, it has no other
extents. -/
theorem Shape.BroadcastsTo.addressable {s t : Shape} (h : s.BroadcastsTo t)
    (small : t.Addressable) : s.Addressable := by
  have extents := h.forall₂
  have kept : positions ((t.drop (t.length - s.length)).filter (· ≠ 0)) ≤
      positions (t.filter (· ≠ 0)) :=
    positions_le_of_sublist ((List.drop_sublist _ t).filter _) (by simp)
  refine Nat.lt_of_le_of_lt (Nat.le_trans ?_ kept) small
  clear h kept
  generalize t.drop (t.length - s.length) = innermost at extents
  induction extents with
  | nil => exact Nat.le_refl _
  | @cons extent wanted s innermost first _ ih =>
      rcases first with rfl | rfl
      · by_cases empty : wanted = 0
        · simpa [empty, positions] using ih
        · simpa [empty, positions] using
            Nat.le_trans ih (Nat.le_mul_of_pos_left _ (Nat.pos_of_ne_zero empty))
      · by_cases empty : extent = 0
        · simpa [empty] using ih
        · simpa [empty, positions] using Nat.mul_le_mul_left extent ih

/-! ### The registry -/

namespace Registry

variable {registry : Registry} {g g' : Graph} {id : Nat} {node : Node}

theorem lookUp_eq_ok : registry.lookUp g id = .ok node ↔
    g.node id = .ok node ∧ node.operator ∈ registry.operators := by
  simp only [lookUp, bind_eq_ok, ensure_eq_ok, pure_eq_ok]
  constructor
  · rintro ⟨_, found, _, listed, rfl⟩
    exact ⟨found, listed⟩
  · rintro ⟨found, listed⟩
    exact ⟨node, found, (), listed, rfl⟩

theorem prepare_eq_some : (registry.prepare id).outcome g = (some (), g') ↔
    ∃ node, registry.lookUp g id = .ok node ∧
      (Builtin.prepare node).outcome g = (some (), g') := by
  simp only [prepare, Action.outcome_bind, Action.outcome_get, Action.proceed_some,
    Action.outcome_lift, Action.proceed_toOption, Action.outcome_during]

theorem evaluate_eq_some : (registry.evaluate id).outcome g = (some (), g') ↔
    ∃ node, registry.lookUp g id = .ok node ∧
      (Builtin.evaluate node).outcome g = (some (), g') := by
  simp only [evaluate, Action.outcome_bind, Action.outcome_get, Action.proceed_some,
    Action.outcome_lift, Action.proceed_toOption, Action.outcome_during]

end Registry

/-! ### Sums and products -/

namespace Builtin

variable {g g' : Graph} {node : Node}

/-- The shape rule asks for two operands of the type of the output, whose shapes can be merged. -/
theorem binaryShape_eq_ok {shape : Shape} : binaryShape g node = .ok shape ↔
    ∃ a b output type s t, node.inputs = [a, b] ∧ node.outputs = [output] ∧
      g.type a = .ok type ∧ g.type b = .ok type ∧ g.type output = .ok type ∧
      g.shape a = .ok s ∧ g.shape b = .ok t ∧ Shape.broadcast [s, t] = .ok shape := by
  simp only [binaryShape, checkArity, bind_eq_ok, ensure_eq_ok, commonType_eq_ok,
    Node.input_eq_ok]
  constructor
  · rintro ⟨-, ⟨two, one⟩, type, ⟨a, output, first, out, typed, typed'⟩, b, second, other, same, -,
      rfl, a', first', s, found, b', second', t, found', merged⟩
    obtain ⟨a₀, b₀, inputs⟩ := List.length_eq_two.mp two
    obtain ⟨output₀, outputs⟩ := List.length_eq_one_iff.mp one
    simp only [inputs, outputs, List.getElem?_cons_zero, List.getElem?_cons_succ,
      Option.some.injEq] at first out second first' second'
    subst first out second first' second'
    exact ⟨_, _, _, _, s, t, inputs, outputs, typed', same, typed, found, found', merged⟩
  · rintro ⟨a, b, output, type, s, t, inputs, outputs, typed, same, typed', found, found', merged⟩
    simp [inputs, outputs, typed, same, typed', found, found', merged]

/-- A node reads two tensors and fills a third one to whose shape both broadcast. -/
structure Operands (g : Graph) (node : Node) (output : Nat) (type : ElementType)
    (x y z : Grid type.Element) : Prop where
  inputs : ∃ a b, node.inputs = [a, b] ∧ g.view a type = .ok x ∧ g.view b type = .ok y
  outputs : node.outputs = [output]
  apart : output ∉ node.inputs
  free : g.changeable output = .ok ⟨type, z⟩
  small : z.shape.Addressable
  left : x.shape.BroadcastsTo z.shape
  right : y.shape.BroadcastsTo z.shape

section Operands

variable {output : Nat} {type : ElementType} {x y z : Grid type.Element}

theorem Operands.first (h : Operands g node output type x y z) :
    ∃ a, node.inputs[0]? = some a ∧ g.type a = .ok type := by
  obtain ⟨a, b, inputs, seen, -⟩ := h.inputs
  exact ⟨a, by rw [inputs]; rfl, Graph.type_of_view seen⟩

/-- As there is one output, none is read. -/
theorem Operands.unread (h : Operands g node output type x y z) :
    ∀ id ∈ node.inputs, id ∉ node.outputs := by
  intro id read written
  rw [h.outputs, List.mem_singleton] at written
  exact h.apart (written ▸ read)

/-- A kernel that combines operands fills the output of a node. -/
theorem evaluateBinary_fills (h : Operands g node output type x y z)
    {f : type.Element → type.Element → type.Element}
    {kernel : Grid type.Element → Grid type.Element → Grid type.Element →
      Except Fault (Grid type.Element)} (combines : Kernel.Combines f kernel) :
    ∃ filled, (evaluateBinary node type kernel).outcome g =
        (some (), g.put output ⟨type, filled⟩) ∧ filled.shape = z.shape ∧
      ∀ position, z.shape.Contains position → ∃ m n,
        x.get? (x.shape.project position) = some m ∧ y.get? (y.shape.project position) = some n ∧
        filled.get? position = some (f m n) := by
  obtain ⟨a, b, inputs, seen, seen'⟩ := h.inputs
  obtain ⟨merged, found, below⟩ := Kernel.exists_merged_iff.mpr ⟨h.left, h.right⟩
  obtain ⟨filled, done, shape, values⟩ := combines.fills x y z merged found below
  have out : node.outputs[0]? = some output := by rw [h.outputs]; rfl
  refine ⟨filled, ?_, shape, values⟩
  rw [evaluateBinary, Action.outcome_bind, Action.outcome_lift, Node.output_eq_ok.mpr out,
    toOption_ok, Action.proceed_some]
  refine Graph.computing_eq_some.mpr ⟨z, fun z => z.overwrite (kernel x y z), h.free, h.small, ?_,
    congrArg Prod.fst done, congrArg (fun written => g.put output ⟨type, written.2⟩) done⟩
  simp only [bind_eq_ok, Node.input_eq_ok, pure_eq_ok]
  refine ⟨a, by rw [inputs]; rfl, x, ?_, b, by rw [inputs]; rfl, y, ?_, rfl⟩
  · rw [view_put_input h.unread (by simp [inputs]) out, seen]
  · rw [view_put_input h.unread (by simp [inputs]) out, seen']

/-- Integers without an activation are combined by the kernel that wraps around. -/
theorem outcome_evaluateArithmetic_integers {a : Nat} {arithmetic : Number type.Element}
    (first : node.inputs[0]? = some a) (typed : g.type a = .ok type)
    (index : type = .i32 ∨ type = .i64) (integer : type.integer? = some arithmetic)
    (plain : activation node = .none)
    (wrapping : {α : Type} → [Number α] → Grid α → Grid α → Grid α → Except Fault (Grid α))
    (clamped : {α : Type} → [FloatLike α] → ClampRange α →
      Grid α → Grid α → Grid α → Except Fault (Grid α)) :
    (evaluateArithmetic node wrapping clamped).outcome g =
      (evaluateBinary node type wrapping).outcome g := by
  have checked : (ensure (activation node = .none)
      (OperatorFailure.activationNeedsFloat node.operator)).toOption = some () := by
    rw [toOption_ensure, if_pos plain]
  rw [evaluateArithmetic, Action.outcome_bind, outcome_inputType first typed, Action.proceed_some]
  rcases index with rfl | rfl <;> cases integer
  all_goals
    dsimp only
    rw [evaluateInteger, Action.outcome_bind, Action.outcome_lift, checked, Action.proceed_some]

/-- The output of a node that adds or multiplies integers holds what its type keeps of the sums or
products. -/
theorem evaluate_integers (h : Operands g node output type x y z) {op : Int → Int → Int}
    {toInt : type.Element → Int} (index : type = .i32 ∨ type = .i64)
    (value : type.toInt? = some toInt) (plain : activation node = .none)
    (operator : node.operator = .add ∧ op = (· + ·) ∨ node.operator = .mul ∧ op = (· * ·)) :
    ∃ filled, (evaluate node).outcome g = (some (), g.put output ⟨type, filled⟩) ∧
      filled.shape = z.shape ∧ ∀ position, z.shape.Contains position → ∃ m n r,
        x.get? (x.shape.project position) = some m ∧ y.get? (y.shape.project position) = some n ∧
        filled.get? position = some r ∧ toInt r = type.wrap (op (toInt m) (toInt n)) := by
  obtain ⟨a, first, typed⟩ := h.first
  obtain ⟨arithmetic, integer⟩ : ∃ arithmetic, type.integer? = some arithmetic := by
    rcases index with rfl | rfl <;> exact ⟨_, rfl⟩
  have runs := outcome_evaluateArithmetic_integers first typed index integer plain
  obtain ⟨sums, products⟩ := ElementType.toInt_arithmetic integer value
  obtain ⟨f, kernel, combines, wrapped, ran⟩ : ∃ f kernel, Kernel.Combines f kernel ∧
      (∀ m n, toInt (f m n) = type.wrap (op (toInt m) (toInt n))) ∧
      (evaluate node).outcome g = (evaluateBinary node type kernel).outcome g := by
    rcases operator with ⟨operator, rfl⟩ | ⟨operator, rfl⟩ <;> rw [evaluate, operator]
    · exact ⟨_, _, Kernel.combines_zipBroadcast _, sums, runs Kernel.addWrapping Kernel.add⟩
    · exact ⟨_, _, Kernel.combines_zipBroadcast _, products, runs Kernel.mulWrapping Kernel.mul⟩
  obtain ⟨filled, done, shape, values⟩ := evaluateBinary_fills h combines
  refine ⟨filled, ran.trans done, shape, fun position inside => ?_⟩
  obtain ⟨m, n, left, right, combined⟩ := values position inside
  exact ⟨m, n, _, left, right, combined, wrapped m n⟩

end Operands

/-- What has been put in the place of a tensor that may be changed can be viewed there. -/
theorem view_put {type : ElementType} {output : Nat} {z filled : Grid type.Element}
    (free : g.changeable output = .ok ⟨type, z⟩) (small : z.shape.Addressable)
    (shape : filled.shape = z.shape) :
    (g.put output ⟨type, filled⟩).view output type = .ok filled := by
  obtain ⟨entry, present, -, -⟩ := Graph.changeable_eq_ok.mp free
  refine Graph.view_eq_ok.mpr ⟨{ entry with tensor := ⟨type, filled⟩ }, ?_, rfl, shape ▸ small⟩
  rw [Graph.getElem?_put, if_pos rfl, present]
  rfl

/-- Preparing a node of two operands of one type gives its output the merged shape, and leaves the
operands as they were. -/
theorem exists_operands_of_prepare {type : ElementType}
    (ruled : outputShape g node = binaryShape g node)
    (apart : ∀ a ∈ node.inputs, a ∉ node.outputs)
    (typed : ∀ a ∈ node.inputs.head?, g.type a = .ok type)
    (prepared : (prepare node).outcome g = (some (), g'))
    (small : ∀ output ∈ node.outputs, ∀ shape ∈ (g'.shape output).toOption, shape.Addressable) :
    ∃ output x y z, Operands g' node output type x y z ∧
      Shape.broadcast [x.shape, y.shape] = .ok z.shape := by
  have touched := (prepare_keepsTo node).related prepared
  obtain ⟨output, ⟨own, z⟩, outputs, free, shaped⟩ := prepare_eq_some prepared
  rw [ruled] at shaped
  obtain ⟨a, b, output', type', s, t, inputs, outputs', typedA, typedB, typedOutput, shapeA, shapeB,
    merged⟩ := binaryShape_eq_ok.mp shaped
  obtain rfl : output = output' := by simpa [outputs] using outputs'
  obtain rfl : type = type' := by simpa [inputs, typedA] using (typed a (by simp [inputs])).symm
  obtain rfl : own = type := by
    have same := touched.type_eq output
    rwa [Graph.type_of_changeable free, typedOutput, Except.ok.injEq] at same
  have fits := small output (by simp [outputs]) z.shape
    (toOption_eq_some.mpr (Graph.shape_of_changeable free))
  -- preparing changes the output only, and what broadcasts to it is as addressable as it is
  have read {c : Nat} {u : Shape} (inside : c ∈ node.inputs) (typed : g.type c = .ok own)
      (shaped : g.shape c = .ok u) (part : u ∈ [s, t]) :
      ∃ x, g'.view c own = .ok x ∧ x.shape = u := by
    have same := touched.elsewhere c (apart c inside)
    exact Graph.exists_view ((touched.type_eq c).trans typed)
      ((Graph.shape_congr same).trans shaped)
      ((Shape.broadcastsTo_of_broadcast merged part).addressable fits)
  obtain ⟨x, seen, rfl⟩ := read (by simp [inputs]) typedA shapeA (.head _)
  obtain ⟨y, seen', rfl⟩ := read (by simp [inputs]) typedB shapeB (.tail _ (.head _))
  refine ⟨output, x, y, z, ?_, merged⟩
  exact {
    inputs := ⟨a, b, inputs, seen, seen'⟩
    outputs := outputs
    apart := fun read => apart output read (by simp [outputs])
    free := free
    small := fits
    left := Shape.broadcastsTo_of_broadcast merged (.head _)
    right := Shape.broadcastsTo_of_broadcast merged (.tail _ (.head _)) }

/-- On the host, a node that adds or multiplies integers without an activation, and does not read
what it computes, succeeds once it has been prepared. Its output then has the merged shape. -/
theorem evaluate_of_prepare {registry : Registry} {id : Nat} {op : Int → Int → Int}
    {type : ElementType} {toInt : type.Element → Int} (found : g.node id = .ok node)
    (operator : node.operator = .add ∧ op = (· + ·) ∨ node.operator = .mul ∧ op = (· * ·))
    (plain : activation node = .none) (apart : ∀ a ∈ node.inputs, a ∉ node.outputs)
    (typed : ∀ a ∈ node.inputs.head?, g.type a = .ok type) (index : type = .i32 ∨ type = .i64)
    (value : type.toInt? = some toInt) (prepared : (registry.prepare id).outcome g = (some (), g'))
    (small : ∀ output ∈ node.outputs, ∀ shape ∈ (g'.shape output).toOption, shape.Addressable) :
    ∃ a b output x y filled g'', node.inputs = [a, b] ∧ node.outputs = [output] ∧
      g'.view a type = .ok x ∧ g'.view b type = .ok y ∧
      (registry.evaluate id).outcome g' = (some (), g'') ∧ g''.view output type = .ok filled ∧
      Shape.broadcast [x.shape, y.shape] = .ok filled.shape ∧
      ∀ position, filled.shape.Contains position → ∃ m n r,
        x.get? (x.shape.project position) = some m ∧ y.get? (y.shape.project position) = some n ∧
        filled.get? position = some r ∧ toInt r = type.wrap (op (toInt m) (toInt n)) := by
  obtain ⟨node', looked, prepared⟩ := Registry.prepare_eq_some.mp prepared
  obtain ⟨found', registered⟩ := Registry.lookUp_eq_ok.mp looked
  obtain rfl : node = node' := by rwa [found, Except.ok.injEq] at found'
  have ruled : outputShape g node = binaryShape g node := by
    rcases operator with ⟨operator, -⟩ | ⟨operator, -⟩ <;> rw [outputShape, operator]
  obtain ⟨output, x, y, z, operands, merged⟩ :=
    exists_operands_of_prepare ruled apart typed prepared small
  obtain ⟨a, b, inputs, seen, seen'⟩ := operands.inputs
  obtain ⟨filled, done, shape, values⟩ := evaluate_integers operands index value plain operator
  -- the node is found again, as preparing keeps the nodes
  have again : g'.node id = .ok node := by
    rw [← found, Graph.node, Graph.node, ((prepare_keepsTo node).related prepared).nodes]
  refine ⟨a, b, output, x, y, filled, _, inputs, operands.outputs, seen, seen',
    Registry.evaluate_eq_some.mpr ⟨node, Registry.lookUp_eq_ok.mpr ⟨again, registered⟩, done⟩,
    view_put operands.free operands.small shape, by rw [shape, merged], ?_⟩
  rw [shape]
  exact values

/-- Kernels of pairs broadcast as shapes do. They fill any output that the merged shape of their
operands broadcasts to, with clamped results of floating-point numbers and with results of integers
up to what their type keeps; other outputs are refused and left as they are.

On the host, a node that adds or multiplies integers without an activation, and does not read what
it computes, succeeds once it has been prepared. Its output then has the merged shape. -/
theorem broadcasting_combines :
    (∀ (α : Type) [FloatLike α] (range : ClampRange α),
      Kernel.Combines (fun x y => range.clamp (x + y)) (Kernel.add range) ∧
      Kernel.Combines (fun x y => range.clamp (x - y)) (Kernel.sub range) ∧
      Kernel.Combines (fun x y => range.clamp (x * y)) (Kernel.mul range) ∧
      Kernel.Combines (fun y x : α => ClampRange.full.clamp (FloatLike.arctan2 y x))
        Kernel.arctan2) ∧
    (∀ (type : ElementType) (arithmetic : Number type.Element) (toInt : type.Element → Int),
      type.integer? = some arithmetic → type.toInt? = some toInt →
      ∃ sum product : type.Element → type.Element → type.Element,
        (∀ x y, toInt (sum x y) = type.wrap (toInt x + toInt y)) ∧
        Kernel.Combines sum Kernel.addWrapping ∧
        (∀ x y, toInt (product x y) = type.wrap (toInt x * toInt y)) ∧
        Kernel.Combines product Kernel.mulWrapping) ∧
    ∀ (registry : Registry) (g g' : Graph) (id : Nat) (node : Node) (op : Int → Int → Int)
      (type : ElementType) (toInt : type.Element → Int),
      g.node id = .ok node →
      node.operator = .add ∧ op = (· + ·) ∨ node.operator = .mul ∧ op = (· * ·) →
      activation node = .none → (∀ a ∈ node.inputs, a ∉ node.outputs) →
      (∀ a ∈ node.inputs.head?, g.type a = .ok type) → type = .i32 ∨ type = .i64 →
      type.toInt? = some toInt → (registry.prepare id).outcome g = (some (), g') →
      (∀ output ∈ node.outputs, ∀ shape ∈ (g'.shape output).toOption, shape.Addressable) →
      ∃ a b output x y filled g'', node.inputs = [a, b] ∧ node.outputs = [output] ∧
        g'.view a type = .ok x ∧ g'.view b type = .ok y ∧
        (registry.evaluate id).outcome g' = (some (), g'') ∧ g''.view output type = .ok filled ∧
        Shape.broadcast [x.shape, y.shape] = .ok filled.shape ∧
        ∀ position, filled.shape.Contains position → ∃ m n r,
          x.get? (x.shape.project position) = some m ∧ y.get? (y.shape.project position) = some n ∧
          filled.get? position = some r ∧ toInt r = type.wrap (op (toInt m) (toInt n)) := by
  refine ⟨?_, ?_, ?_⟩
  · intro α _ range
    exact ⟨Kernel.combines_binary _ _, Kernel.combines_binary _ _, Kernel.combines_binary _ _,
      Kernel.combines_binary _ _⟩
  · intro type arithmetic toInt integer value
    obtain ⟨sums, products⟩ := ElementType.toInt_arithmetic integer value
    exact ⟨_, _, sums, Kernel.combines_zipBroadcast _, products, Kernel.combines_zipBroadcast _⟩
  · intro registry g g' id node op type toInt found operator plain apart typed index value
    exact evaluate_of_prepare found operator plain apart typed index value

/-- The sum of a column and a row. -/
def table : Graph where
  tensors :=
    [⟨"column", ⟨.i32, ⟨[2, 1], #[2147483647, 1], by decide⟩⟩, false⟩,
      ⟨"row", ⟨.i32, ⟨[2], #[1, 3], by decide⟩⟩, false⟩, ⟨"table", Tensor.empty .i32, false⟩]
  nodes := [⟨0, "sum", .add, none, [0, 1], [2]⟩]
  inputs := [0, 1]
  outputs := [2]

/-- The first sum is one more than the largest integer of the type. -/
theorem table_sums :
    ∃ g' g'' filled, (Registry.all.prepare 0).outcome table = (some (), g') ∧
      (Registry.all.evaluate 0).outcome g' = (some (), g'') ∧ g''.view 2 .i32 = .ok filled ∧
      filled.shape = [2, 2] ∧ ∃ r : Int32, filled.get? [0, 0] = some r ∧ r.toInt = -2 ^ 31 := by
  have prepared : (Registry.all.prepare 0).outcome table =
      (some (), ((Registry.all.prepare 0).outcome table).2) := rfl
  obtain ⟨a, b, output, x, y, filled, g'', inputs, outputs, seen, seen', evaluated, seen'', merged,
    values⟩ := broadcasting_combines.2.2 .all table _ 0 ⟨0, "sum", .add, none, [0, 1], [2]⟩
      (· + ·) .i32 Int32.toInt rfl (.inl ⟨rfl, rfl⟩) rfl (by decide) (by decide +kernel) (.inl rfl)
      rfl prepared (by decide +kernel)
  obtain ⟨rfl, rfl⟩ : 0 = a ∧ 1 = b := by simpa using inputs
  obtain rfl : 2 = output := by simpa using outputs
  have column : x = ⟨[2, 1], #[2147483647, 1], rfl⟩ := Except.ok.inj (seen.symm.trans rfl)
  have row : y = ⟨[2], #[1, 3], rfl⟩ := Except.ok.inj (seen'.symm.trans rfl)
  rw [column, row] at merged values
  have shape : filled.shape = [2, 2] := (Except.ok.inj merged).symm
  obtain ⟨m, n, r, left, right, sum, wrapped⟩ := values [0, 0] (by rw [shape]; decide)
  obtain rfl : 2147483647 = m := Option.some.inj left
  obtain rfl : 1 = n := Option.some.inj right
  exact ⟨_, g'', filled, prepared, evaluated, seen'', shape, r, sum, wrapped.trans (by decide)⟩

/-- A vector that is to hold its own double. -/
def doubling : Graph where
  tensors := [⟨"x", ⟨.i32, ⟨[1], #[3], by decide⟩⟩, false⟩]
  nodes := [⟨0, "double", .add, none, [0, 0], [0]⟩]
  inputs := [0]
  outputs := [0]

/-- A node that reads what it computes finds an empty tensor in its place, and fails. -/
theorem doubling_fails :
    ¬ ∀ (registry : Registry) (g g' : Graph) (id : Nat) (node : Node), g.node id = .ok node →
      node.operator = .add → activation node = .none →
      (∀ a ∈ node.inputs ++ node.outputs, g.type a = .ok .i32) →
      (registry.prepare id).outcome g = (some (), g') →
      (∀ output ∈ node.outputs, ∀ shape ∈ (g'.shape output).toOption, shape.Addressable) →
      ∃ g'', (registry.evaluate id).outcome g' = (some (), g'') := by
  intro always
  obtain ⟨g'', evaluated⟩ := always .all doubling doubling 0 _ rfl rfl rfl (by decide) rfl
    (by decide +kernel)
  have failed : ((Registry.all.evaluate 0).outcome doubling).1 = none := by decide +kernel
  rw [evaluated] at failed
  cases failed

end Builtin

end TensorGraph
