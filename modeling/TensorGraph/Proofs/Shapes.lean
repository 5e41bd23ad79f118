import TensorGraph.Proofs.Capture

/-!
# The host and the engine agree on shapes

The host checks element types when it prepares a node, the engine when it evaluates a descriptor.
Apart from that they find the same shapes: the host finds one exactly if the node is well typed and
the engine finds it (`Builtin.outputShape_eq_ok`).

Both read parameters from tensors, each in its own way, and weave batches into space with a
recursion of its own. These differences are dealt with first.
-/

namespace TensorGraph

open Substitution (Descriptor Kind)

/-! ## Well-typed nodes -/

/-- The inputs that preparing the node compares with its output. -/
def Node.typedInputs (node : Node) : List Nat :=
  match node.operator with
  | .argMax | .argMin => []
  | .add | .sub | .mul | .atan2 => node.inputs.take 2
  | .addN => node.inputs
  | .abs | .relu | .averagePool2d | .maxPool2d | .batchMatMul | .batchToSpaceNd =>
    node.inputs.take 1

/-- The element types are those that preparing the node asks for: inputs and output have the same,
and an output of indices has one of two, which is the declared one if there is a declaration. -/
def Builtin.WellTyped (g : Graph) (node : Node) : Prop :=
  ∃ output type, node.outputs[0]? = some output ∧ g.type output = .ok type ∧
    (∀ id ∈ node.typedInputs, g.type id = .ok type) ∧
    (node.operator = .argMax ∨ node.operator = .argMin →
      (type = .i32 ∨ type = .i64) ∧ ∀ declared ∈ declaredType? node, declared = type)

/-- Whether a node is well typed depends on neither shapes nor values. -/
theorem Builtin.WellTyped.of_sameFrame {g g' : Graph} {node : Node} (h : WellTyped g node)
    (frame : Graph.SameFrame g g') : WellTyped g' node := by
  obtain ⟨output, type, found, outputType, inputTypes, indices⟩ := h
  refine ⟨output, type, found, ?_, fun id inside => ?_, indices⟩
  · rw [frame.type_eq, outputType]
  · rw [frame.type_eq, inputTypes id inside]

/-! ## Parameters from integer tensors -/

/-- Both sides read the same integers, though they fail in different words. -/
theorem Builtin.readIntegers_eq_ok {g : Graph} {id : Nat} {values : List Int} :
    readIntegers g id = .ok values ↔ Descriptor.integersOf g id = .ok values := by
  simp [readIntegers, Descriptor.integersOf, Graph.tensor, Graph.entry]

theorem Substitution.Descriptor.cropPairs_eq (values : List Int) :
    Descriptor.cropPairs values = Builtin.pairs values := by
  induction values using Builtin.pairs.induct with
  | case1 before after rest ih => simp [Descriptor.cropPairs, Builtin.pairs, ih]
  | case2 values short =>
      -- fewer than two values are no pair
      match values with
      | [] => rfl
      | [_] => rfl
      | before :: after :: rest => exact absurd rfl (short before after rest)

/-- The axis that a number stands for; a negative one counts from the last axis. -/
def StandsFor (rank : Nat) (value : Int) (axis : Nat) : Prop :=
  let resolved := if value < 0 then value + rank else value
  (0 ≤ resolved ∧ resolved < rank) ∧ resolved.toNat = axis

/-- A number stands for an axis within the rank on either side of zero. -/
theorem standsFor_iff {rank axis : Nat} {value : Int} : StandsFor rank value axis ↔
    (-(rank : Int) ≤ value ∧ value < rank) ∧
      (axis : Int) = if value < 0 then value + rank else value := by
  unfold StandsFor
  dsimp only
  split <;> omega

theorem StandsFor.lt {rank axis : Nat} {value : Int} (h : StandsFor rank value axis) :
    axis < rank := by
  obtain ⟨range, same⟩ := h
  omega

/-- An axis stands for itself. -/
theorem standsFor_self {rank axis : Nat} (inRange : axis < rank) : StandsFor rank axis axis :=
  standsFor_iff.mpr ⟨by omega, by rw [if_neg (by omega)]⟩

/-- The host finds the axis that the one integer of the second input stands for. -/
theorem Builtin.reductionAxis_eq_ok {g : Graph} {node : Node} {axis : Nat} :
    reductionAxis g node = .ok axis ↔ ∃ a b value shape, node.inputs[0]? = some a ∧
      node.inputs[1]? = some b ∧ g.shape a = .ok shape ∧
      Descriptor.integersOf g b = .ok [value] ∧ StandsFor shape.length value axis := by
  simp only [reductionAxis, bind_eq_ok, Node.input_eq_ok, readIntegers_eq_ok]
  constructor
  · rintro ⟨b, second, values, read, found⟩
    rcases values with _ | ⟨value, _ | _⟩
    case nil | cons.cons => simp at found
    case cons.nil =>
        simp only [bind_eq_ok, Node.input_eq_ok, ensure_eq_ok, pure_eq_ok] at found
        obtain ⟨a, first, shape, found, _, inRange, same⟩ := found
        exact ⟨a, b, value, shape, first, second, found, read, inRange, same⟩
  · rintro ⟨a, b, value, shape, first, second, found, read, inRange, same⟩
    refine ⟨b, second, [value], read, ?_⟩
    simp only [bind_eq_ok, Node.input_eq_ok, ensure_eq_ok, pure_eq_ok]
    exact ⟨a, first, shape, found, (), inRange, same⟩

theorem Substitution.Descriptor.reductionAxis_eq_ok {g : Graph} {d : Descriptor} {axis : Nat} :
    d.reductionAxis g = .ok axis ↔ ∃ a b value shape, d.inputs[0]? = some a ∧
      d.inputs[1]? = some b ∧ g.shape a = .ok shape ∧
      Descriptor.integersOf g b = .ok [value] ∧ StandsFor shape.length value axis := by
  simp only [Descriptor.reductionAxis, bind_eq_ok, Descriptor.input_eq_ok,
    Descriptor.primaryInput_eq_ok, Descriptor.shapeOf_eq_ok]
  constructor
  · rintro ⟨a, first, shape, found, b, second, values, read, resolved⟩
    rcases values with _ | ⟨value, _ | _⟩
    case nil | cons.cons => simp at resolved
    case cons.nil =>
        refine ⟨a, b, value, shape, first, second, found, read, ?_⟩
        unfold StandsFor
        dsimp only at resolved ⊢
        generalize (if value < 0 then value + (shape.length : Int) else value) = r at *
        split at resolved
        next inRange => exact ⟨inRange, pure_eq_ok.mp resolved⟩
        next => simp at resolved
  · rintro ⟨a, b, value, shape, first, second, found, read, inRange, same⟩
    refine ⟨a, first, shape, found, b, second, [value], read, ?_⟩
    dsimp only
    rw [if_pos inRange]
    exact pure_eq_ok.mpr same

theorem reductionAxis_agrees {g : Graph} {node : Node} {d : Descriptor} (h : d.Captures node)
    {axis : Nat} : Builtin.reductionAxis g node = .ok axis ↔ d.reductionAxis g = .ok axis := by
  rw [Builtin.reductionAxis_eq_ok, Descriptor.reductionAxis_eq_ok, h.inputs]

/-- Both sides read the same block sizes and crops. -/
theorem batchToSpaceParameters_agree {g : Graph} {node : Node} {d : Descriptor}
    (same : d.inputs = node.inputs) {parameters : List Nat × List (Nat × Nat)} :
    Builtin.batchToSpaceParameters g node = .ok parameters ↔
      d.batchToSpaceParameters g = .ok parameters := by
  simp only [Builtin.batchToSpaceParameters, Descriptor.batchToSpaceParameters, bind_eq_ok,
    Node.input_eq_ok, Descriptor.input_eq_ok, Descriptor.primaryInput_eq_ok, ensure_eq_ok,
    Builtin.readIntegers_eq_ok, same, Descriptor.shapeOf_eq_ok, Descriptor.cropPairs_eq,
    exists_and_left, exists_const, and_assoc, pure_eq_ok]
  grind

/-! ## Weaving -/

/-- Only the messages differ in which axis they name. -/
theorem wovenExtent_agrees (axis axis' extent block : Nat) (crop : Nat × Nat) {woven : Nat} :
    Builtin.wovenExtent axis extent block crop = .ok woven ↔
      Descriptor.wovenExtent axis' extent block crop = .ok woven := by
  unfold Builtin.wovenExtent Descriptor.wovenExtent
  cases Size.mul? extent block with
  | none => simp
  | some full => cases Size.add? crop.1 crop.2 <;> simp

/-- The recursion of the host gives what the engine finds axis by axis. -/
theorem wovenExtents_agree (input : Shape) (k : Nat) (block : List Nat) (crops : List (Nat × Nat))
    {extents : List Nat} :
    Builtin.wovenExtents (k + 1) (input.drop (k + 1)) block crops = .ok extents ↔
      ∃ woven, ((block.zip crops).zipIdx k).mapM (fun ((b, crop), i) => do
          let extent ← checked input[i + 1]?
          Descriptor.wovenExtent (i + 1) extent b crop) = .ok woven ∧
        woven ++ input.drop ((block.zip crops).length + k + 1) = extents := by
  induction block generalizing k crops extents with
  | nil => simp [Builtin.wovenExtents]
  | cons b block ih =>
      cases crops with
      | nil => simp [Builtin.wovenExtents]
      | cons crop crops =>
          simp only [Builtin.wovenExtents, List.head?_drop, List.tail_drop, bind_eq_ok, pure_eq_ok,
            checked_eq_ok, ih, wovenExtent_agrees _ (k + 1), List.zip_cons_cons, List.zipIdx_cons,
            List.mapM_cons, List.length_cons]
          grind

/-- Batches can be woven if blocks divide them and every axis can be enlarged and cropped. -/
theorem Builtin.batchToSpaceShape_eq_ok {input shape : Shape} {block : List Nat}
    {crops : List (Nat × Nat)} :
    batchToSpaceShape input block crops = .ok shape ↔ ∃ blockSize batch extents,
      block.foldlM Size.mul? 1 = some blockSize ∧ input.head? = some batch ∧ blockSize ≠ 0 ∧
      batch % blockSize = 0 ∧ wovenExtents 1 input.tail block crops = .ok extents ∧
      batch / blockSize :: extents = shape := by
  simp only [batchToSpaceShape, bind_eq_ok, require_eq_ok, checked_eq_ok]
  constructor
  · rintro ⟨blockSize, product, batch, first, h⟩
    split at h
    · simp at h
    next positive =>
      simp only [bind_eq_ok, ensure_eq_ok, pure_eq_ok] at h
      obtain ⟨_, multiple, extents, woven, same⟩ := h
      exact ⟨blockSize, batch, extents, product, first, positive, multiple, woven, same⟩
  · rintro ⟨blockSize, batch, extents, product, first, positive, multiple, woven, same⟩
    refine ⟨blockSize, product, batch, first, ?_⟩
    rw [if_neg positive]
    simp only [bind_eq_ok, ensure_eq_ok, pure_eq_ok]
    exact ⟨(), multiple, extents, woven, same⟩

/-- The engine weaves shapes as the host does. -/
theorem batchToSpaceShape_agrees {g : Graph} {node : Node} {d : Descriptor}
    (same : d.inputs = node.inputs) {shape : Shape} :
    d.batchToSpaceShape g = .ok shape ↔ ∃ block crops a input,
      Builtin.batchToSpaceParameters g node = .ok (block, crops) ∧ node.inputs[0]? = some a ∧
      g.shape a = .ok input ∧ Builtin.batchToSpaceShape input block crops = .ok shape := by
  have woven (input : Shape) (block : List Nat) (crops : List (Nat × Nat)) {extents : List Nat} :=
    @wovenExtents_agree input 0 block crops extents
  simp only [List.drop_one, Nat.add_zero, Nat.zero_add] at woven
  simp only [Descriptor.batchToSpaceShape, Builtin.batchToSpaceShape_eq_ok, bind_eq_ok,
    Descriptor.primaryInput_eq_ok, Descriptor.shapeOf_eq_ok, same, require_eq_ok,
    checked_eq_ok, ← batchToSpaceParameters_agree same, woven]
  constructor
  · rintro ⟨⟨block, crops⟩, parameters, a, first, input, found, blockSize, product, batch, head, h⟩
    split at h
    · simp at h
    next positive =>
      simp only [bind_eq_ok, ensure_eq_ok, pure_eq_ok] at h
      obtain ⟨_, multiple, extents, woven, same⟩ := h
      exact ⟨block, crops, a, input, parameters, first, found, blockSize, batch, _, product, head,
        positive, multiple, ⟨extents, woven, rfl⟩, same⟩
  · rintro ⟨block, crops, a, input, parameters, first, found, blockSize, batch, _, product, head,
      positive, multiple, ⟨extents, woven, rfl⟩, same⟩
    refine ⟨(block, crops), parameters, a, first, input, found, blockSize, product, batch, head, ?_⟩
    rw [if_neg positive]
    simp only [bind_eq_ok, ensure_eq_ok, pure_eq_ok]
    exact ⟨(), multiple, extents, woven, same⟩

/-! ## Output shapes

One lemma for each shape rule of the host. Where a rule reads a type, the same reading is part of
`Builtin.WellTyped`; what remains is what the engine reads. -/

section Rules

variable {g : Graph} {node : Node} {d : Descriptor} {shape : Shape}

theorem commonType_eq_ok {type : ElementType} :
    Builtin.commonType g node = .ok type ↔ ∃ a output, node.inputs[0]? = some a ∧
      node.outputs[0]? = some output ∧ g.type output = .ok type ∧ g.type a = .ok type := by
  simp only [Builtin.commonType, bind_eq_ok, Node.input_eq_ok, Node.output_eq_ok, ensure_eq_ok,
    pure_eq_ok]
  grind

theorem sameShape_agrees (h : d.Captures node) (kind : d.kind = .abs) :
    Builtin.outputShape g node = .ok shape ↔
      Builtin.WellTyped g node ∧ d.outputShape g = .ok shape := by
  obtain ⟨a, inputs, inputs'⟩ := h.one_input (by rw [kind]; rfl)
  obtain ⟨output, outputs, -⟩ := h.one_output
  have operator : node.operator = .abs := by rw [h.operator, kind]; rfl
  simp [Builtin.outputShape, Builtin.sameShape, Builtin.checkArity, commonType_eq_ok,
    Descriptor.outputShape, Builtin.WellTyped, Node.typedInputs, operator, kind, inputs, inputs',
    outputs]

theorem binaryShape_agrees (h : d.Captures node)
    (kind : d.kind = .add ∨ d.kind = .mul ∨ d.kind = .atan2) :
    Builtin.outputShape g node = .ok shape ↔
      Builtin.WellTyped g node ∧ d.outputShape g = .ok shape := by
  obtain ⟨a, b, inputs, inputs'⟩ := h.two_inputs (by rcases kind with k | k | k <;> rw [k] <;> rfl)
  obtain ⟨output, outputs, -⟩ := h.one_output
  have operator := h.operator
  rcases kind with kind | kind | kind <;>
    simp [Builtin.outputShape, Builtin.binaryShape, Builtin.checkArity, commonType_eq_ok,
      Descriptor.outputShape, Builtin.WellTyped, Node.typedInputs, operator, kind, Kind.operator,
      inputs, inputs', outputs] <;>
    grind

theorem addNShape_agrees (h : d.Captures node) (kind : d.kind = .addN) :
    Builtin.outputShape g node = .ok shape ↔
      Builtin.WellTyped g node ∧ d.outputShape g = .ok shape := by
  obtain ⟨a, others, inputs, inputs'⟩ := h.some_inputs
  obtain ⟨output, outputs, -⟩ := h.one_output
  have operator : node.operator = .addN := by rw [h.operator, kind]; rfl
  simp [Builtin.outputShape, Builtin.addNShape, commonType_eq_ok, Descriptor.outputShape,
    Builtin.WellTyped, Node.typedInputs, operator, kind, inputs, inputs', outputs, forM_eq_ok]
  grind

theorem matrixShape_agrees (h : d.Captures node) (kind : d.kind = .batchMatMul) :
    Builtin.outputShape g node = .ok shape ↔
      Builtin.WellTyped g node ∧ d.outputShape g = .ok shape := by
  obtain ⟨a, b, inputs, inputs'⟩ := h.two_inputs (by rw [kind]; rfl)
  obtain ⟨output, outputs, -⟩ := h.one_output
  have operator : node.operator = .batchMatMul := by rw [h.operator, kind]; rfl
  simp [Builtin.outputShape, Builtin.matrixShape, Builtin.checkArity, commonType_eq_ok,
    Descriptor.outputShape, h.adjoints_eq kind, Builtin.WellTyped, Node.typedInputs, operator, kind,
    inputs, inputs', outputs]

/-- Windows are cut out of batches, rows, columns and channels. -/
theorem rank_of_poolShape {geometry : PoolGeometry} {input : Shape}
    (h : geometry.outputShape input = .ok shape) : input.length = 4 := by
  simp only [PoolGeometry.outputShape, bind_eq_ok] at h
  obtain ⟨_, axes, -⟩ := h
  unfold PoolGeometry.axes at axes
  split at axes
  · rfl
  · simp at axes

theorem poolShape_agrees (h : d.Captures node)
    (kind : d.kind = .averagePool2d ∨ d.kind = .maxPool2d) :
    Builtin.outputShape g node = .ok shape ↔
      Builtin.WellTyped g node ∧ d.outputShape g = .ok shape := by
  obtain ⟨a, inputs, inputs'⟩ := h.one_input (by rcases kind with k | k <;> rw [k] <;> rfl)
  obtain ⟨output, outputs, -⟩ := h.one_output
  have operator := h.operator
  have geometry := (h.poolGeometry_eq kind).1
  rcases kind with kind | kind <;>
    simp [Builtin.outputShape, Builtin.poolShape, Builtin.checkArity, commonType_eq_ok,
      Descriptor.outputShape, Builtin.WellTyped, Node.typedInputs, operator, kind, Kind.operator,
      geometry, inputs, inputs', outputs] <;>
    grind [rank_of_poolShape]

theorem reducedShape_agrees (h : d.Captures node)
    (kind : d.kind = .argMax ∨ d.kind = .argMin) :
    Builtin.outputShape g node = .ok shape ↔
      Builtin.WellTyped g node ∧ d.outputShape g = .ok shape := by
  obtain ⟨a, b, inputs, inputs'⟩ := h.two_inputs (by rcases kind with k | k <;> rw [k] <;> rfl)
  obtain ⟨output, outputs, -⟩ := h.one_output
  have operator := h.operator
  have axis := @reductionAxis_agrees g node d h
  rcases kind with kind | kind <;>
    cases declared : Builtin.declaredType? node <;>
    simp [Builtin.outputShape, Builtin.reducedShape, Builtin.checkArity, axis, declared,
      Descriptor.outputShape, Builtin.WellTyped, Node.typedInputs, operator, kind, Kind.operator,
      inputs, inputs', outputs] <;>
    grind

theorem wovenShape_agrees (h : d.Captures node) (kind : d.kind = .batchToSpaceNd) :
    Builtin.outputShape g node = .ok shape ↔
      Builtin.WellTyped g node ∧ d.outputShape g = .ok shape := by
  obtain ⟨a, b, c, inputs, inputs'⟩ := h.three_inputs (by rw [kind]; rfl)
  obtain ⟨output, outputs, -⟩ := h.one_output
  have operator : node.operator = .batchToSpaceNd := by rw [h.operator, kind]; rfl
  have woven := @batchToSpaceShape_agrees g node d h.inputs
  simp [Builtin.outputShape, Builtin.wovenShape, Builtin.checkArity, commonType_eq_ok, woven,
    Descriptor.outputShape, Builtin.WellTyped, Node.typedInputs, operator, kind, inputs, inputs',
    outputs]
  grind

end Rules

/-- The host gives a captured node a shape exactly if the node is well typed and the engine gives
it this shape. -/
theorem Builtin.outputShape_eq_ok {g : Graph} {node : Node} {d : Descriptor} (h : d.Captures node)
    {shape : Shape} :
    outputShape g node = .ok shape ↔ WellTyped g node ∧ d.outputShape g = .ok shape := by
  cases kind : d.kind with
  | abs => exact sameShape_agrees h kind
  | add => exact binaryShape_agrees h (.inl kind)
  | mul => exact binaryShape_agrees h (.inr (.inl kind))
  | atan2 => exact binaryShape_agrees h (.inr (.inr kind))
  | addN => exact addNShape_agrees h kind
  | argMax => exact reducedShape_agrees h (.inl kind)
  | argMin => exact reducedShape_agrees h (.inr kind)
  | averagePool2d => exact poolShape_agrees h (.inl kind)
  | maxPool2d => exact poolShape_agrees h (.inr kind)
  | batchMatMul => exact matrixShape_agrees h kind
  | batchToSpaceNd => exact wovenShape_agrees h kind

/-! ## What a shape depends on -/

/-- The inputs that are read as parameters: an axis, or block sizes and crops. -/
def Node.parameterInputs (node : Node) : List Nat :=
  match node.operator with
  | .argMax | .argMin | .batchToSpaceNd => node.inputs.drop 1
  | _ => []

/-- Parameters are among the inputs. -/
theorem Node.parameterInputs_subset (node : Node) : node.parameterInputs ⊆ node.inputs := by
  unfold Node.parameterInputs
  split
  case h_4 => exact List.nil_subset _
  all_goals exact List.drop_subset 1 node.inputs

/-- What the shape rule of a node reads is the same in both graphs: element types, shapes of inputs,
and values of parameters. -/
structure Node.SeesSame (node : Node) (g g' : Graph) : Prop where
  frame : Graph.SameFrame g g'
  shapes : ∀ id ∈ node.inputs, g'.shape id = g.shape id
  parameters : ∀ id ∈ node.parameterInputs, g'.tensors[id]? = g.tensors[id]?

section SeesSame

variable {g g' : Graph} {node : Node} {α : Type}

theorem Node.SeesSame.symm (same : node.SeesSame g g') : node.SeesSame g' g :=
  ⟨same.frame.symm, fun id inside => (same.shapes id inside).symm,
    fun id inside => (same.parameters id inside).symm⟩

/-- Values that are filled in do not matter, unless they are parameters. -/
theorem Node.SeesSame.of_fills {ids : List Nat} (filled : Graph.Fills ids g g')
    (given : ∀ id ∈ node.parameterInputs, id ∉ ids) : node.SeesSame g g' :=
  ⟨filled.toSameFrame, fun id _ => filled.shape_eq id,
    fun id inside => filled.elsewhere id (given id inside)⟩

theorem Node.SeesSame.shape (same : node.SeesSame g g') (i : Nat) :
    (do g'.shape (← node.input i)) = (do g.shape (← node.input i)) :=
  bind_congr_ok fun id found => same.shapes id (List.mem_of_getElem? (Node.input_eq_ok.mp found))

theorem Node.SeesSame.shape_bind (same : node.SeesSame g g') (i : Nat)
    (next : Shape → Except Fault α) :
    (node.input i >>= fun id => g'.shape id >>= next) =
      node.input i >>= fun id => g.shape id >>= next := by
  rw [← bind_assoc, same.shape, bind_assoc]

theorem Node.SeesSame.integers_bind (same : node.SeesSame g g') (i : Nat)
    (parameters : node.parameterInputs = node.inputs.drop 1) (next : List Int → Except Fault α) :
    (node.input (i + 1) >>= fun id => Builtin.readIntegers g' id >>= next) =
      node.input (i + 1) >>= fun id => Builtin.readIntegers g id >>= next := by
  apply bind_congr_ok
  intro id found
  rw [Node.input_eq_ok, Nat.add_comm, ← List.getElem?_drop, ← parameters] at found
  rw [Builtin.readIntegers, Builtin.readIntegers, Graph.entry, Graph.entry,
    same.parameters id (List.mem_of_getElem? found)]

/-- Where the parameters and the shapes are the same, so is the axis. -/
theorem Builtin.reductionAxis_congr (same : node.SeesSame g g')
    (parameters : node.parameterInputs = node.inputs.drop 1) :
    reductionAxis g' node = reductionAxis g node := by
  simp only [reductionAxis, same.shape_bind, same.integers_bind 0 parameters]

theorem Builtin.batchToSpaceParameters_congr (same : node.SeesSame g g')
    (parameters : node.parameterInputs = node.inputs.drop 1) :
    batchToSpaceParameters g' node = batchToSpaceParameters g node := by
  simp only [batchToSpaceParameters, same.shape_bind, same.integers_bind _ parameters]

/-- The shape rule gives the same shape where it reads the same. -/
theorem Builtin.outputShape_congr (same : node.SeesSame g g') :
    outputShape g' node = outputShape g node := by
  have types := same.frame.type_eq
  unfold outputShape
  cases operator : node.operator <;> dsimp only
  case abs | relu => simp only [sameShape, commonType, types, same.shape]
  case add | sub | mul | atan2 => simp only [binaryShape, commonType, types, same.shape_bind]
  case addN =>
    simp only [addNShape, commonType, types, same.shape_bind, List.forM_eq_forM]
    refine bind_congr_ok fun _ _ => bind_congr_ok fun type _ => bind_congr_ok fun a _ =>
      bind_congr_ok fun shape _ => ?_
    rw [forM_congr fun id inside => ?_]
    rw [same.shapes id (List.mem_of_mem_drop inside)]
  case batchMatMul => simp only [matrixShape, commonType, types, same.shape_bind]
  case averagePool2d | maxPool2d => simp only [poolShape, commonType, types, same.shape_bind]
  case argMax | argMin =>
    have parameters : node.parameterInputs = node.inputs.drop 1 := by
      rw [Node.parameterInputs, operator]
    simp only [reducedShape, types, reductionAxis_congr same parameters, same.shape_bind]
  case batchToSpaceNd =>
    have parameters : node.parameterInputs = node.inputs.drop 1 := by
      rw [Node.parameterInputs, operator]
    simp only [wovenShape, batchToSpaceParameters_congr same parameters, commonType, types,
      same.shape_bind]

/-- A node that has a shape has one output. -/
theorem Builtin.one_output {shape : Shape} (h : outputShape g node = .ok shape) :
    ∃ output, node.outputs = [output] := by
  rw [← List.length_eq_one_iff]
  unfold outputShape at h
  cases operator : node.operator <;>
    simp only [operator, sameShape, binaryShape, addNShape, matrixShape, poolShape, reducedShape,
      wovenShape, checkArity, bind_eq_ok, ensure_eq_ok] at h
  all_goals
    obtain ⟨_, ⟨_, single⟩, _⟩ := h
    exact single

end SeesSame

/-! ## Preparing -/

/-- Preparing a captured node checks its element types. -/
theorem Builtin.wellTyped_of_prepare {g g' : Graph} {node : Node} {d : Descriptor}
    (h : d.Captures node) (prepared : (prepare node).outcome g = (some (), g')) :
    WellTyped g node := by
  simp only [prepare, Action.outcome_bind, Action.outcome_get, Action.outcome_lift,
    Action.proceed_some, Action.proceed_toOption] at prepared
  obtain ⟨shape, found, -⟩ := prepared
  exact ((outputShape_eq_ok h).mp found).1

/-- Preparing a well-typed node comes to the same on the host and in the engine. -/
theorem outcome_prepare_eq {g : Graph} {node : Node} {d : Descriptor} (h : d.Captures node)
    (typed : Builtin.WellTyped g node) : d.infer.outcome g = (Builtin.prepare node).outcome g := by
  have shapes : (d.outputShape g).toOption = (Builtin.outputShape g node).toOption := by
    ext shape
    rw [toOption_eq_some, toOption_eq_some, Builtin.outputShape_eq_ok h]
    exact ⟨fun found => ⟨typed, found⟩, fun found => found.2⟩
  obtain ⟨output, outputs, outputs'⟩ := h.one_output
  simp [Descriptor.infer, Builtin.prepare, shapes, Descriptor.output, Node.output, outputs,
    outputs']

/-- Preparing a node changes the outputs only. -/
theorem Builtin.prepare_keepsTo (node : Node) :
    (prepare node).KeepsTo (Graph.Touches node.outputs) := by
  refine .bind .get fun g => .bind (.lift _) fun shape => ?_
  intro g
  simp only [Action.outcome_bind, Action.outcome_lift]
  cases found : node.output 0 with
  | error fault => exact .refl g
  | ok output =>
      exact Graph.resize_keepsTo shape (List.mem_of_getElem? (Node.output_eq_ok.mp found)) g

theorem Substitution.Descriptor.infer_keepsTo (d : Descriptor) :
    d.infer.KeepsTo (Graph.Touches d.outputs) := by
  refine .bind .get fun g => .bind (.lift _) fun shape => ?_
  intro g
  simp only [Action.outcome_bind, Action.outcome_lift]
  cases found : d.output with
  | error fault => exact .refl g
  | ok output =>
      simp only [toOption_ok, Action.proceed_some, Action.outcome_record, Action.outcome_during]
      exact Graph.resize_keepsTo shape
        (List.mem_of_getElem? (Descriptor.output_eq_ok.mp found)) g

theorem Substitution.Descriptor.infer_sameFrame (d : Descriptor) :
    d.infer.KeepsTo Graph.SameFrame := d.infer_keepsTo.mono fun _ _ h => h.toSameFrame

end TensorGraph
