import TensorGraph.Proofs.Filling
import TensorGraph.Proofs.Multiplying
import TensorGraph.Proofs.Settling
import TensorGraph.Proofs.Values
import TensorGraph.Proofs.Weaving
import TensorGraph.Proofs.Windows

/-!
# What has been prepared can be evaluated

The engine checks shapes when it infers them; its kernels check them again when they run, each in
its own way. The checks of a kernel follow from those of the shape rule, as long as the output still
has the shape that the rule gives it: `Descriptor.Ready.evaluates` says so for one descriptor.

For a region the shapes have to stay right while descriptors are evaluated one after the other.
Evaluation changes no shape, and no values that a shape rule reads, if no parameter is computed in
the region. So all that is needed is that inference settles all descriptors, and it does if they are
in dependency order and those with a common output agree on its shape
(`Region.evaluates_of_infer`).
-/

namespace TensorGraph

/-- All tensors of the graph can be addressed. -/
def Graph.Addressable (g : Graph) : Prop := ∀ entry ∈ g.tensors, entry.tensor.shape.Addressable

instance (g : Graph) : Decidable g.Addressable :=
  inferInstanceAs (Decidable (∀ entry ∈ g.tensors, entry.tensor.shape.Addressable))

theorem Graph.Addressable.of_shape {g : Graph} (h : g.Addressable) {id : Nat} {shape : Shape}
    (found : g.shape id = .ok shape) : shape.Addressable := by
  obtain ⟨entry, present, rfl⟩ := shape_eq_ok.mp found
  exact h entry (List.mem_of_getElem? present)

/-- A tensor of a type is a grid of the type, also while another tensor is being filled. -/
theorem Graph.Addressable.exists_view {g : Graph} (h : g.Addressable) {id other : Nat}
    {type : ElementType} (found : g.type id = .ok type) (distinct : other ≠ id) (tensor : Tensor) :
    ∃ grid : Grid type.Element, (g.put other tensor).view id type = .ok grid ∧
      g.shape id = .ok grid.shape ∧ grid.shape.Addressable := by
  obtain ⟨⟨name, ⟨own, grid⟩, constant⟩, present, rfl⟩ := type_eq_ok.mp found
  have addressable := h _ (List.mem_of_getElem? present)
  refine ⟨grid, view_eq_ok.mpr ⟨⟨name, ⟨own, grid⟩, constant⟩, ?_, rfl, addressable⟩,
    shape_eq_ok.mpr ⟨_, present, rfl⟩, addressable⟩
  rw [getElem?_put, if_neg distinct]
  exact present

namespace Substitution

namespace Descriptor

/-- The inputs that are read as parameters: an axis, or block sizes and crops. -/
def parameterInputs (d : Descriptor) : List Nat :=
  match d.kind with
  | .argMax | .argMin | .batchToSpaceNd => d.inputs.drop 1
  | _ => []

/-- The inputs after the first whose values a kernel calculates with. -/
def secondaryOperands (d : Descriptor) : List Nat :=
  match d.kind with
  | .argMax | .argMin | .batchToSpaceNd => []
  | _ => d.inputs.drop 1

/-- What shape inference does not look at: element types, and the limits of what kernels can count.
Secondary operands are in single precision, the output has a type of the catalog and the declared
one if there is a declaration, a reduced axis is neither empty nor longer than indices go, and
windows and what they slide over are short enough for signed words. -/
structure Admissible (g : Graph) (d : Descriptor) : Prop where
  secondary : ∀ id ∈ d.secondaryOperands, g.type id = .ok .f32
  output : ∀ id ∈ d.outputs, ∃ type ∈ d.kind.outputTypes, g.type id = .ok type
  declared : ∀ declaration ∈ d.declaredType.toOption, ∀ type ∈ declaration, ∀ id ∈ d.outputs,
    g.type id = .ok type
  axis : d.kind = .argMax ∨ d.kind = .argMin → ∀ id ∈ d.inputs.head?,
    ∀ shape ∈ (g.shape id).toOption, ∀ axis ∈ (d.reductionAxis g).toOption,
    0 < shape.getD axis 0 ∧ shape.getD axis 0 ≤ 2 ^ 31
  windows : ∀ id ∈ d.inputs.head?, ∀ shape ∈ (g.shape id).toOption,
    ∀ geometry ∈ d.poolGeometry.toOption, geometry.Below (2 ^ 62) shape

instance (g : Graph) (d : Descriptor) : Decidable (d.Admissible g) :=
  decidable_of_iff (_ ∧ _ ∧ _ ∧ _ ∧ _) ⟨fun ⟨a, b, c, d, e⟩ => ⟨a, b, c, d, e⟩,
    fun ⟨a, b, c, d, e⟩ => ⟨a, b, c, d, e⟩⟩

/-- A descriptor that the engine has captured and prepared, and may run. -/
structure Ready (g : Graph) (d : Descriptor) (node : Node) : Prop where
  captures : d.Captures node
  runnable : d.Runnable g
  admissible : d.Admissible g
  addressable : g.Addressable
  ordered : ∀ id ∈ node.inputs, id ∉ node.outputs
  settled : node.Settled g

section Ready

variable {g : Graph} {d : Descriptor} {node : Node}

/-- A descriptor that is ready has its first input in single precision. -/
theorem Ready.first (ready : d.Ready g node) :
    ∃ a, d.inputs[0]? = some a ∧ g.type a = .ok .f32 := by
  obtain ⟨a, first, single⟩ := ready.runnable.single
  rw [List.head?_eq_getElem?] at first
  exact ⟨a, first, single⟩

/-- The kernel's output: a tensor of a type of the catalog, in the shape that the engine finds. -/
theorem Ready.output (ready : d.Ready g node) : ∃ output type, ∃ grid : Grid type.Element,
    d.outputs = [output] ∧ g.changeable output = .ok ⟨type, grid⟩ ∧ grid.shape.Addressable ∧
      type ∈ d.kind.outputTypes ∧ d.outputShape g = .ok grid.shape := by
  obtain ⟨output, ⟨type, grid⟩, outputs, free, shape⟩ := ready.settled
  have outputs' := ready.captures.outputs.trans outputs
  obtain ⟨type', inside, found'⟩ := ready.admissible.output output (by simp [outputs'])
  rw [Graph.type_of_changeable free, Except.ok.injEq] at found'
  subst found'
  exact ⟨output, type, grid, outputs', free,
    ready.addressable.of_shape (Graph.shape_of_changeable free), inside,
    ((Builtin.outputShape_eq_ok ready.captures).mp shape).2⟩

/-! ### Filling the output -/

/-- A computation fills a tensor if its operands can be read and its kernel succeeds. -/
theorem computing_succeeds {α : Type} {output : Nat} {type : ElementType} {grid : Grid type.Element}
    (free : g.changeable output = .ok ⟨type, grid⟩) (addressable : grid.shape.Addressable)
    {prepare : Graph → Except Fault (Grid type.Element → Written α type.Element)}
    {a : α} (works : ∃ kernel, prepare (g.put output (Tensor.empty type)) = .ok kernel ∧
      (kernel grid).1 = .ok a) :
    ∃ g', (Graph.computing output type prepare).outcome g = (some a, g') := by
  obtain ⟨kernel, prepared, done⟩ := works
  exact ⟨g.put output ⟨type, (kernel grid).2⟩, Graph.computing_eq_some.mpr
    ⟨grid, kernel, free, addressable, prepared, done, rfl⟩⟩

theorem outcome_output {α : Type} {output : Nat} (outputs : d.outputs = [output])
    (next : Nat → Action Graph α) :
    (do next (← d.output) : Action Graph α).outcome g = (next output).outcome g := by
  have out : d.output = .ok output := by rw [output_eq_ok, outputs]; rfl
  rw [Action.outcome_bind, Action.outcome_lift, out, toOption_ok, Action.proceed_some]

/-- What fills the whole output succeeds as soon as there are values. -/
theorem overwrite_succeeds {α : Type} {output : Grid α} {kernel : Except Fault (Grid α)}
    (works : ∃ filled, kernel = .ok filled) : (output.overwrite kernel).1 = .ok () := by
  obtain ⟨filled, rfl⟩ := works
  rfl

variable {output : Nat} {grid : Grid Numeric.Single}

/-- An operand in single precision can be read while the output is being filled. -/
theorem Ready.operand (ready : d.Ready g node) (outputs : d.outputs = [output]) {i a : Nat}
    (found : d.inputs[i]? = some a) (single : g.type a = .ok .f32) (tensor : Tensor) :
    ∃ input : Grid Numeric.Single, (g.put output tensor).view a .f32 = .ok input ∧
      g.shape a = .ok input.shape ∧ input.shape.Addressable := by
  apply ready.addressable.exists_view single
  -- the tensor that is being filled is no input
  intro same
  apply ready.ordered a
  · rw [← ready.captures.inputs]
    exact List.mem_of_getElem? found
  · rw [← ready.captures.outputs, outputs, same]
    exact List.mem_singleton_self a

/-- A kernel of one operand runs if it accepts an addressable operand of the inferred shape. -/
theorem Ready.runUnary (ready : d.Ready g node) (outputs : d.outputs = [output])
    (free : g.changeable output = .ok ⟨.f32, grid⟩) (addressable : grid.shape.Addressable)
    {kernel : Grid Numeric.Single → Grid Numeric.Single → Written Unit Numeric.Single}
    (works : ∀ (a : Nat) (x : Grid Numeric.Single), d.inputs[0]? = some a →
      g.shape a = .ok x.shape → x.shape.Addressable → (kernel x grid).1 = .ok ()) :
    ∃ g', (d.runUnary kernel).outcome g = (some (), g') := by
  obtain ⟨a, first, single⟩ := ready.first
  obtain ⟨x, seen, shape, small⟩ := ready.operand outputs first single (Tensor.empty .f32)
  unfold Descriptor.runUnary
  rw [outcome_output outputs]
  refine computing_succeeds free addressable ⟨kernel x, ?_, works a x first shape small⟩
  simp only [input_eq_ok.mpr first, seen, bind_eq_ok, pure_eq_ok, Except.ok.injEq,
    exists_eq_left']

/-- A kernel of two operands runs if it accepts operands of the inferred shapes. -/
theorem Ready.runBinary (ready : d.Ready g node) (outputs : d.outputs = [output])
    (free : g.changeable output = .ok ⟨.f32, grid⟩) (addressable : grid.shape.Addressable)
    {b : Nat} (second : d.inputs[1]? = some b) (single' : g.type b = .ok .f32)
    {kernel : Grid Numeric.Single → Grid Numeric.Single → Grid Numeric.Single →
      Except Fault (Grid Numeric.Single)}
    (works : ∀ (a : Nat) (x y : Grid Numeric.Single), d.inputs[0]? = some a →
      g.shape a = .ok x.shape → g.shape b = .ok y.shape → ∃ filled, kernel x y grid = .ok filled) :
    ∃ g', (d.runBinary kernel).outcome g = (some (), g') := by
  obtain ⟨a, first, single⟩ := ready.first
  obtain ⟨x, seen, shape, -⟩ := ready.operand outputs first single (Tensor.empty .f32)
  obtain ⟨y, seen', shape', -⟩ := ready.operand outputs second single' (Tensor.empty .f32)
  unfold Descriptor.runBinary
  rw [outcome_output outputs]
  refine computing_succeeds free addressable
    ⟨fun output => output.overwrite (kernel x y output), ?_, ?_⟩
  · simp only [input_eq_ok.mpr first, input_eq_ok.mpr second, seen, seen', bind_eq_ok, pure_eq_ok,
      Except.ok.injEq, exists_eq_left']
  · exact overwrite_succeeds (works a x y first shape shape')

/-! ### Kernel by kernel -/

/-- The output of a kernel that does not find indices is in single precision. -/
theorem Ready.output_single (ready : d.Ready g node) (values : d.kind.outputTypes = [.f32]) :
    ∃ output, ∃ grid : Grid Numeric.Single, d.outputs = [output] ∧
      g.changeable output = .ok ⟨.f32, grid⟩ ∧ grid.shape.Addressable ∧
      d.outputShape g = .ok grid.shape := by
  obtain ⟨output, type, grid, outputs, free, addressable, inside, shape⟩ := ready.output
  rw [values, List.mem_singleton] at inside
  subst inside
  exact ⟨output, grid, outputs, free, addressable, shape⟩

theorem Ready.abs (ready : d.Ready g node) (kind : d.kind = .abs) :
    ∃ g', (d.runUnary fun input output => output.overwrite (Kernel.abs input output)).outcome g =
      (some (), g') := by
  obtain ⟨output, grid, outputs, free, addressable, shape⟩ :=
    ready.output_single (by rw [kind]; rfl)
  apply ready.runUnary outputs free addressable
  intro a x first found _
  simp only [outputShape, kind, bind_eq_ok, primaryInput_eq_ok, shapeOf_eq_ok, pure_eq_ok] at shape
  obtain ⟨a', first', primary, found', rfl⟩ := shape
  obtain rfl : a = a' := by simpa [first] using first'
  rw [found, Except.ok.injEq] at found'
  exact overwrite_succeeds ⟨_, Kernel.unary_eq_ok.mpr ⟨found', rfl⟩⟩

/-- Both operands broadcast to the merged shape. -/
theorem Ready.binary (ready : d.Ready g node)
    (kind : d.kind = .add ∨ d.kind = .mul ∨ d.kind = .atan2)
    (f : Numeric.Single → Numeric.Single → Numeric.Single) (range : ClampRange Numeric.Single) :
    ∃ g', (d.runBinary (Kernel.binary f range)).outcome g = (some (), g') := by
  obtain ⟨output, grid, outputs, free, addressable, shape⟩ :=
    ready.output_single (by rcases kind with k | k | k <;> rw [k] <;> rfl)
  obtain ⟨a, b, -, inputs⟩ := ready.captures.two_inputs
    (by rcases kind with k | k | k <;> rw [k] <;> rfl)
  have single' : g.type b = .ok .f32 := by
    apply ready.admissible.secondary b
    rcases kind with k | k | k <;> simp [secondaryOperands, k, inputs]
  have second : d.inputs[1]? = some b := by rw [inputs]; rfl
  apply ready.runBinary outputs free addressable second single'
  intro a' x y first found found'
  obtain rfl : a = a' := by simpa [inputs] using first
  -- inference has merged the same two shapes
  have merged : Shape.broadcast [x.shape, y.shape] = .ok grid.shape := by
    rcases kind with k | k | k <;>
      simpa [outputShape, k, inputs, found, found'] using shape
  exact Kernel.zipBroadcast_eq_ok.mpr
    ⟨Shape.broadcastsTo_of_broadcast merged (by simp),
      Shape.broadcastsTo_of_broadcast merged (by simp)⟩

theorem Ready.addN (ready : d.Ready g node) (kind : d.kind = .addN) :
    ∃ g', d.runAddN.outcome g = (some (), g') := by
  obtain ⟨output, grid, outputs, free, addressable, shape⟩ :=
    ready.output_single (by rw [kind]; rfl)
  obtain ⟨a, others, -, inputs⟩ := ready.captures.some_inputs
  obtain ⟨a', first, single⟩ := ready.first
  obtain rfl : a = a' := by simpa [inputs] using first
  -- all inputs have the shape of the first one, which is that of the output
  have same : ∀ id ∈ d.inputs, g.shape id = .ok grid.shape := by
    simp only [outputShape, kind, bind_eq_ok, primaryInput_eq_ok, shapeOf_eq_ok, pure_eq_ok,
      List.forM_eq_forM, forM_eq_ok, ensure_eq_ok] at shape
    obtain ⟨a', first', primary, found, _, alike, rfl⟩ := shape
    obtain rfl : a = a' := by simpa [first] using first'
    intro id inside
    rw [inputs] at inside alike
    rcases List.mem_cons.mp inside with rfl | inside
    · exact found
    · obtain ⟨shape, found', rfl⟩ := alike id inside
      exact found'
  have singles : ∀ id ∈ d.inputs, g.type id = .ok .f32 := by
    intro id inside
    rw [inputs] at inside
    rcases List.mem_cons.mp inside with rfl | inside
    · exact single
    · apply ready.admissible.secondary id
      simpa [secondaryOperands, kind, inputs] using inside
  have readable : ∀ id ∈ d.inputs, ∃ x, (g.put output (Tensor.empty .f32)).view id .f32 = .ok x ∧
      x.shape = grid.shape := by
    intro id inside
    obtain ⟨i, found⟩ := List.mem_iff_getElem?.mp inside
    obtain ⟨x, seen, shape', -⟩ :=
      ready.operand outputs found (singles id inside) (Tensor.empty .f32)
    rw [same id inside, Except.ok.injEq] at shape'
    exact ⟨x, seen, shape'.symm⟩
  obtain ⟨grids, seen⟩ := mapM_succeeds fun id inside => (readable id inside).imp fun _ h => h.1
  unfold runAddN
  rw [outcome_output outputs]
  refine computing_succeeds free addressable
    ⟨fun output => output.overwrite (Kernel.addN grids output), ?_, overwrite_succeeds ?_⟩
  · simp only [seen, bind_eq_ok, pure_eq_ok, Except.ok.injEq, exists_eq_left']
  · rw [mapM_eq_ok] at seen
    refine Kernel.addN_eq_ok.mpr ⟨?_, fun x inside => ?_⟩
    · -- there is a first input, so there is something to add
      rintro rfl
      rw [inputs] at seen
      cases seen
    · obtain ⟨id, inside', found⟩ := exists_left_of_forall₂ seen inside
      obtain ⟨x', found', shape'⟩ := readable id inside'
      rw [found, Except.ok.injEq] at found'
      rw [found', shape']

/-- Every index that is found on a reduced axis is an element of the output's type. -/
theorem Ready.argExtremum (ready : d.Ready g node) (kind : d.kind = .argMax ∨ d.kind = .argMin)
    (largest : Bool) : ∃ g', (d.runArgExtremum largest).outcome g = (some (), g') := by
  obtain ⟨output, type, grid, outputs, free, addressable, inside, shape⟩ := ready.output
  obtain ⟨a, first, single⟩ := ready.first
  obtain ⟨x, seen, found, -⟩ := ready.operand outputs first single (Tensor.empty type)
  have index : type = .i32 ∨ type = .i64 := by
    rcases kind with k | k <;> rw [k] at inside <;> simpa [Kind.outputTypes] using inside
  have reduced : ∃ axis, d.reductionAxis g = .ok axis ∧ x.shape.eraseIdx axis = grid.shape := by
    rcases kind with k | k <;> simpa [outputShape, k, first, found] using shape
  obtain ⟨axis, resolved, reduced⟩ := reduced
  have limits := ready.admissible.axis kind a (by rw [List.head?_eq_getElem?, first]; rfl) x.shape
    (toOption_eq_some.mpr found) axis (toOption_eq_some.mpr resolved)
  -- a negative axis has been counted from the last one
  have inRange : axis < x.shape.length := by
    obtain ⟨a', _, value, shape', first', _, found', _, stands⟩ := reductionAxis_eq_ok.mp resolved
    obtain rfl : a = a' := by simpa [first] using first'
    rw [found, Except.ok.injEq] at found'
    subst found'
    exact stands.lt
  have typed := Graph.type_of_changeable free
  have filled : ∃ g', (Graph.computing output type fun g => do
      let input ← g.view (← d.input 0) .f32
      return Kernel.argExtremum .f32 type axis largest input).outcome g = (some (), g') := by
    refine computing_succeeds free addressable
      ⟨Kernel.argExtremum .f32 type axis largest x, ?_, ?_⟩
    · simp only [input_eq_ok.mpr first, seen, bind_eq_ok, pure_eq_ok, Except.ok.injEq,
        exists_eq_left']
    · refine Kernel.argExtremum_succeeds inRange limits.1 reduced.symm (fun i below => ?_) largest
      exact Kernel.ofIndex?_isSome index (Nat.lt_of_lt_of_le below limits.2)
  have out : d.output = .ok output := by rw [output_eq_ok, outputs]; rfl
  rcases index with rfl | rfl <;> simpa [runArgExtremum, resolved, out, typed] using filled

/-- Windows of the inferred number are inside the input. -/
theorem Ready.pool (ready : d.Ready g node)
    (kind : d.kind = .averagePool2d ∨ d.kind = .maxPool2d)
    (reduce : ClampRange Numeric.Single → List Numeric.Single → Numeric.Single) :
    ∃ g', (d.runPool fun geometry range => Kernel.poolInto (reduce range) geometry).outcome g =
      (some (), g') := by
  obtain ⟨output, grid, outputs, free, addressable, shape⟩ :=
    ready.output_single (by rcases kind with k | k <;> rw [k] <;> rfl)
  have geometry := (ready.captures.poolGeometry_eq kind).1
  generalize (Builtin.poolParameters node).geometry = windows at geometry
  rw [runPool, Action.outcome_bind, Action.outcome_lift, geometry, toOption_ok,
    Action.proceed_some]
  apply ready.runUnary outputs free addressable
  intro a x first found _
  have below := ready.admissible.windows a (by rw [List.head?_eq_getElem?, first]; rfl) x.shape
    (toOption_eq_some.mpr found) windows (toOption_eq_some.mpr geometry)
  have inferred : windows.outputShape x.shape = .ok grid.shape := by
    simp only [outputShape] at shape
    rcases kind with k | k <;>
      simp only [k, bind_eq_ok, primaryInput_eq_ok, first, Option.some.injEq, exists_eq_left',
        shapeOf_eq_ok, found, Except.ok.injEq, geometry, during_eq_ok] at shape
    all_goals exact shape.choose_spec.2
  exact Kernel.poolInto_succeeds inferred below.counted

/-- The only product that is run is the one whose shape has been inferred. -/
theorem Ready.matrixProduct (ready : d.Ready g node) (kind : d.kind = .batchMatMul) :
    ∃ g', d.runMatrixProduct.outcome g = (some (), g') := by
  obtain ⟨output, grid, outputs, free, addressable, shape⟩ :=
    ready.output_single (by rw [kind]; rfl)
  obtain ⟨a, b, -, inputs⟩ := ready.captures.two_inputs (by rw [kind]; rfl)
  obtain ⟨a', first, single⟩ := ready.first
  obtain rfl : a = a' := by simpa [inputs] using first
  have second : d.inputs[1]? = some b := by rw [inputs]; rfl
  have single' : g.type b = .ok .f32 := by
    apply ready.admissible.secondary b
    simp [secondaryOperands, kind, inputs]
  obtain ⟨x, seen, found, -⟩ := ready.operand outputs first single (Tensor.empty .f32)
  obtain ⟨y, seen', found', -⟩ := ready.operand outputs second single' (Tensor.empty .f32)
  -- other flags are not supported, see `Runnable`
  have flags : d.adjoints = .ok (false, true) := by
    rw [Descriptor.adjoints, ready.runnable.adjoint kind]
  have product : ∃ geometry, MatrixGeometry.ofShapes x.shape y.shape false true = .ok geometry ∧
      geometry.outputShape = grid.shape := by
    simpa [outputShape, kind, inputs, flags, found, found'] using shape
  obtain ⟨geometry, product, same⟩ := product
  have filled : ∃ g', (Graph.computing output .f32 fun g => do
      let a ← g.view (← d.input 0) .f32
      let b ← g.view (← d.input 1) .f32
      return Kernel.batchMatMul false true a b).outcome g = (some geometry, g') := by
    refine computing_succeeds free addressable ⟨Kernel.batchMatMul false true x y, ?_, ?_⟩
    · simp only [input_eq_ok.mpr first, input_eq_ok.mpr second, seen, seen', bind_eq_ok,
        pure_eq_ok, Except.ok.injEq, exists_eq_left']
    · exact Kernel.batchMatMul_eq_ok.mpr ⟨product, same.symm⟩
  obtain ⟨g', filled⟩ := filled
  have out : d.output = .ok output := by rw [output_eq_ok, outputs]; rfl
  refine ⟨g', ?_⟩
  simp only [runMatrixProduct, flags, out, filled, Action.outcome_bind, Action.outcome_lift,
    Action.outcome_record, toOption_ok, Action.proceed_some, Bool.false_eq_true, Bool.true_eq_false,
    or_self, if_false]

theorem Ready.batchToSpace (ready : d.Ready g node) (kind : d.kind = .batchToSpaceNd) :
    ∃ g', d.runBatchToSpace.outcome g = (some (), g') := by
  obtain ⟨output, grid, outputs, free, addressable, shape⟩ :=
    ready.output_single (by rw [kind]; rfl)
  -- the kernel is known by the shape rule of the host, so that is what the engine's rule becomes
  have woven : d.batchToSpaceShape g = .ok grid.shape := by
    simp only [outputShape, kind, bind_eq_ok] at shape
    obtain ⟨_, _, _, _, shape⟩ := shape
    exact shape
  obtain ⟨block, crops, a, input, parameters, first, found, woven⟩ :=
    (batchToSpaceShape_agrees ready.captures.inputs).mp woven
  obtain ⟨a', input', first', found', rank, blocks, pairs⟩ :=
    Kernel.lengths_of_parameters parameters
  have parameters' := (batchToSpaceParameters_agree ready.captures.inputs).mp parameters
  rw [runBatchToSpace, Action.outcome_bind, Action.outcome_get, Action.proceed_some,
    Action.outcome_bind, Action.outcome_lift, parameters', toOption_ok, Action.proceed_some]
  apply ready.runUnary outputs free addressable
  intro a'' x first'' found'' small
  rw [← ready.captures.inputs] at first first'
  obtain rfl : a = a'' := by simpa [first] using first''
  obtain rfl : a = a' := by simpa [first] using first'
  rw [found, Except.ok.injEq] at found' found''
  subst found'
  subst found''
  exact overwrite_succeeds (Kernel.batchToSpace_succeeds woven rank blocks pairs small)

/-- The kernel of a descriptor that has been prepared succeeds. -/
theorem Ready.runs (ready : d.Ready g node) : ∃ g', d.run.outcome g = (some (), g') := by
  unfold Descriptor.run
  cases kind : d.kind
  case abs => exact ready.abs kind
  case add => exact ready.binary (.inl kind) (· + ·) _
  case mul => exact ready.binary (.inr (.inl kind)) (· * ·) _
  case atan2 => exact ready.binary (.inr (.inr kind)) FloatLike.arctan2 _
  case addN => exact ready.addN kind
  case argMax => exact ready.argExtremum (.inl kind) true
  case argMin => exact ready.argExtremum (.inr kind) false
  case averagePool2d =>
    exact ready.pool (.inl kind) fun range values => range.clamp (Kernel.average values)
  case maxPool2d =>
    exact ready.pool (.inr kind) fun range values => range.clamp (Kernel.maximum values)
  case batchMatMul => exact ready.matrixProduct kind
  case batchToSpaceNd => exact ready.batchToSpace kind

/-- A descriptor that has been prepared can be evaluated. -/
theorem Ready.evaluates (ready : d.Ready g node) : ∃ g', d.evaluate.outcome g = (some (), g') := by
  obtain ⟨output, type, grid, outputs, free, -, inside, -⟩ := ready.output
  have found := Graph.type_of_changeable free
  have passes : d.checkOutput type = .ok () := by
    refine (checkOutput_eq_ok ready.captures).mpr ⟨inside, fun reduction type' declared => ?_⟩
    have decoded := ready.captures.declaredType_eq reduction
    have found' := ready.admissible.declared _ (toOption_eq_some.mpr decoded) type' declared output
      (by simp [outputs])
    rw [found, Except.ok.injEq] at found'
    exact found'.symm
  have out : node.outputs[0]? = some output := by
    rw [← ready.captures.outputs, outputs]
    rfl
  rw [outcome_evaluate_of_output ready.captures ready.runnable out found passes]
  exact ready.runs

end Ready

/-- The host compares the output with the first input and with secondary operands. -/
theorem Captures.typedInputs_subset {d : Descriptor} {node : Node} (captures : d.Captures node)
    {a : Nat} (first : node.inputs[0]? = some a) :
    node.typedInputs ⊆ a :: d.secondaryOperands := by
  obtain ⟨a', others, inputs, inputs'⟩ := captures.some_inputs
  obtain rfl : a' = a := by simpa [inputs] using first
  have operator := captures.operator
  intro id read
  unfold Node.typedInputs at read
  cases kind : d.kind <;> rw [kind] at operator <;>
    simp only [operator, Kind.operator, inputs] at read <;>
    simp only [secondaryOperands, kind, inputs', List.drop_one, List.tail_cons]
  case add | mul | atan2 =>
    rw [List.take_succ_cons] at read
    exact List.cons_subset_cons a' (List.take_subset _ _) read
  case addN => exact read
  case argMax | argMin => cases read
  all_goals
    rw [List.take_succ_cons, List.take_zero] at read
    exact List.cons_subset_cons a' (List.nil_subset _) read

/-- Admissible descriptors stand for nodes that are well typed for the host. -/
theorem Admissible.wellTyped {g : Graph} {d : Descriptor} {node : Node} (h : d.Admissible g)
    (captures : d.Captures node) (runnable : d.Runnable g) : Builtin.WellTyped g node := by
  obtain ⟨output, outputs, outputs'⟩ := captures.one_output
  obtain ⟨a, first, single⟩ := runnable.first_input captures
  obtain ⟨type, inside, found⟩ := h.output output (by simp [outputs'])
  have operator := captures.operator
  refine ⟨output, type, by rw [outputs]; rfl, found, ?_, ?_⟩
  · intro id read
    -- nodes without typed inputs are those whose outputs hold indices
    have type_eq : type = .f32 := by
      unfold Node.typedInputs at read
      cases kind : d.kind <;> rw [kind] at operator inside <;>
        simp only [operator, Kind.operator] at read <;>
        simp_all [Kind.outputTypes]
    rw [type_eq]
    rcases List.mem_cons.mp (captures.typedInputs_subset first read) with rfl | secondary
    · exact single
    · exact h.secondary id secondary
  · intro indices
    have reduction : d.kind = .argMax ∨ d.kind = .argMin := by
      cases kind : d.kind <;> rw [kind] at operator <;> simp_all [Kind.operator]
    constructor
    · rcases reduction with kind | kind <;> simpa [kind, Kind.outputTypes] using inside
    · intro declared declaration
      have found' := h.declared _ (toOption_eq_some.mpr (captures.declaredType_eq reduction))
        declared declaration output (by simp [outputs'])
      rw [found, Except.ok.injEq] at found'
      exact found'.symm

/-- A descriptor that is ready stays ready while values are filled in that it does not read as
parameters. -/
theorem Ready.of_fills {g g' : Graph} {d : Descriptor} {node : Node} {ids : List Nat}
    (ready : d.Ready g node) (filled : Graph.Fills ids g g')
    (given : ∀ id ∈ d.parameterInputs, id ∉ ids) : d.Ready g' node := by
  have frame := filled.toSameFrame
  have parameters : d.parameterInputs = node.parameterInputs := by
    have operator := ready.captures.operator
    unfold parameterInputs Node.parameterInputs
    cases kind : d.kind <;> rw [kind] at operator <;>
      simp only [operator, Kind.operator, ready.captures.inputs]
  have same : node.SeesSame g g' := by
    apply Node.SeesSame.of_fills filled
    rwa [← parameters]
  refine ⟨ready.captures, ready.runnable.of_sameFrame frame, ?_, ?_, ready.ordered,
    ready.settled.of_seesSame same fun id _ => filled.shape_eq id⟩
  · obtain ⟨secondary, output, declared, axis, windows⟩ := ready.admissible
    refine ⟨?_, ?_, ?_, ?_, ?_⟩
    · simpa only [frame.type_eq] using secondary
    · simpa only [frame.type_eq] using output
    · simpa only [frame.type_eq] using declared
    · intro reduction id first shape found axis' resolved
      rw [filled.shape_eq] at found
      refine axis reduction id first shape found axis' ?_
      -- the axis is read from a parameter, which has not been filled
      rw [Option.mem_def, toOption_eq_some] at resolved ⊢
      rw [← reductionAxis_agrees ready.captures] at resolved ⊢
      rw [← Builtin.reductionAxis_congr same, resolved]
      rw [← parameters, ← ready.captures.inputs, parameterInputs]
      rcases reduction with kind | kind <;> rw [kind]
    · simpa only [filled.shape_eq] using windows
  · intro entry present
    obtain ⟨id, found⟩ := List.mem_iff_getElem?.mp present
    have shape : g'.shape id = .ok entry.tensor.shape := Graph.shape_eq_ok.mpr ⟨entry, found, rfl⟩
    rw [filled.shape_eq] at shape
    exact ready.addressable.of_shape shape

end Descriptor

def Region.ParametersGiven (region : Region) : Prop :=
  ∀ d ∈ region.descriptors, ∀ id ∈ d.parameterInputs, ∀ e ∈ region.descriptors, id ∉ e.outputs

instance (region : Region) : Decidable region.ParametersGiven :=
  inferInstanceAs (Decidable (∀ d ∈ region.descriptors, _))

/-- Descriptors that compute the same tensor give it the same shape. -/
def Region.Agrees (region : Region) (g : Graph) : Prop :=
  ∀ d ∈ region.descriptors, ∀ e ∈ region.descriptors, ∀ id ∈ d.outputs, id ∈ e.outputs →
    ∀ shape ∈ (d.outputShape g).toOption, ∀ shape' ∈ (e.outputShape g).toOption, shape = shape'

instance (region : Region) (g : Graph) : Decidable (region.Agrees g) :=
  inferInstanceAs (Decidable (∀ d ∈ region.descriptors, _))

/-- The nodes that were captured, side by side with their descriptors. -/
theorem Region.exists_nodes {options : Options} {g : Graph} {nodes : List Nat} {region : Region}
    (captured : ((Region.capture g nodes).run ()).ending = .ok region)
    (supported : ∀ id ∈ nodes, supports options g id = true) : ∃ captured : List Node,
      List.Forall₂ (fun d node => d.Captures node ∧ d.Runnable g) region.descriptors captured := by
  have outcome : (Region.capture g nodes).outcome () = (some region, ()) :=
    Action.outcome_eq_some.mpr ⟨captured, rfl⟩
  obtain ⟨-, captures⟩ := Region.outcome_capture.mp outcome
  clear captured outcome
  generalize region.descriptors = descriptors at captures
  induction captures with
  | nil => exact ⟨[], .nil⟩
  | @cons id d nodes descriptors first _ ih =>
      obtain ⟨node, found, captures⟩ := first
      obtain ⟨rest, others⟩ := ih fun id inside => supported id (List.mem_cons_of_mem _ inside)
      have runnable := runnable_of_supports (supported id List.mem_cons_self) found captures
      exact ⟨node :: rest, .cons ⟨captures, runnable⟩ others⟩

/-- Inferring the shapes of a region in dependency order settles its nodes. -/
theorem Region.settled_of_infer {g g' : Graph} {region : Region} {captured : List Node}
    (typed : List.Forall₂ (fun d node => d.Captures node ∧ Builtin.WellTyped g node)
      region.descriptors captured)
    (ordered : InOrder Descriptor.inputs Descriptor.outputs region.descriptors)
    (agrees : region.Agrees g') (done : region.infer.outcome g = (some (), g')) :
    ∀ node ∈ captured, node.Settled g' := by
  -- the host does the same with the nodes as the engine with their descriptors
  have prepared : (forM captured Builtin.prepare).outcome g = (some (), g') := by
    rw [← done]
    symm
    refine Action.outcome_forM_congr (R := Graph.SameFrame) ?_ (fun d _ => d.infer_sameFrame)
      (.refl g)
    apply typed.imp
    rintro d node ⟨captures, typed⟩ t reached
    exact outcome_prepare_eq captures (typed.of_sameFrame reached)
  refine settled_of_prepare ?_ ?_ prepared
  · exact ordered.of_forall₂ (typed.imp fun d node h => ⟨h.1.inputs, h.1.outputs⟩)
  · intro node inside other inside' id written written' shape shape' found found'
    obtain ⟨d, mem, captures, -⟩ := exists_left_of_forall₂ typed inside
    obtain ⟨d', mem', captures', -⟩ := exists_left_of_forall₂ typed inside'
    rw [← captures.outputs] at written
    rw [← captures'.outputs] at written'
    rw [Builtin.outputShape_eq_ok captures] at found
    rw [Builtin.outputShape_eq_ok captures'] at found'
    exact agrees d mem d' mem' id written written' shape (toOption_eq_some.mpr found.2) shape'
      (toOption_eq_some.mpr found'.2)

/-- If shapes of a region of supported nodes have been inferred, then the region can be evaluated:
no check of a kernel fails and no calculation of a kernel overflows. The region is in dependency
order, none of its parameters is computed in it, its descriptors are admissible, and those that
compute the same tensor give it the same shape. -/
theorem Region.evaluates_of_infer {options : Options} {g : Graph} {nodes : List Nat}
    {region : Region} (captured : ((Region.capture g nodes).run ()).ending = .ok region)
    (supported : ∀ id ∈ nodes, supports options g id = true)
    (ordered : InOrder Descriptor.inputs Descriptor.outputs region.descriptors)
    (given : region.ParametersGiven) (inferred : (region.infer.run g).ending = .ok ())
    (admissible : ∀ d ∈ region.descriptors, d.Admissible (region.infer.run g).state)
    (addressable : (region.infer.run g).state.Addressable)
    (agrees : region.Agrees (region.infer.run g).state) :
    (region.evaluate.run (region.infer.run g).state).ending = .ok () := by
  obtain ⟨captured, pairs⟩ := region.exists_nodes captured supported
  have done : region.infer.outcome g = (some (), (region.infer.run g).state) :=
    Action.outcome_eq_some.mpr ⟨inferred, rfl⟩
  generalize (region.infer.run g).state = g' at *
  have frame : Graph.SameFrame g g' := by
    have kept : region.infer.KeepsTo Graph.SameFrame := .forM fun d _ => d.infer_sameFrame
    have kept := kept g
    rwa [done] at kept
  have typed : List.Forall₂ (fun d node => d.Captures node ∧ Builtin.WellTyped g node)
      region.descriptors captured := by
    apply ((List.forall₂_and_left _ _).mpr ⟨admissible, pairs⟩).imp
    rintro d node ⟨admissible, captures, runnable⟩
    have typed := admissible.wellTyped captures (runnable.of_sameFrame frame)
    exact ⟨captures, typed.of_sameFrame frame.symm⟩
  have settled := Region.settled_of_infer typed ordered agrees done
  -- evaluating the region only fills outputs, and with them no descriptor ceases to be ready
  have steps : ∀ d ∈ region.descriptors, ∀ t,
      Graph.Fills (region.descriptors.flatMap Descriptor.outputs) g' t →
      ∃ u, d.evaluate.outcome t = (some (), u) := by
    intro d inside t filled
    obtain ⟨node, mem, captures, runnable⟩ := exists_right_of_forall₂ pairs inside
    have ready : d.Ready g' node := by
      refine ⟨captures, runnable.of_sameFrame frame, admissible d inside, addressable, ?_,
        settled node mem⟩
      rw [← captures.inputs, ← captures.outputs]
      exact ordered.own d inside
    apply Descriptor.Ready.evaluates
    apply ready.of_fills filled
    intro id parameter written
    obtain ⟨e, inside', written⟩ := List.mem_flatMap.mp written
    exact given d inside id parameter e inside' written
  obtain ⟨g'', evaluated⟩ :=
    Action.forM_of_steps steps (fun _ inside => Descriptor.evaluate_fills inside) (.refl g')
  exact (Action.outcome_eq_some.mp evaluated).1

/-- Absolute values of a table, and the place of the largest of them in each row. -/
def Region.ranking : Graph where
  tensors :=
    [⟨"x", ⟨.f32, ⟨[1, 2], #[Numeric.Floating.ofNat 1, Numeric.Floating.ofNat 2], rfl⟩⟩, false⟩,
      ⟨"axis", ⟨.i32, ⟨[1], #[1], rfl⟩⟩, true⟩, ⟨"a", Tensor.empty .f32, false⟩,
      ⟨"y", Tensor.empty .i32, false⟩]
  nodes :=
    [⟨0, "absolute", .abs, none, [0], [2]⟩,
      ⟨1, "largest", .argMax, some (.argMax .i32), [2, 1], [3]⟩]
  inputs := [0]
  outputs := [3]

theorem Region.ranking_evaluates :
    let region : Region :=
      ⟨[⟨.abs, .none, .none, [0], [2]⟩, ⟨.argMax, .none, .argExtremum (some .i32), [2, 1], [3]⟩],
        [0, 1]⟩
    ((Region.capture ranking [0, 1]).run ()).ending = .ok region ∧
      (region.evaluate.run (region.infer.run ranking).state).ending = .ok () := by
  refine ⟨by decide +kernel,
    @Region.evaluates_of_infer .all ranking [0, 1] _ ?_ ?_ ?_ ?_ ?_ ?_ ?_ ?_⟩
  all_goals decide +kernel

/-- Two nodes that compute the same tensor from tensors of different shapes. -/
def Region.contested : Graph where
  tensors :=
    [⟨"x", ⟨.f32, ⟨[1], #[Numeric.Floating.ofNat 1], by decide⟩⟩, false⟩,
      ⟨"y", ⟨.f32, ⟨[2], #[Numeric.Floating.ofNat 1, Numeric.Floating.ofNat 2], by decide⟩⟩, false⟩,
      ⟨"t", Tensor.empty .f32, false⟩]
  nodes := [⟨0, "first", .abs, none, [0], [2]⟩, ⟨1, "second", .abs, none, [1], [2]⟩]
  inputs := [0, 1]
  outputs := [2]

/-- Without agreement on shapes inference may succeed and evaluation fail. -/
theorem Region.contested_fails :
    ¬ ∀ (options : Options) (g : Graph) (nodes : List Nat) (region : Region),
      ((Region.capture g nodes).run ()).ending = .ok region →
      (∀ id ∈ nodes, supports options g id = true) →
      InOrder Descriptor.inputs Descriptor.outputs region.descriptors →
      region.ParametersGiven → (region.infer.run g).ending = .ok () →
      (∀ d ∈ region.descriptors, d.Admissible (region.infer.run g).state) →
      (region.infer.run g).state.Addressable →
      (region.evaluate.run (region.infer.run g).state).ending = .ok () := by
  intro always
  have evaluated := always .all contested [0, 1]
    ⟨[⟨.abs, .none, .none, [0], [2]⟩, ⟨.abs, .none, .none, [1], [2]⟩], [0, 1]⟩
    (by decide +kernel) (by decide +kernel) (by decide +kernel) (by decide +kernel)
    (by decide +kernel) (by decide +kernel) (by decide +kernel)
  revert evaluated
  decide +kernel

end Substitution

end TensorGraph
