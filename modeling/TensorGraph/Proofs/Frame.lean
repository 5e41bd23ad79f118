import TensorGraph.Interpreter
import TensorGraph.Proofs.Outcome

/-!
# What actions on a graph leave alone

Running a graph changes shapes and values of tensors, never their names, their element types or
which of them are constant, and never the nodes (`SameFrame`). Shapes are changed by `Graph.resize`
alone: it touches one tensor (`Touches`). Values are changed by `Graph.computing`, which fills one
tensor and leaves all shapes as they are (`Fills`).

Everything that is said here about the two operations is carried over to operators, descriptors and
plans by `Action.KeepsTo`.
-/

namespace TensorGraph

/-! ## Tensors -/

namespace Tensor

/-- A tensor takes every shape that can be counted, and keeps its values if their number is right.
-/
theorem resize_of_counted {x : Tensor} {shape : Shape} {n : Nat} (counted : shape.count? = some n) :
    ∃ grid : Grid x.type.Element, x.resize shape = .ok ⟨x.type, grid⟩ ∧ grid.shape = shape ∧
      grid.values = if n = x.size then x.grid.values else Array.replicate n x.type.zero := by
  unfold resize
  split
  next none => cases none.symm.trans counted
  next m found =>
    obtain rfl : m = n := Option.some.inj (found.symm.trans counted)
    by_cases same : m = x.grid.values.size
    · exact ⟨_, dif_pos same, rfl, (if_pos same).symm⟩
    · exact ⟨_, dif_neg same, rfl, (if_neg same).symm⟩

theorem resize_of_not_counted {x : Tensor} {shape : Shape} (none : shape.count? = none) :
    x.resize shape = .error .aborted := by
  unfold resize
  split
  next => rfl
  next n found => cases none.symm.trans found

theorem resize_eq_ok {x y : Tensor} {shape : Shape} (h : x.resize shape = .ok y) :
    y.type = x.type ∧ y.shape = shape := by
  cases found : shape.count? with
  | none =>
      rw [resize_of_not_counted found] at h
      cases h
  | some n =>
      obtain ⟨grid, made, shaped, -⟩ := resize_of_counted (x := x) found
      rw [made] at h
      cases h
      exact ⟨rfl, shaped⟩

theorem elements_eq_ok {x : Tensor} {type : ElementType} {grid : Grid type.Element} :
    x.elements type = .ok grid ↔ x = ⟨type, grid⟩ := by
  obtain ⟨own, g⟩ := x
  unfold elements
  by_cases h : own = type
  · subst h
    simp
  · simp [h]

/-- A tensor can be viewed as a grid of its own type, if its shape can be addressed. -/
theorem view_eq_ok {x : Tensor} {type : ElementType} {grid : Grid type.Element} :
    x.view type = .ok grid ↔ x = ⟨type, grid⟩ ∧ grid.shape.Addressable := by
  simp only [view, bind_eq_ok, elements_eq_ok, ensure_eq_ok, pure_eq_ok]
  constructor
  · rintro ⟨_, same, _, addressable, rfl⟩
    exact ⟨same, addressable⟩
  · rintro ⟨same, addressable⟩
    exact ⟨grid, same, (), addressable, rfl⟩

end Tensor

theorem Grid.shape_of_ofValues? {α : Type} {shape : Shape} {values : Array α} {grid : Grid α}
    (h : Grid.ofValues? shape values = some grid) : grid.shape = shape := by
  unfold Grid.ofValues? at h
  split at h
  · cases h
    rfl
  · cases h

/-- A kernel keeps the shape of the output that it fills, whether it succeeds or not. -/
def Grid.Keeps {α β : Type} (kernel : Grid β → Written α β) : Prop :=
  ∀ output, (kernel output).2.shape = output.shape

/-- A kernel keeps shapes if what it fills has the shape of the output. -/
theorem Grid.keeps_overwrite {β : Type} {kernel : Grid β → Except Fault (Grid β)}
    (h : ∀ output filled, kernel output = .ok filled → filled.shape = output.shape) :
    Grid.Keeps fun output => output.overwrite (kernel output) := by
  intro output
  show (output.overwrite (kernel output)).2.shape = output.shape
  cases result : kernel output with
  | ok filled => exact h output filled result
  | error fault => rfl

/-- A kernel that keeps shapes changes neither type nor shape of a tensor. -/
theorem Tensor.update_keeps {α : Type} {x : Tensor} {type : ElementType}
    {kernel : Grid type.Element → Written α type.Element} (h : Grid.Keeps kernel) :
    (x.update type kernel).2.type = x.type ∧ (x.update type kernel).2.shape = x.shape := by
  unfold update
  cases seen : x.view type with
  | error fault => exact ⟨rfl, rfl⟩
  | ok grid =>
      obtain ⟨rfl, -⟩ := view_eq_ok.mp seen
      exact ⟨rfl, h grid⟩

/-- What running a graph never changes of a tensor: its name, its element type, and whether it is
constant. -/
def TensorEntry.header (entry : TensorEntry) : String × ElementType × Bool :=
  (entry.name, entry.tensor.type, entry.constant)

/-! ## Looking things up -/

@[simp] theorem Node.input_eq_ok {node : Node} {i id : Nat} :
    node.input i = .ok id ↔ node.inputs[i]? = some id := checked_eq_ok

@[simp] theorem Node.output_eq_ok {node : Node} {i id : Nat} :
    node.output i = .ok id ↔ node.outputs[i]? = some id := checked_eq_ok

namespace Graph

theorem tensor_eq_ok {g : Graph} {id : Nat} {tensor : Tensor} :
    g.tensor id = .ok tensor ↔ ∃ entry, g.tensors[id]? = some entry ∧ entry.tensor = tensor := by
  rw [← toOption_eq_some]
  simp [Graph.tensor, Graph.entry]

theorem type_eq_ok {g : Graph} {id : Nat} {type : ElementType} :
    g.type id = .ok type ↔ ∃ entry, g.tensors[id]? = some entry ∧ entry.tensor.type = type := by
  simp [Graph.type, tensor_eq_ok]

theorem shape_eq_ok {g : Graph} {id : Nat} {shape : Shape} :
    g.shape id = .ok shape ↔ ∃ entry, g.tensors[id]? = some entry ∧ entry.tensor.shape = shape := by
  simp [Graph.shape, tensor_eq_ok]

/-- A tensor may be changed if there is one and it is not constant. -/
theorem changeable_eq_ok {g : Graph} {id : Nat} {tensor : Tensor} :
    g.changeable id = .ok tensor ↔
      ∃ entry, g.tensors[id]? = some entry ∧ entry.constant = false ∧ entry.tensor = tensor := by
  rw [← toOption_eq_some]
  simp only [changeable, Graph.entry, toOption_bind, toOption_require, toOption_ensure,
    toOption_pure, Option.bind_eq_some_iff]
  constructor
  · rintro ⟨entry, found, _, free, same⟩
    refine ⟨entry, found, ?_, Option.some.inj same⟩
    split at free
    · assumption
    · cases free
  · rintro ⟨entry, found, free, same⟩
    exact ⟨entry, found, (), by simp [free], by simp [same]⟩

theorem shape_of_changeable {g : Graph} {id : Nat} {tensor : Tensor}
    (h : g.changeable id = .ok tensor) : g.shape id = .ok tensor.shape := by
  obtain ⟨entry, found, -, rfl⟩ := changeable_eq_ok.mp h
  exact shape_eq_ok.mpr ⟨entry, found, rfl⟩

theorem type_of_changeable {g : Graph} {id : Nat} {tensor : Tensor}
    (h : g.changeable id = .ok tensor) : g.type id = .ok tensor.type := by
  obtain ⟨entry, found, -, rfl⟩ := changeable_eq_ok.mp h
  exact type_eq_ok.mpr ⟨entry, found, rfl⟩

/-- A tensor is looked at as a grid of its own type, if the shape is addressable. -/
theorem view_eq_ok {g : Graph} {id : Nat} {type : ElementType} {grid : Grid type.Element} :
    g.view id type = .ok grid ↔ ∃ entry, g.tensors[id]? = some entry ∧
      entry.tensor = ⟨type, grid⟩ ∧ grid.shape.Addressable := by
  simp [Graph.view, tensor_eq_ok, Tensor.view_eq_ok]

/-! What is looked up in a graph is in one entry of the table. -/

section Congruence

variable {g g' : Graph} {id : Nat}

/-- What is known of a tensor is read from its entry. -/
theorem tensor_congr (same : g'.tensors[id]? = g.tensors[id]?) : g'.tensor id = g.tensor id := by
  rw [Graph.tensor, Graph.tensor, Graph.entry, Graph.entry, same]

theorem shape_congr (same : g'.tensors[id]? = g.tensors[id]?) : g'.shape id = g.shape id := by
  rw [Graph.shape, Graph.shape, tensor_congr same]

theorem view_congr {type : ElementType} (same : g'.tensors[id]? = g.tensors[id]?) :
    g'.view id type = g.view id type := by
  rw [Graph.view, Graph.view, tensor_congr same]

theorem changeable_congr (same : g'.tensors[id]? = g.tensors[id]?) :
    g'.changeable id = g.changeable id := by
  rw [changeable, changeable, Graph.entry, Graph.entry, same]

end Congruence

theorem type_of_view {g : Graph} {id : Nat} {type : ElementType} {grid : Grid type.Element}
    (h : g.view id type = .ok grid) : g.type id = .ok type := by
  obtain ⟨entry, found, same, -⟩ := view_eq_ok.mp h
  exact type_eq_ok.mpr ⟨entry, found, by rw [same]⟩

theorem shape_of_view {g : Graph} {id : Nat} {type : ElementType} {grid : Grid type.Element}
    (h : g.view id type = .ok grid) : g.shape id = .ok grid.shape := by
  obtain ⟨entry, found, same, -⟩ := view_eq_ok.mp h
  exact shape_eq_ok.mpr ⟨entry, found, by rw [same]; rfl⟩

/-- A tensor can be read as a grid of its type, if its shape can be addressed. -/
theorem exists_view {g : Graph} {id : Nat} {type : ElementType} {shape : Shape}
    (typed : g.type id = .ok type) (shaped : g.shape id = .ok shape) (small : shape.Addressable) :
    ∃ x, g.view id type = .ok x ∧ x.shape = shape := by
  obtain ⟨⟨name, ⟨own, grid⟩, constant⟩, present, rfl⟩ := type_eq_ok.mp typed
  obtain ⟨entry, present', rfl⟩ := shape_eq_ok.mp shaped
  rw [present, Option.some.injEq] at present'
  subst present'
  exact ⟨grid, view_eq_ok.mpr ⟨_, present, rfl, small⟩, rfl⟩

/-- Only one place is changed, and there only the tensor. -/
theorem getElem?_put (g : Graph) (id other : Nat) (tensor : Tensor) :
    (g.put id tensor).tensors[other]? =
      if id = other then g.tensors[other]?.map fun entry => { entry with tensor }
      else g.tensors[other]? := by
  show (g.tensors.modify id _)[other]? = _
  rw [List.getElem?_modify]
  split <;> simp

/-- A tensor that has been put in the place of another one is there. -/
theorem tensor_put {g : Graph} {id : Nat} {old : Tensor} (free : g.changeable id = .ok old)
    (tensor : Tensor) : (g.put id tensor).tensor id = .ok tensor := by
  obtain ⟨entry, found, -, -⟩ := changeable_eq_ok.mp free
  refine tensor_eq_ok.mpr ⟨{ entry with tensor }, ?_, rfl⟩
  rw [getElem?_put, if_pos rfl, found, Option.map_some]

/-- A node that reads its own output finds an empty tensor, and else what is in the graph. -/
theorem shape_of_view_put {g : Graph} {a output : Nat} {type type' : ElementType}
    {input : Grid type.Element}
    (seen : (g.put output (Tensor.empty type')).view a type = .ok input) :
    (output = a ∧ input.shape = [0]) ∨ (output ≠ a ∧ g.shape a = .ok input.shape) := by
  obtain ⟨entry, found, same, -⟩ := view_eq_ok.mp seen
  rw [getElem?_put] at found
  split at found
  next own =>
    obtain ⟨old, -, rfl⟩ := Option.map_eq_some_iff.mp found
    exact .inl ⟨own, (congrArg Tensor.shape same).symm⟩
  next other => exact .inr ⟨other, shape_eq_ok.mpr ⟨entry, found, by rw [same]; rfl⟩⟩

/-! ## Frames -/

/-- The graphs differ at most in shapes and values of tensors. -/
structure SameFrame (g g' : Graph) : Prop where
  headers : ∀ id : Nat,
    g'.tensors[id]?.map TensorEntry.header = g.tensors[id]?.map TensorEntry.header
  nodes : g'.nodes = g.nodes
  inputs : g'.inputs = g.inputs
  outputs : g'.outputs = g.outputs

/-- The graphs differ at most in shapes and values of the given tensors. -/
structure Touches (ids : List Nat) (g g' : Graph) : Prop extends SameFrame g g' where
  elsewhere : ∀ id : Nat, id ∉ ids → g'.tensors[id]? = g.tensors[id]?

/-- The graphs differ at most in values of the given tensors. -/
structure Fills (ids : List Nat) (g g' : Graph) : Prop extends Touches ids g g' where
  shapes : ∀ id : Nat, g'.tensors[id]?.map (·.tensor.shape) = g.tensors[id]?.map (·.tensor.shape)

namespace SameFrame

variable {g g' g'' : Graph}

theorem refl (g : Graph) : SameFrame g g := ⟨fun _ => rfl, rfl, rfl, rfl⟩

theorem symm (h : SameFrame g g') : SameFrame g' g :=
  ⟨fun id => (h.headers id).symm, h.nodes.symm, h.inputs.symm, h.outputs.symm⟩

theorem trans (h : SameFrame g g') (h' : SameFrame g' g'') : SameFrame g g'' :=
  ⟨fun id => (h'.headers id).trans (h.headers id), h'.nodes.trans h.nodes,
    h'.inputs.trans h.inputs, h'.outputs.trans h.outputs⟩

instance : IsPreorder Graph SameFrame where
  refl := refl
  trans _ _ _ := trans

/-- A tensor of one graph has a counterpart in the other. -/
theorem exists_entry (h : SameFrame g g') {id : Nat} {entry : TensorEntry}
    (found : g.tensors[id]? = some entry) :
    ∃ entry', g'.tensors[id]? = some entry' ∧ entry'.header = entry.header := by
  have same := h.headers id
  rw [found, Option.map_some, Option.map_eq_some_iff] at same
  exact same

theorem type_eq (h : SameFrame g g') (id : Nat) : g'.type id = g.type id := by
  unfold Graph.type Graph.tensor Graph.entry
  have same := h.headers id
  cases found : g.tensors[id]? with
  | none =>
      rw [found, Option.map_none, Option.map_eq_none_iff] at same
      rw [same]
  | some entry =>
      obtain ⟨entry', found', header⟩ := h.exists_entry found
      rw [found']
      exact congrArg (fun header => Except.ok header.2.1) header

theorem changeable_isSome (h : SameFrame g g') {id : Nat} {tensor : Tensor}
    (free : g.changeable id = .ok tensor) : ∃ tensor', g'.changeable id = .ok tensor' := by
  obtain ⟨entry, found, constant, -⟩ := changeable_eq_ok.mp free
  obtain ⟨entry', found', header⟩ := h.exists_entry found
  refine ⟨entry'.tensor, changeable_eq_ok.mpr ⟨entry', found', ?_, rfl⟩⟩
  rw [← constant]
  exact congrArg (fun header => header.2.2) header

/-- Graphs with the same frame and the same tensors are the same. -/
theorem eq (h : SameFrame g g') (tensors : ∀ id : Nat, g'.tensors[id]? = g.tensors[id]?) :
    g' = g := by
  have tensors := List.ext_getElem? tensors
  obtain ⟨_, _, _, _⟩ := g
  obtain ⟨_, _, _, _⟩ := g'
  obtain ⟨-, rfl, rfl, rfl⟩ := h
  cases tensors
  rfl

end SameFrame

namespace Touches

variable {ids ids' : List Nat} {g g' g'' : Graph}

theorem refl (g : Graph) : Touches ids g g := ⟨.refl g, fun _ _ => rfl⟩

theorem trans (h : Touches ids g g') (h' : Touches ids g' g'') : Touches ids g g'' :=
  ⟨h.toSameFrame.trans h'.toSameFrame,
    fun id outside => (h'.elsewhere id outside).trans (h.elsewhere id outside)⟩

theorem mono (h : Touches ids g g') (sub : ids ⊆ ids') : Touches ids' g g' :=
  ⟨h.toSameFrame, fun id outside => h.elsewhere id fun inside => outside (sub inside)⟩

instance : IsPreorder Graph (Touches ids) where
  refl := refl
  trans _ _ _ := trans

/-- Graphs are the same if what has been touched is. -/
theorem eq (h : Touches ids g g') (same : ∀ id ∈ ids, g'.tensors[id]? = g.tensors[id]?) :
    g' = g := by
  refine h.toSameFrame.eq fun id => ?_
  by_cases inside : id ∈ ids
  · exact same id inside
  · exact h.elsewhere id inside

theorem put {id : Nat} {entry : TensorEntry} {tensor : Tensor} (found : g.tensors[id]? = some entry)
    (type : tensor.type = entry.tensor.type) (inside : id ∈ ids) :
    Touches ids g (g.put id tensor) where
  headers other := by
    rw [getElem?_put]
    split
    next same =>
      subst same
      rw [found]
      simp [TensorEntry.header, type]
    next => rfl
  nodes := rfl
  inputs := rfl
  outputs := rfl
  elsewhere other outside := by
    rw [getElem?_put, if_neg]
    rintro rfl
    exact outside inside

end Touches

namespace Fills

variable {ids ids' : List Nat} {g g' g'' : Graph}

theorem refl (g : Graph) : Fills ids g g := ⟨.refl g, fun _ => rfl⟩

theorem trans (h : Fills ids g g') (h' : Fills ids g' g'') : Fills ids g g'' :=
  ⟨h.toTouches.trans h'.toTouches, fun id => (h'.shapes id).trans (h.shapes id)⟩

theorem symm (h : Fills ids g g') : Fills ids g' g where
  toSameFrame := h.toSameFrame.symm
  elsewhere id outside := (h.elsewhere id outside).symm
  shapes id := (h.shapes id).symm

theorem mono (h : Fills ids g g') (sub : ids ⊆ ids') : Fills ids' g g' :=
  ⟨h.toTouches.mono sub, h.shapes⟩

instance : IsPreorder Graph (Fills ids) where
  refl := refl
  trans _ _ _ := trans

theorem put {id : Nat} {entry : TensorEntry} {tensor : Tensor} (found : g.tensors[id]? = some entry)
    (type : tensor.type = entry.tensor.type) (shape : tensor.shape = entry.tensor.shape)
    (inside : id ∈ ids) : Fills ids g (g.put id tensor) where
  toTouches := .put found type inside
  shapes other := by
    rw [getElem?_put]
    split
    next same =>
      subst same
      rw [found]
      simp [shape]
    next => rfl

/-- Graphs that differ in values still do so with tensors of one type and shape put into both of
them, which are the same ones unless the values there may differ. -/
theorem put_both {id : Nat} {x y : Tensor} (h : Fills ids g g') (type : y.type = x.type)
    (shape : y.shape = x.shape) (same : id ∉ ids → y = x) :
    Fills ids (g.put id x) (g'.put id y) where
  headers other := by
    have before := h.headers other
    rw [getElem?_put, getElem?_put]
    split
    next here =>
      cases found : g.tensors[other]? with
      | none => simpa [found] using before
      | some entry =>
          obtain ⟨entry', found', header⟩ := h.exists_entry found
          simp only [TensorEntry.header, Prod.mk.injEq] at header
          simp [found', TensorEntry.header, header, type]
    next => exact before
  nodes := h.nodes
  inputs := h.inputs
  outputs := h.outputs
  elsewhere other outside := by
    rw [getElem?_put, getElem?_put, h.elsewhere other outside]
    split
    next here =>
      subst here
      rw [same outside]
    next => rfl
  shapes other := by
    have before := h.shapes other
    rw [getElem?_put, getElem?_put]
    split
    next here =>
      cases found : g.tensors[other]? with
      | none => simpa [found] using before
      | some entry =>
          obtain ⟨entry', found', -⟩ := h.exists_entry found
          simp [found', shape]
    next => exact before

theorem shape_eq (h : Fills ids g g') (id : Nat) : g'.shape id = g.shape id := by
  unfold Graph.shape Graph.tensor Graph.entry
  have same := h.shapes id
  cases found : g.tensors[id]? with
  | none =>
      rw [found, Option.map_none, Option.map_eq_none_iff] at same
      rw [same]
  | some entry =>
      rw [found, Option.map_some, Option.map_eq_some_iff] at same
      obtain ⟨entry', found', shape⟩ := same
      rw [found']
      exact congrArg Except.ok shape

/-- A tensor that may be changed still may, and keeps its type and shape. -/
theorem exists_changeable (h : Fills ids g g') {id : Nat} {x : Tensor}
    (free : g.changeable id = .ok x) :
    ∃ y, g'.changeable id = .ok y ∧ y.type = x.type ∧ y.shape = x.shape := by
  obtain ⟨y, free'⟩ := h.changeable_isSome free
  have types := h.type_eq id
  have shapes := h.shape_eq id
  rw [type_of_changeable free, type_of_changeable free', Except.ok.injEq] at types
  rw [shape_of_changeable free, shape_of_changeable free', Except.ok.injEq] at shapes
  exact ⟨y, free', types, shapes⟩

end Fills

/-- The graph that a kernel's operands are read from is one of the same frame. -/
theorem sameFrame_put_empty {g : Graph} {id : Nat} {tensor : Tensor}
    (free : g.changeable id = .ok tensor) : SameFrame g (g.put id (Tensor.empty tensor.type)) := by
  obtain ⟨entry, found, -, rfl⟩ := changeable_eq_ok.mp free
  have type : (Tensor.empty entry.tensor.type).type = entry.tensor.type := rfl
  exact (Touches.put found type (List.mem_singleton_self id)).toSameFrame

/-! ## The two ways to change a tensor -/

/-- Putting a tensor where it is changes nothing. -/
theorem put_self {g : Graph} {id : Nat} {tensor : Tensor} (free : g.changeable id = .ok tensor) :
    g.put id tensor = g := by
  obtain ⟨entry, found, -, rfl⟩ := changeable_eq_ok.mp free
  have same : (g.put id entry.tensor).tensors = g.tensors := by
    apply List.ext_getElem?
    intro other
    rw [getElem?_put]
    split
    next here =>
      subst here
      rw [found]
      rfl
    next => rfl
  show { g with tensors := (g.put id entry.tensor).tensors } = g
  rw [same]

/-- Resizing touches one tensor. -/
theorem resize_keepsTo {id : Nat} {ids : List Nat} (shape : Shape) (inside : id ∈ ids) :
    (Graph.resize id shape).KeepsTo (Touches ids) := by
  intro g
  show Touches ids g ((Graph.resize id shape).outcome g).2
  unfold Graph.resize
  simp only [Action.outcome_bind, Action.outcome_get, Action.proceed_some, Action.outcome_lift]
  cases free : g.changeable id with
  | error fault => exact .refl g
  | ok tensor =>
      obtain ⟨entry, found, -, rfl⟩ := changeable_eq_ok.mp free
      simp only [toOption_ok, Action.proceed_some]
      split
      · exact .refl g
      · simp only [Action.outcome_bind, Action.outcome_record, Action.proceed_some,
          Action.outcome_lift]
        cases resized : entry.tensor.resize shape with
        | error fault => exact .refl g
        | ok tensor => exact .put found (Tensor.resize_eq_ok resized).1 inside

theorem resize_sameFrame (id : Nat) (shape : Shape) : (Graph.resize id shape).KeepsTo SameFrame :=
  (resize_keepsTo shape (List.mem_singleton_self id)).mono fun _ _ touched => touched.toSameFrame

/-- What a computation that fills a tensor comes to, if the tensor may be changed. -/
theorem outcome_filling {α : Type} {g : Graph} {id : Nat} {tensor : Tensor}
    (free : g.changeable id = .ok tensor) (fill : Graph → Tensor → Except Fault α × Tensor) :
    (Graph.filling id fill).outcome g =
      ((fill (g.put id (Tensor.empty tensor.type)) tensor).1.toOption,
        g.put id (fill (g.put id (Tensor.empty tensor.type)) tensor).2) := by
  simp [Graph.filling, free]

/-- What it takes for a kernel to fill a tensor: the tensor may be changed, the operands are found
in a graph that shows an empty tensor in its place, and the kernel succeeds. -/
theorem computing_eq_some {α : Type} {g g' : Graph} {id : Nat} {type : ElementType} {a : α}
    {prepare : Graph → Except Fault (Grid type.Element → Written α type.Element)} :
    (Graph.computing id type prepare).outcome g = (some a, g') ↔
      ∃ grid kernel, g.changeable id = .ok ⟨type, grid⟩ ∧ grid.shape.Addressable ∧
        prepare (g.put id (Tensor.empty type)) = .ok kernel ∧ (kernel grid).1 = .ok a ∧
        g.put id ⟨type, (kernel grid).2⟩ = g' := by
  cases free : g.changeable id with
  | error fault => simp [Graph.computing, Graph.filling, free]
  | ok tensor =>
      rw [Graph.computing, outcome_filling free]
      cases seen : tensor.view type with
      | error fault =>
          constructor
          · intro h
            split at h
            · cases h
            · rw [Tensor.update, seen] at h
              cases h
          · rintro ⟨grid, _, same, addressable, -⟩
            rw [Tensor.view_eq_ok.mpr ⟨Except.ok.inj same, addressable⟩] at seen
            cases seen
      | ok grid =>
          -- the tensor has the type, so it is written back as the same kind of tensor
          obtain ⟨rfl, addressable⟩ := Tensor.view_eq_ok.mp seen
          cases prepared : prepare (g.put id (Tensor.empty type)) with
          | error fault => simp
          | ok kernel =>
              simp only [Tensor.update, seen, Prod.mk.injEq, toOption_eq_some]
              constructor
              · rintro ⟨done, rfl⟩
                exact ⟨grid, kernel, rfl, addressable, rfl, done, rfl⟩
              · rintro ⟨grid', kernel', same, -, same', done, rfl⟩
                cases same
                cases same'
                exact ⟨done, rfl⟩

/-- Filling a tensor with a kernel that keeps shapes changes only its values. -/
theorem computing_keepsTo {α : Type} {id : Nat} {ids : List Nat} {type : ElementType}
    {prepare : Graph → Except Fault (Grid type.Element → Written α type.Element)}
    (keeps : ∀ g kernel, prepare g = .ok kernel → Grid.Keeps kernel) (inside : id ∈ ids) :
    (Graph.computing id type prepare).KeepsTo (Fills ids) := by
  intro g
  cases free : g.changeable id with
  | error fault => simpa [Graph.computing, Graph.filling, free] using Fills.refl g
  | ok tensor =>
      obtain ⟨entry, found, -, rfl⟩ := changeable_eq_ok.mp free
      rw [Graph.computing, outcome_filling free]
      show Fills ids g (g.put id _)
      cases prepared : prepare (g.put id (Tensor.empty entry.tensor.type)) with
      -- operands that can not be read leave the tensor as it was
      | error fault => exact .put found rfl rfl inside
      | ok kernel =>
          have kept := Tensor.update_keeps (x := entry.tensor) (keeps _ _ prepared)
          exact .put found kept.1 kept.2 inside

end Graph

end TensorGraph
