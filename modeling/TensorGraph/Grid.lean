import TensorGraph.Failure

/-!
# Grids

A grid holds one value for each position of its shape, in row-major order. Kernels read grids and
fill grids; they never change a shape.
-/

namespace TensorGraph

/-- Values in row-major order, one for each position of the shape. -/
structure Grid (α : Type) where
  shape : Shape
  values : Array α
  counted : shape.count? = some values.size

namespace Grid

variable {α β : Type}

/-- The grid of the same shape with new values, each made from a place and the value there. -/
def mapIdx (f : Nat → α → β) (g : Grid α) : Grid β :=
  ⟨g.shape, g.values.mapIdx f, by simpa using g.counted⟩

def map (f : α → β) (g : Grid α) : Grid β :=
  ⟨g.shape, g.values.map f, by simpa using g.counted⟩

/-- The value at a place, or the given one beyond the end. -/
def getD (g : Grid α) (place : Nat) (fallback : α) : α := g.values.getD place fallback

def get? (g : Grid α) (position : List Nat) : Option α :=
  if g.shape.Contains position then g.values[g.shape.offset position]? else none

/-- Replace the value at a place; beyond the end nothing changes. -/
def set (g : Grid α) (place : Nat) (value : α) : Grid α :=
  ⟨g.shape, g.values.setIfInBounds place value, by simpa using g.counted⟩

/-- Write values at positions, one after the other. -/
def writeAll (g : Grid α) (cells : List (List Nat × α)) : Grid α :=
  cells.foldl (fun g cell => g.set (g.shape.offset cell.1) cell.2) g

/-- Write values in row-major order until one is missing. -/
def fillWhile (g : Grid α) (values : List (Option α)) : Grid α :=
  let written := (values.takeWhile Option.isSome).length
  let found := values.toArray
  g.mapIdx fun place old => if place < written then (found.getD place none).getD old else old

/-- Values in the given shape, if their number fits. -/
def ofValues? (shape : Shape) (values : Array α) : Option (Grid α) :=
  if counted : shape.count? = some values.size then some ⟨shape, values, counted⟩ else none

@[simp] theorem shape_mapIdx (f : Nat → α → β) (g : Grid α) : (g.mapIdx f).shape = g.shape := rfl

@[simp] theorem shape_fillWhile (g : Grid α) (values : List (Option α)) :
    (g.fillWhile values).shape = g.shape := rfl

@[simp] theorem shape_map (f : α → β) (g : Grid α) : (g.map f).shape = g.shape := rfl

@[simp] theorem shape_set (g : Grid α) (place : Nat) (value : α) :
    (g.set place value).shape = g.shape := rfl

@[simp] theorem shape_writeAll (g : Grid α) (cells : List (List Nat × α)) :
    (g.writeAll cells).shape = g.shape := by
  induction cells generalizing g with
  | nil => rfl
  | cons cell cells ih => exact ih _

end Grid

/-- What a kernel leaves behind: how it ended, and the output after it. -/
abbrev Written (α β : Type) : Type := Except Fault α × Grid β

/-- The output of a kernel that has succeeded. -/
def Written.filled {α β : Type} (written : Written α β) : Except Fault (Grid β) :=
  written.1.map fun _ => written.2

/-- A kernel that either fills the whole output or leaves it as it was. -/
def Grid.overwrite {β : Type} (output : Grid β) : Except Fault (Grid β) → Written Unit β
  | .ok filled => (.ok (), filled)
  | .error fault => (.error fault, output)

end TensorGraph
