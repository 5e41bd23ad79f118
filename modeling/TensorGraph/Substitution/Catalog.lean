import TensorGraph.Operator

/-!
# The operators of the engine

The substitution engine runs some of the host's operators on kernels of its own. Each of these
kinds declares how many tensors it reads and writes and which element types it accepts.
-/

namespace TensorGraph.Substitution

inductive Kind where
  | abs
  | add
  | mul
  | atan2
  | addN
  | argMax
  | argMin
  | averagePool2d
  | maxPool2d
  | batchMatMul
  | batchToSpaceNd
deriving DecidableEq

inductive Arity where
  | exactly (count : Nat)
  | atLeast (count : Nat)
deriving DecidableEq

namespace Arity

def accepts : Arity → Nat → Bool
  | exactly count, n => n == count
  | atLeast count, n => count ≤ n

def text : Arity → String
  | exactly count => toString count
  | atLeast count => "at least " ++ toString count

end Arity

namespace Kind

def all : List Kind :=
  [abs, add, mul, atan2, addN, argMax, argMin, averagePool2d, maxPool2d, batchMatMul,
    batchToSpaceNd]

theorem mem_all (k : Kind) : k ∈ all := by
  cases k <;> decide

def operator : Kind → Operator
  | abs => .abs
  | add => .add
  | mul => .mul
  | atan2 => .atan2
  | addN => .addN
  | argMax => .argMax
  | argMin => .argMin
  | averagePool2d => .averagePool2d
  | maxPool2d => .maxPool2d
  | batchMatMul => .batchMatMul
  | batchToSpaceNd => .batchToSpaceNd

/-- The kind that stands for an operator, if the engine runs it. -/
def ofOperator? : Operator → Option Kind
  | .abs => some abs
  | .add => some add
  | .mul => some mul
  | .atan2 => some atan2
  | .addN => some addN
  | .argMax => some argMax
  | .argMin => some argMin
  | .averagePool2d => some averagePool2d
  | .maxPool2d => some maxPool2d
  | .batchMatMul => some batchMatMul
  | .batchToSpaceNd => some batchToSpaceNd
  | .relu => none
  | .sub => none

theorem ofOperator?_operator (k : Kind) : ofOperator? k.operator = some k := by
  cases k <;> rfl

def name (k : Kind) : String := k.operator.name

instance : ToString Kind := ⟨name⟩

/-- How many tensors the kind reads. The second input of `argMax` and `argMin` is the axis, those
of `batchToSpaceNd` are the block sizes and the crops. -/
def inputArity : Kind → Arity
  | abs | averagePool2d | maxPool2d => .exactly 1
  | add | mul | atan2 | argMax | argMin | batchMatMul => .exactly 2
  | batchToSpaceNd => .exactly 3
  | addN => .atLeast 1

def outputArity (_ : Kind) : Nat := 1

/-- Element types of the first input. -/
def inputTypes (_ : Kind) : List ElementType := [.f32]

def outputTypes : Kind → List ElementType
  | argMax | argMin => [.i32, .i64]
  | _ => [.f32]

def hasActivation : Kind → Bool
  | add | mul | averagePool2d | maxPool2d => true
  | _ => false

end Kind

end TensorGraph.Substitution
