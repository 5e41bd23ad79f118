import TensorGraph.Builder
import TensorGraph.Interpreter
import TensorGraph.Substitution.PartitionKernel
import TensorGraph.Proofs.Frame
import TensorGraph.Proofs.Kernels
import TensorGraph.Proofs.Capture
import TensorGraph.Proofs.Shapes
import TensorGraph.Proofs.Values
import TensorGraph.Proofs.Filling
import TensorGraph.Proofs.Division
import TensorGraph.Proofs.Calls
import TensorGraph.Proofs.Partitioning
import TensorGraph.Proofs.Delegation
import TensorGraph.Proofs.Axes
import TensorGraph.Proofs.Windows
import TensorGraph.Proofs.Weaving
import TensorGraph.Proofs.Settling
import TensorGraph.Proofs.Evaluable
import TensorGraph.Proofs.Building
import TensorGraph.Proofs.Reallocation
import TensorGraph.Proofs.Tasks
import TensorGraph.Proofs.Untouched
import TensorGraph.Proofs.Faults
import TensorGraph.Proofs.Foreign
import TensorGraph.Proofs.Classes
import TensorGraph.Proofs.Parity
import TensorGraph.Proofs.Standing
import TensorGraph.Proofs.Positions
import TensorGraph.Proofs.Covering
import TensorGraph.Proofs.Overwriting
import TensorGraph.Proofs.Following
import TensorGraph.Proofs.History
import TensorGraph.Proofs.Reshaping
import TensorGraph.Proofs.Repreparing
import TensorGraph.Proofs.Atomicity
import TensorGraph.Proofs.Fixpoint
import TensorGraph.Proofs.Locality
import TensorGraph.Proofs.Reordering
import TensorGraph.Proofs.Hiding
import TensorGraph.Proofs.Boundaries
import TensorGraph.Proofs.Placing
import TensorGraph.Proofs.Pooled
import TensorGraph.Proofs.Multiplying
import TensorGraph.Proofs.Merging
import TensorGraph.Proofs.Combining
import TensorGraph.Proofs.Extrema
import TensorGraph.Proofs.Reducing
import TensorGraph.Proofs.Enlarging
import TensorGraph.Proofs.Storing
import TensorGraph.Proofs.Sources
import TensorGraph.Proofs.Saturating
import TensorGraph.Proofs.Spelling
