import TensorGraph.Interpreter.Partition
import TensorGraph.Substitution.Support

/-!
# Handing nodes over to delegates

A delegate tells which nodes it supports, how the host may group them, and captures regions. Of a
plan, the maximal runs of consecutive builtin steps with supported nodes are handed over, as far as
the limits on their length and number allow; every other step stays what it is and where it is.
-/

namespace TensorGraph

/-- How the host may group the nodes of a delegate. -/
structure PartitionLimits where
  /-- At most this many runs are handed over at a time. -/
  maxPartitions : Option Nat
  /-- Shorter runs stay with the host. -/
  minNodes : Nat
deriving DecidableEq

/-- Someone who takes over nodes of a graph. -/
structure Delegate where
  name : String
  limits : PartitionLimits
  /-- Whether the delegate can run a node; this must not depend on the values of tensors. -/
  examine : Graph → Nat → Bool × List Event
  /-- Capture the nodes of one partition. -/
  capture : Graph → List Nat → Action Unit Substitution.Region

/-- A part of a plan: a step that stays, or the nodes of a run of supported builtin steps. -/
inductive Segment where
  | kept (step : Step)
  | run (nodes : List Nat)
deriving DecidableEq

namespace Segment

/-- Put the node of a builtin step that is supported in front of a plan cut into segments. -/
def consNode (node : Nat) : List Segment → List Segment
  | .run nodes :: rest => .run (node :: nodes) :: rest
  | rest => .run [node] :: rest

/-- Cut a plan into maximal runs of supported builtin steps and the steps between them. -/
def ofPlan (supported : Nat → Bool) : List Step → List Segment
  | [] => []
  | .builtin node :: rest =>
    if supported node then consNode node (ofPlan supported rest)
    else .kept (.builtin node) :: ofPlan supported rest
  | .delegated partition :: rest => .kept (.delegated partition) :: ofPlan supported rest

/-- Keep the runs that are long enough, and of these only as many as allowed; the nodes of the
others stay builtin steps. -/
def select (minNodes : Nat) : Option Nat → List Segment → List Segment
  | _, [] => []
  | allowed, .kept step :: rest => .kept step :: select minNodes allowed rest
  | allowed, .run nodes :: rest =>
    if minNodes ≤ nodes.length ∧ allowed ≠ some 0 then
      .run nodes :: select minNodes (allowed.map (· - 1)) rest
    else nodes.map (fun node => .kept (.builtin node)) ++ select minNodes allowed rest

def runs (segments : List Segment) : List (List Nat) :=
  segments.filterMap fun
    | .kept _ => none
    | .run nodes => some nodes

end Segment

namespace Delegate

def takeOver (delegate : Delegate) (g : Graph) (nodes : List Nat) : Action Unit Partition := do
  let region ← Action.during (InterpreterFailure.initializing delegate.name nodes)
    (delegate.capture g nodes)
  Action.record (.takes delegate.name nodes)
  return ⟨delegate.name, nodes, g.boundaryInputs nodes, g.boundaryOutputs nodes, region⟩

/-- The step that a segment becomes. -/
def settle (delegate : Delegate) (g : Graph) : Segment → Action Unit Step
  | .kept step => pure step
  | .run nodes => .delegated <$> delegate.takeOver g nodes

/-- What the delegate reports when it examines the builtin steps of a plan. -/
def examination (delegate : Delegate) (g : Graph) (plan : List Step) : List Event :=
  plan.flatMap fun
    | .builtin node => (delegate.examine g node).2
    | .delegated _ => []

/-- The segments of a plan, with the runs that are handed over. -/
def division (delegate : Delegate) (g : Graph) (plan : List Step) : List Segment :=
  Segment.select (max delegate.limits.minNodes 1) delegate.limits.maxPartitions
    (Segment.ofPlan (fun node => (delegate.examine g node).1) plan)

/-- The plan after the delegate has taken over what it supports of a plan. -/
def divide (delegate : Delegate) (g : Graph) (plan : List Step) : Action Unit (List Step) := do
  (delegate.examination g plan).forM Action.record
  let segments := delegate.division g plan
  let steps ← segments.mapM (delegate.settle g)
  let runs := Segment.runs segments
  Action.record (.applied delegate.name runs.length runs.flatten.length)
  return steps

end Delegate

namespace Substitution

def delegateName : String := "SubstitutionDelegate"

def Options.delegate (options : Options) : Delegate where
  name := delegateName
  limits := ⟨options.maxPartitions, options.minNodes⟩
  examine g node := (supports options g node, examination options g node)
  capture := Region.capture

end Substitution

/-- A delegate that takes the nodes it is told to, and runs them with the engine. -/
def Delegate.forNodes (name : String) (nodes : List Nat) : Delegate where
  name := name
  limits := ⟨none, 1⟩
  examine _ node := (nodes.contains node, [])
  capture := Substitution.Region.capture

end TensorGraph
