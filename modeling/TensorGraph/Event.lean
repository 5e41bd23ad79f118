import TensorGraph.Substitution.Descriptor

/-!
# Events

What the graph, the engine and the interpreter report while they work: an action records its
events in order, whether it succeeds or not.
-/

namespace TensorGraph

open Substitution (Kind Descriptor)

/-- Why the engine leaves a node to the host. -/
inductive Rejection where
  | noSuchNode
  | notInCatalog (operator : Operator)
  | notEnabled (kind : Kind)
  | arity (kind : Kind)
  | noTensor (id : Nat)
  | inputType (kind : Kind) (type : ElementType)
  | adjoints (adjointX adjointY : Bool)
deriving DecidableEq

def Rejection.text : Rejection → String
  | noSuchNode => "no such node"
  | notInCatalog operator => s!"{operator} is not in the catalog"
  | notEnabled kind => s!"{kind} is not enabled"
  | arity kind => s!"{kind} arity mismatch"
  | noTensor id => s!"No tensor with id {id}"
  | inputType kind type => s!"{kind} does not support {type} input"
  | adjoints adjointX adjointY =>
    s!"BatchMatMul only runs with adj_y, got {Text.pair (Text.truth adjointX) (Text.truth adjointY)}"

inductive Event where
  | resizing (tensor : Nat) (old new : List Nat)
  | multiplying (geometry : MatrixGeometry) (adjointA adjointB : Bool)
  | staysOnHost (node : Nat) (reason : Rejection)
  | captured (node : Nat) (name : String) (descriptor : Descriptor)
  | capturedRegion (nodes : List Nat)
  | outputShape (kind : Kind) (tensor : Nat) (shape : List Nat)
  | evaluating (kind : Kind) (tensor : Nat)
  | takes (delegate : String) (nodes : List Nat)
  | applied (delegate : String) (partitions nodes : Nat)
deriving DecidableEq

inductive Level where
  | trace
  | debug
  | info
deriving DecidableEq

def Level.name : Level → String
  | trace => "TRACE"
  | debug => "DEBUG"
  | info => "INFO"

namespace Event

def level : Event → Level
  | capturedRegion _ => .debug
  | takes _ _ => .debug
  | applied _ _ _ => .info
  | _ => .trace

def text : Event → String
  | resizing tensor old new =>
    s!"Resizing tensor {tensor} from {Text.list old} to {Text.list new}"
  | multiplying geometry adjointA adjointB =>
    s!"batch_matmul {geometry} adj_a:{Text.truth adjointA} adj_b:{Text.truth adjointB}"
  | staysOnHost node reason => s!"Node {node} stays on host: {reason.text}"
  | captured node name descriptor => s!"Captured node {node} ({name}) as {descriptor.text}"
  | capturedRegion nodes =>
    let ids := String.intercalate ", " (nodes.map toString)
    s!"Captured region of {nodes.length} node(s): {ids}"
  | outputShape kind tensor shape => s!"{kind} output {tensor} resized to {Text.list shape}"
  | evaluating kind tensor => s!"Evaluating {kind} into tensor {tensor}"
  | takes delegate nodes => s!"{delegate} takes nodes {Text.list nodes}"
  | applied delegate partitions nodes =>
    s!"{delegate} applied: {partitions} partition(s) covering {nodes} node(s)"

def line (e : Event) : String := e.level.name ++ " " ++ e.text

end Event

end TensorGraph
