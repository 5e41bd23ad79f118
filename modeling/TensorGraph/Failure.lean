import TensorGraph.Failure.Engine
import TensorGraph.Failure.Graph

/-!
# Failures

A failed request carries the reasons of its failure, outermost first: what was being done, and in
the end what went wrong. `Failure.category?` is the class of the outermost engine failure among
them. Apart from failing, a computation can be *aborted*: arithmetic on sizes leaves its range, or
a list is read past its end. An aborted computation has no message, and nothing runs after it.
-/

namespace TensorGraph

open Substitution (EngineFailure FailureClass)

/-- One reason of a failure. -/
inductive Reason where
  | tensor (failure : TensorFailure)
  | kernel (failure : KernelFailure)
  | graph (failure : GraphFailure)
  | operator (failure : OperatorFailure)
  | interpreter (failure : InterpreterFailure)
  | engine (failure : EngineFailure)
  /-- A text that names no operator kind. -/
  | unknownKind (text : String)
deriving DecidableEq

namespace Reason

def text : Reason → String
  | tensor failure => failure.text
  | kernel failure => failure.text
  | graph failure => failure.text
  | operator failure => failure.text
  | interpreter failure => failure.text
  | engine failure => failure.text
  | unknownKind text => "Unknown operator kind " ++ Text.quoted text

/-- The class of an engine failure; the other reasons have none. -/
def category? : Reason → Option FailureClass
  | engine failure => some failure.category
  | _ => none

instance : Coe TensorFailure Reason := ⟨tensor⟩

instance : Coe KernelFailure Reason := ⟨kernel⟩

instance : Coe GraphFailure Reason := ⟨graph⟩

instance : Coe OperatorFailure Reason := ⟨operator⟩

instance : Coe InterpreterFailure Reason := ⟨interpreter⟩

instance : Coe EngineFailure Reason := ⟨engine⟩

end Reason

/-- The reasons of a failure, outermost first. -/
structure Failure where
  outermost : Reason
  causes : List Reason
deriving DecidableEq

namespace Failure

def reasons (f : Failure) : List Reason := f.outermost :: f.causes

/-- The reasons in one line. -/
def message (f : Failure) : String := String.intercalate ": " (f.reasons.map Reason.text)

/-- The class of the outermost engine failure. -/
def category? (f : Failure) : Option FailureClass := f.reasons.findSome? Reason.category?

def within (f : Failure) (reason : Reason) : Failure := ⟨reason, f.reasons⟩

end Failure

/-- How a computation ends without a value. -/
inductive Fault where
  /-- A size left its range, or a list was read past its end. -/
  | aborted
  | failed (failure : Failure)
deriving DecidableEq

namespace Fault

/-- A failure with a single reason. -/
def of (reason : Reason) : Fault := failed ⟨reason, []⟩

def within (reason : Reason) : Fault → Fault
  | aborted => aborted
  | failed failure => failed (failure.within reason)

end Fault

/-- Fail for the given reason. -/
def refuse {α : Type} (reason : Reason) : Except Fault α := .error (.of reason)

/-- Fail unless the condition holds. -/
def ensure (p : Prop) [Decidable p] (reason : Reason) : Except Fault Unit :=
  if p then .ok () else refuse reason

/-- The value, or a failure where there is none. -/
def require {α : Type} (value : Option α) (reason : Reason) : Except Fault α :=
  match value with
  | some a => .ok a
  | none => refuse reason

/-- The value, or the end of the computation where there is none. -/
def checked {α : Type} : Option α → Except Fault α
  | some a => .ok a
  | none => .error .aborted

/-- Add what was being done to a failure. -/
def during {α : Type} (reason : Reason) : Except Fault α → Except Fault α
  | .ok a => .ok a
  | .error fault => .error (fault.within reason)

end TensorGraph
