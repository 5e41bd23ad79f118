import Mathlib.Data.List.Induction
import TensorGraph.Proofs.Faults
import TensorGraph.Proofs.Reallocation

/-!
# When the graph may be invoked

An interpreter can be invoked as long as an allocation *stands*: one that has succeeded, and after
which no input was given another shape and no nodes were handed over. Whether that is so can be read
off the requests and their answers (`Stands`), and it decides whether the next invocation is refused
(`invoke_refused_iff`).

An allocation that fails counts for nothing. In particular it does not end an earlier one, although
it may have shaped some tensors anew (`failed_allocation_stands`).
-/

namespace TensorGraph.Interpreter

open Substitution (Options)

/-! ## Requests and answers -/

inductive Request where
  | call (c : Call)
  | delegate (d : Delegate)

namespace Request

def action : Request → Action Interpreter Unit
  | .call c => c.action
  | .delegate d => Interpreter.delegate d

def Allocates : Request → Prop
  | .call .allocate => True
  | .call (.setInput _ _ _) | .call (.resizeInput _ _) | .call .invoke | .delegate _ => False

/-- Whether the request, if it succeeds, makes it necessary to allocate again. -/
def Unsettles : Request → Prop
  | .call (.resizeInput _ _) | .delegate _ => True
  | .call (.setInput _ _ _) | .call .allocate | .call .invoke => False

end Request

def served (i : Interpreter) (request : Request) : Interpreter := (request.action.run i).state

def servedAll (i : Interpreter) (requests : List Request) : Interpreter := requests.foldl served i

/-- Requests that were made one after the other, with their answers. -/
def log : Interpreter → List Request → List (Request × Except Fault Unit)
  | _, [] => []
  | i, request :: requests =>
    (request, (request.action.run i).ending) :: log (i.served request) requests

/-- An allocation has succeeded, and nothing that has succeeded after it makes it necessary to
allocate again. -/
def Stands (log : List (Request × Except Fault Unit)) : Prop :=
  ∃ before request after, log = before ++ (request, .ok ()) :: after ∧ request.Allocates ∧
    ∀ entry ∈ after, entry.1.Unsettles → entry.2 ≠ .ok ()

theorem log_append (i : Interpreter) (requests : List Request) (last : Request) :
    log i (requests ++ [last]) =
      log i requests ++ [(last, (last.action.run (i.servedAll requests)).ending)] := by
  induction requests generalizing i with
  | nil => rfl
  | cons request requests ih =>
      show (_, _) :: log (i.served request) (requests ++ [last]) = _
      rw [ih]
      rfl

theorem servedAll_append (i : Interpreter) (requests : List Request) (last : Request) :
    i.servedAll (requests ++ [last]) = (i.servedAll requests).served last := by
  rw [servedAll, List.foldl_append]
  rfl

/-- What one more entry makes of it. -/
theorem stands_append {log : List (Request × Except Fault Unit)} {request : Request}
    {answer : Except Fault Unit} :
    Stands (log ++ [(request, answer)]) ↔ request.Allocates ∧ answer = .ok () ∨
      Stands log ∧ ¬ (request.Unsettles ∧ answer = .ok ()) := by
  constructor
  · rintro ⟨before, allocation, after, split, allocates, quiet⟩
    rcases List.eq_nil_or_concat after with rfl | ⟨after, last, rfl⟩
    · obtain ⟨-, same⟩ := List.append_inj' split rfl
      cases same
      exact .inl ⟨allocates, rfl⟩
    · rw [List.concat_eq_append, ← List.cons_append, ← List.append_assoc] at split
      obtain ⟨rfl, same⟩ := List.append_inj' split rfl
      cases same
      refine .inr ⟨⟨before, allocation, after, rfl, allocates, fun entry inside => ?_⟩, ?_⟩
      · exact quiet entry (by simp [inside])
      · rintro ⟨unsettles, succeeded⟩
        exact quiet (request, answer) (by simp) unsettles succeeded
  · rintro (⟨allocates, rfl⟩ | ⟨⟨before, allocation, after, rfl, allocates, quiet⟩, last⟩)
    · exact ⟨log, request, [], rfl, allocates, by simp⟩
    · refine ⟨before, allocation, after ++ [(request, answer)], by simp, allocates, ?_⟩
      intro entry inside unsettles succeeded
      rcases List.mem_append.mp inside with inside | inside
      · exact quiet entry inside unsettles succeeded
      · rw [List.mem_singleton] at inside
        subst inside
        exact last ⟨unsettles, succeeded⟩

/-! ## One request -/

section Served

variable {i : Interpreter}

theorem served_eq (request : Request) : i.served request = (request.action.outcome i).2 := rfl

/-- A request is answered if it has an outcome. -/
theorem answered_iff {request : Request} :
    (request.action.run i).ending = .ok () ↔ (request.action.outcome i).1 = some () :=
  toOption_eq_some.symm

/-- Whether the interpreter is allocated after a request. -/
theorem allocated_served (request : Request) :
    (i.served request).allocated = true ↔
      request.Allocates ∧ (request.action.run i).ending = .ok () ∨
        i.allocated = true ∧ ¬ (request.Unsettles ∧ (request.action.run i).ending = .ok ()) := by
  rw [answered_iff, served_eq]
  cases request with
  | delegate d =>
      simp only [Request.action, Request.Allocates, Request.Unsettles, outcome_delegate]
      cases d.handedOver i.graph i.plan <;> simp
  | call c =>
      cases c with
      | setInput input type values =>
          simp only [Request.action, Call.action, Request.Allocates, Request.Unsettles,
            Action.outcome, run_setInput]
          simp
      | resizeInput input shape =>
          simp only [Request.action, Call.action, Request.Allocates, Request.Unsettles,
            Action.outcome, run_resizeInput]
          rcases (shapeInput input shape).run i.graph with ⟨_ | _, graph, events⟩ <;> simp
      | allocate =>
          simp only [Request.action, Call.action, Request.Allocates, Request.Unsettles,
            outcome_allocate]
          rcases (forM i.plan (prepareStep i.registry)).outcome i.graph with ⟨_ | _, graph⟩ <;> simp
      | invoke =>
          simp only [Request.action, Call.action, Request.Allocates, Request.Unsettles,
            outcome_invoke]
          split <;> simp

/-- No step of a plan fails for want of an allocation: whatever goes wrong in it is reported as a
failure of its node or partition. -/
theorem evaluateStep_failsWith (registry : Registry) (step : Step) :
    (evaluateStep registry step).FailsWith
      fun fault => fault ≠ .of InterpreterFailure.notAllocated := by
  -- the outermost layer of a failure is the reason that the step puts around it
  have layered (reason : Reason) (other : reason ≠ InterpreterFailure.notAllocated)
      (fault : Fault) : fault.within reason ≠ .of InterpreterFailure.notAllocated := by
    rintro same
    cases fault with
    | aborted => cases same
    | failed failure =>
        injection same with same
        injection same with same
        exact other same
  cases step with
  | builtin id =>
      refine .bind .get fun g => .bind (.lift ?_) fun node => .mapFault fun t fault _ => ?_
      · simp [Registry.lookUp, Graph.node, Fault.of]
      · exact layered _ (by simp) fault
  | delegated partition => exact .mapFault fun t fault _ => layered _ (by simp) fault

/-- Invoking is refused for this reason exactly if the interpreter is not allocated, and changes
nothing then. -/
theorem invoke_refused (i : Interpreter) :
    ((invoke.run i).ending = refuse InterpreterFailure.notAllocated ↔ i.allocated = false) ∧
      (i.allocated = false → (invoke.run i).state = i) := by
  rw [run_invoke]
  cases allocated : i.allocated with
  | false => simp
  | true =>
      have walk := Action.FailsWith.forM (l := i.plan) fun step _ =>
        evaluateStep_failsWith i.registry step
      refine ⟨iff_of_false (fun refused => ?_) (by simp), fun unallocated => by cases unallocated⟩
      exact walk i.graph _ refused rfl

end Served

/-! ## Whole histories -/

/-- Whether an allocation stands decides whether the interpreter is allocated. -/
theorem allocated_servedAll {start : Interpreter} (unallocated : start.allocated = false)
    (history : List Request) :
    (start.servedAll history).allocated = true ↔ Stands (log start history) := by
  induction history using List.reverseRecOn with
  | nil =>
      refine iff_of_false (fun allocated => ?_) ?_
      · exact absurd (unallocated.symm.trans allocated) Bool.false_ne_true
      · rintro ⟨before, allocation, after, split, -⟩
        cases before <;> cases split
  | append_singleton history last ih =>
      rw [servedAll_append, allocated_served, log_append, stands_append, ih]

/-- Whatever has been asked of an interpreter before, an invocation is refused for want of an
allocation exactly if none stands, and then changes nothing. -/
theorem invoke_refused_iff (g : Graph) (registry : Registry) (history : List Request) :
    let start := ofGraph g registry
    let i := start.servedAll history
    ((invoke.run i).ending = refuse InterpreterFailure.notAllocated ↔
      ¬ Stands (log start history)) ∧
      (¬ Stands (log start history) → (invoke.run i).state = i) := by
  intro start i
  have standing : i.allocated = false ↔ ¬ Stands (log start history) := by
    rw [← allocated_servedAll rfl, Bool.not_eq_true]
  rw [← standing]
  exact invoke_refused i

/-- A weaving graph is allocated, and then told to crop more rows than there are. -/
def cropping : List Request :=
  [.call (.setInput 1 .i32 #[2, 2]), .call .allocate, .call (.setInput 2 .i32 #[3, 0, 0, 0])]

/-- An allocation that fails does not end an earlier one: the graph is run all the same. -/
theorem failed_allocation_stands :
    ¬ ∀ (g : Graph) (registry : Registry) (before after : List Request),
      let i := (ofGraph g registry).servedAll before
      (allocate.run i).ending ≠ .ok () → (∀ request ∈ after, ¬ request.Allocates) →
      let i' := (i.served (.call .allocate)).servedAll after
      (invoke.run i').ending = refuse InterpreterFailure.notAllocated ∧
        (invoke.run i').state.graph.tensors = i'.graph.tensors := by
  intro always
  have refused := (always (Graph.build weaving) .all cropping [] (by decide +kernel) (by simp)).1
  have succeeded : (invoke.run ((((ofGraph (Graph.build weaving) .all).servedAll cropping).served
      (.call .allocate)).servedAll [])).ending = .ok () := by
    decide +kernel
  cases succeeded.symm.trans refused

end TensorGraph.Interpreter
