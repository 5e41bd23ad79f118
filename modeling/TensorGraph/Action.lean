import TensorGraph.Event
import TensorGraph.Failure

/-!
# Actions

An action works on a state. It ends with a value or a fault, and in both cases leaves a state
behind: what was done before a failure stays done. On the way it records events.
-/

namespace TensorGraph

/-- What an action leaves behind. -/
structure Run (σ α : Type) where
  ending : Except Fault α
  state : σ
  events : List Event

/-- A computation on a state of type `σ` that may fail. -/
def Action (σ α : Type) : Type := σ → Run σ α

namespace Action

variable {σ α β : Type}

def run (action : Action σ α) (state : σ) : Run σ α := action state

/-- End with a value, or with the fault of a computation that looks at no state. -/
def ofExcept (ending : Except Fault α) : Action σ α := fun state => ⟨ending, state, []⟩

/-- Go on after an action that succeeds. -/
def andThen (action : Action σ α) (next : α → Action σ β) : Action σ β := fun state =>
  match action.run state with
  | ⟨.ok a, after, events⟩ =>
    let rest := (next a).run after
    ⟨rest.ending, rest.state, events ++ rest.events⟩
  | ⟨.error fault, after, events⟩ => ⟨.error fault, after, events⟩

instance : Monad (Action σ) where
  pure a := ofExcept (.ok a)
  bind := andThen

instance : MonadLift (Except Fault) (Action σ) := ⟨ofExcept⟩

def get : Action σ σ := fun state => ⟨.ok state, state, []⟩

def set (state : σ) : Action σ Unit := fun _ => ⟨.ok (), state, []⟩

def record (event : Event) : Action σ Unit := fun state => ⟨.ok (), state, [event]⟩

/-- Change the fault that an action may end with. -/
def mapFault (change : Fault → Fault) (action : Action σ α) : Action σ α := fun state =>
  let result := action.run state
  { result with ending := result.ending.mapError change }

/-- Add what was being done to the failure of an action. -/
def during (reason : Reason) (action : Action σ α) : Action σ α :=
  mapFault (Fault.within reason) action

/-- An action that looks at no state, as part of one that does. -/
def onNothing (action : Action Unit α) : Action σ α := fun state =>
  let result := action.run ()
  ⟨result.ending, state, result.events⟩

instance : MonadLift (Action Unit) (Action σ) := ⟨onNothing⟩

/-- An action on a part of the state. -/
def onPart {τ : Type} (part : τ → σ) (put : σ → τ → τ) (action : Action σ α) : Action τ α :=
  fun state =>
    let result := action.run (part state)
    ⟨result.ending, put result.state state, result.events⟩

/-! ### Running -/

@[simp] theorem run_pure (a : α) (s : σ) : (pure a : Action σ α).run s = ⟨.ok a, s, []⟩ := rfl

@[simp] theorem run_ofExcept (e : Except Fault α) (s : σ) : (ofExcept e).run s = ⟨e, s, []⟩ := rfl

@[simp] theorem run_get (s : σ) : (get : Action σ σ).run s = ⟨.ok s, s, []⟩ := rfl

@[simp] theorem run_set (t s : σ) : (set t).run s = ⟨.ok (), t, []⟩ := rfl

@[simp] theorem run_record (e : Event) (s : σ) :
    (record e : Action σ Unit).run s = ⟨.ok (), s, [e]⟩ := rfl

/-- After a failure nothing more runs. -/
theorem run_bind_of_error {action : Action σ α} {s : σ} {fault : Fault}
    (h : (action.run s).ending = .error fault) (next : α → Action σ β) :
    (action >>= next).run s = ⟨.error fault, (action.run s).state, (action.run s).events⟩ := by
  show action.andThen next s = _
  unfold andThen
  rcases hr : action.run s with ⟨ending, after, events⟩
  rw [hr] at h
  cases ending with
  | ok a => cases h
  | error e => cases h; rfl

/-- After a success the rest runs from the state that it left. -/
theorem run_bind_of_ok {action : Action σ α} {s : σ} {a : α}
    (h : (action.run s).ending = .ok a) (next : α → Action σ β) :
    (action >>= next).run s =
      ⟨((next a).run (action.run s).state).ending, ((next a).run (action.run s).state).state,
        (action.run s).events ++ ((next a).run (action.run s).state).events⟩ := by
  show action.andThen next s = _
  unfold andThen
  rcases hr : action.run s with ⟨ending, after, events⟩
  rw [hr] at h
  cases ending with
  | ok a => cases h; rfl
  | error e => cases h

end Action

end TensorGraph
