import TensorGraph.Proofs.Outcome

/-!
# Which faults a computation can end with

A computation *fails with* a property of faults if every fault that it may end with has it. The
property goes through `bind`, and the lemmas below are tagged for `simp`: a computation that is put
together from checks comes down to what is asked of the reasons that it gives, check by check.
Nothing is asked of a reason whose check is known to pass.

For actions the same is asked of runs from all states.
-/

namespace TensorGraph

variable {σ α β : Type} {P Q : Fault → Prop}

/-! ## Computations without a state -/

/-- Every fault that the computation may end with has the property. -/
def FailsWith (P : Fault → Prop) (e : Except Fault α) : Prop := ∀ fault, e = .error fault → P fault

theorem FailsWith.mono {e : Except Fault α} (h : FailsWith P e)
    (weaker : ∀ fault, P fault → Q fault) : FailsWith Q e :=
  fun fault failed => weaker fault (h fault failed)

@[simp] theorem failsWith_ok (a : α) : FailsWith P (.ok a : Except Fault α) := by
  intro fault failed
  cases failed

@[simp] theorem failsWith_pure (a : α) : FailsWith P (pure a : Except Fault α) := failsWith_ok a

@[simp] theorem failsWith_error {fault : Fault} :
    FailsWith P (.error fault : Except Fault α) ↔ P fault := by
  simp [FailsWith]

@[simp] theorem failsWith_refuse {reason : Reason} :
    FailsWith P (refuse reason : Except Fault α) ↔ P (.of reason) := failsWith_error

@[simp] theorem ok_bind {ε : Type} (a : α) (next : α → Except ε β) :
    .ok a >>= next = next a := rfl

@[simp] theorem error_bind {ε : Type} (failure : ε) (next : α → Except ε β) :
    .error failure >>= next = .error failure := rfl

/-- A computation in steps fails in one of them. -/
theorem bind_eq_error {e : Except Fault α} {next : α → Except Fault β} {fault : Fault} :
    e >>= next = .error fault ↔ e = .error fault ∨ ∃ a, e = .ok a ∧ next a = .error fault := by
  cases e with
  | ok a =>
      show next a = _ ↔ _
      simp
  | error fault' =>
      show Except.error fault' = _ ↔ _
      simp

theorem mapError_eq_error {change : Fault → Fault} {e : Except Fault α} {fault : Fault} :
    e.mapError change = .error fault ↔ ∃ fault', e = .error fault' ∧ change fault' = fault := by
  cases e <;> simp [Except.mapError]

/-- What comes second is asked for only where the first has succeeded. -/
@[simp] theorem failsWith_bind {e : Except Fault α} {next : α → Except Fault β} :
    FailsWith P (e >>= next) ↔ FailsWith P e ∧ ∀ a, e = .ok a → FailsWith P (next a) := by
  cases e with
  | ok a =>
      show FailsWith P (next a) ↔ _
      simp
  | error fault =>
      show FailsWith P (.error fault) ↔ _
      simp

@[simp] theorem failsWith_map {f : α → β} {e : Except Fault α} :
    FailsWith P (f <$> e) ↔ FailsWith P e := by
  cases e with
  | ok a => exact iff_of_true (failsWith_ok (f a)) (failsWith_ok a)
  | error fault =>
      show FailsWith P (.error fault) ↔ _
      rw [failsWith_error, failsWith_error]

@[simp] theorem failsWith_ite {p : Prop} [Decidable p] {e e' : Except Fault α} :
    FailsWith P (if p then e else e') ↔ (p → FailsWith P e) ∧ (¬ p → FailsWith P e') := by
  split <;> simp [*]

@[simp] theorem failsWith_ensure {p : Prop} [Decidable p] {reason : Reason} :
    FailsWith P (ensure p reason) ↔ p ∨ P (.of reason) := by
  unfold ensure
  split <;> simp [*]

@[simp] theorem failsWith_require {value : Option α} {reason : Reason} :
    FailsWith P (require value reason) ↔ value.isSome = true ∨ P (.of reason) := by
  cases value <;> simp [require]

@[simp] theorem failsWith_checked {value : Option α} :
    FailsWith P (checked value) ↔ value.isSome = true ∨ P .aborted := by
  cases value <;> simp [checked]

/-- The property is asked of the fault as it is seen from what was being done. -/
theorem failsWith_during {reason : Reason} {e : Except Fault α} :
    FailsWith P (during reason e) ↔ FailsWith (fun fault => P (fault.within reason)) e := by
  cases e <;> simp [during]

@[simp] theorem failsWith_mapError {change : Fault → Fault} {e : Except Fault α} :
    FailsWith P (e.mapError change) ↔ FailsWith (fun fault => P (change fault)) e := by
  cases e <;> simp [Except.mapError]

/-- A walk fails as one of its checks does. -/
theorem failsWith_forM {f : α → Except Fault Unit} {l : List α} (h : ∀ a ∈ l, FailsWith P (f a)) :
    FailsWith P (forM l f) := by
  induction l with
  | nil => exact failsWith_ok ()
  | cons a l ih =>
      rw [List.forM_cons, failsWith_bind]
      exact ⟨h a List.mem_cons_self,
        fun _ _ => ih fun b inside => h b (List.mem_cons_of_mem _ inside)⟩

theorem failsWith_mapM {f : α → Except Fault β} {l : List α} (h : ∀ a ∈ l, FailsWith P (f a)) :
    FailsWith P (l.mapM f) := by
  induction l with
  | nil => exact failsWith_ok []
  | cons a l ih =>
      rw [List.mapM_cons, failsWith_bind]
      refine ⟨h a List.mem_cons_self, fun b _ => ?_⟩
      rw [failsWith_bind]
      exact ⟨ih fun b inside => h b (List.mem_cons_of_mem _ inside), fun bs _ => failsWith_ok _⟩

theorem failsWith_foldlM {f : β → α → Except Fault β} {l : List α} {start : β}
    (h : ∀ b, ∀ a ∈ l, FailsWith P (f b a)) : FailsWith P (l.foldlM f start) := by
  induction l generalizing start with
  | nil => exact failsWith_ok start
  | cons a l ih =>
      rw [List.foldlM_cons, failsWith_bind]
      exact ⟨h start a List.mem_cons_self,
        fun _ _ => ih fun b a inside => h b a (List.mem_cons_of_mem _ inside)⟩

/-! ## Actions -/

namespace Action

/-! An action that only looks at the state before it acts ends as a computation does that goes on
from what has been seen. -/

@[simp] theorem ending_lift_bind (e : Except Fault α) (next : α → Action σ β) (s : σ) :
    ((liftM e >>= next : Action σ β).run s).ending = e >>= fun a => ((next a).run s).ending := by
  cases e <;> rfl

@[simp] theorem ending_get_bind (next : σ → Action σ β) (s : σ) :
    ((Action.get >>= next).run s).ending = ((next s).run s).ending := rfl

@[simp] theorem ending_lift (e : Except Fault α) (s : σ) :
    ((liftM e : Action σ α).run s).ending = e := rfl

@[simp] theorem ending_set_bind (t : σ) (next : Unit → Action σ β) (s : σ) :
    ((Action.set t >>= next).run s).ending = ((next ()).run t).ending := rfl

@[simp] theorem ending_record_bind (event : Event) (next : Unit → Action σ β) (s : σ) :
    ((Action.record event >>= next).run s).ending = ((next ()).run s).ending := rfl

@[simp] theorem ending_mapFault (change : Fault → Fault) (action : Action σ α) (s : σ) :
    ((mapFault change action).run s).ending = (action.run s).ending.mapError change := rfl

@[simp] theorem ending_during (reason : Reason) (action : Action σ α) (s : σ) :
    ((Action.during reason action).run s).ending =
      TensorGraph.during reason (action.run s).ending := by
  rw [Action.during, ending_mapFault]
  cases (action.run s).ending <;> rfl

/-- Every fault that a run may end with has the property. -/
def FailsWith (P : Fault → Prop) (action : Action σ α) : Prop :=
  ∀ s, TensorGraph.FailsWith P (action.run s).ending

theorem FailsWith.mono {action : Action σ α} (h : action.FailsWith P)
    (weaker : ∀ fault, P fault → Q fault) : action.FailsWith Q := fun s => (h s).mono weaker

theorem FailsWith.pure (a : α) : (Pure.pure a : Action σ α).FailsWith P := fun _ => failsWith_ok a

theorem FailsWith.lift {e : Except Fault α} (h : TensorGraph.FailsWith P e) :
    (liftM e : Action σ α).FailsWith P := fun _ => h

theorem FailsWith.get : (Action.get : Action σ σ).FailsWith P := fun s => failsWith_ok s

theorem FailsWith.set (t : σ) : (Action.set t).FailsWith P := fun _ => failsWith_ok ()

theorem FailsWith.record (event : Event) : (Action.record event : Action σ Unit).FailsWith P :=
  fun _ => failsWith_ok ()

/-- What comes after a success of the first action may rely on it. -/
theorem failsWith_bind_at {action : Action σ α} {next : α → Action σ β} {s : σ}
    (h : TensorGraph.FailsWith P (action.run s).ending)
    (hnext : ∀ a t, action.outcome s = (some a, t) →
      TensorGraph.FailsWith P ((next a).run t).ending) :
    TensorGraph.FailsWith P ((action >>= next).run s).ending := by
  cases ending : (action.run s).ending with
  | ok a =>
      rw [run_bind_of_ok ending]
      exact hnext a _ (outcome_eq_some.mpr ⟨ending, rfl⟩)
  | error fault =>
      rw [run_bind_of_error ending, failsWith_error]
      exact h fault ending

/-- Actions in a row fail as one of them does. -/
theorem FailsWith.bind {action : Action σ α} {next : α → Action σ β} (h : action.FailsWith P)
    (hnext : ∀ a, (next a).FailsWith P) : (action >>= next).FailsWith P :=
  fun s => failsWith_bind_at (h s) fun a t _ => hnext a t

/-- If faults are changed, the property is asked of what they become. -/
theorem FailsWith.mapFault {change : Fault → Fault} {action : Action σ α}
    (h : action.FailsWith fun fault => P (change fault)) :
    (Action.mapFault change action).FailsWith P := fun s => by
  rw [ending_mapFault, failsWith_mapError]
  exact h s

theorem FailsWith.forM {f : α → Action σ Unit} {l : List α} (h : ∀ a ∈ l, (f a).FailsWith P) :
    (forM l f).FailsWith P := by
  induction l with
  | nil => exact .pure ()
  | cons a l ih =>
      rw [List.forM_cons]
      exact .bind (h a List.mem_cons_self) fun _ =>
        ih fun b inside => h b (List.mem_cons_of_mem _ inside)

theorem FailsWith.mapM {f : α → Action σ β} {l : List α} (h : ∀ a ∈ l, (f a).FailsWith P) :
    (l.mapM f).FailsWith P := by
  induction l with
  | nil => exact .pure []
  | cons a l ih =>
      rw [List.mapM_cons]
      exact .bind (h a List.mem_cons_self) fun _ =>
        .bind (ih fun b inside => h b (List.mem_cons_of_mem _ inside)) fun _ => .pure _

/-- A walk that fails has come to a step that fails, after steps that have succeeded, and leaves
what that step leaves. -/
theorem exists_of_forM_fails {f : α → Action σ Unit} {l : List α} {s : σ} {fault : Fault}
    (failed : ((forM l f).run s).ending = .error fault) :
    ∃ before a after t, l = before ++ a :: after ∧ (forM before f).outcome s = (some (), t) ∧
      ((f a).run t).ending = .error fault ∧ ((forM l f).run s).state = ((f a).run t).state := by
  induction l generalizing s with
  | nil => cases failed
  | cons a l ih =>
      rw [List.forM_cons] at failed ⊢
      cases ending : ((f a).run s).ending with
      | error fault' =>
          rw [run_bind_of_error ending] at failed ⊢
          cases failed
          exact ⟨[], a, l, s, rfl, rfl, ending, rfl⟩
      | ok _ =>
          rw [run_bind_of_ok ending] at failed ⊢
          obtain ⟨before, b, after, t, rfl, passed, failed, state⟩ := ih failed
          refine ⟨a :: before, b, after, t, rfl, ?_, failed, state⟩
          rw [List.forM_cons, outcome_bind, outcome_eq_some.mpr ⟨ending, rfl⟩, proceed_some]
          exact passed

end Action

end TensorGraph
