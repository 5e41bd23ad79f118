import Mathlib.Algebra.Group.Int.Defs
import Mathlib.Algebra.Group.Nat.Defs
import Mathlib.Data.List.Forall2
import Mathlib.Order.Defs.Unbundled
import TensorGraph.Action

/-!
# Outcomes

The host and the engine run the same operators, but they fail with different words and report
different events. What they are compared by is the *outcome* of an action: its value, if there is
one, and the state that it leaves. For a computation without a state that is `Except.toOption`.

Both forget the fault and keep the rest, so they go through `bind`; the lemmas below are tagged for
`simp`, which then turns a computation that may fail for many reasons into one that just may fail.

An action *keeps to* a relation if every run relates the state before to the state after, whether it
succeeds or not. For a reflexive and transitive relation that goes through `bind` as well, so a
frame condition on an operator is read off its parts.
-/

namespace TensorGraph

variable {σ α β : Type}

/-! ## Lists side by side -/

section Lists

variable {R : α → β → Prop} {l : List α} {m : List β}

/-- Every element of the one list has a related one in the other. -/
theorem exists_right_of_forall₂ (h : List.Forall₂ R l m) {a : α} (inside : a ∈ l) :
    ∃ b ∈ m, R a b := by
  induction h with
  | nil => cases inside
  | cons related _ ih =>
      rcases List.mem_cons.mp inside with rfl | inside
      · exact ⟨_, List.mem_cons_self, related⟩
      · obtain ⟨b, found, related⟩ := ih inside
        exact ⟨b, List.mem_cons_of_mem _ found, related⟩

theorem exists_left_of_forall₂ (h : List.Forall₂ R l m) {b : β} (inside : b ∈ m) :
    ∃ a ∈ l, R a b :=
  exists_right_of_forall₂ h.flip inside

end Lists

/-! ## Computations without a state -/

section Computations

@[simp] theorem toOption_ok (a : α) : (Except.ok a : Except Fault α).toOption = some a := rfl

@[simp] theorem toOption_error (fault : Fault) :
    (Except.error fault : Except Fault α).toOption = none := rfl

@[simp] theorem toOption_pure (a : α) : (pure a : Except Fault α).toOption = some a := rfl

@[simp] theorem toOption_bind (e : Except Fault α) (next : α → Except Fault β) :
    (e >>= next).toOption = e.toOption.bind fun a => (next a).toOption := by
  cases e <;> rfl

@[simp] theorem toOption_refuse (reason : Reason) :
    (refuse reason : Except Fault α).toOption = none := rfl

@[simp] theorem toOption_ensure (p : Prop) [Decidable p] (reason : Reason) :
    (ensure p reason).toOption = if p then some () else none := by
  unfold ensure
  split <;> rfl

@[simp] theorem toOption_require (value : Option α) (reason : Reason) :
    (require value reason).toOption = value := by
  cases value <;> rfl

@[simp] theorem toOption_checked (value : Option α) : (checked value).toOption = value := by
  cases value <;> rfl

@[simp] theorem toOption_during (reason : Reason) (e : Except Fault α) :
    (during reason e).toOption = e.toOption := by
  cases e <;> rfl

@[simp] theorem toOption_map (f : α → β) (e : Except Fault α) :
    (f <$> e).toOption = e.toOption.map f := by
  cases e <;> rfl

/-- Which fault ends a walk does not matter for whether it succeeds. -/
@[simp] theorem toOption_forM (f : α → Except Fault Unit) (l : List α) :
    (forM l f).toOption = forM l fun a => (f a).toOption := by
  induction l with
  | nil => rfl
  | cons a l ih => simp [ih]

@[simp] theorem toOption_mapM (f : α → Except Fault β) (l : List α) :
    (l.mapM f).toOption = l.mapM fun a => (f a).toOption := by
  induction l with
  | nil => rfl
  | cons a l ih =>
      rw [List.mapM_cons, List.mapM_cons, toOption_bind, ← ih]
      simp only [toOption_bind, toOption_pure, Option.bind_eq_bind, Option.pure_def]

/-- Without its faults, a computation still has its values. -/
theorem toOption_eq_some {e : Except Fault α} {a : α} : e.toOption = some a ↔ e = .ok a := by
  cases e <;> simp

instance [DecidableEq α] (e : Except Fault α) (a : α) : Decidable (e = .ok a) :=
  decidable_of_iff (e.toOption = some a) toOption_eq_some

/-! A computation that succeeds can be taken apart again: `simp` turns the equation that says so
into what has been checked and what has been found on the way. -/

@[simp] theorem bind_eq_ok {e : Except Fault α} {next : α → Except Fault β} {b : β} :
    e >>= next = .ok b ↔ ∃ a, e = .ok a ∧ next a = .ok b := by
  simp only [← toOption_eq_some, toOption_bind, Option.bind_eq_some_iff]

@[simp] theorem pure_eq_ok {a b : α} : (pure a : Except Fault α) = .ok b ↔ a = b := by
  simp [← toOption_eq_some]

@[simp] theorem map_eq_ok {f : α → β} {e : Except Fault α} {b : β} :
    f <$> e = .ok b ↔ ∃ a, e = .ok a ∧ f a = b := by
  simp only [← toOption_eq_some, toOption_map, Option.map_eq_some_iff]

@[simp] theorem refuse_eq_ok {reason : Reason} {a : α} : refuse reason = .ok a ↔ False := by
  simp [← toOption_eq_some]

@[simp] theorem ensure_eq_ok {p : Prop} [Decidable p] {reason : Reason} {u : Unit} :
    ensure p reason = .ok u ↔ p := by
  simp [← toOption_eq_some]

@[simp] theorem require_eq_ok {value : Option α} {reason : Reason} {a : α} :
    require value reason = .ok a ↔ value = some a := by
  simp [← toOption_eq_some]

@[simp] theorem checked_eq_ok {value : Option α} {a : α} :
    checked value = .ok a ↔ value = some a := by
  simp [← toOption_eq_some]

@[simp] theorem during_eq_ok {reason : Reason} {e : Except Fault α} {a : α} :
    during reason e = .ok a ↔ e = .ok a := by
  simp [← toOption_eq_some]

/-- Only the value that a computation ends with matters for what comes after it. -/
theorem bind_congr_ok {e : Except Fault α} {next next' : α → Except Fault β}
    (h : ∀ a, e = .ok a → next a = next' a) : e >>= next = e >>= next' := by
  cases e with
  | error fault => rfl
  | ok a => exact h a rfl

theorem forM_congr {f f' : α → Except Fault Unit} {l : List α} (h : ∀ a ∈ l, f a = f' a) :
    forM l f = forM l f' := by
  induction l with
  | nil => rfl
  | cons a l ih =>
      rw [List.forM_cons, List.forM_cons, h a List.mem_cons_self,
        ih fun b inside => h b (List.mem_cons_of_mem _ inside)]

theorem mapM_congr {f f' : α → Except Fault β} {l : List α} (h : ∀ a ∈ l, f a = f' a) :
    l.mapM f = l.mapM f' := by
  induction l with
  | nil => rfl
  | cons a l ih =>
      rw [List.mapM_cons, List.mapM_cons, h a List.mem_cons_self,
        ih fun b inside => h b (List.mem_cons_of_mem _ inside)]

/-- Every element passes, if a walk through a list of checks succeeds. -/
theorem forM_eq_some {f : α → Option Unit} {l : List α} :
    forM l f = some () ↔ ∀ a ∈ l, f a = some () := by
  induction l with
  | nil => simp
  | cons a l ih =>
      simp only [List.forM_cons, List.mem_cons, forall_eq_or_imp, ← ih]
      cases f a <;> simp

theorem forM_eq_ok {f : α → Except Fault Unit} {l : List α} {u : Unit} :
    forM l f = .ok u ↔ ∀ a ∈ l, f a = .ok () := by
  cases u
  simp only [← toOption_eq_some, toOption_forM, forM_eq_some]

/-- Mapping a list succeeds with the values that its elements give one by one. -/
theorem mapM_eq_some {f : α → Option β} {l : List α} {bs : List β} :
    l.mapM f = some bs ↔ List.Forall₂ (fun a b => f a = some b) l bs := by
  induction l generalizing bs with
  | nil => simp [eq_comm]
  | cons a l ih =>
      simp only [List.mapM_cons, Option.bind_eq_bind, Option.bind_eq_some_iff, Option.pure_def,
        Option.some.injEq, ih, List.forall₂_cons_left_iff]
      constructor
      · rintro ⟨b, first, rest, others, rfl⟩
        exact ⟨b, rest, first, others, rfl⟩
      · rintro ⟨b, rest, first, others, rfl⟩
        exact ⟨b, first, rest, others, rfl⟩

theorem mapM_eq_ok {f : α → Except Fault β} {l : List α} {bs : List β} :
    l.mapM f = .ok bs ↔ List.Forall₂ (fun a b => f a = .ok b) l bs := by
  simp only [← toOption_eq_some, toOption_mapM, mapM_eq_some]

/-- A computation succeeds if it does step by step. -/
theorem bind_succeeds {e : Except Fault α} {next : α → Except Fault β} (h : ∃ a, e = .ok a)
    (hnext : ∀ a, e = .ok a → ∃ b, next a = .ok b) : ∃ b, e >>= next = .ok b := by
  obtain ⟨a, found⟩ := h
  obtain ⟨b, found'⟩ := hnext a found
  exact ⟨b, bind_eq_ok.mpr ⟨a, found, found'⟩⟩

/-- Mapping a list succeeds if every element gives a value. -/
theorem mapM_succeeds {f : α → Except Fault β} {l : List α} (h : ∀ a ∈ l, ∃ b, f a = .ok b) :
    ∃ bs, l.mapM f = .ok bs := by
  induction l with
  | nil => exact ⟨[], rfl⟩
  | cons a l ih =>
      obtain ⟨b, first⟩ := h a List.mem_cons_self
      obtain ⟨bs, others⟩ := ih fun a inside => h a (List.mem_cons_of_mem _ inside)
      refine ⟨b :: bs, ?_⟩
      rw [mapM_eq_ok] at others ⊢
      exact .cons first others

end Computations

namespace Action

/-! ## Actions as a lawful monad -/

theorem map_id (action : Action σ α) : id <$> action = action := by
  funext s
  show action.andThen (fun a => ofExcept (.ok a)) s = action s
  unfold andThen run
  rcases action s with ⟨_ | a, t, events⟩ <;> simp [ofExcept]

theorem bind_bind {γ : Type} (action : Action σ α) (next : α → Action σ β)
    (last : β → Action σ γ) : action >>= next >>= last = action >>= fun a => next a >>= last := by
  funext s
  show (action.andThen next).andThen last s = action.andThen (fun a => (next a).andThen last) s
  simp only [andThen, run]
  rcases action s with ⟨_ | a, t, events⟩
  · rfl
  · dsimp only
    rcases next a t with ⟨_ | b, u, more⟩ <;> simp

instance : LawfulMonad (Action σ) :=
  LawfulMonad.mk' (Action σ) map_id (fun _ _ => rfl) bind_bind

/-! ## Outcomes of actions -/

/-- The value that an action ends with, if it does, and the state that it leaves. -/
def outcome (action : Action σ α) (s : σ) : Option α × σ :=
  ((action.run s).ending.toOption, (action.run s).state)

/-- Go on from an outcome with a value. -/
def proceed (o : Option α × σ) (next : α → σ → Option β × σ) : Option β × σ :=
  match o with
  | (some a, s) => next a s
  | (none, s) => (none, s)

@[simp] theorem proceed_some (a : α) (s : σ) (next : α → σ → Option β × σ) :
    proceed (some a, s) next = next a s := rfl

@[simp] theorem proceed_none (s : σ) (next : α → σ → Option β × σ) :
    proceed (none, s) next = (none, s) := rfl

theorem proceed_eq_some {o : Option α × σ} {next : α → σ → Option β × σ} {b : β} {t : σ}
    (h : proceed o next = (some b, t)) : ∃ a s, o = (some a, s) ∧ next a s = (some b, t) := by
  rcases o with ⟨_ | a, s⟩
  · simp at h
  · exact ⟨a, s, rfl, h⟩

/-- A computation without a state leads on from the state it is in. -/
theorem proceed_toOption {e : Except Fault α} {s t : σ} {next : α → σ → Option β × σ} {b : β} :
    proceed (e.toOption, s) next = (some b, t) ↔ ∃ a, e = .ok a ∧ next a s = (some b, t) := by
  cases e <;> simp

/-- A computation without a state either ends a run, or leads on. -/
theorem proceed_toOption_or (e : Except Fault α) (s : σ) (next : α → σ → Option β × σ) :
    proceed (e.toOption, s) next = (none, s) ∨
      ∃ a, e = .ok a ∧ proceed (e.toOption, s) next = next a s := by
  cases e with
  | error fault => exact .inl rfl
  | ok a => exact .inr ⟨a, rfl, rfl⟩

/-- A failure ends the run in the state that it leaves. -/
@[simp] theorem outcome_bind (action : Action σ α) (next : α → Action σ β) (s : σ) :
    (action >>= next).outcome s = proceed (action.outcome s) fun a t => (next a).outcome t := by
  cases h : (action.run s).ending with
  | ok a => simp [outcome, run_bind_of_ok h, h]
  | error fault => simp [outcome, run_bind_of_error h, h]

/-- Two actions in a row succeed if both do. -/
theorem then_eq_some {action : Action σ Unit} {next : Action σ β} {s t : σ} {b : β} :
    (do action; next).outcome s = (some b, t) ↔
      ∃ u, action.outcome s = (some (), u) ∧ next.outcome u = (some b, t) := by
  rw [outcome_bind]
  constructor
  · intro h
    obtain ⟨⟨⟩, u, first, rest⟩ := proceed_eq_some h
    exact ⟨u, first, rest⟩
  · rintro ⟨u, first, rest⟩
    rw [first, proceed_some, rest]

@[simp] theorem outcome_pure (a : α) (s : σ) : (pure a : Action σ α).outcome s = (some a, s) := rfl

@[simp] theorem outcome_lift (e : Except Fault α) (s : σ) :
    (liftM e : Action σ α).outcome s = (e.toOption, s) := rfl

@[simp] theorem outcome_get (s : σ) : (get : Action σ σ).outcome s = (some s, s) := rfl

@[simp] theorem outcome_set (t s : σ) : (set t).outcome s = (some (), t) := rfl

@[simp] theorem outcome_record (event : Event) (s : σ) :
    (record event : Action σ Unit).outcome s = (some (), s) := rfl

/-- What a failure says is no part of the outcome. -/
@[simp] theorem outcome_mapFault (change : Fault → Fault) (action : Action σ α) (s : σ) :
    (mapFault change action).outcome s = action.outcome s := by
  show (((action.run s).ending.mapError change).toOption, (action.run s).state) = _
  unfold outcome
  cases (action.run s).ending <;> rfl

@[simp] theorem outcome_during (reason : Reason) (action : Action σ α) (s : σ) :
    (Action.during reason action).outcome s = action.outcome s :=
  outcome_mapFault _ _ _

@[simp] theorem outcome_onNothing (action : Action Unit α) (s : σ) :
    (liftM action : Action σ α).outcome s = ((action.outcome ()).1, s) := rfl

/-- Only the part of the state changes. -/
@[simp] theorem outcome_onPart {τ : Type} (part : τ → σ) (put : σ → τ → τ) (action : Action σ α)
    (t : τ) :
    (onPart part put action).outcome t =
      ((action.outcome (part t)).1, put (action.outcome (part t)).2 t) := rfl

theorem outcome_eq_some {action : Action σ α} {s t : σ} {a : α} :
    action.outcome s = (some a, t) ↔
      (action.run s).ending = .ok a ∧ (action.run s).state = t := by
  simp [outcome, toOption_eq_some]

/-! ## Walks through a list -/

/-- Walking through a list of lists, each in a walk of its own, is one walk. -/
theorem forM_flatMap (f : β → Action σ Unit) (parts : α → List β) (l : List α) :
    forM (l.flatMap parts) f = forM l fun a => forM (parts a) f := by
  induction l with
  | nil => rfl
  | cons a l ih => simp [ih]

/-- A walk through checks that look at no state is one such check. -/
@[simp] theorem outcome_forM_lift (f : α → Except Fault Unit) (l : List α) (s : σ) :
    (forM l fun a => (liftM (f a) : Action σ Unit)).outcome s = ((forM l f).toOption, s) := by
  induction l with
  | nil => rfl
  | cons a l ih =>
      rw [List.forM_cons, List.forM_cons, outcome_bind, outcome_lift, toOption_bind]
      cases f a with
      | error fault => rfl
      | ok _ => exact ih

/-- A walk through steps that leave a state as it is leaves it as it is. -/
theorem outcome_forM_fixed {f : α → Action σ Unit} {l : List α} {s : σ}
    (fixed : ∀ a ∈ l, (f a).outcome s = (some (), s)) : (forM l f).outcome s = (some (), s) := by
  induction l with
  | nil => rfl
  | cons a l ih =>
      rw [List.forM_cons, outcome_bind, fixed a List.mem_cons_self, proceed_some]
      exact ih fun b inside => fixed b (List.mem_cons_of_mem _ inside)

/-- Recording events changes nothing. -/
theorem outcome_forM_record (events : List Event) (s : σ) :
    (forM events (Action.record : Event → Action σ Unit)).outcome s = (some (), s) :=
  outcome_forM_fixed fun event _ => outcome_record event s

/-- Mapping a list without a state succeeds with the values that its elements give one by one. -/
theorem outcome_mapM_eq_some {f : α → Action Unit β} {l : List α} {bs : List β} :
    (l.mapM f).outcome () = (some bs, ()) ↔
      List.Forall₂ (fun a b => (f a).outcome () = (some b, ())) l bs := by
  induction l generalizing bs with
  | nil => simp [eq_comm]
  | cons a l ih =>
      simp only [List.mapM_cons, outcome_bind, outcome_pure, List.forall₂_cons_left_iff]
      constructor
      · intro h
        obtain ⟨b, _, first, h⟩ := proceed_eq_some h
        obtain ⟨rest, _, others, h⟩ := proceed_eq_some h
        cases h
        exact ⟨b, rest, first, ih.mp others, rfl⟩
      · rintro ⟨b, rest, first, others, rfl⟩
        rw [first, proceed_some, ih.mpr others, proceed_some]

/-! ## Relations between the states before and after -/

/-- Every run relates the state before to the state after. -/
def KeepsTo (action : Action σ α) (R : σ → σ → Prop) : Prop := ∀ s, R s (action.outcome s).2

theorem KeepsTo.related {action : Action σ α} {R : σ → σ → Prop} (h : action.KeepsTo R) {s t : σ}
    {value : Option α} (done : action.outcome s = (value, t)) : R s t := by
  have kept := h s
  rwa [done] at kept

section KeepsTo

variable {R : σ → σ → Prop} [IsPreorder σ R]

theorem KeepsTo.pure (a : α) : (Pure.pure a : Action σ α).KeepsTo R := fun s => refl_of R s

theorem KeepsTo.lift (e : Except Fault α) : (liftM e : Action σ α).KeepsTo R :=
  fun s => refl_of R s

theorem KeepsTo.get : (Action.get : Action σ σ).KeepsTo R := fun s => refl_of R s

theorem KeepsTo.record (event : Event) : (Action.record event : Action σ Unit).KeepsTo R :=
  fun s => refl_of R s

/-- Actions in a row keep to what each of them keeps to. -/
theorem KeepsTo.bind {action : Action σ α} {next : α → Action σ β} (h : action.KeepsTo R)
    (hnext : ∀ a, (next a).KeepsTo R) : (action >>= next).KeepsTo R := by
  intro s
  have first := h s
  rw [outcome_bind]
  -- a failure ends the run in a state that the first action left
  generalize action.outcome s = o at first ⊢
  rcases o with ⟨_ | a, t⟩
  · exact first
  · exact trans_of R first (hnext a t)

/-- A computation without a state changes nothing; what comes after it may rely on its value. -/
theorem related_lift_bind {e : Except Fault α} {next : α → Action σ β} {s : σ}
    (h : ∀ a, e = .ok a → R s ((next a).outcome s).2) :
    R s ((liftM e >>= next : Action σ β).outcome s).2 := by
  cases e with
  | error fault => exact refl_of R s
  | ok a =>
      rw [outcome_bind]
      exact h a rfl

omit [IsPreorder σ R] in
theorem KeepsTo.mapFault {action : Action σ α} (change : Fault → Fault) (h : action.KeepsTo R) :
    (Action.mapFault change action).KeepsTo R := by
  intro s
  rw [outcome_mapFault]
  exact h s

/-- A walk keeps to what each of its steps keeps to. -/
theorem KeepsTo.forM {f : α → Action σ Unit} {l : List α} (h : ∀ a ∈ l, (f a).KeepsTo R) :
    (forM l f).KeepsTo R := by
  induction l with
  | nil => exact KeepsTo.pure ()
  | cons a l ih =>
      exact KeepsTo.bind (h a (by simp)) fun _ => ih fun b hb => h b (by simp [hb])

end KeepsTo

/-! ## Walks side by side -/

section Walks

variable {R : σ → σ → Prop} [IsPreorder σ R]

omit [IsPreorder σ R] in
theorem KeepsTo.mono {R' : σ → σ → Prop} {action : Action σ α} (h : action.KeepsTo R)
    (weaker : ∀ s t, R s t → R' s t) : action.KeepsTo R' := fun s => weaker _ _ (h s)

/-- Two walks have the same outcome, if their steps have it from all states that can be reached. -/
theorem outcome_forM_congr {f : α → Action σ Unit} {f' : β → Action σ Unit} {l : List α}
    {m : List β} {s : σ}
    (same : List.Forall₂ (fun a b => ∀ t, R s t → (f a).outcome t = (f' b).outcome t) l m)
    (keeps : ∀ a ∈ l, (f a).KeepsTo R) {t : σ} (reached : R s t) :
    (forM l f).outcome t = (forM m f').outcome t := by
  induction same generalizing t with
  | nil => rfl
  | @cons a b l m first _ ih =>
      -- where the first steps lead, the others can be reached
      have kept := keeps a List.mem_cons_self t
      rw [List.forM_cons, List.forM_cons, outcome_bind, outcome_bind, ← first t reached]
      generalize (f a).outcome t = o at kept ⊢
      rcases o with ⟨_ | _, u⟩
      · rfl
      · exact ih (fun a inside => keeps a (List.mem_cons_of_mem _ inside)) (trans_of R reached kept)

/-- In a walk that succeeds every step does, from a state between the first and the last. -/
theorem forM_succeeds {f : α → Action σ Unit} {l : List α} {s u : σ}
    (done : (forM l f).outcome s = (some (), u)) (keeps : ∀ a ∈ l, (f a).KeepsTo R) {a : α}
    (inside : a ∈ l) : ∃ t t', R s t ∧ (f a).outcome t = (some (), t') ∧ R t' u := by
  induction l generalizing s with
  | nil => cases inside
  | cons b l ih =>
      rw [List.forM_cons, outcome_bind] at done
      obtain ⟨⟨⟩, t, first, rest⟩ := proceed_eq_some done
      have kept := (keeps b List.mem_cons_self).related first
      have kept' := (KeepsTo.forM fun c h => keeps c (List.mem_cons_of_mem _ h)).related rest
      rcases List.mem_cons.mp inside with rfl | inside
      · exact ⟨s, t, refl_of R s, first, kept'⟩
      -- a later step starts from a state that is related to `t`, and `t` to `s`
      · obtain ⟨t₁, t₂, reached, here, onward⟩ :=
          ih rest (fun c h => keeps c (List.mem_cons_of_mem _ h)) inside
        exact ⟨t₁, t₂, trans_of R kept reached, here, onward⟩

/-- A walk succeeds if every step does from all states that can be reached. -/
theorem forM_of_steps {f : α → Action σ Unit} {l : List α} {s : σ}
    (steps : ∀ a ∈ l, ∀ t, R s t → ∃ u, (f a).outcome t = (some (), u))
    (keeps : ∀ a ∈ l, (f a).KeepsTo R) {t : σ} (reached : R s t) :
    ∃ u, (forM l f).outcome t = (some (), u) := by
  induction l generalizing t with
  | nil => exact ⟨t, rfl⟩
  | cons a l ih =>
      obtain ⟨u, first⟩ := steps a List.mem_cons_self t reached
      have kept := (keeps a List.mem_cons_self).related first
      rw [List.forM_cons, outcome_bind, first, proceed_some]
      exact ih (fun b inside => steps b (List.mem_cons_of_mem _ inside))
        (fun b inside => keeps b (List.mem_cons_of_mem _ inside)) (trans_of R reached kept)

end Walks

end Action

end TensorGraph
