import TensorGraph.Interpreter
import TensorGraph.Proofs.Outcome

/-!
# What a delegate takes over

`Delegate.divide` cuts a plan into segments by recursion. Here the same thing is said by places in
the plan: `maximalRuns` lists the maximal runs of steps that the delegate supports, each by its
first place and the one after its last, `Delegate.chosenRuns` keeps those that the limits allow, and
`spliced` puts one delegated step in the place of each.

`outcome_divide` says that dividing is splicing. From the segments it also follows that the nodes
of a plan stay what they are, in their order, whatever is taken over (`flatMap_nodes_of_divide`).
-/

namespace TensorGraph

/-! ## Maximal runs by their places -/

section Runs

variable {α : Type} (p : α → Bool)

def holdsAt (l : List α) (k : Nat) : Bool := l[k]?.any p

/-- Whether a run of elements that satisfy the predicate starts at the place. Before the list comes
an element that satisfies it or not. -/
def startsAt (before : Bool) (l : List α) (k : Nat) : Bool :=
  holdsAt p l k && !(if k = 0 then before else holdsAt p l (k - 1))

/-- The maximal runs that start in the list, each from its first place to the one after its last. -/
def runsAfter (before : Bool) (l : List α) : List (Nat × Nat) :=
  ((List.range l.length).filter (startsAt p before l)).map fun s =>
    (s, s + ((l.drop s).takeWhile p).length)

def maximalRuns (l : List α) : List (Nat × Nat) := runsAfter p false l

def shifted (n : Nat) (run : Nat × Nat) : Nat × Nat := (run.1 + n, run.2 + n)

theorem startsAt_succ (before : Bool) (a : α) (l : List α) (k : Nat) :
    startsAt p before (a :: l) (k + 1) = startsAt p (p a) l k := by
  cases k <;> simp [startsAt, holdsAt]

/-- A run starts at the head of the list, or further down. -/
theorem runsAfter_cons (before : Bool) (a : α) (l : List α) :
    runsAfter p before (a :: l) =
      (if p a && !before then [(0, (l.takeWhile p).length + 1)] else []) ++
        (runsAfter p (p a) l).map (shifted 1) := by
  -- runs that start further on are those of the tail, one place later
  have rest : (((List.range l.length).map Nat.succ).filter (startsAt p before (a :: l))).map
      (fun s => (s, s + (((a :: l).drop s).takeWhile p).length)) =
      (runsAfter p (p a) l).map (shifted 1) := by
    simp only [runsAfter, List.filter_map, List.map_map, Function.comp_def, startsAt_succ,
      Nat.succ_eq_add_one, List.drop_succ_cons, shifted, Nat.add_right_comm]
  -- and the first place starts a run unless the element before it belongs to one
  have first : startsAt p before (a :: l) 0 = (p a && !before) := by simp [startsAt, holdsAt]
  rw [runsAfter, List.length_cons, List.range_succ_eq_map, List.filter_cons, first]
  split
  next starts =>
    have here : p a = true := by simp_all
    rw [List.map_cons, rest, List.drop_zero, List.takeWhile_cons, if_pos here, Nat.zero_add,
      List.length_cons]
    rfl
  next => rw [rest, List.nil_append]

/-- Without a run that starts at the first place it does not matter what comes before. -/
theorem runsAfter_eq_of_not {l : List α} (h : holdsAt p l 0 = false) (before : Bool) :
    runsAfter p before l = runsAfter p false l := by
  cases l with
  | nil => rfl
  | cons a l =>
      have notHere : p a = false := by simpa [holdsAt] using h
      rw [runsAfter_cons, runsAfter_cons, notHere]
      rfl

theorem holdsAt_takeWhile (l : List α) :
    (∀ k < (l.takeWhile p).length, holdsAt p l k = true) ∧
      holdsAt p l (l.takeWhile p).length = false := by
  induction l with
  | nil => exact ⟨fun k inside => absurd inside (Nat.not_lt_zero k), rfl⟩
  | cons a l ih =>
      cases here : p a with
      | false => simp [holdsAt, here]
      | true =>
          rw [List.takeWhile_cons, if_pos here, List.length_cons]
          refine ⟨fun k inside => ?_, by simpa [holdsAt] using ih.2⟩
          cases k with
          | zero => simpa [holdsAt] using here
          | succ k => simpa [holdsAt] using ih.1 k (Nat.lt_of_succ_lt_succ inside)

/-- The listed runs are the maximal ones: there is an element that satisfies the predicate at each
place of the run, and none before or after it. -/
theorem mem_maximalRuns {l : List α} {s e : Nat} :
    (s, e) ∈ maximalRuns p l ↔ s < e ∧ (∀ k, s ≤ k → k < e → holdsAt p l k = true) ∧
      (s = 0 ∨ holdsAt p l (s - 1) = false) ∧ holdsAt p l e = false := by
  have onward (k : Nat) : holdsAt p (l.drop s) k = holdsAt p l (s + k) := by simp [holdsAt]
  obtain ⟨holds, stops⟩ := holdsAt_takeWhile p (l.drop s)
  rw [onward] at stops
  have listed : (s, e) ∈ maximalRuns p l ↔ s < l.length ∧ startsAt p false l s = true ∧
      s + ((l.drop s).takeWhile p).length = e := by
    simp [maximalRuns, runsAfter, and_assoc]
  rw [listed]
  constructor
  · rintro ⟨-, starts, rfl⟩
    simp only [startsAt, Bool.and_eq_true, Bool.not_eq_true'] at starts
    obtain ⟨here, before⟩ := starts
    refine ⟨?_, fun k from_s to_e => ?_, ?_, stops⟩
    · -- an empty run would stop where it starts
      by_contra empty
      rw [show ((l.drop s).takeWhile p).length = 0 by omega, Nat.add_zero, here] at stops
      cases stops
    · obtain ⟨j, rfl⟩ := Nat.exists_eq_add_of_le from_s
      rw [← onward]
      exact holds j (by omega)
    · split at before
      · left; assumption
      · right; exact before
  · rintro ⟨nonempty, all, before, after⟩
    have here := all s (Nat.le_refl s) nonempty
    refine ⟨?_, ?_, ?_⟩
    · by_contra outside
      simp [holdsAt, List.getElem?_eq_none (Nat.le_of_not_lt outside)] at here
    · rw [startsAt, here]
      split
      · rfl
      · simp [before.resolve_left ‹_›]
    · -- the run that `takeWhile` finds can neither stop before `e` nor go on behind it
      rcases Nat.lt_trichotomy (s + ((l.drop s).takeWhile p).length) e with short | same | long
      · rw [all _ (Nat.le_add_right _ _) short] at stops
        cases stops
      · exact same
      · obtain ⟨j, rfl⟩ := Nat.exists_eq_add_of_le (Nat.le_of_lt nonempty)
        rw [← onward, holds j (by omega)] at after
        cases after

end Runs

/-! ## Splicing -/

def nodesOfRun (plan : List Step) (run : Nat × Nat) : List Nat :=
  ((plan.take run.2).drop run.1).flatMap Step.nodes

/-- The steps of a plan from a place on, with a delegated step in the place of each run. There are
none if a run can not be taken over. -/
def spliced (takeOver : List Nat → Option Partition) (plan : List Step) :
    Nat → List (Nat × Nat) → Option (List Step)
  | place, [] => some (plan.drop place)
  | place, run :: runs => do
    let partition ← takeOver (nodesOfRun plan run)
    let rest ← spliced takeOver plan run.2 runs
    return (plan.take run.1).drop place ++ .delegated partition :: rest

def Step.isSupported (supported : Nat → Bool) : Step → Bool
  | builtin node => supported node
  | delegated _ => false

namespace Delegate

variable (delegate : Delegate) (g : Graph)

/-- Whether a step is a builtin one with a node that the delegate supports. -/
def takes : Step → Bool := Step.isSupported fun node => (delegate.examine g node).1

/-- The first elements of a list, as many as allowed. -/
def limited {α : Type} (allowed : Option Nat) (l : List α) : List α :=
  match allowed with
  | none => l
  | some count => l.take count

/-- The runs that the delegate takes over: the first of the maximal ones that are long enough, as
many as allowed. -/
def chosenRuns (plan : List Step) : List (Nat × Nat) :=
  limited delegate.limits.maxPartitions <| (maximalRuns (delegate.takes g) plan).filter fun run =>
    max delegate.limits.minNodes 1 ≤ run.2 - run.1

/-- The partition of some nodes, if the delegate can capture them. -/
def partition? (nodes : List Nat) : Option Partition :=
  ((delegate.capture g nodes).outcome ()).1.map fun region =>
    ⟨delegate.name, nodes, g.boundaryInputs nodes, g.boundaryOutputs nodes, region⟩

def handedOver (plan : List Step) : Option (List Step) :=
  spliced (delegate.partition? g) plan 0 (delegate.chosenRuns g plan)

end Delegate

/-! ## From segments to places -/

namespace Segment

def steps : Segment → List Step
  | kept step => [step]
  | run nodes => nodes.map .builtin

/-- The places of the runs among segments that begin at a place. -/
def places : Nat → List Segment → List (Nat × Nat)
  | _, [] => []
  | place, kept _ :: rest => places (place + 1) rest
  | place, run nodes :: rest => (place, place + nodes.length) :: places (place + nodes.length) rest

theorem le_of_mem_places {place : Nat} {segments : List Segment} {run : Nat × Nat}
    (h : run ∈ places place segments) : place ≤ run.1 := by
  induction segments generalizing place with
  | nil => cases h
  | cons segment rest ih =>
      cases segment with
      | kept step => exact Nat.le_of_succ_le (ih h)
      | run nodes =>
          rcases List.mem_cons.mp h with rfl | h
          · exact Nat.le_refl _
          · exact Nat.le_trans (Nat.le_add_right _ _) (ih h)

/-- Segments further down the plan have their runs further down. -/
theorem places_shift (n place : Nat) (segments : List Segment) :
    places (place + n) segments = (places place segments).map (shifted n) := by
  induction segments generalizing place with
  | nil => rfl
  | cons segment rest ih =>
      cases segment with
      | kept step => simp only [places, Nat.add_right_comm place n 1, ih]
      | run nodes =>
          simp only [places, Nat.add_right_comm place n, ih, List.map_cons, shifted]

/-- What the segments of a plan say of its runs: all of them, and the one that the plan begins
with. -/
structure Describes (p : Step → Bool) (plan : List Step) (segments : List Segment) : Prop where
  all : places 0 segments = maximalRuns p plan
  begins : ∀ nodes rest, segments = run nodes :: rest → holdsAt p plan 0 = true ∧
    nodes.length = (plan.takeWhile p).length ∧ places nodes.length rest = runsAfter p true plan
  otherwise : (∀ nodes rest, segments ≠ run nodes :: rest) → holdsAt p plan 0 = false

/-- A step that stays starts no run. -/
theorem Describes.kept {p : Step → Bool} {plan : List Step} {segments : List Segment}
    (h : Describes p plan segments) {step : Step} (stays : p step = false) :
    Describes p (step :: plan) (kept step :: segments) where
  all := by
    rw [maximalRuns, runsAfter_cons, stays, places, places_shift, h.all]
    rfl
  begins nodes rest same := by cases same
  otherwise _ := by simpa [holdsAt] using stays

/-- A supported node starts a run, or lengthens the one that the plan begins with. -/
theorem Describes.consNode {p : Step → Bool} {plan : List Step} {segments : List Segment}
    (h : Describes p plan segments) {node : Nat} (goes : p (.builtin node) = true) :
    Describes p (.builtin node :: plan) (consNode node segments) := by
  have begins : holdsAt p (.builtin node :: plan) 0 = true := by simpa [holdsAt] using goes
  unfold Segment.consNode
  split
  next nodes rest =>
    -- the run that the plan begins with gets longer
    obtain ⟨-, length, after⟩ := h.begins nodes rest rfl
    refine ⟨?_, fun nodes' rest' same => ?_, fun none => absurd rfl (none _ _)⟩
    · rw [maximalRuns, runsAfter_cons, goes, places, List.length_cons, Nat.zero_add, places_shift,
        after, length]
      rfl
    · cases same
      refine ⟨begins, by simp [goes, length], ?_⟩
      rw [runsAfter_cons, goes, List.length_cons, places_shift, after]
      rfl
  next none =>
    -- a new run begins before the plan
    have notHere := h.otherwise none
    have short : (plan.takeWhile p).length = 0 := by
      cases plan with
      | nil => rfl
      | cons step plan =>
          have stays : p step = false := by simpa [holdsAt] using notHere
          simp [stays]
    have after := runsAfter_eq_of_not p notHere true
    refine ⟨?_, fun nodes' rest' same => ?_, fun none => absurd rfl (none _ _)⟩
    · rw [maximalRuns, runsAfter_cons, goes, places, List.length_singleton, places_shift 1 0,
        h.all, short, after]
      rfl
    · cases same
      refine ⟨begins, by simp [goes, short], ?_⟩
      rw [runsAfter_cons, goes, after, List.length_singleton, places_shift 1 0, h.all]
      rfl

/-- The segments that a plan is cut into hold its maximal runs. -/
theorem describes_ofPlan (supported : Nat → Bool) (plan : List Step) :
    Describes (Step.isSupported supported) plan (ofPlan supported plan) := by
  induction plan with
  | nil => exact ⟨rfl, fun _ _ same => (nomatch same), fun _ => rfl⟩
  | cons step plan ih =>
      cases step with
      | delegated partition => exact ih.kept rfl
      | builtin node =>
          unfold ofPlan
          split
          next goes => exact ih.consNode goes
          next stays => exact ih.kept (Bool.eq_false_iff.mpr stays)

theorem places_kept (place : Nat) (nodes : List Nat) (rest : List Segment) :
    places place (nodes.map (fun node => kept (.builtin node)) ++ rest) =
      places (place + nodes.length) rest := by
  induction nodes generalizing place with
  | nil => rfl
  | cons node nodes ih =>
      rw [List.map_cons, List.cons_append, places, ih, List.length_cons, Nat.add_assoc,
        Nat.add_comm 1]

/-- Which of the runs are selected. -/
theorem places_select (minNodes : Nat) (allowed : Option Nat) (place : Nat)
    (segments : List Segment) :
    places place (select minNodes allowed segments) = Delegate.limited allowed
      ((places place segments).filter fun run => minNodes ≤ run.2 - run.1) := by
  induction segments generalizing allowed place with
  | nil => cases allowed <;> simp [select, places, Delegate.limited]
  | cons segment rest ih =>
      cases segment with
      | kept step => exact ih allowed (place + 1)
      | run nodes =>
          unfold select
          split
          next selected =>
            obtain ⟨long, more⟩ := selected
            rw [places, ih, places, List.filter_cons, if_pos (by simpa using long)]
            match allowed, more with
            | none, _ => rfl
            | some 0, more => exact absurd rfl more
            | some (count + 1), _ => rfl
          next left =>
            -- the run is too short, or no more are allowed
            rw [places_kept, ih, places, List.filter_cons]
            split
            next long =>
              have none : allowed = some 0 := by
                by_contra more
                exact left ⟨by simpa using long, more⟩
              rw [none]
              rfl
            next => rfl

/-! Segments cover a plan, and selecting among them does not change what they cover. -/

theorem steps_consNode (node : Nat) (segments : List Segment) :
    (consNode node segments).flatMap steps = .builtin node :: segments.flatMap steps := by
  unfold consNode
  split <;> simp [steps]

/-- Cutting a plan loses no step. -/
theorem steps_ofPlan (supported : Nat → Bool) (plan : List Step) :
    (ofPlan supported plan).flatMap steps = plan := by
  induction plan with
  | nil => rfl
  | cons step plan ih =>
      cases step with
      | delegated partition => simp [ofPlan, steps, ih]
      | builtin node =>
          unfold ofPlan
          split
          · rw [steps_consNode, ih]
          · simp [steps, ih]

theorem steps_kept (nodes : List Nat) :
    (nodes.map fun node => kept (.builtin node)).flatMap steps = nodes.map .builtin := by
  induction nodes with
  | nil => rfl
  | cons node nodes ih => simp [steps, ← ih]

/-- Nor does giving runs back. -/
theorem steps_select (minNodes : Nat) (allowed : Option Nat) (segments : List Segment) :
    (select minNodes allowed segments).flatMap steps = segments.flatMap steps := by
  induction segments generalizing allowed with
  | nil => simp [select]
  | cons segment rest ih =>
      cases segment with
      | kept step => simp [select, ih]
      | run nodes =>
          unfold select
          split
          · simp [ih]
          · rw [List.flatMap_append, steps_kept, ih, List.flatMap_cons]
            rfl

/-! Only supported nodes get into runs. -/

/-- Selecting makes no new runs. -/
theorem run_mem_of_select {minNodes : Nat} {allowed : Option Nat} {segments : List Segment}
    {nodes : List Nat} (h : run nodes ∈ select minNodes allowed segments) :
    run nodes ∈ segments := by
  induction segments generalizing allowed with
  | nil => simp [select] at h
  | cons segment rest ih =>
      cases segment with
      | kept step =>
          rcases List.mem_cons.mp h with same | h
          · cases same
          · exact List.mem_cons_of_mem _ (ih h)
      | run others =>
          unfold select at h
          split at h
          · rcases List.mem_cons.mp h with same | h
            · exact same ▸ List.mem_cons_self
            · exact List.mem_cons_of_mem _ (ih h)
          · rcases List.mem_append.mp h with h | h
            · simp at h
            · exact List.mem_cons_of_mem _ (ih h)

/-- All nodes of a run are supported. -/
theorem supported_of_run_mem {supported : Nat → Bool} {plan : List Step} {nodes : List Nat}
    (h : run nodes ∈ ofPlan supported plan) : ∀ node ∈ nodes, supported node = true := by
  -- a supported node is put in front of the run behind it, or is a run of its own
  induction plan generalizing nodes with
  | nil => cases h
  | cons step plan ih =>
      cases step with
      | delegated partition =>
          rcases List.mem_cons.mp h with same | h
          · cases same
          · exact ih h
      | builtin node =>
          unfold ofPlan at h
          split at h
          next goes =>
            unfold consNode at h
            split at h
            next others rest cut =>
              rcases List.mem_cons.mp h with same | h
              · cases same
                intro node' inside
                rcases List.mem_cons.mp inside with rfl | inside
                · exact goes
                · exact ih (by rw [cut]; exact List.mem_cons_self) node' inside
              · exact ih (by rw [cut]; exact List.mem_cons_of_mem _ h)
            next =>
              rcases List.mem_cons.mp h with same | h
              · cases same
                intro node' inside
                rwa [List.mem_singleton.mp inside]
              · exact ih h
          next =>
            rcases List.mem_cons.mp h with same | h
            · cases same
            · exact ih h

end Segment

/-! ## Dividing is splicing -/

namespace Delegate

variable {delegate : Delegate} {g : Graph}

theorem division_steps (plan : List Step) :
    (delegate.division g plan).flatMap Segment.steps = plan := by
  rw [division, Segment.steps_select, Segment.steps_ofPlan]

theorem outcome_takeOver (nodes : List Nat) :
    (delegate.takeOver g nodes).outcome () = (delegate.partition? g nodes, ()) := by
  unfold takeOver partition?
  simp only [Action.outcome_bind, Action.outcome_during, Action.outcome_record,
    Action.outcome_pure, Action.proceed_some]
  rcases (delegate.capture g nodes).outcome () with ⟨_ | region, ⟨⟩⟩ <;> rfl

/-- Before the next run, steps are taken over as they are. -/
theorem spliced_kept {takeOver : List Nat → Option Partition} {plan rest : List Step} {place : Nat}
    {step : Step} (here : plan.drop place = step :: rest) {runs : List (Nat × Nat)}
    (later : ∀ run ∈ runs, place < run.1) :
    spliced takeOver plan place runs =
      (spliced takeOver plan (place + 1) runs).map (step :: ·) := by
  have next : plan.drop (place + 1) = rest := by
    rw [← List.tail_drop, here, List.tail_cons]
  cases runs with
  | nil => rw [spliced, spliced, here, next, Option.map_some]
  | cons run runs =>
      have before : (plan.take run.1).drop place =
          step :: (plan.take run.1).drop (place + 1) := by
        have start := later run List.mem_cons_self
        have length : run.1 - place = run.1 - (place + 1) + 1 := by omega
        rw [List.drop_take, List.drop_take, here, next, length, List.take_succ_cons]
      simp only [spliced, before]
      cases takeOver (nodesOfRun plan run) with
      | none => rfl
      | some partition => cases spliced takeOver plan run.2 runs <;> rfl

/-- Settling segments that are cut from the plan from a place on is splicing the plan there. -/
theorem outcome_settle {plan : List Step} {place : Nat} {segments : List Segment}
    (cut : segments.flatMap Segment.steps = plan.drop place) :
    ((segments.mapM (delegate.settle g)).outcome ()).1 =
      spliced (delegate.partition? g) plan place (Segment.places place segments) := by
  induction segments generalizing place with
  | nil => simpa [spliced, Segment.places] using cut
  | cons segment rest ih =>
      cases segment with
      | kept step =>
          have here : plan.drop place = step :: rest.flatMap Segment.steps := by
            rw [← cut]
            rfl
          -- the runs that are left start further on, so the step is kept by splicing as well
          have next : plan.drop (place + 1) = rest.flatMap Segment.steps := by
            rw [← List.tail_drop, here, List.tail_cons]
          have later : ∀ run ∈ Segment.places (place + 1) rest, place < run.1 :=
            fun run h => Segment.le_of_mem_places h
          rw [Segment.places, spliced_kept here later, ← ih next.symm]
          simp only [List.mapM_cons, settle, Action.outcome_bind, Action.outcome_pure,
            Action.proceed_some]
          rcases (rest.mapM (delegate.settle g)).outcome () with ⟨_ | steps, ⟨⟩⟩ <;> rfl
      | run nodes =>
          have here : plan.drop place = nodes.map .builtin ++ rest.flatMap Segment.steps := by
            rw [← cut]
            rfl
          have next : plan.drop (place + nodes.length) = rest.flatMap Segment.steps := by
            rw [← List.drop_drop, here, List.drop_left' (List.length_map _)]
          -- the places of the run give its nodes back
          have cutOut : nodesOfRun plan (place, place + nodes.length) = nodes := by
            rw [nodesOfRun, List.drop_take, here, Nat.add_sub_cancel_left,
              List.take_left' (List.length_map _)]
            simp [List.flatMap_map, Step.nodes]
          have none : (plan.take place).drop place = [] := by simp
          simp only [List.mapM_cons, settle, Action.outcome_bind, Action.outcome_pure,
            Segment.places, spliced, cutOut, none, ← ih next.symm, map_eq_pure_bind,
            outcome_takeOver]
          cases delegate.partition? g nodes with
          | none => rfl
          | some partition =>
              simp only [Action.proceed_some]
              rcases (rest.mapM (delegate.settle g)).outcome () with ⟨_ | steps, ⟨⟩⟩ <;> rfl

/-- What becomes of a plan. -/
theorem outcome_divide (plan : List Step) :
    (delegate.divide g plan).outcome () = (delegate.handedOver g plan, ()) := by
  have cut : (delegate.division g plan).flatMap Segment.steps = plan.drop 0 := by
    rw [division_steps, List.drop_zero]
  have places : Segment.places 0 (delegate.division g plan) = delegate.chosenRuns g plan := by
    rw [division, Segment.places_select, (Segment.describes_ofPlan _ plan).all]
    rfl
  have settled := @outcome_settle delegate g _ _ _ cut
  rw [places] at settled
  simp only [divide, List.forM_eq_forM, Action.outcome_bind, Action.outcome_forM_record,
    Action.outcome_record, Action.outcome_pure, Action.proceed_some, handedOver, ← settled]
  rcases ((delegate.division g plan).mapM (delegate.settle g)).outcome () with
    ⟨_ | steps, ⟨⟩⟩ <;> rfl

/-! ## What a divided plan is made of -/

/-- Each segment becomes one step. -/
theorem forall₂_of_divide {plan steps : List Step}
    (h : (delegate.divide g plan).outcome () = (some steps, ())) :
    List.Forall₂ (fun segment step => (delegate.settle g segment).outcome () = (some step, ()))
      (delegate.division g plan) steps := by
  rw [← Action.outcome_mapM_eq_some]
  simp only [divide, List.forM_eq_forM, Action.outcome_bind, Action.outcome_forM_record,
    Action.outcome_record, Action.outcome_pure, Action.proceed_some] at h
  obtain ⟨found, _, settled, same⟩ := Action.proceed_eq_some h
  cases same
  exact settled

/-- A kept step stays, and a run becomes a step of the delegate. -/
theorem settle_eq_some {segment : Segment} {step : Step}
    (h : (delegate.settle g segment).outcome () = (some step, ())) :
    match segment with
    | .kept kept => step = kept
    | .run nodes => ∃ partition, delegate.partition? g nodes = some partition ∧
        step = .delegated partition := by
  cases segment with
  | kept kept =>
      cases h
      rfl
  | run nodes =>
      simp only [settle, map_eq_pure_bind, Action.outcome_bind, outcome_takeOver,
        Action.outcome_pure] at h
      obtain ⟨partition, _, found, same⟩ := Action.proceed_eq_some h
      cases same
      exact ⟨partition, (Prod.mk.inj found).1, rfl⟩

/-- A new step runs the nodes of the steps that it stands for. -/
theorem nodes_of_settle {segment : Segment} {step : Step}
    (h : (delegate.settle g segment).outcome () = (some step, ())) :
    step.nodes = segment.steps.flatMap Step.nodes := by
  have settled := settle_eq_some h
  cases segment with
  | kept kept => simp [settled, Segment.steps]
  | run nodes =>
      obtain ⟨partition, found, rfl⟩ := settled
      obtain ⟨region, -, rfl⟩ := Option.map_eq_some_iff.mp found
      simp [Step.nodes, Segment.steps, List.flatMap_map]

/-- The nodes of a plan stay what they are, in their order. -/
theorem flatMap_nodes_of_divide {plan steps : List Step}
    (h : (delegate.divide g plan).outcome () = (some steps, ())) :
    steps.flatMap Step.nodes = plan.flatMap Step.nodes := by
  have settled : steps.flatMap Step.nodes =
      (delegate.division g plan).flatMap fun segment => segment.steps.flatMap Step.nodes := by
    have pairs := forall₂_of_divide h
    clear h
    generalize delegate.division g plan = segments at pairs ⊢
    induction pairs with
    | nil => rfl
    | cons settled _ ih => rw [List.flatMap_cons, List.flatMap_cons, nodes_of_settle settled, ih]
  rw [settled, ← List.flatMap_assoc, division_steps]

/-- A delegated step was in the plan before, or it is new and runs supported nodes. -/
theorem delegated_of_divide {plan steps : List Step} {partition : Partition}
    (h : (delegate.divide g plan).outcome () = (some steps, ()))
    (inside : .delegated partition ∈ steps) :
    .delegated partition ∈ plan ∨ (delegate.partition? g partition.nodes = some partition ∧
      ∀ node ∈ partition.nodes, (delegate.examine g node).1 = true) := by
  obtain ⟨segment, cut, settled⟩ := exists_left_of_forall₂ (forall₂_of_divide h) inside
  have settled := settle_eq_some settled
  cases segment with
  | kept kept =>
      left
      rw [settled, ← @division_steps delegate g plan]
      exact List.mem_flatMap.mpr ⟨_, cut, List.mem_singleton_self kept⟩
  | run nodes =>
      right
      obtain ⟨partition', found, same⟩ := settled
      cases same
      have named : partition.nodes = nodes := by
        obtain ⟨region, -, rfl⟩ := Option.map_eq_some_iff.mp found
        rfl
      rw [named]
      exact ⟨found, Segment.supported_of_run_mem (Segment.run_mem_of_select cut)⟩

end Delegate

end TensorGraph
