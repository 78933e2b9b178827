import Abrade.Library.Transition
import Mathlib.Algebra.BigOperators.Group.Multiset.Basic
import Mathlib.Data.Multiset.Bind
import Mathlib.Tactic.Abel

/-!
# Pools of processes

Any number of processes that share a world.  A step moves one of them, which
goes on, goes on and spawns another one, or ends; the order is arbitrary.

Three rules lift a fact about single moves to whole runs: `accumulated`, when
the world sums up what events bring, `balanced`, when the events of every move
balance, and `conserved`, when the processes carry the difference.
-/

namespace Pool

open Transition (Run)

universe u v w x

variable {ω : Type u} {κ : Type v} {ε : Type w}

/-- What becomes of a process that moved. -/
inductive Effect (κ : Type v) where
  | goto (next : κ)
  | spawn (child next : κ)
  | finish

namespace Effect

def processes : Effect κ → Multiset κ
  | goto next => {next}
  | spawn child next => {child, next}
  | finish => 0

@[simp]
theorem processes_goto (next : κ) : (goto next).processes = {next} :=
  rfl

@[simp]
theorem processes_spawn (child next : κ) : (spawn child next).processes = {child, next} :=
  rfl

@[simp]
theorem processes_finish : (finish : Effect κ).processes = 0 :=
  rfl

end Effect

structure State (ω : Type u) (κ : Type v) where
  world : ω
  processes : Multiset κ

/-- One process moves. -/
inductive Step (move : ω → κ → List ε → ω → Effect κ → Prop) :
    State ω κ → List ε → State ω κ → Prop where
  | move {world world' : ω} {process : κ} {rest : Multiset κ} {events : List ε}
      {effect : Effect κ} (moves : move world process events world' effect) :
      Step move { world, processes := process ::ₘ rest } events
        { world := world', processes := effect.processes + rest }

/-- The sum of a weight over processes. -/
def weigh {M : Type x} [AddCommMonoid M] (weight : κ → M) (processes : Multiset κ) : M :=
  (processes.map weight).sum

/-- The sum of a weight over events. -/
def total {M : Type x} [AddCommMonoid M] (weight : ε → M) (events : List ε) : M :=
  (events.map weight).sum

section Sums

variable {M : Type x} [AddCommMonoid M]

@[simp]
theorem weigh_zero (weight : κ → M) : weigh weight 0 = 0 := by
  simp [weigh]

@[simp]
theorem weigh_cons (weight : κ → M) (process : κ) (processes : Multiset κ) :
    weigh weight (process ::ₘ processes) = weight process + weigh weight processes := by
  simp [weigh]

@[simp]
theorem weigh_singleton (weight : κ → M) (process : κ) :
    weigh weight {process} = weight process := by
  simp [weigh]

@[simp]
theorem weigh_add (weight : κ → M) (processes others : Multiset κ) :
    weigh weight (processes + others) = weigh weight processes + weigh weight others := by
  simp [weigh]

@[simp]
theorem total_nil (weight : ε → M) : total weight [] = 0 :=
  rfl

@[simp]
theorem total_cons (weight : ε → M) (event : ε) (events : List ε) :
    total weight (event :: events) = weight event + total weight events := by
  simp [total]

@[simp]
theorem total_append (weight : ε → M) (events others : List ε) :
    total weight (events ++ others) = total weight events + total weight others := by
  simp [total]

theorem total_add (weight other : ε → M) (events : List ε) :
    total (fun event => weight event + other event) events =
      total weight events + total other events := by
  induction events with
  | nil => simp
  | cons event events ih =>
      simp only [total_cons, ih]
      abel

theorem total_eq_zero {weight : ε → M} {events : List ε}
    (nothing : ∀ event ∈ events, weight event = 0) : total weight events = 0 := by
  apply List.sum_eq_zero
  intro amount amountMem
  rcases List.mem_map.mp amountMem with ⟨event, eventMem, rfl⟩
  exact nothing event eventMem

theorem total_congr {weight other : ε → M} {events : List ε}
    (same : ∀ event ∈ events, weight event = other event) :
    total weight events = total other events := by
  unfold total
  rw [List.map_congr_left same]

theorem map_total {N : Type x} [AddCommMonoid N] (hom : M →+ N) (weight : ε → M)
    (events : List ε) :
    hom (total weight events) = total (fun event => hom (weight event)) events := by
  simp [total, map_list_sum, Function.comp_def]

theorem bind_total {α : Type x} {β : Type x} (f : α → Multiset β) (weight : ε → Multiset α)
    (events : List ε) :
    (total weight events).bind f = total (fun event => (weight event).bind f) events := by
  induction events with
  | nil => rfl
  | cons event events ih => rw [total_cons, total_cons, Multiset.add_bind, ih]

end Sums

section Rules

variable {M : Type x} [AddCommMonoid M] {move : ω → κ → List ε → ω → Effect κ → Prop}
  {start finish : State ω κ} {trace : List ε}

theorem step_goto {world world' : ω} {process next : κ} {events : List ε}
    (moves : move world process events world' (.goto next)) :
    Step move { world, processes := {process} } events { world := world', processes := {next} } :=
  @Step.move _ _ _ _ _ _ _ 0 _ _ moves

theorem step_finish {world world' : ω} {process : κ} {events : List ε}
    (moves : move world process events world' .finish) :
    Step move { world, processes := {process} } events { world := world', processes := 0 } :=
  @Step.move _ _ _ _ _ _ _ 0 _ _ moves

theorem step_goto_beside {world world' : ω} {process other next : κ} {events : List ε}
    (moves : move world process events world' (.goto next)) :
    Step move { world, processes := {process, other} } events
      { world := world', processes := {next, other} } :=
  @Step.move _ _ _ _ _ _ _ {other} _ _ moves

theorem step_finish_beside {world world' : ω} {process other : κ} {events : List ε}
    (moves : move world process events world' .finish) :
    Step move { world, processes := {process, other} } events
      { world := world', processes := {other} } :=
  @Step.move _ _ _ _ _ _ _ {other} _ _ moves

theorem step_spawn {world world' : ω} {process child next : κ} {events : List ε}
    (moves : move world process events world' (.spawn child next)) :
    Step move { world, processes := {process} } events
      { world := world', processes := {child, next} } :=
  @Step.move _ _ _ _ _ _ _ 0 _ _ moves

/-- The process that spawned another one comes first. -/
theorem step_spawn_behind {world world' : ω} {process child next : κ} {events : List ε}
    (moves : move world process events world' (.spawn child next)) :
    Step move { world, processes := {process} } events
      { world := world', processes := {next, child} } := by
  rw [Multiset.pair_comm next child]
  exact step_spawn moves

theorem restrict {Allowed : ε → Prop} (run : Run (Step move) start trace finish)
    (allowed : ∀ event ∈ trace, Allowed event) :
    Run (Step fun world process events world' effect =>
      move world process events world' effect ∧ ∀ event ∈ events, Allowed event)
      start trace finish := by
  refine (run.restrict allowed).mono ?_
  rintro state events next ⟨step, allowedEvents⟩
  cases step with
  | move moves => exact .move ⟨moves, allowedEvents⟩

/-- What every move keeps of its own process is kept of all processes. -/
theorem forall_process_of_step {Good : κ → Prop}
    (kept : ∀ {world process events world' effect}, move world process events world' effect →
      Good process → ∀ next ∈ effect.processes, Good next)
    {state next : State ω κ} {events : List ε} (step : Step move state events next)
    (good : ∀ process ∈ state.processes, Good process) :
    ∀ process ∈ next.processes, Good process := by
  cases step with
  | move moves =>
      rw [Multiset.forall_mem_cons] at good
      intro process processMem
      rcases Multiset.mem_add.mp processMem with ofEffect | ofRest
      · exact kept moves good.1 process ofEffect
      · exact good.2 process ofRest

theorem forall_process {Good : κ → Prop}
    (kept : ∀ {world process events world' effect}, move world process events world' effect →
      Good process → ∀ next ∈ effect.processes, Good next)
    {start finish : State ω κ} {trace : List ε}
    (initially : ∀ process ∈ start.processes, Good process)
    (run : Run (Step move) start trace finish) : ∀ process ∈ finish.processes, Good process :=
  @Run.invariant _ _ _ _ _ _ (fun _ state => ∀ process ∈ state.processes, Good process) initially
    (fun good step => forall_process_of_step kept step good) run

/-- What moves keep of their own process holds of every process that moves. -/
theorem guard {Good : κ → Prop}
    (kept : ∀ {world process events world' effect}, move world process events world' effect →
      Good process → ∀ next ∈ effect.processes, Good next)
    (initially : ∀ process ∈ start.processes, Good process)
    (run : Run (Step move) start trace finish) :
    Run (Step fun world process events world' effect =>
      move world process events world' effect ∧ Good process) start trace finish := by
  have guarded := @Run.strengthen _ _ _ _ _ _
    (fun state => ∀ process ∈ state.processes, Good process) initially ?_ run
  · apply guarded.1.mono
    rintro state events next ⟨good, step⟩
    cases step with
    | move moves => exact .move ⟨moves, good _ (Multiset.mem_cons_self _ _)⟩
  · exact fun good step => forall_process_of_step kept step good

theorem counted_of_step {measure : ω → M} {weight : κ → M}
    (law : ∀ {world process events world' effect}, move world process events world' effect →
      ∀ others, measure world = weight process + others →
        measure world' = weigh weight effect.processes + others)
    {state next : State ω κ} {events : List ε} (step : Step move state events next)
    (counted : measure state.world = weigh weight state.processes) :
    measure next.world = weigh weight next.processes := by
  cases step with
  | move moves =>
      rw [weigh_cons] at counted
      rw [weigh_add]
      exact law moves _ counted

/-- A measure of the world that grows by what events bring has grown by their sum. -/
theorem accumulated {measure : ω → M} {inflow : ε → M}
    (law : ∀ {world process events world' effect}, move world process events world' effect →
      measure world' = measure world + total inflow events)
    (run : Run (Step move) start trace finish) :
    measure finish.world = measure start.world + total inflow trace := by
  induction run with
  | refl => simp
  | step _ moves ih =>
      cases moves with
      | move moves =>
          rw [total_append, law moves]
          simp only at ih
          rw [ih, add_assoc]

/-- Events that every move balances are balanced in whole runs. -/
theorem balanced {inflow outflow : ε → M}
    (law : ∀ {world process events world' effect}, move world process events world' effect →
      total inflow events = total outflow events)
    (run : Run (Step move) start trace finish) : total inflow trace = total outflow trace := by
  induction run with
  | refl => rfl
  | step _ moves ih =>
      cases moves with
      | move moves => rw [total_append, total_append, ih, law moves]

/-- What enters with events leaves with events, or processes carry it. -/
theorem conserved {weight : κ → M} {inflow outflow : ε → M}
    (law : ∀ {world process events world' effect}, move world process events world' effect →
      weight process + total inflow events =
        weigh weight effect.processes + total outflow events)
    (run : Run (Step move) start trace finish) :
    weigh weight start.processes + total inflow trace =
      weigh weight finish.processes + total outflow trace := by
  induction run with
  | refl => simp
  | @step trace events state next _ moves ih =>
      cases moves with
      | @move world world' process rest _ effect moves =>
          simp only [weigh_cons, weigh_add, total_append] at ih ⊢
          calc weigh weight start.processes + (total inflow trace + total inflow events)
              = (weigh weight start.processes + total inflow trace) + total inflow events := by abel
            _ = (weight process + total inflow events) +
                  (weigh weight rest + total outflow trace) := by rw [ih]; abel
            _ = (weigh weight effect.processes + total outflow events) +
                  (weigh weight rest + total outflow trace) := by rw [law moves]
            _ = weigh weight effect.processes + weigh weight rest +
                  (total outflow trace + total outflow events) := by abel

/-- What moves append to a list of the world is there in the order of the events. -/
theorem appended {α : Type x} {list : ω → List α} {written : ε → List α}
    (law : ∀ {world process events world' effect}, move world process events world' effect →
      list world' = list world ++ events.flatMap written)
    (run : Run (Step move) start trace finish) :
    list finish.world = list start.world ++ trace.flatMap written := by
  induction run with
  | refl => simp
  | step _ moves ih =>
      cases moves with
      | move moves =>
          rw [List.flatMap_append, law moves, ← List.append_assoc]
          exact congrArg (· ++ _) ih

/-- What holds of the events of every move holds of the events of a run. -/
theorem forall_event {Fair : ε → Prop}
    (fair : ∀ {world process events world' effect}, move world process events world' effect →
      ∀ event ∈ events, Fair event)
    (run : Run (Step move) start trace finish) : ∀ event ∈ trace, Fair event := by
  induction run with
  | refl => simp
  | step _ moves ih =>
      cases moves with
      | move moves => exact List.forall_mem_append.mpr ⟨ih, fair moves⟩

end Rules

end Pool
