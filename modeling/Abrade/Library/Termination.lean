import Abrade.Library.Pool
import Mathlib.Algebra.Order.BigOperators.Group.Multiset
import Mathlib.Algebra.Order.Group.Nat

/-!
# Runs that end

Counted runs and measures that every step lowers.  A measure is a relation, so
that it may depend on what is only known to exist.  No run is longer than the
measure of its start, and when every state but the final ones has a step, every
run can be continued to a final state.
-/

namespace Transition

universe u v

variable {σ : Type u} {ε : Type v}

/-- A run of so many steps with the events they emitted, in order. -/
inductive Steps (step : σ → List ε → σ → Prop) (start : σ) : ℕ → List ε → σ → Prop where
  | refl : Steps step start 0 [] start
  | step {count : ℕ} {trace events : List ε} {state next : σ}
      (steps : Steps step start count trace state) (moves : step state events next) :
      Steps step start (count + 1) (trace ++ events) next

/-- Every step lowers the measure, and what it leads to is measured again. -/
def Lowers (step : σ → List ε → σ → Prop) (Measured : σ → ℕ → Prop) : Prop :=
  ∀ state events next amount, Measured state amount → step state events next →
    ∃ less, less < amount ∧ Measured next less

section Steps

variable {step : σ → List ε → σ → Prop} {start finish : σ} {count : ℕ} {trace : List ε}

theorem Steps.run (steps : Steps step start count trace finish) : Run step start trace finish := by
  induction steps with
  | refl => exact .refl
  | step _ moves ih => exact .step ih moves

theorem Run.append {middle : σ} {later : List ε} (run : Run step start trace middle)
    (rest : Run step middle later finish) : Run step start (trace ++ later) finish := by
  induction rest with
  | refl => rwa [List.append_nil]
  | step _ moves ih =>
      rw [← List.append_assoc]
      exact .step ih moves

theorem Run.cons {next : σ} {events later : List ε} (moves : step start events next)
    (rest : Run step next later finish) : Run step start (events ++ later) finish :=
  (Run.step Run.refl moves).append rest

/-- No run is longer than the measure of its start. -/
theorem Steps.bounded {Measured : σ → ℕ → Prop} (lowers : Lowers step Measured) {amount : ℕ}
    (measured : Measured start amount) (steps : Steps step start count trace finish) :
    ∃ left, count + left ≤ amount ∧ Measured finish left := by
  induction steps with
  | refl => exact ⟨amount, by omega, measured⟩
  | step _ moves ih =>
      rcases ih with ⟨left, bounded, measuredLeft⟩
      rcases lowers _ _ _ _ measuredLeft moves with ⟨less, lower, measuredLess⟩
      exact ⟨less, by omega, measuredLess⟩

end Steps

end Transition

namespace Pool

open Transition (Lowers Run)

universe u v w

variable {ω : Type u} {κ : Type v} {ε : Type w}

/-- What is left of the world's potential and in the processes, which are all good. -/
def Measured (Potential : ω → ℕ → Prop) (Good : κ → Prop) (weight : κ → ℕ)
    (state : State ω κ) (amount : ℕ) : Prop :=
  (∀ process ∈ state.processes, Good process) ∧
    ∃ potential, Potential state.world potential ∧
      amount = potential + weigh weight state.processes

section Rules

variable {move : ω → κ → List ε → ω → Effect κ → Prop}

/-- Moves that lower the potential and the weights together lower the measure of the pool. -/
theorem lowers_of_law {Potential : ω → ℕ → Prop} {Good : κ → Prop} {weight : κ → ℕ}
    (kept : ∀ {world process events world' effect}, move world process events world' effect →
      Good process → ∀ next ∈ effect.processes, Good next)
    (law : ∀ {world process events world' effect potential},
      move world process events world' effect → Good process → Potential world potential →
        ∃ potential', Potential world' potential' ∧
          potential' + weigh weight effect.processes < potential + weight process) :
    Lowers (Step move) (Measured Potential Good weight) := by
  rintro state events next amount ⟨good, potential, measured, rfl⟩ step
  have goodNext := forall_process_of_step kept step good
  cases step with
  | move moves =>
      rw [Multiset.forall_mem_cons] at good
      rcases law moves good.1 measured with ⟨potential', measured', lower⟩
      simp only [weigh_cons]
      refine ⟨_, ?_, goodNext, potential', measured', rfl⟩
      rw [weigh_add]
      omega

/-- While a process is left, the pool can move when each process can. -/
theorem exists_step {state : State ω κ} (nonempty : state.processes ≠ 0)
    (moves : ∀ process ∈ state.processes,
      ∃ events world' effect, move state.world process events world' effect) :
    ∃ events next, Step move state events next := by
  rcases state with ⟨world, processes⟩
  rcases Multiset.exists_mem_of_ne_zero nonempty with ⟨process, processMem⟩
  rcases Multiset.exists_cons_of_mem processMem with ⟨rest, rfl⟩
  rcases moves process processMem with ⟨events, world', effect, move⟩
  exact ⟨events, _, .move move⟩

theorem weigh_mono {weight other : κ → ℕ} (le : ∀ process, weight process ≤ other process)
    (processes : Multiset κ) : weigh weight processes ≤ weigh other processes :=
  Multiset.sum_map_le_sum_map weight other fun process _ => le process

theorem weigh_one (processes : Multiset κ) : weigh (fun _ => 1) processes = processes.card := by
  simp [weigh]

/-- What leaves with events was in the processes or has entered with events. -/
theorem budgeted {weight : κ → ℕ} {inflow outflow : ε → ℕ}
    (law : ∀ {world process events world' effect}, move world process events world' effect →
      weigh weight effect.processes + total outflow events ≤ weight process + total inflow events)
    {start finish : State ω κ} {trace : List ε} (run : Run (Step move) start trace finish) :
    weigh weight finish.processes + total outflow trace ≤
      weigh weight start.processes + total inflow trace := by
  induction run with
  | refl => simp
  | step _ moves ih =>
      cases moves with
      | move moves =>
          have lawNow := law moves
          simp only [weigh_cons, weigh_add, total_append] at ih ⊢
          omega

end Rules

end Pool
