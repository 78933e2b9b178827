import Mathlib.Data.List.Basic

/-!
# Labelled runs

Finite runs of a transition system whose steps emit lists of events, with the
rules that carry an invariant or a simulation from one step to a whole run.
-/

namespace Transition

universe u v w

variable {σ : Type u} {ε : Type v}

/-- A run of any number of steps with the events they emitted, in order. -/
inductive Run (step : σ → List ε → σ → Prop) (start : σ) : List ε → σ → Prop where
  | refl : Run step start [] start
  | step {trace events : List ε} {state next : σ} (run : Run step start trace state)
      (moves : step state events next) : Run step start (trace ++ events) next

namespace Run

variable {step : σ → List ε → σ → Prop} {start finish : σ} {trace : List ε}

/-- What holds initially and is kept by every step holds after every run. -/
theorem invariant {Good : List ε → σ → Prop} (initially : Good [] start)
    (kept : ∀ {trace state events next}, Good trace state → step state events next →
      Good (trace ++ events) next)
    (run : Run step start trace finish) : Good trace finish := by
  induction run with
  | refl => exact initially
  | step _ moves ih => exact kept ih moves

/-- Along a run that keeps an invariant, every step starts in a state that has it. -/
theorem strengthen {Good : σ → Prop} (initially : Good start)
    (kept : ∀ {state events next}, Good state → step state events next → Good next)
    (run : Run step start trace finish) :
    Run (fun state events next => Good state ∧ step state events next) start trace finish ∧
      Good finish := by
  induction run with
  | refl => exact ⟨.refl, initially⟩
  | step _ moves ih => exact ⟨.step ih.1 ⟨ih.2, moves⟩, kept ih.2 moves⟩

theorem restrict {Allowed : ε → Prop} (run : Run step start trace finish)
    (allowed : ∀ event ∈ trace, Allowed event) :
    Run (fun state events next => step state events next ∧ ∀ event ∈ events, Allowed event)
      start trace finish := by
  induction run with
  | refl => exact .refl
  | step _ moves ih =>
      refine .step (ih fun event eventMem => allowed event (by simp [eventMem])) ⟨moves, ?_⟩
      exact fun event eventMem => allowed event (by simp [eventMem])

theorem mono {other : σ → List ε → σ → Prop}
    (allows : ∀ {state events next}, step state events next → other state events next)
    (run : Run step start trace finish) : Run other start trace finish := by
  induction run with
  | refl => exact .refl
  | step _ moves ih => exact .step ih (allows moves)

/-- What holds of events when they are emitted, given the trace before, holds of every trace. -/
theorem justified {Good : List ε → σ → Prop} {Holds : List ε → ε → Prop}
    (initially : Good [] start)
    (kept : ∀ {trace state events next}, Good trace state → step state events next →
      Good (trace ++ events) next)
    (justifies : ∀ {trace state next before event after}, Good trace state →
      step state (before ++ event :: after) next → Holds (trace ++ before) event)
    (run : Run step start trace finish) {before after : List ε} {event : ε}
    (split : trace = before ++ event :: after) : Holds before event := by
  induction run generalizing after with
  | refl => simp at split
  | @step trace events state next run moves ih =>
      have good := run.invariant initially kept
      rcases List.append_eq_append_iff.mp split with ⟨emitted, rfl, rfl⟩ | ⟨rest, rfl, parts⟩
      · exact justifies good moves
      · rcases rest with _ | ⟨head, rest⟩
        · have events_eq : events = [] ++ event :: after := parts.symm
          subst events_eq
          simpa using justifies good moves
        · obtain ⟨rfl, _⟩ := List.cons.inj parts
          exact ih rfl

/-- When every step is a silent step or a step seen through `view`, so is every run. -/
theorem simulate {τ : Type w} {other : τ → List ε → τ → Prop} (view : σ → τ)
    (simulates : ∀ {state events next}, step state events next →
      (events = [] ∧ view next = view state) ∨ other (view state) events (view next))
    (run : Run step start trace finish) : Run other (view start) trace (view finish) := by
  induction run with
  | refl => exact .refl
  | step _ moves ih =>
      rcases simulates moves with ⟨rfl, same⟩ | moves
      · rwa [List.append_nil, same]
      · exact .step ih moves

end Run

end Transition
