import Mathlib.Data.List.Forall2

/-!
# Computations that may fail

Equations that take `Except` computations apart, and the list traversals that
stop at the first failure.
-/

namespace Except

universe u v w

variable {ε : Type u} {α : Type v} {β : Type v}

@[simp]
theorem ok_bind (value : α) (next : α → Except ε β) : (Except.ok value >>= next) = next value :=
  rfl

@[simp]
theorem error_bind (failure : ε) (next : α → Except ε β) :
    (Except.error failure >>= next) = Except.error failure :=
  rfl

theorem bind_eq_ok_iff {first : Except ε α} {next : α → Except ε β} {result : β} :
    (first >>= next) = .ok result ↔ ∃ value, first = .ok value ∧ next value = .ok result := by
  cases first with
  | error failure => simp
  | ok value => simp

theorem map_eq_ok_iff {f : α → β} {first : Except ε α} {result : β} :
    f <$> first = .ok result ↔ ∃ value, first = .ok value ∧ f value = result := by
  cases first with
  | error failure => simp [Functor.map, Except.map]
  | ok value => simp [Functor.map, Except.map]

theorem bind_eq_error_iff {first : Except ε α} {next : α → Except ε β} {failure : ε} :
    (first >>= next) = .error failure ↔
      first = .error failure ∨ ∃ value, first = .ok value ∧ next value = .error failure := by
  cases first with
  | error failure => simp
  | ok value => simp

theorem map_eq_error_iff {f : α → β} {first : Except ε α} {failure : ε} :
    f <$> first = .error failure ↔ first = .error failure := by
  cases first with
  | error failure => simp [Functor.map, Except.map]
  | ok value => simp [Functor.map, Except.map]

theorem exists_error_of_forall_ne_ok {outcome : Except ε α} (never : ∀ value, outcome ≠ .ok value) :
    ∃ failure, outcome = .error failure := by
  cases outcome with
  | error failure => exact ⟨failure, rfl⟩
  | ok value => exact absurd rfl (never value)

theorem mapM_eq_ok_iff {γ : Type w} {f : γ → Except ε β} {inputs : List γ} {outputs : List β} :
    inputs.mapM f = .ok outputs ↔ List.Forall₂ (fun input output => f input = .ok output)
      inputs outputs := by
  induction inputs generalizing outputs with
  | nil =>
      simp only [List.mapM_nil, List.forall₂_nil_left_iff]
      exact ⟨fun same => (Except.ok.inj same).symm, fun same => same ▸ rfl⟩
  | cons input inputs ih =>
      simp only [List.mapM_cons, bind_eq_ok_iff, ih]
      constructor
      · rintro ⟨output, computed, rest, restComputed, same⟩
        cases same
        exact List.Forall₂.cons computed restComputed
      · intro computed
        cases computed with
        | cons head tail => exact ⟨_, head, _, tail, rfl⟩

theorem exists_forall₂_of_exists_ok {γ : Type w} {f : γ → Except ε β} {inputs : List γ}
    (computed : ∀ input ∈ inputs, ∃ output, f input = .ok output) :
    ∃ outputs, List.Forall₂ (fun input output => f input = .ok output) inputs outputs := by
  induction inputs with
  | nil => exact ⟨[], .nil⟩
  | cons input inputs ih =>
      rw [List.forall_mem_cons] at computed
      rcases computed.1 with ⟨output, first⟩
      rcases ih computed.2 with ⟨outputs, rest⟩
      exact ⟨output :: outputs, .cons first rest⟩

theorem forM_eq_ok_iff {γ : Type w} {f : γ → Except ε PUnit} {inputs : List γ} {done : PUnit} :
    inputs.forM f = .ok done ↔ ∀ input ∈ inputs, f input = .ok done := by
  induction inputs with
  | nil => exact ⟨fun _ _ inputMem => absurd inputMem (by simp), fun _ => rfl⟩
  | cons input inputs ih =>
      have next : (input :: inputs).forM f = (f input >>= fun _ => inputs.forM f) := rfl
      rw [next, bind_eq_ok_iff, List.forall_mem_cons, ih]
      constructor
      · rintro ⟨_, first, rest⟩
        exact ⟨first, rest⟩
      · rintro ⟨first, rest⟩
        exact ⟨done, first, rest⟩

theorem exists_of_mapM_eq_error {γ : Type w} {f : γ → Except ε β} {inputs : List γ} {failure : ε}
    (failed : inputs.mapM f = .error failure) : ∃ input ∈ inputs, f input = .error failure := by
  induction inputs with
  | nil => exact absurd failed (by simp [pure, Except.pure])
  | cons input inputs ih =>
      rw [List.mapM_cons] at failed
      rcases first : f input with firstFailure | value
      · rw [first, error_bind] at failed
        cases failed
        exact ⟨input, by simp, first⟩
      · rcases rest : inputs.mapM f with restFailure | values
        · rw [first, rest] at failed
          cases failed
          rcases ih rest with ⟨other, otherMem, otherFailed⟩
          exact ⟨other, by simp [otherMem], otherFailed⟩
        · rw [first, rest] at failed
          cases failed

/-- All tests have been made, and all have succeeded. -/
theorem allM_eq_ok_true_iff {γ ε : Type} {f : γ → Except ε Bool} {inputs : List γ} :
    inputs.allM f = .ok true ↔ ∀ input ∈ inputs, f input = .ok true := by
  induction inputs with
  | nil => simp [List.allM, pure, Except.pure]
  | cons input inputs ih =>
      rw [List.allM, List.forall_mem_cons, ← ih]
      rcases f input with failure | _ | _ <;> simp [pure, Except.pure]

/-- All tests have been made, and none has succeeded. -/
theorem anyM_eq_ok_false_iff {γ ε : Type} {f : γ → Except ε Bool} {inputs : List γ} :
    inputs.anyM f = .ok false ↔ ∀ input ∈ inputs, f input = .ok false := by
  induction inputs with
  | nil => simp [List.anyM, pure, Except.pure]
  | cons input inputs ih =>
      rw [List.anyM, List.forall_mem_cons, ← ih]
      rcases f input with failure | _ | _ <;> simp [pure, Except.pure]

end Except
