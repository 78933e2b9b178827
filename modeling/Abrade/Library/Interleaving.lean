import Abrade.Library.Transition

/-!
# Interleaved components

Components that are spawned one by one and move in any order, each seeing all
of them.  What one component went through in a run is a run of that component
alone.
-/

namespace Interleaving

open Transition (Run)

universe u v

variable {κ : Type u} {ε : Type v}

/-- A component is spawned behind the others, or one of them moves. -/
inductive Step (fresh : List κ → κ → Prop) (move : List κ → κ → List ε → κ → Prop) :
    List κ → List (ℕ × ε) → List κ → Prop where
  | spawn {components : List κ} {component : κ} (allowed : fresh components component) :
      Step fresh move components [] (components ++ [component])
  | move {components : List κ} {index : ℕ} {component component' : κ} {events : List ε}
      (found : components[index]? = some component)
      (moves : move components component events component') :
      Step fresh move components (events.map (Prod.mk index)) (components.set index component')

/-- The events of one component. -/
def history (index : ℕ) (trace : List (ℕ × ε)) : List ε :=
  trace.filterMap fun entry => if entry.1 = index then some entry.2 else none

@[simp]
theorem history_append (index : ℕ) (trace events : List (ℕ × ε)) :
    history index (trace ++ events) = history index trace ++ history index events := by
  simp [history]

@[simp]
theorem history_map_self (index : ℕ) (events : List ε) :
    history index (events.map (Prod.mk index)) = events := by
  simp [history, List.filterMap_map]

@[simp]
theorem history_map_ne {index other : ℕ} (different : other ≠ index) (events : List ε) :
    history index (events.map (Prod.mk other)) = [] := by
  simp [history, different]

theorem history_eq_nil {index : ℕ} {trace : List (ℕ × ε)}
    (absent : ∀ entry ∈ trace, entry.1 ≠ index) : history index trace = [] := by
  simp only [history, List.filterMap_eq_nil_iff]
  intro entry entryMem
  rw [if_neg (absent entry entryMem)]

theorem mem_history {index : ℕ} {trace : List (ℕ × ε)} {event : ε} :
    event ∈ history index trace ↔ (index, event) ∈ trace := by
  simp [history]

section Components

variable {components : List κ} {index : ℕ} {component added : κ}

/-- Behind a spawn, a component is an old one or the new one. -/
theorem found_concat (found : (components ++ [added])[index]? = some component) :
    components[index]? = some component ∨ index = components.length ∧ component = added := by
  by_cases older : index < components.length
  · left
    rwa [List.getElem?_append_left older] at found
  · right
    have newest : index = components.length := by
      have bound := (List.getElem?_eq_some_iff.mp found).1
      rw [List.length_append, List.length_singleton] at bound
      omega
    subst newest
    rw [List.getElem?_concat_length, Option.some.injEq] at found
    exact ⟨rfl, found.symm⟩

/-- Behind a move, a component is the moved one or has not changed. -/
theorem found_set {moved : ℕ} {before after : κ} (foundBefore : components[moved]? = some before)
    (found : (components.set moved after)[index]? = some component) :
    moved = index ∧ component = after ∨ moved ≠ index ∧ components[index]? = some component := by
  by_cases same : moved = index
  · left
    subst same
    have bound := (List.getElem?_eq_some_iff.mp foundBefore).1
    rw [List.getElem?_set_self bound, Option.some.injEq] at found
    exact ⟨rfl, found.symm⟩
  · right
    rw [List.getElem?_set_ne same] at found
    exact ⟨same, found⟩

end Components

section Runs

variable {fresh : List κ → κ → Prop} {move : List κ → κ → List ε → κ → Prop}
  {trace : List (ℕ × ε)} {components : List κ}

theorem index_lt_length (run : Run (Step fresh move) [] trace components) :
    ∀ entry ∈ trace, entry.1 < components.length := by
  induction run with
  | refl => simp
  | step _ moves ih =>
      intro entry entryMem
      cases moves with
      | spawn =>
          have bound := ih entry (by simpa using entryMem)
          rw [List.length_append]
          omega
      | move found =>
          rw [List.length_set]
          rcases List.mem_append.mp entryMem with entryMem | entryMem
          · exact ih entry entryMem
          · obtain ⟨event, _, rfl⟩ := List.mem_map.mp entryMem
            exact (List.getElem?_eq_some_iff.mp found).1

/-- The history of a component is a run of its own, from the component that was spawned. -/
theorem run_history (run : Run (Step fresh move) [] trace components) {index : ℕ} {component : κ}
    (found : components[index]? = some component) :
    ∃ others spawned, fresh others spawned ∧
      Run (fun component events component' => ∃ others, move others component events component')
        spawned (history index trace) component := by
  induction run generalizing component with
  | refl => simp at found
  | @step trace events components next run moves ih =>
      cases moves with
      | @spawn added allowed =>
          rw [List.append_nil]
          rcases found_concat found with older | ⟨rfl, rfl⟩
          · exact ih older
          · have silent : history components.length trace = [] :=
              history_eq_nil fun entry entryMem => Nat.ne_of_lt (index_lt_length run entry entryMem)
            exact ⟨components, _, allowed, silent ▸ .refl⟩
      | @move moved before after events foundBefore moves =>
          rw [history_append]
          rcases found_set foundBefore found with ⟨rfl, rfl⟩ | ⟨same, unchanged⟩
          · rcases ih foundBefore with ⟨others, spawned, allowed, alone⟩
            rw [history_map_self]
            exact ⟨others, spawned, allowed, alone.step ⟨components, moves⟩⟩
          · rw [history_map_ne same, List.append_nil]
            exact ih unchanged

end Runs

end Interleaving
