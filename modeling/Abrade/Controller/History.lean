import Abrade.Controller
import Mathlib.Data.List.Induction

/-!
# What the adaptive controller remembers

The state of the controller as a function of all completions so far.  They form
intervals of `sample_interval` completions; each complete interval is one
sample, and the windows are the samples of the last intervals.
-/

namespace Abrade.AdaptiveController

variable {F : Type} [Floating F]

/-- The completion that ends an interval, counted from zero. -/
def closing (interval : ℕ) (completions : List (ℕ × ℤ)) (index : ℕ) : Option (ℕ × ℤ) :=
  completions[interval * index + (interval - 1)]?

/-- When an interval begins: with the controller, or where the one before ends. -/
def opening (interval : ℕ) (start : ℤ) (completions : List (ℕ × ℤ)) : ℕ → ℤ
  | 0 => start
  | index + 1 =>
      match closing interval completions index with
      | none => start
      | some (_, now) => now

def sampleCoroutines (interval : ℕ) (completions : List (ℕ × ℤ)) (index : ℕ) : ℕ :=
  match closing interval completions index with
  | none => 0
  | some (currentCoroutines, _) => currentCoroutines

/-- The completions of an interval by its length in time. -/
def sampleVelocity (F : Type) [Floating F] (interval : ℕ) (start : ℤ)
    (completions : List (ℕ × ℤ)) (index : ℕ) : F :=
  Floating.div (Floating.ofSize interval)
    (Floating.seconds
      (opening interval start completions (index + 1) - opening interval start completions index))

/-- The state of a controller behind some completions. -/
structure Remembers (initialCoroutines sampleSize interval : ℕ) (start : ℤ)
    (completions : List (ℕ × ℤ)) (controller : AdaptiveController F) : Prop where
  sampleInterval : controller.sampleInterval = interval
  completed : controller.completed = completions.length % interval
  began : controller.start = opening interval start completions (completions.length / interval)
  coroutinesCapacity : controller.coroutines.capacity = sampleSize
  coroutines : controller.coroutines.Holds
    ((List.range (completions.length / interval)).map (sampleCoroutines interval completions))
  velocitiesCapacity : controller.velocities.capacity = sampleSize
  velocities : controller.velocities.Holds
    ((List.range (completions.length / interval)).map
      (sampleVelocity F interval start completions))
  above : initialCoroutines ≤ controller.recommended + completions.length / interval
  below : controller.recommended ≤ initialCoroutines + completions.length / interval

section Append

variable {interval index : ℕ} {start : ℤ} {completions : List (ℕ × ℤ)} {completion : ℕ × ℤ}

theorem closing_append (positive : 1 ≤ interval)
    (complete : index < completions.length / interval) :
    closing interval (completions ++ [completion]) index = closing interval completions index := by
  have within : interval * index + (interval - 1) < completions.length := by
    have enough := (Nat.lt_div_iff_mul_lt positive).mp complete
    rw [Nat.mul_comm]
    omega
  rw [closing, List.getElem?_append_left within]
  rfl

theorem opening_append (positive : 1 ≤ interval)
    (begun : index ≤ completions.length / interval) :
    opening interval start (completions ++ [completion]) index =
      opening interval start completions index := by
  cases index with
  | zero => rfl
  | succ index => rw [opening, opening, closing_append positive begun]

theorem sampleCoroutines_append (positive : 1 ≤ interval)
    (complete : index < completions.length / interval) :
    sampleCoroutines interval (completions ++ [completion]) index =
      sampleCoroutines interval completions index := by
  rw [sampleCoroutines, sampleCoroutines, closing_append positive complete]

theorem sampleVelocity_append (positive : 1 ≤ interval)
    (complete : index < completions.length / interval) :
    sampleVelocity F interval start (completions ++ [completion]) index =
      sampleVelocity F interval start completions index := by
  rw [sampleVelocity, sampleVelocity, opening_append positive complete,
    opening_append positive complete.le]

/-- The completion that completes an interval. -/
theorem closing_last (closes : completions.length % interval + 1 = interval) :
    closing interval (completions ++ [completion]) (completions.length / interval) =
      some completion := by
  have last : interval * (completions.length / interval) + (interval - 1) =
      completions.length := by
    have parts := Nat.div_add_mod completions.length interval
    omega
  rw [closing, last, List.getElem?_concat_length]

theorem opening_last (closes : completions.length % interval + 1 = interval) :
    opening interval start (completions ++ [completion]) (completions.length / interval + 1) =
      completion.2 := by
  rw [opening, closing_last closes]

theorem sampleCoroutines_last (closes : completions.length % interval + 1 = interval) :
    sampleCoroutines interval (completions ++ [completion]) (completions.length / interval) =
      completion.1 := by
  rw [sampleCoroutines, closing_last closes]

theorem sampleVelocity_last (closes : completions.length % interval + 1 = interval) :
    sampleVelocity F interval start (completions ++ [completion])
        (completions.length / interval) =
      Floating.div (Floating.ofSize interval)
        (Floating.seconds (completion.2 -
          opening interval start completions (completions.length / interval))) := by
  rw [sampleVelocity, opening_last closes, opening_append (by omega) le_rfl]

end Append

omit [Floating F] in
theorem increaseRecommendation_eq (controller : AdaptiveController F) :
    ∃ recommended, controller.increaseRecommendation = { controller with recommended } := by
  unfold increaseRecommendation
  split
  · exact ⟨_, rfl⟩
  · exact ⟨controller.recommended, rfl⟩

/-- A new sample changes the recommendation and nothing else. -/
theorem adjust_eq (controller : AdaptiveController F) :
    ∃ recommended, controller.adjust = { controller with recommended } := by
  unfold adjust
  dsimp only
  split_ifs
  · exact increaseRecommendation_eq controller
  · exact increaseRecommendation_eq controller
  · exact increaseRecommendation_eq controller
  · exact ⟨_, rfl⟩
  · exact ⟨_, rfl⟩
  · exact ⟨controller.recommended, rfl⟩

theorem map_range_succ {α : Type} {sample later : ℕ → α} {count : ℕ} {last : α}
    (kept : ∀ index < count, later index = sample index) (ends : later count = last) :
    (List.range (count + 1)).map later = (List.range count).map sample ++ [last] := by
  rw [List.range_succ, List.map_append, List.map_singleton, ends]
  congr 1
  apply List.map_congr_left
  intro index indexMem
  exact kept index (List.mem_range.mp indexMem)

section Remembers

variable {initialCoroutines sampleSize interval : ℕ} {start : ℤ} {completions : List (ℕ × ℤ)}
  {controller : AdaptiveController F}

/-- The quotient and the remainder behind one more completion inside an interval. -/
theorem div_mod_open {count : ℕ} (goes : count % interval + 1 < interval) :
    (count + 1) / interval = count / interval ∧
      (count + 1) % interval = count % interval + 1 := by
  have parts := Nat.div_add_mod count interval
  have split : count + 1 = count % interval + 1 + interval * (count / interval) := by omega
  constructor
  · rw [split, Nat.add_mul_div_left _ _ (by omega), Nat.div_eq_of_lt goes, Nat.zero_add]
  · rw [split, Nat.add_mul_mod_self_left, Nat.mod_eq_of_lt goes]

theorem div_mod_closing {count : ℕ} (closes : count % interval + 1 = interval) :
    (count + 1) / interval = count / interval + 1 ∧ (count + 1) % interval = 0 := by
  have parts := Nat.div_add_mod count interval
  have split : count + 1 = interval * (count / interval + 1) := by
    rw [Nat.mul_succ]
    omega
  constructor
  · rw [split, Nat.mul_div_cancel_left _ (by omega)]
  · rw [split, Nat.mul_mod_right]

/-- The interval goes on, and only the count of its completions changes. -/
theorem Remembers.within
    (remembers : Remembers initialCoroutines sampleSize interval start completions controller)
    (goes : completions.length % interval + 1 < interval) (completion : ℕ × ℤ) :
    Remembers initialCoroutines sampleSize interval start (completions ++ [completion])
      { controller with completed := controller.completed + 1 } := by
  have positive : 1 ≤ interval := by omega
  rcases div_mod_open goes with ⟨quotient, remainder⟩
  constructor
  · exact remembers.sampleInterval
  · rw [List.length_append, List.length_singleton, remainder, ← remembers.completed]
  · rw [List.length_append, List.length_singleton, quotient, opening_append positive le_rfl]
    exact remembers.began
  · exact remembers.coroutinesCapacity
  · rw [List.length_append, List.length_singleton, quotient, List.map_congr_left
      fun index indexMem => sampleCoroutines_append positive (List.mem_range.mp indexMem)]
    exact remembers.coroutines
  · exact remembers.velocitiesCapacity
  · rw [List.length_append, List.length_singleton, quotient, List.map_congr_left
      fun index indexMem => sampleVelocity_append positive (List.mem_range.mp indexMem)]
    exact remembers.velocities
  · rw [List.length_append, List.length_singleton, quotient]
    exact remembers.above
  · rw [List.length_append, List.length_singleton, quotient]
    exact remembers.below

/-- The completion closes its interval, whose sample is the last one of the windows. -/
theorem Remembers.closing
    (remembers : Remembers initialCoroutines sampleSize interval start completions controller)
    (closes : completions.length % interval + 1 = interval) (completion : ℕ × ℤ) :
    Remembers initialCoroutines sampleSize interval start (completions ++ [completion])
      (controller.withSample completion.1 completion.2).adjust := by
  have positive : 1 ≤ interval := by omega
  rcases div_mod_closing closes with ⟨quotient, remainder⟩
  have nudged := (nudged_adjust (controller.withSample completion.1 completion.2)).recommended
  have above := remembers.above
  have below := remembers.below
  have velocity : sampleVelocity F interval start (completions ++ [completion])
      (completions.length / interval) =
        Floating.div (Floating.ofSize (controller.completed + 1))
          (Floating.seconds (completion.2 - controller.start)) := by
    rw [sampleVelocity_last closes, remembers.completed, remembers.began, closes]
  rcases adjust_eq (controller.withSample completion.1 completion.2) with
    ⟨recommended, adjusted⟩
  rw [adjusted] at nudged ⊢
  simp only [withSample] at nudged ⊢
  constructor
  · exact remembers.sampleInterval
  · rw [List.length_append, List.length_singleton, remainder]
  · rw [List.length_append, List.length_singleton, quotient, opening_last closes]
  · exact remembers.coroutinesCapacity
  · rw [List.length_append, List.length_singleton, quotient, map_range_succ
      (fun index complete => sampleCoroutines_append positive complete)
      (sampleCoroutines_last closes)]
    exact remembers.coroutines.pushBack completion.1
  · exact remembers.velocitiesCapacity
  · rw [List.length_append, List.length_singleton, quotient, map_range_succ
      (fun index complete => sampleVelocity_append positive complete) velocity]
    exact remembers.velocities.pushBack _
  · rw [List.length_append, List.length_singleton, quotient]
    dsimp only
    omega
  · rw [List.length_append, List.length_singleton, quotient]
    dsimp only
    omega

theorem Remembers.step
    (remembers : Remembers initialCoroutines sampleSize interval start completions controller)
    (positive : 1 ≤ interval) (completion : ℕ × ℤ) :
    Remembers initialCoroutines sampleSize interval start (completions ++ [completion])
      (Controller.registerCompletion controller completion.1 completion.2) := by
  have inside := Nat.mod_lt completions.length positive
  have counted : controller.completed + 1 = completions.length % interval + 1 := by
    rw [remembers.completed]
  rcases (Nat.succ_le_of_lt inside).lt_or_eq with goes | closes
  · rw [registerCompletion_open (by rw [counted, remembers.sampleInterval]; exact goes)]
    exact remembers.within goes completion
  · rw [registerCompletion_closing (by rw [counted, remembers.sampleInterval]; exact closes.ge)]
    exact remembers.closing closes completion

/--
Behind any completions, the controller counts those of the interval that has not
ended, its windows hold the samples of the last intervals and its recommendation
has moved by one for each interval at most.
-/
theorem remembers_afterCompletions (initialCoroutines sampleSize : ℕ) {interval : ℕ}
    (positive : 1 ≤ interval) (minimum maximum : ℕ) (start : ℤ) (completions : List (ℕ × ℤ)) :
    Remembers initialCoroutines sampleSize interval start completions
      (Controller.afterCompletions
        (new initialCoroutines sampleSize interval minimum maximum start :
          AdaptiveController F) completions) := by
  induction completions using List.reverseRecOn with
  | nil =>
      constructor
      · rfl
      · rw [List.length_nil, Nat.zero_mod]
        rfl
      · rw [List.length_nil, Nat.zero_div]
        rfl
      · rfl
      · rw [List.length_nil, Nat.zero_div]
        exact CircularBuffer.holds_empty sampleSize
      · rfl
      · rw [List.length_nil, Nat.zero_div]
        exact CircularBuffer.holds_empty sampleSize
      · exact Nat.le_add_right _ _
      · exact Nat.le_add_right _ _
  | append_singleton completions completion ih =>
      rw [Controller.afterCompletions, List.foldl_append]
      exact ih.step positive completion

/-- Two intervals of two completions, and a fifth completion. -/
theorem remembers_afterCompletions_of_example :
    Remembers 5 2 2 0 [(1, 10), (2, 20), (3, 30), (4, 40), (5, 50)]
      (Controller.afterCompletions (new 5 2 2 1 10 0 : AdaptiveController Float)
        [(1, 10), (2, 20), (3, 30), (4, 40), (5, 50)]) :=
  remembers_afterCompletions 5 2 (by decide) 1 10 0 _

end Remembers

end Abrade.AdaptiveController
