import Abrade.Controller
import Abrade.Library.Regression
import Mathlib.Algebra.Order.Field.Basic
import Mathlib.Data.Rat.Cast.Order
import Mathlib.Tactic.Linarith

/-!
# The trend of a window

How the recommendation of `AdaptiveController` follows the samples in its
window, with the velocities as exact rationals.
-/

namespace Abrade

open Regression (variation covariation)

instance : Floating ℚ where
  ofSize size := size
  seconds nanoseconds := nanoseconds / 1000000000
  zero := 0
  tolerance := 1 / 10000
  add := (· + ·)
  sub := (· - ·)
  mul := (· * ·)
  div := (· / ·)
  less left right := decide (left < right)

namespace AdaptiveController

def counts (controller : AdaptiveController ℚ) : List ℚ :=
  controller.coroutines.entries.map Nat.cast

/-- The coroutine counts and the velocities in the window, interval by interval. -/
def samples (controller : AdaptiveController ℚ) : List (ℚ × ℚ) :=
  controller.counts.zip controller.velocities.entries

/-- One completion moves the recommendation with the trend of the window it leaves. -/
def FollowsTrend (before after : AdaptiveController ℚ) : Prop :=
  (covariation after.samples ≤ -(1 / 10000) ∧ before.minCoro < before.recommended →
      after.recommended + 1 = before.recommended) ∧
    (1 / 10000 ≤ covariation after.samples ∧ before.recommended < before.maxCoro →
      after.recommended = before.recommended + 1)

section Window

variable {controller : AdaptiveController ℚ}

/-- The two buffers hold the counts and the velocities of the same intervals. -/
def Paired (controller : AdaptiveController ℚ) : Prop :=
  controller.coroutines.capacity = controller.velocities.capacity ∧
    controller.coroutines.entries.length = controller.velocities.entries.length

theorem sum_eq_sum (numbers : List ℚ) : sum numbers = numbers.sum := by
  rw [List.sum_eq_foldl]
  rfl

theorem mean_eq_mean (numbers : List ℚ) : mean numbers = Regression.mean numbers := by
  rw [mean, sum_eq_sum]
  rfl

theorem length_counts (paired : controller.Paired) :
    controller.counts.length = controller.velocities.entries.length := by
  rw [counts, List.length_map, paired.2]

theorem ssCoros_eq_variation (paired : controller.Paired) :
    ssCoros (controller.coroutines.entries.map Floating.ofSize) =
      variation controller.samples := by
  rw [samples, Regression.variation_zip (length_counts paired), ssCoros, sum_eq_sum, ← mean_eq_mean]
  rfl

theorem ssCovar_eq_covariation (paired : controller.Paired) :
    ssCovar (controller.coroutines.entries.map Floating.ofSize) controller.velocities.entries =
      covariation controller.samples := by
  rw [samples, Regression.covariation_zip (length_counts paired), ssCovar, sum_eq_sum,
    ← mean_eq_mean, ← mean_eq_mean]
  rfl

theorem length_samples (paired : controller.Paired) :
    controller.samples.length = controller.velocities.size := by
  rw [samples, List.length_zip, length_counts paired, Nat.min_self]
  rfl

theorem samples_adjust (controller : AdaptiveController ℚ) :
    (controller.adjust.Paired ↔ controller.Paired) ∧
      controller.adjust.samples = controller.samples := by
  have increase : (controller.increaseRecommendation.Paired ↔ controller.Paired) ∧
      controller.increaseRecommendation.samples = controller.samples := by
    unfold increaseRecommendation
    split <;> exact ⟨Iff.rfl, rfl⟩
  unfold adjust
  simp only
  split_ifs
  · exact increase
  · exact increase
  · exact increase
  · exact ⟨Iff.rfl, rfl⟩
  · exact ⟨Iff.rfl, rfl⟩
  · exact ⟨Iff.rfl, rfl⟩

theorem Paired.withSample (paired : controller.Paired) (currentCoroutines : ℕ) (now : ℤ) :
    (controller.withSample currentCoroutines now).Paired := by
  rcases paired with ⟨capacities, lengths⟩
  refine ⟨capacities, ?_⟩
  simp only [AdaptiveController.withSample, CircularBuffer.pushBack, List.length_drop,
    List.length_append, capacities, lengths, List.length_singleton]

theorem Paired.registerCompletion (paired : controller.Paired) (currentCoroutines : ℕ) (now : ℤ) :
    Paired (Controller.registerCompletion controller currentCoroutines now) := by
  by_cases closes : controller.sampleInterval ≤ controller.completed + 1
  · rw [registerCompletion_closing closes, (samples_adjust _).1]
    exact paired.withSample currentCoroutines now
  · rw [registerCompletion_open (Nat.not_le.mp closes)]
    exact paired

theorem paired_afterCompletions (initialCoroutines sampleSize sampleInterval minimum maximum : ℕ)
    (start : ℤ) (completions : List (ℕ × ℤ)) :
    Paired (Controller.afterCompletions
      (new initialCoroutines sampleSize sampleInterval minimum maximum start) completions) :=
  Controller.afterCompletions_induction Paired.registerCompletion ⟨rfl, rfl⟩ completions

/-- Two samples with different counts raise the recommendation, whatever their velocities. -/
theorem recommended_adjust (paired : controller.Paired) (two : 2 ≤ controller.samples.length)
    (varied : 1 / 10000 ≤ variation controller.samples) :
    controller.adjust.recommended =
      if controller.recommended < controller.maxCoro then controller.recommended + 1
      else controller.recommended := by
  have increase : controller.increaseRecommendation.recommended =
      if controller.recommended < controller.maxCoro then controller.recommended + 1
      else controller.recommended := by
    unfold increaseRecommendation
    split_ifs <;> rfl
  have enough : ¬ controller.velocities.size < 2 := by
    rw [← length_samples paired]
    omega
  have variation_notLess : Floating.less
      (ssCoros (controller.coroutines.entries.map (Floating.ofSize : ℕ → ℚ)))
        Floating.tolerance = false := by
    rw [ssCoros_eq_variation paired]
    exact decide_eq_false (not_lt.mpr varied)
  simp only [adjust, if_neg enough, variation_notLess, Bool.false_eq_true, if_false]
  rw [ssCoros_eq_variation paired, ssCovar_eq_covariation paired]
  cases flat : Floating.less (covariation controller.samples) Floating.tolerance with
  | true =>
      rw [if_pos rfl]
      exact increase
  | false =>
      -- Only a positive sum of products comes this far, so the slope is positive.
      have rising : 1 / 10000 ≤ covariation controller.samples :=
        not_lt.mp (of_decide_eq_false flat)
      have slope : 0 < variation controller.samples / covariation controller.samples :=
        div_pos (by linarith) (by linarith)
      have positive : Floating.less Floating.zero
          (Floating.div (variation controller.samples) (covariation controller.samples)) = true :=
        decide_eq_true slope
      have notNegative : Floating.less
          (Floating.div (variation controller.samples) (covariation controller.samples))
            Floating.zero = false :=
        decide_eq_false (not_lt.mpr (le_of_lt slope))
      simp only [positive, notNegative, Bool.true_and, Bool.false_and, Bool.false_eq_true,
        if_false, decide_eq_true_eq]
      split_ifs <;> rfl

/-- What a closing completion does to a varied window: the trend itself makes no difference. -/
theorem recommended_closing (paired : controller.Paired)
    (closes : controller.sampleInterval ≤ controller.completed + 1)
    (currentCoroutines : ℕ) (now : ℤ)
    (two : 2 ≤ (controller.withSample currentCoroutines now).samples.length)
    (varied : 1 / 10000 ≤ variation (controller.withSample currentCoroutines now).samples) :
    (Controller.registerCompletion controller currentCoroutines now).recommended =
      if controller.recommended < controller.maxCoro then controller.recommended + 1
      else controller.recommended := by
  rw [registerCompletion_closing closes]
  exact recommended_adjust (paired.withSample currentCoroutines now) two varied

/-- A completion that closes an interval leaves the window with the new sample. -/
theorem samples_closing (closes : controller.sampleInterval ≤ controller.completed + 1)
    (currentCoroutines : ℕ) (now : ℤ) :
    (Controller.registerCompletion controller currentCoroutines now).samples =
      (controller.withSample currentCoroutines now).samples := by
  rw [registerCompletion_closing closes, (samples_adjust _).2]

/-- A falling trend never lowers the recommendation. -/
theorem not_followsTrend_of_falling {after : AdaptiveController ℚ}
    (recommended : after.recommended =
      if controller.recommended < controller.maxCoro then controller.recommended + 1
      else controller.recommended)
    (falling : covariation after.samples ≤ -(1 / 10000))
    (above : controller.minCoro < controller.recommended) : ¬ FollowsTrend controller after := by
  rintro ⟨lowers, -⟩
  have lower := lowers ⟨falling, above⟩
  rw [recommended] at lower
  split_ifs at lower <;> omega

/--
In every state a run reaches, a completion that closes an interval and adds to a
window with two samples of varied counts, its own among them, follows their
trend, exactly when the trend is not a falling one above the minimum.
-/
theorem followsTrend_iff (initialCoroutines sampleSize sampleInterval minimum maximum : ℕ)
    (start : ℤ) (completions : List (ℕ × ℤ)) (currentCoroutines : ℕ) (now : ℤ)
    {before after : AdaptiveController ℚ}
    (reached : before = Controller.afterCompletions
      (new initialCoroutines sampleSize sampleInterval minimum maximum start) completions)
    (closes : before.sampleInterval ≤ before.completed + 1)
    (completes : after = Controller.registerCompletion before currentCoroutines now)
    (two : 2 ≤ (before.withSample currentCoroutines now).samples.length)
    (varied : 1 / 10000 ≤ variation (before.withSample currentCoroutines now).samples) :
    FollowsTrend before after ↔
      ¬ (covariation (before.withSample currentCoroutines now).samples ≤ -(1 / 10000) ∧
        before.minCoro < before.recommended) := by
  have paired : before.Paired :=
    reached ▸ paired_afterCompletions initialCoroutines sampleSize sampleInterval minimum maximum
      start completions
  have window : after.samples = (before.withSample currentCoroutines now).samples := by
    rw [completes]
    exact samples_closing closes currentCoroutines now
  have recommended : after.recommended =
      if before.recommended < before.maxCoro then before.recommended + 1
      else before.recommended := by
    rw [completes]
    exact recommended_closing paired closes currentCoroutines now two varied
  rw [← window]
  constructor
  · rintro follows ⟨falling, above⟩
    exact not_followsTrend_of_falling recommended falling above follows
  · intro notFalling
    constructor
    · intro falling
      exact absurd falling notFalling
    · rintro ⟨-, below⟩
      rw [recommended, if_pos below]

/-- The velocity of one completion after an interval. -/
theorem velocity_of_interval (nanoseconds : ℤ) :
    (Floating.div (Floating.ofSize 1) (Floating.seconds nanoseconds) : ℚ) =
      1000000000 / nanoseconds := by
  change ((1 : ℕ) : ℚ) / ((nanoseconds : ℚ) / 1000000000) = 1000000000 / nanoseconds
  rw [Nat.cast_one, one_div_div]

/-- A first interval of one second, with one active coroutine. -/
def oneSecond : AdaptiveController ℚ :=
  Controller.afterCompletions (new 5 2 1 1 10 0) [(1, 1000000000)]

theorem oneSecond_closes : oneSecond.sampleInterval ≤ oneSecond.completed + 1 := by
  decide

/-- The window with a second interval, with two active coroutines. -/
theorem samples_oneSecond (now : ℤ) :
    (oneSecond.withSample 2 now).samples =
      [(1, 1), (2, 1000000000 / ((now - 1000000000 : ℤ) : ℚ))] := by
  have first := velocity_of_interval 1000000000
  have second := velocity_of_interval (now - 1000000000)
  rw [← second]
  calc (oneSecond.withSample 2 now).samples
      = [(1, Floating.div (Floating.ofSize 1) (Floating.seconds 1000000000)),
          (2, Floating.div (Floating.ofSize 1) (Floating.seconds (now - 1000000000)))] := rfl
    _ = _ := by
      rw [first]
      norm_num

theorem varied_oneSecond (now : ℤ) :
    2 ≤ (oneSecond.withSample 2 now).samples.length ∧
      1 / 10000 ≤ variation (oneSecond.withSample 2 now).samples := by
  rw [samples_oneSecond]
  constructor
  · exact le_rfl
  · norm_num [variation, Regression.mean]

/-- Half a second makes a rising trend, which is followed. -/
theorem followsTrend_rising :
    1 / 10000 ≤ covariation (oneSecond.withSample 2 1500000000).samples ∧
      FollowsTrend oneSecond (Controller.registerCompletion oneSecond 2 1500000000) := by
  rcases varied_oneSecond 1500000000 with ⟨two, varied⟩
  have rising : 1 / 10000 ≤ covariation (oneSecond.withSample 2 1500000000).samples := by
    rw [samples_oneSecond]
    norm_num [covariation, Regression.mean]
  refine ⟨rising, (@followsTrend_iff 5 2 1 1 10 0 [(1, 1000000000)] 2 1500000000 oneSecond _ rfl
    oneSecond_closes rfl two varied).mpr ?_⟩
  rintro ⟨falling, -⟩
  linarith

/-- Two seconds make a falling trend, and the recommendation rises. -/
theorem falling_trend_raises :
    1 / 10000 ≤ variation (Controller.registerCompletion oneSecond 2 3000000000).samples ∧
      covariation (Controller.registerCompletion oneSecond 2 3000000000).samples ≤
        -(1 / 10000) ∧
      oneSecond.minCoro < oneSecond.recommended ∧
      (Controller.registerCompletion oneSecond 2 3000000000).recommended =
        oneSecond.recommended + 1 ∧
      ¬ FollowsTrend oneSecond (Controller.registerCompletion oneSecond 2 3000000000) := by
  rcases varied_oneSecond 3000000000 with ⟨two, varied⟩
  have window := samples_closing oneSecond_closes 2 3000000000
  have falling : covariation (Controller.registerCompletion oneSecond 2 3000000000).samples ≤
      -(1 / 10000) := by
    rw [window, samples_oneSecond]
    norm_num [covariation, Regression.mean]
  have paired : oneSecond.Paired :=
    paired_afterCompletions 5 2 1 1 10 0 [(1, 1000000000)]
  have raised := recommended_closing paired oneSecond_closes 2 3000000000 two varied
  have above : oneSecond.minCoro < oneSecond.recommended := by
    decide
  have below : oneSecond.recommended < oneSecond.maxCoro := by
    decide
  refine ⟨window ▸ varied, falling, above, ?_, not_followsTrend_of_falling raised falling above⟩
  rw [raised, if_pos below]

end Window

end AdaptiveController

end Abrade
