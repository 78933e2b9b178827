import Abrade.Basic
import Abrade.Library.CircularBuffer
import Mathlib.Order.Interval.Set.Defs

/-!
# Controllers

How many coroutines should be active.  `AdaptiveController` computes with
`double`; its arithmetic is a parameter, so that what is proved about its
recommendation holds for any arithmetic.  Clock readings are nanoseconds.
-/

namespace Abrade

/-- The virtual functions of `Controller`; `register_completion` reads the clock. -/
class Controller (K : Type) where
  registerCompletion : K → ℕ → ℤ → K
  recommendedCoroutines : K → ℕ

namespace Controller

variable {K : Type} [Controller K]

/-- The controller after completions with these numbers of coroutines and clock readings. -/
def afterCompletions (controller : K) (completions : List (ℕ × ℤ)) : K :=
  completions.foldl (fun controller completion =>
    registerCompletion controller completion.1 completion.2) controller

/-- Every recommendation of a controller has a property, whatever completes when. -/
def Always (good : ℕ → Prop) (controller : K) : Prop :=
  ∀ completions, good (recommendedCoroutines (afterCompletions controller completions))

theorem Always.recommended {good : ℕ → Prop} {controller : K} (always : Always good controller) :
    good (recommendedCoroutines controller) :=
  always []

theorem Always.registerCompletion {good : ℕ → Prop} {controller : K}
    (always : Always good controller) (currentCoroutines : ℕ) (now : ℤ) :
    Always good (registerCompletion controller currentCoroutines now) := by
  intro completions
  exact always ((currentCoroutines, now) :: completions)

/-- The controller never recommends to stop altogether. -/
abbrev Positive (controller : K) : Prop :=
  Always (1 ≤ ·) controller

theorem afterCompletions_induction {Good : K → Prop}
    (kept : ∀ {controller}, Good controller → ∀ currentCoroutines now,
      Good (Controller.registerCompletion controller currentCoroutines now))
    {controller : K} (good : Good controller) (completions : List (ℕ × ℤ)) :
    Good (afterCompletions controller completions) := by
  induction completions generalizing controller with
  | nil => exact good
  | cons completion completions ih => exact ih (kept good completion.1 completion.2)

end Controller

/-- Keeps the recommendation it was built with. -/
structure FixedController where
  start : ℤ
  coroutines : ℕ
  samplingInterval : ℕ
  completed : ℕ
  deriving DecidableEq

namespace FixedController

def new (fixedCoroutines fixedSamplingInterval : ℕ) (start : ℤ) : FixedController :=
  { start, coroutines := fixedCoroutines, samplingInterval := fixedSamplingInterval,
    completed := 0 }

instance : Controller FixedController where
  registerCompletion controller _ now :=
    if controller.completed + 1 < controller.samplingInterval then
      { controller with completed := controller.completed + 1 }
    else { controller with start := now, completed := 0 }
  recommendedCoroutines controller := controller.coroutines

theorem recommended_registerCompletion (controller : FixedController) (currentCoroutines : ℕ)
    (now : ℤ) :
    Controller.recommendedCoroutines
        (Controller.registerCompletion controller currentCoroutines now) =
      Controller.recommendedCoroutines controller := by
  simp only [Controller.registerCompletion, Controller.recommendedCoroutines]
  split <;> rfl

end FixedController

/-- The arithmetic of `double` the adaptive controller uses. -/
class Floating (F : Type) where
  /-- `static_cast<double>` of a `size_t`. -/
  ofSize : ℕ → F
  /-- `chrono::duration<double>` of a number of nanoseconds. -/
  seconds : ℤ → F
  zero : F
  /-- The constant `0.0001`. -/
  tolerance : F
  add : F → F → F
  sub : F → F → F
  mul : F → F → F
  div : F → F → F
  less : F → F → Bool

instance : Floating Float where
  ofSize := Float.ofNat
  seconds nanoseconds := Float.ofInt nanoseconds / 1000000000
  zero := 0
  tolerance := 0.0001
  add := (· + ·)
  sub := (· - ·)
  mul := (· * ·)
  div := (· / ·)
  less left right := left < right

/-- Nudges its recommendation by a velocity and concurrency trend. -/
structure AdaptiveController (F : Type) where
  coroutines : CircularBuffer ℕ
  velocities : CircularBuffer F
  start : ℤ
  completed : ℕ
  sampleInterval : ℕ
  recommended : ℕ
  maxCoro : ℕ
  minCoro : ℕ

namespace AdaptiveController

variable {F : Type} [Floating F]

def new (initialCoroutines sampleSize controllerSampleInterval minimumCoroutines
    maximumCoroutines : ℕ) (start : ℤ) : AdaptiveController F :=
  { coroutines := .empty sampleSize, velocities := .empty sampleSize, start, completed := 0,
    sampleInterval := controllerSampleInterval, recommended := initialCoroutines,
    maxCoro := maximumCoroutines, minCoro := minimumCoroutines }

def increaseRecommendation (controller : AdaptiveController F) : AdaptiveController F :=
  if controller.recommended < controller.maxCoro then
    { controller with recommended := controller.recommended + 1 }
  else controller

/-- `accumulate` from zero. -/
def sum (numbers : List F) : F :=
  numbers.foldl Floating.add Floating.zero

def mean (numbers : List F) : F :=
  Floating.div (sum numbers) (Floating.ofSize numbers.length)

def ssCoros (coroutines : List F) : F :=
  sum (coroutines.map fun coro =>
    let delta := Floating.sub coro (mean coroutines)
    Floating.mul delta delta)

/-- The sum of the products of the deviations, taken over the common length. -/
def ssCovar (coroutines velocities : List F) : F :=
  sum (List.zipWith (fun coroutine velocity =>
    Floating.mul (Floating.sub coroutine (mean coroutines))
      (Floating.sub velocity (mean velocities))) coroutines velocities)

/-- The end of `register_completion`, behind a new sample. -/
def adjust (controller : AdaptiveController F) : AdaptiveController F :=
  let coroutines : List F := controller.coroutines.entries.map Floating.ofSize
  let velocities := controller.velocities.entries
  if controller.velocities.size < 2 then controller.increaseRecommendation
  else if Floating.less (ssCoros coroutines) Floating.tolerance then
    controller.increaseRecommendation
  else if Floating.less (ssCovar coroutines velocities) Floating.tolerance then
    controller.increaseRecommendation
  else
    let beta := Floating.div (ssCoros coroutines) (ssCovar coroutines velocities)
    if Floating.less Floating.zero beta && decide (controller.recommended < controller.maxCoro) then
      { controller with recommended := controller.recommended + 1 }
    else if Floating.less beta Floating.zero && decide (controller.minCoro < controller.recommended)
    then { controller with recommended := controller.recommended - 1 }
    else controller

instance : Controller (AdaptiveController F) where
  registerCompletion controller currentCoroutines now :=
    if controller.completed + 1 < controller.sampleInterval then
      { controller with completed := controller.completed + 1 }
    else
      let elapsed : F := Floating.seconds (now - controller.start)
      let velocity := Floating.div (Floating.ofSize (controller.completed + 1)) elapsed
      adjust
        { controller with
          velocities := controller.velocities.pushBack velocity
          coroutines := controller.coroutines.pushBack currentCoroutines
          start := now
          completed := 0 }
  recommendedCoroutines controller := controller.recommended

/-- The window with the sample of a completion that closes the interval. -/
def withSample (controller : AdaptiveController F) (currentCoroutines : ℕ) (now : ℤ) :
    AdaptiveController F :=
  { controller with
    velocities := controller.velocities.pushBack
      (Floating.div (Floating.ofSize (controller.completed + 1))
        (Floating.seconds (now - controller.start)))
    coroutines := controller.coroutines.pushBack currentCoroutines
    start := now
    completed := 0 }

theorem registerCompletion_open {controller : AdaptiveController F}
    (goes : controller.completed + 1 < controller.sampleInterval) (currentCoroutines : ℕ)
    (now : ℤ) :
    Controller.registerCompletion controller currentCoroutines now =
      { controller with completed := controller.completed + 1 } :=
  if_pos goes

theorem registerCompletion_closing {controller : AdaptiveController F}
    (closes : controller.sampleInterval ≤ controller.completed + 1) (currentCoroutines : ℕ)
    (now : ℤ) :
    Controller.registerCompletion controller currentCoroutines now =
      (controller.withSample currentCoroutines now).adjust :=
  if_neg (Nat.not_lt.mpr closes)

/-- What one completion can do: it moves the recommendation by one, inside the bounds. -/
structure Nudged (before after : AdaptiveController F) : Prop where
  maxCoro : after.maxCoro = before.maxCoro
  minCoro : after.minCoro = before.minCoro
  recommended : after.recommended = before.recommended ∨
    (before.recommended < before.maxCoro ∧ after.recommended = before.recommended + 1) ∨
    (before.minCoro < before.recommended ∧ after.recommended = before.recommended - 1)

omit [Floating F] in
theorem nudged_increaseRecommendation (controller : AdaptiveController F) :
    Nudged controller controller.increaseRecommendation := by
  unfold increaseRecommendation
  split
  · next below => exact ⟨rfl, rfl, .inr (.inl ⟨below, rfl⟩)⟩
  · exact ⟨rfl, rfl, .inl rfl⟩

theorem nudged_adjust (controller : AdaptiveController F) :
    Nudged controller controller.adjust := by
  unfold adjust
  simp only
  split
  · exact nudged_increaseRecommendation controller
  · split
    · exact nudged_increaseRecommendation controller
    · split
      · exact nudged_increaseRecommendation controller
      · split
        · next rising =>
            simp only [Bool.and_eq_true, decide_eq_true_eq] at rising
            exact ⟨rfl, rfl, .inr (.inl ⟨rising.2, rfl⟩)⟩
        · split
          · next falling =>
              simp only [Bool.and_eq_true, decide_eq_true_eq] at falling
              exact ⟨rfl, rfl, .inr (.inr ⟨falling.2, rfl⟩)⟩
          · exact ⟨rfl, rfl, .inl rfl⟩

theorem nudged_registerCompletion (controller : AdaptiveController F) (currentCoroutines : ℕ)
    (now : ℤ) :
    Nudged controller (Controller.registerCompletion controller currentCoroutines now) := by
  by_cases goes : controller.completed + 1 < controller.sampleInterval
  · rw [registerCompletion_open goes]
    exact ⟨rfl, rfl, .inl rfl⟩
  · rw [registerCompletion_closing (Nat.le_of_not_lt goes)]
    rcases nudged_adjust (controller.withSample currentCoroutines now) with
      ⟨maxCoro, minCoro, recommended⟩
    exact ⟨maxCoro, minCoro, recommended⟩

theorem within_afterCompletions {controller : AdaptiveController F}
    (low : controller.minCoro ≤ controller.recommended)
    (high : controller.recommended ≤ controller.maxCoro) (completions : List (ℕ × ℤ)) :
    (Controller.afterCompletions controller completions).recommended ∈
      Set.Icc controller.minCoro controller.maxCoro := by
  have within := @Controller.afterCompletions_induction _ _
    (fun later : AdaptiveController F => later.minCoro = controller.minCoro ∧
      later.maxCoro = controller.maxCoro ∧
      later.recommended ∈ Set.Icc controller.minCoro controller.maxCoro)
    (by
      intro later good currentCoroutines now
      rcases good with ⟨sameMin, sameMax, above, below⟩
      rcases nudged_registerCompletion later currentCoroutines now with
        ⟨keptMax, keptMin, recommended⟩
      refine ⟨keptMin.trans sameMin, keptMax.trans sameMax, ?_, ?_⟩ <;> omega)
    controller ⟨rfl, rfl, low, high⟩ completions
  exact within.2.2

theorem positive_of_minimum {controller : AdaptiveController F}
    (start : 1 ≤ controller.recommended) (minimum : 1 ≤ controller.minCoro) :
    Controller.Positive controller := by
  intro completions
  have positive := @Controller.afterCompletions_induction _ _
    (fun later : AdaptiveController F => 1 ≤ later.recommended ∧ 1 ≤ later.minCoro)
    (by
      intro later good currentCoroutines now
      rcases nudged_registerCompletion later currentCoroutines now with ⟨-, keptMin, recommended⟩
      constructor <;> omega)
    controller ⟨start, minimum⟩ completions
  exact positive.1

end AdaptiveController

theorem FixedController.recommended_afterCompletions (controller : FixedController)
    (completions : List (ℕ × ℤ)) :
    Controller.recommendedCoroutines (Controller.afterCompletions controller completions) =
      controller.coroutines :=
  @Controller.afterCompletions_induction _ _
    (fun later : FixedController => Controller.recommendedCoroutines later = controller.coroutines)
    (fun same currentCoroutines now =>
      (recommended_registerCompletion _ currentCoroutines now).trans same)
    controller rfl completions

theorem FixedController.always_new {good : ℕ → Prop} {fixedCoroutines : ℕ}
    (initially : good fixedCoroutines) (fixedSamplingInterval : ℕ) (start : ℤ) :
    Controller.Always good (new fixedCoroutines fixedSamplingInterval start) := by
  intro completions
  rw [recommended_afterCompletions]
  exact initially

theorem FixedController.positive_new {fixedCoroutines : ℕ} (positive : 1 ≤ fixedCoroutines)
    (fixedSamplingInterval : ℕ) (start : ℤ) :
    Controller.Positive (new fixedCoroutines fixedSamplingInterval start) :=
  always_new positive fixedSamplingInterval start

end Abrade
