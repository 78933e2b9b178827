import Abrade.Controller
import Abrade.Generator.Basic
import Abrade.Options

/-!
# What `main` builds

The controllers, the query and the `--test` loop of `main`, as functions of the
options.
-/

namespace Abrade

/-- The controller behind the reference `main` passes on. -/
inductive MainController (F : Type) where
  | fixed (controller : FixedController)
  | adaptive (controller : AdaptiveController F)

namespace MainController

variable {F : Type} [Floating F]

instance : Controller (MainController F) where
  registerCompletion
    | fixed controller, currentCoroutines, now =>
        fixed (Controller.registerCompletion controller currentCoroutines now)
    | adaptive controller, currentCoroutines, now =>
        adaptive (Controller.registerCompletion controller currentCoroutines now)
  recommendedCoroutines
    | fixed controller => Controller.recommendedCoroutines controller
    | adaptive controller => Controller.recommendedCoroutines controller

theorem afterCompletions_fixed (controller : FixedController) (completions : List (ℕ × ℤ)) :
    Controller.afterCompletions (fixed controller : MainController F) completions =
      fixed (Controller.afterCompletions controller completions) := by
  induction completions generalizing controller with
  | nil => rfl
  | cons completion completions ih => exact ih _

theorem afterCompletions_adaptive (controller : AdaptiveController F)
    (completions : List (ℕ × ℤ)) :
    Controller.afterCompletions (adaptive controller) completions =
      adaptive (Controller.afterCompletions controller completions) := by
  induction completions generalizing controller with
  | nil => rfl
  | cons completion completions ih => exact ih _

end MainController

namespace Options

variable {F : Type} [Floating F]

def fixedController (options : Options) (start : ℤ) : FixedController :=
  .new options.initialCoroutines options.sampleInterval start

def adaptiveController (options : Options) (start : ℤ) : AdaptiveController F :=
  .new options.initialCoroutines options.sampleSize options.sampleInterval
    options.minimumCoroutines options.maximumCoroutines start

/-- The controller `main` selects, started at a clock reading. -/
def controller (options : Options) (start : ℤ) : MainController F :=
  if options.optimize then .adaptive (options.adaptiveController start)
  else .fixed (options.fixedController start)

def makeRedirectPolicy (options : Options) : RedirectPolicy :=
  { follow := options.followRedirects
    maxRedirects := options.maxRedirects
    scheme := if options.tls then "https".toList else "http".toList
    authority := options.host }

def makeRegex (compileRegex : CompileRegex) (pattern : Text) : Except Exception Regex :=
  match compileRegex pattern with
  | .error what => .error (.runtimeError what)
  | .ok regex => .ok regex

def makeContentFilters (compileRegex : CompileRegex) (options : Options) :
    Except Exception ContentFilters := do
  let requiredRegexes ← options.requiredRegexes.mapM (makeRegex compileRegex)
  let rejectedRegexes ← options.rejectedRegexes.mapM (makeRegex compileRegex)
  return { requiredLiterals := options.requiredLiterals
           rejectedLiterals := options.rejectedLiterals, requiredRegexes, rejectedRegexes }

/-- `make_get` or `make_head`. -/
def makeQuery (compileRegex : CompileRegex) (options : Options) : Except Exception Query := do
  if options.contents then
    let filters ← options.makeContentFilters compileRegex
    return .get options.makeRedirectPolicy { pathDir := options.outputPath, filters }
  else return .head options.makeRedirectPolicy

/-- Neither controller of valid options ever recommends to stop altogether. -/
theorem Valid.positive_controller {compileRegex : CompileRegex} {options : Options}
    (valid : options.Valid compileRegex) (start : ℤ) :
    Controller.Positive (options.controller start : MainController F) := by
  intro completions
  unfold controller
  split
  · rw [MainController.afterCompletions_adaptive]
    exact AdaptiveController.positive_of_minimum valid.initial valid.minimum completions
  · rw [MainController.afterCompletions_fixed]
    exact FixedController.positive_new valid.initial options.sampleInterval start completions

/-- The recommendation may start outside the bounds, and then it is not between them. -/
theorem init_outside_accepted :
    ∃ accepted, ({ host := "host".toList, optimize := true, maximumCoroutines := 500 } :
        Options).validateParsedOptions (fun _ => .ok fun _ => .ok true) false = .ok accepted ∧
      ¬ ∀ completions, Controller.recommendedCoroutines
          (Controller.afterCompletions (accepted.adaptiveController 0 : AdaptiveController Float)
            completions) ∈
        Set.Icc accepted.minimumCoroutines accepted.maximumCoroutines := by
  refine ⟨{ host := "host".toList, optimize := true, maximumCoroutines := 500 }, by decide, ?_⟩
  intro within
  have fresh := (within []).2
  exact absurd fresh (by decide)

/--
The adaptive recommendation stays between the bounds in every run, its start
included, exactly when it starts between them.
-/
theorem recommended_within_iff (options : Options) (start : ℤ) :
    (∀ completions, Controller.recommendedCoroutines
        (Controller.afterCompletions (options.adaptiveController start : AdaptiveController F)
          completions) ∈
      Set.Icc options.minimumCoroutines options.maximumCoroutines) ↔
      options.minimumCoroutines ≤ options.initialCoroutines ∧
        options.initialCoroutines ≤ options.maximumCoroutines := by
  constructor
  · intro within
    exact within []
  · rintro ⟨low, high⟩ completions
    exact @AdaptiveController.within_afterCompletions F _ (options.adaptiveController start) low
      high completions

end Options

section TestLoop

variable {G : Type} [Generator G]

/-- The `--test` loop: the lines it writes. -/
def testLoop (scheme host : Text) : ℕ → G → Except Exception (List Text)
  | 0, _ => .error .outOfFuel
  | fuel + 1, generator => do
      match ← Generator.next generator with
      | (none, _) => return []
      | (some uri, generator) =>
          let lines ← testLoop scheme host fuel generator
          return (scheme ++ host ++ uri) :: lines

theorem testLoop_eq {generator : G} {uris : List Text} (emits : Generator.Emits generator uris)
    (scheme host : Text) {fuel : ℕ} (enough : uris.length < fuel) :
    testLoop scheme host fuel generator = .ok (uris.map fun uri => scheme ++ host ++ uri) := by
  induction uris generalizing generator fuel with
  | nil =>
      rcases Nat.exists_eq_add_one_of_ne_zero (Nat.ne_zero_of_lt enough) with ⟨fuel, rfl⟩
      rcases emits.next_nil with ⟨rest, called, -⟩
      simp [testLoop, called, pure, Except.pure]
  | cons uri uris ih =>
      rcases Nat.exists_eq_add_one_of_ne_zero (Nat.ne_zero_of_lt enough) with ⟨fuel, rfl⟩
      rcases emits.next_cons with ⟨rest, called, emitsRest⟩
      have lines := ih emitsRest (Nat.lt_of_succ_lt_succ enough)
      simp [testLoop, called, lines, pure, Except.pure]

end TestLoop

end Abrade
