import Abrade.Generator.Stdin
import Abrade.Main
import Abrade.Scraper.Coroutine
import Mathlib.Tactic.Abel

/-!
# Every candidate is handed out

The pool does not empty while candidates remain: a coroutine that ends by
itself has seen the generator exhausted or leaves another active coroutine
behind.  The candidates the generator returned are in the hands of coroutines
or have been handed to `Scraper::coroutine`, each once.
-/

namespace Abrade

open Pool (Effect total weigh)

namespace Query

theorem calm_execute {query : Query} {response : Response} {target : Text} {file : FileOutcome}
    {outputs : Outputs} :
    ∀ event ∈ (query.execute response target file outputs).events, event.isAbrupt = false :=
  fun event eventMem => Event.isAbrupt_of_isOfQuery (balanced_execute.ofQuery event eventMem)

end Query

namespace Coroutine

theorem Continuation.calm_events (uri : Text) (next : Continuation) :
    ∀ event ∈ next.events uri, event.isAbrupt = false := by
  cases next <;> simp [events]

/-- The candidate a coroutine has taken and not handed out yet. -/
@[simp]
def held : Coroutine → Multiset Text
  | checking uri => {uri}
  | ready uri => {uri}
  | _ => 0

section Laws

variable {G K : Type} [Generator G] [Controller K] {query : Query} {world world' : World G K}
  {coroutine : Coroutine} {events : List Event} {effect : Effect Coroutine}

theorem Awaits.started_eq {uri : Text} {fetch : Fetch} (awaits : Awaits coroutine uri fetch) :
    coroutine.started = 1 := by
  cases awaits <;> rfl

theorem Awaits.held_eq {uri : Text} {fetch : Fetch} (awaits : Awaits coroutine uri fetch) :
    coroutine.held = 0 := by
  cases awaits <;> rfl

theorem Move.active (move : Move query world coroutine events world' effect) (others : ℕ)
    (counted : world.activeCoroutines = coroutine.started + others) :
    world'.activeCoroutines = weigh started effect.processes + others := by
  cases move with
  | requestThrows awaits =>
      rw [awaits.started_eq] at counted
      exact counted
  | @execute _ _ _ _ _ next =>
      cases next <;> exact counted
  | _ =>
      simp [World.record, World.enter, World.leave, World.escape, World.complete] at counted ⊢
      omega

/-- The generator returns what remains to be emitted, and nothing else uses it. -/
theorem Move.generator (move : Move query world coroutine events world' effect)
    {remaining : List Text} (emits : Generator.Emits world.generator remaining) :
    ∃ later, Generator.Emits world'.generator later ∧
      (remaining : Multiset Text) = total Event.tookUri events + later := by
  cases move with
  | exhausted called =>
      rcases emits.of_next_none called with ⟨rfl, emitsLater⟩
      exact ⟨[], emitsLater, rfl⟩
  | take called =>
      rcases emits.of_next_some called with ⟨later, rfl, emitsLater⟩
      exact ⟨later, emitsLater, by simp⟩
  | generatorThrows called => exact absurd called emits.next_ne_error
  | @execute _ _ _ _ _ next executes =>
      subst executes
      refine ⟨remaining, emits, ?_⟩
      rw [Query.total_execute_append Event.tookUri (by rintro ⟨⟩ <;> simp)]
      cases next <;> simp [Continuation.events]
  | _ => exact ⟨remaining, emits, by simp⟩

/-- A candidate is taken, held and handed out, unless an exception ends its holder. -/
theorem Move.held (move : Move query world coroutine events world' effect)
    (careful : (∃ event ∈ events, event.isAbrupt = true) → coroutine.held = 0) :
    coroutine.held + total Event.tookUri events =
      weigh Coroutine.held effect.processes + total Event.handedUri events := by
  cases move with
  | requestThrows awaits =>
      rw [awaits.held_eq]
      simp
  | @execute _ _ _ _ _ next executes =>
      subst executes
      rw [Query.total_execute_append Event.tookUri (by rintro ⟨⟩ <;> simp),
        Query.total_execute_append Event.handedUri (by rintro ⟨⟩ <;> simp)]
      cases next <;> simp [Continuation.events, Continuation.coroutine]
  | abort =>
      have nothing := careful ⟨.aborted, by simp, rfl⟩
      rw [nothing]
      simp
  | _ => simp

theorem Move.always {good : ℕ → Prop} (move : Move query world coroutine events world' effect)
    (always : Controller.Always good world.controller) :
    Controller.Always good world'.controller := by
  cases move with
  | stay => exact always.registerCompletion _ _
  | exit => exact always.registerCompletion _ _
  | _ => exact always

/--
A coroutine that ends leaves another one behind or has seen the generator
exhausted; one that an exception ends has to be careful about it.
-/
theorem Move.alive (move : Move query world coroutine events world' effect)
    {rest : Multiset Coroutine} (positive : Controller.Positive world.controller)
    (counted : world.activeCoroutines = coroutine.started + weigh started rest)
    {remaining : List Text} (emits : Generator.Emits world.generator remaining)
    (careful : (∃ event ∈ events, event.isAbrupt = true) →
      rest ≠ 0 ∨ Generator.Emits world.generator []) :
    effect.processes + rest ≠ 0 ∨ Generator.Emits world'.generator [] := by
  cases move with
  | exhausted called => exact .inr (emits.of_next_none called).2
  | generatorThrows called => exact absurd called emits.next_ne_error
  | @exit now above =>
      left
      intro empty
      have alone : rest = 0 := by simpa using empty
      have recommended := (positive.registerCompletion world.activeCoroutines now).recommended
      rw [alone] at counted
      simp only [started, Pool.weigh_zero] at counted
      simp only [World.complete, World.recommended] at above
      omega
  | @logThrows uri =>
      simpa [World.escape, World.leave] using careful ⟨.logFailed uri, by simp, rfl⟩
  | abort => simpa using careful ⟨.aborted, by simp, rfl⟩
  | _ => simp

theorem Move.escaped (move : Move query world coroutine events world' effect)
    (smooth : ∀ event ∈ events, event.isAbrupt = false) (contained : world.escaped = false) :
    world'.escaped = false := by
  cases move with
  | generatorThrows => simp at smooth
  | logThrows => simp at smooth
  | _ => exact contained

theorem Move.smooth (move : Move query world coroutine events world' effect)
    (contained : world.escaped = false) {remaining : List Text}
    (emits : Generator.Emits world.generator remaining)
    (logs : ∀ event ∈ events, ∀ uri, event ≠ .logFailed uri) :
    ∀ event ∈ events, event.isAbrupt = false := by
  cases move with
  | generatorThrows called => exact absurd called emits.next_ne_error
  | @logThrows uri => exact absurd rfl (logs (.logFailed uri) (by simp) uri)
  | abort escaped => simp [contained] at escaped
  | @execute _ _ _ _ _ next executes =>
      subst executes
      intro event eventMem
      rcases List.mem_append.mp eventMem with ofQuery | behind
      · exact Query.calm_execute event ofQuery
      · exact next.calm_events _ event behind
  | _ => simp

end Laws

end Coroutine

namespace Scraper

variable {G K : Type} [Generator G] [Controller K] {query : Query} {uris : List Text}
  {trace : List Event} {generator : G} {controller : K}

/--
A step of the pool in which an exception that leaves a coroutine takes no
candidate along, and no chance to go on: the coroutines it ends hold none that
has not been handed out, and others are left unless the generator is exhausted.
-/
inductive CarefulStep (query : Query) : State G K → List Event → State G K → Prop where
  | move {world world' : World G K} {coroutine : Coroutine} {rest : Multiset Coroutine}
      {events : List Event} {effect : Effect Coroutine}
      (moves : Coroutine.Move query world coroutine events world' effect)
      (careful : (∃ event ∈ events, event.isAbrupt = true) →
        coroutine.held = 0 ∧ (rest ≠ 0 ∨ Generator.Emits world.generator [])) :
      CarefulStep query { world, processes := coroutine ::ₘ rest } events
        { world := world', processes := effect.processes + rest }

theorem CarefulStep.of_smooth {state next : State G K} {events : List Event}
    (step : Step query state events next) (smooth : ∀ event ∈ events, event.isAbrupt = false) :
    CarefulStep query state events next := by
  cases step with
  | move moves =>
      apply CarefulStep.move moves
      rintro ⟨event, eventMem, abrupt⟩
      rw [smooth event eventMem] at abrupt
      cases abrupt

theorem CarefulStep.finish_beside {world world' : World G K} {coroutine other : Coroutine}
    {events : List Event} (moves : Coroutine.Move query world coroutine events world' .finish)
    (nothing : coroutine.held = 0) :
    CarefulStep query { world, processes := {coroutine, other} } events
      { world := world', processes := {other} } :=
  @CarefulStep.move _ _ _ _ _ _ _ _ {other} _ _ moves fun _ =>
    ⟨nothing, .inl (Multiset.singleton_ne_zero other)⟩

/-- What holds of a state reached by careful steps, and of the events on the way. -/
structure Covered (uris : List Text) (trace : List Event) (state : State G K) : Prop where
  counted : state.world.activeCoroutines = weigh Coroutine.started state.processes
  remaining : ∃ remaining, Generator.Emits state.world.generator remaining ∧
    (uris : Multiset Text) = total Event.tookUri trace + remaining
  held : total Event.tookUri trace =
    weigh Coroutine.held state.processes + total Event.handedUri trace
  positive : Controller.Positive state.world.controller
  alive : state.processes ≠ 0 ∨ Generator.Emits state.world.generator []

theorem covered_initial (emits : Generator.Emits generator uris)
    (positive : Controller.Positive controller) :
    Covered uris [] (initial generator controller) where
  counted := by simp [initial, Coroutine.started]
  remaining := ⟨uris, emits, by simp⟩
  held := by simp [initial, Coroutine.held]
  positive := positive
  alive := by simp [initial]

theorem Covered.step {state next : State G K} {events : List Event}
    (covered : Covered uris trace state) (step : CarefulStep query state events next) :
    Covered uris (trace ++ events) next := by
  cases step with
  | move moves careful =>
      rcases covered with ⟨counted, ⟨remaining, emits, taken⟩, held, positive, -⟩
      rcases moves.generator emits with ⟨later, emitsLater, takenNow⟩
      have heldNow := moves.held fun abrupt => (careful abrupt).1
      simp only [Pool.weigh_cons] at counted held
      constructor
      · rw [Pool.weigh_add]
        exact moves.active _ counted
      · refine ⟨later, emitsLater, ?_⟩
        rw [taken, takenNow, Pool.total_append]
        abel
      · rw [Pool.total_append, Pool.total_append, Pool.weigh_add, held]
        calc _ = (Coroutine.held _ + total Event.tookUri _) +
              (weigh Coroutine.held _ + total Event.handedUri _) := by abel
          _ = _ := by rw [heldNow]; abel
      · exact moves.always positive
      · exact moves.alive positive counted emits fun abrupt => (careful abrupt).2

/-- Once no coroutine is left, every candidate has been handed out exactly once. -/
theorem Covered.complete {state : State G K} (covered : Covered uris trace state)
    (empty : state.processes = 0) : total Event.handedUri trace = uris := by
  rcases covered with ⟨-, ⟨remaining, emits, taken⟩, held, -, alive⟩
  have exhausted := alive.resolve_left (not_not_intro empty)
  have nothing : remaining = [] := emits.unique exhausted
  rw [taken, held, empty, nothing]
  simp

theorem covered_of_carefulRun (emits : Generator.Emits generator uris)
    (positive : Controller.Positive controller) {finish : State G K}
    (run : Transition.Run (CarefulStep query) (initial generator controller) trace finish) :
    Covered uris trace finish :=
  run.invariant (covered_initial emits positive) Covered.step

theorem carefulRun_of_smooth {start finish : State G K} (run : Run query start trace finish)
    (smooth : ∀ event ∈ trace, event.isAbrupt = false) :
    Transition.Run (CarefulStep query) start trace finish := by
  apply (run.restrict smooth).mono
  rintro state events next ⟨step, smooth⟩
  exact .of_smooth step smooth

/-- No exception has left a coroutine, and the generator works. -/
def Contained (state : State G K) : Prop :=
  state.world.escaped = false ∧ ∃ remaining, Generator.Emits state.world.generator remaining

theorem Contained.step {state next : State G K} {events : List Event}
    (contained : Contained state) (step : Step query state events next)
    (logs : ∀ event ∈ events, ∀ uri, event ≠ .logFailed uri) :
    Contained next ∧ ∀ event ∈ events, event.isAbrupt = false := by
  rcases contained with ⟨contained, remaining, emits⟩
  cases step with
  | move moves =>
      have smooth := moves.smooth contained emits logs
      rcases moves.generator emits with ⟨later, emitsLater, -⟩
      exact ⟨⟨moves.escaped smooth contained, later, emitsLater⟩, smooth⟩

/-- While the error log takes every record, no exception ends a coroutine. -/
theorem smooth_of_logs (emits : Generator.Emits generator uris) {finish : State G K}
    (run : Run query (initial generator controller) trace finish)
    (logs : ∀ event ∈ trace, ∀ uri, event ≠ .logFailed uri) :
    ∀ event ∈ trace, event.isAbrupt = false := by
  have contained : Contained (initial generator controller) := ⟨rfl, uris, emits⟩
  have kept := @Transition.Run.invariant _ _ _ _ _ _
    (fun trace state => Contained state ∧ ∀ event ∈ trace, event.isAbrupt = false)
    ⟨contained, by simp⟩ ?_ (run.restrict logs)
  · exact kept.2
  · rintro trace state events next ⟨contained, smooth⟩ ⟨step, logs⟩
    rcases contained.step step logs with ⟨containedNext, smoothNow⟩
    exact ⟨containedNext, List.forall_mem_append.mpr ⟨smooth, smoothNow⟩⟩

theorem covered_of_logs (emits : Generator.Emits generator uris)
    (positive : Controller.Positive controller) {finish : State G K}
    (run : Run query (initial generator controller) trace finish)
    (logs : ∀ event ∈ trace, ∀ uri, event ≠ .logFailed uri) : Covered uris trace finish :=
  covered_of_carefulRun emits positive
    (carefulRun_of_smooth run (smooth_of_logs emits run logs))

/--
With a controller built from accepted options and an error log that takes every
record, the pool empties only when the generator is exhausted, and then the
candidates handed to `Scraper::coroutine` are the lines of the `--test` loop.
-/
theorem complete_run_hands_out_test_lines {F : Type} [Floating F]
    {compileRegex : Options.CompileRegex} {options accepted : Options}
    {maxRedirectsProvided : Bool}
    (passed : options.validateParsedOptions compileRegex maxRedirectsProvided = .ok accepted)
    (emits : Generator.Emits generator uris) {start : ℤ} {finish : State G (MainController F)}
    (run : Run query (initial generator (accepted.controller start)) trace finish)
    (logs : ∀ event ∈ trace, ∀ uri, event ≠ .logFailed uri) (scheme host : Text) :
    (finish.processes ≠ 0 ∨ Generator.Emits finish.world.generator []) ∧
      (finish.processes = 0 → ∃ lines, (∀ fuel, uris.length < fuel →
          testLoop scheme host fuel generator = .ok lines) ∧
        (total Event.handedUri trace).map (fun uri => scheme ++ host ++ uri) = lines ∧
        total Event.handedUri trace = uris) := by
  have valid := (Options.valid_of_validateParsedOptions passed).1
  have covered := covered_of_logs emits (valid.positive_controller start) run logs
  refine ⟨covered.alive, fun empty => ⟨_, fun fuel => testLoop_eq emits scheme host, ?_, ?_⟩⟩
  · rw [covered.complete empty, Multiset.map_coe]
  · exact covered.complete empty

/-- Two coroutines share two candidates; the one that was spawned fails to connect. -/
theorem complete_run_hands_out_test_lines_of_example :
    ∃ (trace : List Event) (finish : State StdinGenerator (MainController Float)),
      Run (.head ⟨false, 5, [], []⟩)
        (initial ({ stdin := "/a\n/b\n".toList } : StdinGenerator)
          (({ host := "host".toList, initialCoroutines := 2 } : Options).controller 0)) trace
        finish ∧
      finish.processes = 0 ∧ .requestFailed "/b".toList ∈ trace ∧
      total Event.handedUri trace = (["/a".toList, "/b".toList] : List Text) := by
  have emits : Generator.Emits ({ stdin := "/a\n/b\n".toList } : StdinGenerator)
      ["/a".toList, "/b".toList] :=
    @StdinGenerator.emits_unlines ["/a".toList, "/b".toList] (by decide)
  have run : ∃ trace finish,
      Run (.head ⟨false, 5, [], []⟩)
        (initial ({ stdin := "/a\n/b\n".toList } : StdinGenerator)
          (({ host := "host".toList, initialCoroutines := 2 } : Options).controller 0 :
            MainController Float)) trace finish ∧
      finish.processes = 0 ∧ .requestFailed "/b".toList ∈ trace ∧
      ∀ event ∈ trace, ∀ uri, event ≠ .logFailed uri := by
    refine ⟨_, _, (((((((((((((((((.refl :
      Run _ (initial _ _) [] _).step
      (Pool.step_goto .start)).step
      (Pool.step_goto (@Coroutine.Move.take _ _ _ _ _ _ _ "/a".toList rfl))).step
      (Pool.step_spawn (.spawn (by decide)))).step
      (Pool.step_goto_beside .start)).step
      (Pool.step_goto_beside (@Coroutine.Move.take _ _ _ _ _ _ _ "/b".toList rfl))).step
      (Pool.step_goto_beside (.noSpawn (by decide)))).step
      (Pool.step_goto_beside .hand)).step
      (Pool.step_goto_beside (.requestThrows (.connect _ _)))).step
      (Pool.step_goto_beside .log)).step
      (Pool.step_goto_beside (@Coroutine.Move.stay _ _ _ _ _ _ 0 (by decide)))).step
      (Pool.step_finish_beside (.exhausted rfl))).step
      (Pool.step_goto .hand)).step
      (Pool.step_goto .connect)).step
      (Pool.step_goto .write)).step
      (Pool.step_goto (@Coroutine.Move.execute _ _ _ _ _ _ _ _ ⟨200, [], []⟩ (.returns 3)
        ⟨.ok none, _, [.answered _ _, .stored _]⟩ .returned rfl rfl))).step
      (Pool.step_goto (@Coroutine.Move.stay _ _ _ _ _ _ 0 (by decide)))).step
      (Pool.step_finish (.exhausted rfl)), rfl, by simp [Fetch.start],
      by simp [Coroutine.Continuation.events]⟩
  rcases run with ⟨trace, finish, run, empty, failed, logs⟩
  have passed : ({ host := "host".toList, initialCoroutines := 2 } :
      Options).validateParsedOptions (fun _ => .ok fun _ => .ok true) false =
        .ok { host := "host".toList, initialCoroutines := 2 } := by decide
  rcases (complete_run_hands_out_test_lines passed emits run logs [] []).2 empty with
    ⟨lines, -, -, handed⟩
  exact ⟨trace, finish, run, empty, failed, handed⟩

/--
With one coroutine, a failure of the error log ends the run: the second
candidate is never handed out, and no request for it is attempted.
-/
theorem log_failure_ends_run :
    ∃ trace finish,
      Run (.head ⟨false, 5, [], []⟩)
        (initial ({ stdin := "/a\n/b\n".toList } : StdinGenerator)
          (FixedController.new 1 1000 0)) trace finish ∧
      finish.processes = 0 ∧
      Generator.Emits ({ stdin := "/a\n/b\n".toList } : StdinGenerator)
        ["/a".toList, "/b".toList] ∧
      "/b".toList ∉ total Event.handedUri trace ∧ .attempt "/b".toList ∉ trace := by
  refine ⟨_, _, ((((((.refl :
    Run (.head ⟨false, 5, [], []⟩)
      (initial ({ stdin := "/a\n/b\n".toList } : StdinGenerator)
        (FixedController.new 1 1000 0)) [] _).step
    (Pool.step_goto .start)).step
    (Pool.step_goto (@Coroutine.Move.take _ _ _ _ _ _ _ "/a".toList rfl))).step
    (Pool.step_goto (.noSpawn (by decide)))).step
    (Pool.step_goto .hand)).step
    (Pool.step_goto (.requestThrows (.connect _ _)))).step
    (Pool.step_finish .logThrows), rfl,
    @StdinGenerator.emits_unlines ["/a".toList, "/b".toList] (by decide), ?_, ?_⟩
  · simp
  · simp

/--
Whatever the error log does: a run hands out every candidate as long as each
exception that leaves a coroutine ends only coroutines without a candidate that
is still to be handed out, and leaves others behind unless the generator is
exhausted.
-/
theorem careful_run_hands_out_all (emits : Generator.Emits generator uris)
    (positive : Controller.Positive controller) {finish : State G K}
    (run : Transition.Run (CarefulStep query) (initial generator controller) trace finish) :
    (finish.processes ≠ 0 ∨ Generator.Emits finish.world.generator []) ∧
      (finish.processes = 0 → total Event.handedUri trace = uris) :=
  ⟨(covered_of_carefulRun emits positive run).alive,
    (covered_of_carefulRun emits positive run).complete⟩

/-- The error log throws for one candidate, and the coroutine spawned before goes on. -/
theorem careful_run_hands_out_all_of_example :
    ∃ (trace : List Event) (finish : State StdinGenerator FixedController),
      Transition.Run (CarefulStep (.head ⟨false, 5, [], []⟩))
        (initial ({ stdin := "/a\n/b\n".toList } : StdinGenerator)
          (FixedController.new 2 1000 0)) trace finish ∧
      finish.processes = 0 ∧ .logFailed "/a".toList ∈ trace ∧
      total Event.handedUri trace = (["/a".toList, "/b".toList] : List Text) := by
  have emits : Generator.Emits ({ stdin := "/a\n/b\n".toList } : StdinGenerator)
      ["/a".toList, "/b".toList] :=
    @StdinGenerator.emits_unlines ["/a".toList, "/b".toList] (by decide)
  have positive : Controller.Positive (FixedController.new 2 1000 0) :=
    FixedController.positive_new (Nat.le_succ 1) 1000 0
  have run : ∃ trace finish,
      Transition.Run (CarefulStep (.head ⟨false, 5, [], []⟩))
        (initial ({ stdin := "/a\n/b\n".toList } : StdinGenerator)
          (FixedController.new 2 1000 0)) trace finish ∧
      finish.processes = 0 ∧ .logFailed "/a".toList ∈ trace := by
    refine ⟨_, _, ((((((((((((((((.refl :
      Transition.Run (CarefulStep _) (initial _ _) [] _).step
      (.of_smooth (Pool.step_goto .start) (by simp))).step
      (.of_smooth (Pool.step_goto (@Coroutine.Move.take _ _ _ _ _ _ _ "/a".toList rfl))
        (by simp))).step
      (.of_smooth (Pool.step_spawn_behind (.spawn (by decide))) (by simp))).step
      (.of_smooth (Pool.step_goto_beside .hand) (by simp))).step
      (.of_smooth (Pool.step_goto_beside (.requestThrows (.connect _ _))) (by simp))).step
      (.finish_beside .logThrows rfl)).step
      (.of_smooth (Pool.step_goto .start) (by simp))).step
      (.of_smooth (Pool.step_goto (@Coroutine.Move.take _ _ _ _ _ _ _ "/b".toList rfl))
        (by simp))).step
      (.of_smooth (Pool.step_spawn (.spawn (by decide))) (by simp))).step
      (.of_smooth (Pool.step_goto_beside .start) (by simp))).step
      (.of_smooth (Pool.step_finish_beside (.exhausted rfl)) (by simp))).step
      (.of_smooth (Pool.step_goto .hand) (by simp))).step
      (.of_smooth (Pool.step_goto (.requestThrows (.connect _ _))) (by simp))).step
      (.of_smooth (Pool.step_goto .log) (by simp))).step
      (.of_smooth (Pool.step_goto (@Coroutine.Move.stay _ _ _ _ _ _ 0 (by decide)))
        (by simp))).step
      (.of_smooth (Pool.step_finish (.exhausted rfl)) (by simp)), rfl, by simp⟩
  rcases run with ⟨trace, finish, run, empty, failed⟩
  exact ⟨trace, finish, run, empty, failed, (careful_run_hands_out_all emits positive run).2 empty⟩

end Scraper

end Abrade
