import Abrade.Scraper.Coverage

/-!
# The counters of a run

Every counter is a sum over the events of a run, whatever happens in it.  What
the counters say about each other follows from where requests, candidates and
exceptions are between two events: in the coroutines of the pool.
-/

namespace Abrade

open Pool (Effect total weigh)

namespace Coroutine

/-- The requests a coroutine has begun and not ended. -/
@[simp]
def inFlight : Coroutine → ℕ
  | connecting _ _ => 1
  | writing _ _ => 1
  | reading _ _ => 1
  | _ => 0

/-- The candidate a coroutine is inside `Scraper::coroutine` for. -/
@[simp]
def fetching : Coroutine → Multiset Text
  | connecting uri _ => {uri}
  | writing uri _ => {uri}
  | reading uri _ => {uri}
  | _ => 0

/-- The candidate whose exception a coroutine has not recorded yet. -/
@[simp]
def unlogged : Coroutine → Multiset Text
  | failed uri => {uri}
  | _ => 0

theorem Continuation.update_eq (uri : Text) (next : Continuation) (stats : RunStats) :
    next.update stats = stats + total Event.stats (next.events uri) := by
  cases next with
  | threw => simp [update, events, stats.recordError_eq]
  | returned => simp [update, events]
  | follows fetch => simp [update, events, stats.recordAttempt_eq]

section Laws

variable {G K : Type} [Generator G] [Controller K] {query : Query} {world world' : World G K}
  {coroutine : Coroutine} {events : List Event} {effect : Effect Coroutine}

theorem Move.stats (move : Move query world coroutine events world' effect) :
    world'.outputs.stats = world.outputs.stats + total Event.stats events := by
  cases move with
  | hand => simp [World.record, world.outputs.stats.recordAttempt_eq]
  | requestThrows => simp [World.record, world.outputs.stats.recordError_eq]
  | @execute uri _ _ _ _ next executes =>
      subst executes
      simp only [World.record, next.update_eq uri, Query.balanced_execute.stats,
        Pool.total_append, add_assoc]
  | _ => simp [World.enter, World.leave, World.escape, World.complete]

theorem Move.attempts (move : Move query world coroutine events world' effect) :
    total Event.attempts events =
      total (fun event => event.handedUri.card) events + total Event.redirections events := by
  cases move with
  | @execute _ _ _ _ _ next executes =>
      subst executes
      rw [Query.total_execute_append Event.attempts (by rintro ⟨⟩ <;> simp),
        Query.total_execute_append (fun event => event.handedUri.card) (by rintro ⟨⟩ <;> simp),
        Query.total_execute_append Event.redirections (by rintro ⟨⟩ <;> simp)]
      cases next <;> simp [Continuation.events]
  | _ => simp

/-- An exception comes from a request or from the processing of a response. -/
theorem Move.failures (move : Move query world coroutine events world' effect) :
    total (fun event => event.threwUri.card) events =
      total Event.requestFailures events + total Event.processFailures events := by
  cases move with
  | @execute uri fetch response file executed next executes continues =>
      subst executes
      rw [Query.total_execute_append (fun event => event.threwUri.card) (by rintro ⟨⟩ <;> simp),
        Query.total_execute_append Event.requestFailures (by rintro ⟨⟩ <;> simp),
        Pool.total_append, Query.balanced_execute.failures]
      subst continues
      rcases (query.execute response fetch.current file world.outputs).returned with
        failure | redirect
      · simp [continuation, Continuation.events]
      · simp only [continuation]
        split <;> simp [Continuation.events]
  | _ => simp

theorem Move.successes (move : Move query world coroutine events world' effect) :
    total Event.successes events =
      total Event.filterings events + total query.keeps events := by
  cases move with
  | @execute _ _ _ _ _ next executes =>
      subst executes
      simp only [Pool.total_append, Query.total_successes]
      cases next <;> simp [Continuation.events]
  | _ => simp

/-- A request that has begun ends with a response or without one. -/
theorem Move.requests (move : Move query world coroutine events world' effect)
    (smooth : ∀ event ∈ events, event.isAbrupt = false) :
    coroutine.inFlight + total Event.attempts events =
      weigh inFlight effect.processes +
        (total Event.answers events + total Event.requestFailures events) := by
  cases move with
  | requestThrows awaits => cases awaits <;> simp
  | @execute _ _ _ _ _ next executes =>
      subst executes
      rw [Query.total_execute_append Event.attempts (by rintro ⟨⟩ <;> simp),
        Query.total_execute_append Event.requestFailures (by rintro ⟨⟩ <;> simp),
        Pool.total_append, Query.total_answers]
      cases next <;> simp [Continuation.events, Continuation.coroutine]
  | abort => simp at smooth
  | _ => simp

/-- A candidate handed out ends with an exception or without one. -/
theorem Move.candidates (move : Move query world coroutine events world' effect)
    (smooth : ∀ event ∈ events, event.isAbrupt = false) :
    coroutine.fetching + total Event.handedUri events =
      weigh fetching effect.processes +
        (total Event.threwUri events + total Event.returnedUri events) := by
  cases move with
  | requestThrows awaits => cases awaits <;> simp
  | @execute _ _ _ _ _ next executes =>
      subst executes
      rw [Query.total_execute_append Event.handedUri (by rintro ⟨⟩ <;> simp),
        Query.total_execute_append Event.threwUri (by rintro ⟨⟩ <;> simp),
        Query.total_execute_append Event.returnedUri (by rintro ⟨⟩ <;> simp)]
      cases next <;> simp [Continuation.events, Continuation.coroutine]
  | abort => simp at smooth
  | _ => simp

theorem Move.records (move : Move query world coroutine events world' effect)
    (smooth : ∀ event ∈ events, event.isAbrupt = false) :
    coroutine.unlogged + total Event.threwUri events =
      weigh unlogged effect.processes + total Event.loggedUri events := by
  cases move with
  | requestThrows awaits => cases awaits <;> simp
  | @execute _ _ _ _ _ next executes =>
      subst executes
      rw [Query.total_execute_append Event.threwUri (by rintro ⟨⟩ <;> simp),
        Query.total_execute_append Event.loggedUri (by rintro ⟨⟩ <;> simp)]
      cases next <;> simp [Continuation.events, Continuation.coroutine]
  | logThrows => simp at smooth
  | abort => simp at smooth
  | _ => simp

end Laws

end Coroutine

namespace Scraper

variable {G K : Type} [Generator G] [Controller K] {query : Query} {uris : List Text}
  {trace : List Event} {generator : G} {controller : K}

/--
What the counters and the events say about each other at any moment: what has
begun and not ended yet is with the coroutines.
-/
structure Accounted (query : Query) (trace : List Event) (state : State G K) : Prop where
  stats : state.world.outputs.stats = total Event.stats trace
  attempts : total Event.attempts trace =
    total (fun event => event.handedUri.card) trace + total Event.redirections trace
  failures : total (fun event => event.threwUri.card) trace =
    total Event.requestFailures trace + total Event.processFailures trace
  successes : total Event.successes trace =
    total Event.filterings trace + total query.keeps trace
  requests : total Event.attempts trace =
    weigh Coroutine.inFlight state.processes +
      (total Event.answers trace + total Event.requestFailures trace)
  candidates : total Event.handedUri trace =
    weigh Coroutine.fetching state.processes +
      (total Event.threwUri trace + total Event.returnedUri trace)
  records : total Event.threwUri trace =
    weigh Coroutine.unlogged state.processes + total Event.loggedUri trace

theorem accounted_of_smooth {finish : State G K}
    (run : Run query (initial generator controller) trace finish)
    (smooth : ∀ event ∈ trace, event.isAbrupt = false) : Accounted query trace finish := by
  have smoothRun := Pool.restrict run smooth
  constructor
  · have grown := Pool.accumulated (fun move => move.stats) run
    rwa [initial, ← RunStats.zero_def, zero_add] at grown
  · rw [← Pool.total_add]
    exact Pool.balanced (fun move => by rw [Pool.total_add]; exact move.attempts) run
  · rw [← Pool.total_add]
    exact Pool.balanced (fun move => by rw [Pool.total_add]; exact move.failures) run
  · rw [← Pool.total_add]
    exact Pool.balanced (fun move => by rw [Pool.total_add]; exact move.successes) run
  · have kept := @Pool.conserved _ _ _ _ _ _ _ _ _ Coroutine.inFlight Event.attempts
      (fun event => event.answers + event.requestFailures)
      (fun moves => by rw [Pool.total_add]; exact moves.1.requests moves.2) smoothRun
    rw [Pool.total_add] at kept
    simpa [initial] using kept
  · have kept := @Pool.conserved _ _ _ _ _ _ _ _ _ Coroutine.fetching Event.handedUri
      (fun event => event.threwUri + event.returnedUri)
      (fun moves => by rw [Pool.total_add]; exact moves.1.candidates moves.2) smoothRun
    rw [Pool.total_add] at kept
    simpa [initial] using kept
  · have kept := @Pool.conserved _ _ _ _ _ _ _ _ _ Coroutine.unlogged Event.threwUri
      Event.loggedUri (fun moves => moves.1.records moves.2) smoothRun
    simpa [initial] using kept

theorem total_card (uris : Event → Multiset Text) (trace : List Event) :
    total (fun event => (uris event).card) trace = (total uris trace).card :=
  (Pool.map_total Multiset.cardHom uris trace).symm

/--
However a complete run went, its counters balance as long as the error log took
every record.
-/
theorem counters_of_complete_run (emits : Generator.Emits generator uris)
    (positive : Controller.Positive controller) {finish : State G K}
    (run : Run query (initial generator controller) trace finish)
    (logs : ∀ event ∈ trace, ∀ uri, event ≠ .logFailed uri) (empty : finish.processes = 0) :
    let stats := finish.world.outputs.stats
    stats.attemptedCount = uris.length + total Event.redirections trace ∧
      stats.successCount + stats.nonSuccessCount = total Event.answers trace ∧
      stats.successCount + stats.nonSuccessCount ≤ stats.attemptedCount ∧
      stats.attemptedCount ≤ stats.successCount + stats.nonSuccessCount + stats.errorCount ∧
      stats.errorCount = (total Event.threwUri trace).card ∧
      total Event.threwUri trace = total Event.loggedUri trace ∧
      total Event.threwUri trace ≤ uris ∧
      stats.errorCount ≤ uris.length ∧
      stats.filteredCount ≤ stats.successCount ∧
      ((∃ policy action, query = .get policy action) →
        (∀ event ∈ trace, ∀ target, event ≠ .filterFailed target) →
        stats.successCount - stats.filteredCount = total Event.writes trace) := by
  have smooth := smooth_of_logs emits run logs
  have covered := covered_of_logs emits positive run logs
  rcases accounted_of_smooth run smooth with
    ⟨counters, attempts, failures, successes, requests, candidates, records⟩
  have handed := covered.complete empty
  have answers : total Event.answers trace =
      total Event.successes trace + total Event.nonSuccesses trace := by
    rw [← Pool.total_add, Pool.total_congr fun event _ => event.answers_eq]
  have threw : total Event.threwUri trace ≤ uris := by
    rw [← handed, candidates, empty, Pool.weigh_zero, zero_add]
    exact Multiset.le_add_right _ _
  have few := Multiset.card_le_card threw
  rw [total_card, handed, Multiset.coe_card] at attempts
  rw [total_card] at failures
  rw [empty, Pool.weigh_zero, zero_add] at requests records
  rw [counters, Event.total_stats, total_card]
  dsimp only
  refine ⟨attempts, answers.symm, by omega, by omega, rfl, records, threw, few, by omega, ?_⟩
  rintro ⟨policy, action, rfl⟩ evaluated
  have writes : total (Query.keeps (.get policy action)) trace = total Event.writes trace := by
    apply Pool.total_congr
    intro event eventMem
    cases event with
    | filterFailed target => exact absurd rfl (evaluated _ eventMem target)
    | _ => simp
  omega

/-- One candidate that redirects to a body that is written. -/
theorem counters_of_complete_run_of_example :
    ∃ (trace : List Event) (finish : State StdinGenerator FixedController),
      Run (.get ⟨true, 1, "http".toList, "host".toList⟩ ⟨"out".toList, ⟨[], [], [], []⟩⟩)
          (initial ({ stdin := "/a\n".toList } : StdinGenerator) (FixedController.new 1 1000 0))
          trace finish ∧
        finish.processes = 0 ∧ finish.world.outputs.stats.attemptedCount = 1 + 1 ∧
        finish.world.outputs.stats.successCount - finish.world.outputs.stats.filteredCount =
          total Event.writes trace := by
  have emits : Generator.Emits ({ stdin := "/a\n".toList } : StdinGenerator)
      ["/a".toList] :=
    @StdinGenerator.emits_unlines ["/a".toList] (by decide)
  have positive : Controller.Positive (FixedController.new 1 1000 0) :=
    FixedController.positive_new (Nat.le_refl 1) 1000 0
  have run : ∃ trace finish,
      Run (.get ⟨true, 1, "http".toList, "host".toList⟩ ⟨"out".toList, ⟨[], [], [], []⟩⟩)
        (initial ({ stdin := "/a\n".toList } : StdinGenerator)
          (FixedController.new 1 1000 0)) trace finish ∧
      finish.processes = 0 ∧ (∀ event ∈ trace, ∀ uri, event ≠ .logFailed uri) ∧
      (∀ event ∈ trace, ∀ target, event ≠ .filterFailed target) ∧
      total Event.redirections trace = 1 := by
    refine ⟨_, _, ((((((((((((.refl :
      Run _ (initial _ _) [] _).step
      (Pool.step_goto .start)).step
      (Pool.step_goto (@Coroutine.Move.take _ _ _ _ _ _ _ "/a".toList rfl))).step
      (Pool.step_goto (.noSpawn (by decide)))).step
      (Pool.step_goto .hand)).step
      (Pool.step_goto .connect)).step
      (Pool.step_goto .write)).step
      (Pool.step_goto (@Coroutine.Move.execute _ _ _ _ _ _ _ _ ⟨302, "/b".toList, []⟩
        (.returns 0) ⟨.ok (some "/b".toList), _, [.answered _ _]⟩
        (.follows ⟨"/b".toList, 1⟩) rfl rfl))).step
      (Pool.step_goto .connect)).step
      (Pool.step_goto .write)).step
      (Pool.step_goto (@Coroutine.Move.execute _ _ _ _ _ _ _ _ ⟨200, [], "body".toList⟩
        (.returns 4) ⟨.ok none, _, [.answered _ _, .writeStarted _, .bytesWritten 4, .stored _]⟩
        .returned rfl rfl))).step
      (Pool.step_goto (@Coroutine.Move.stay _ _ _ _ _ _ 0 (by decide)))).step
      (Pool.step_finish (.exhausted rfl)), rfl, by simp [Coroutine.Continuation.events],
      by simp [Coroutine.Continuation.events], by simp [Coroutine.Continuation.events]⟩
  rcases run with ⟨trace, finish, run, empty, logs, evaluated, redirections⟩
  rcases counters_of_complete_run emits positive run logs empty with
    ⟨attempts, -, -, -, -, -, -, -, -, written⟩
  rw [redirections] at attempts
  exact ⟨trace, finish, run, empty, attempts, written ⟨_, _, rfl⟩ evaluated⟩

end Scraper

end Abrade
