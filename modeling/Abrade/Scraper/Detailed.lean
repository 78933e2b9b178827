import Abrade.Library.Termination
import Abrade.Network.Connecting
import Abrade.Scraper.Accounting

/-!
# The pool in detail

The coroutines of the pool with the operations they await one by one, the
exceptions they throw, the connections they close and the error log.  Closing a
TLS connection suspends the coroutine between a response and what follows from
it.  The pool of `Scraper.Coroutine` is what remains when all this is left out:
every detailed run is one of its runs, up to the order of the events.
-/

namespace Abrade

open Awaiting (Program)
open Pool (Effect total weigh)

/-- What a `Scraper` is built from, besides the generator and the controller. -/
structure Equipment where
  library : TlsLibrary
  connection : Connector
  writer : RequestWriter
  query : Query
  /-- `verbose` of the error log. -/
  verbose : Bool

namespace Equipment

/-- What is awaited for a request to `target`. -/
def attempt (equipment : Equipment) (target : Text) : Awaited Response :=
  Abrade.attempt equipment.library equipment.connection equipment.writer equipment.query target

/-- The connection of an attempt and how its shutdown ends. -/
def teardown (equipment : Equipment) (shutdown : ErrorCode) : Teardown :=
  { policy := equipment.connection.policy
    strictTeardown := equipment.connection.sensitiveTeardown, shutdown }

/-- The line of `FileErrorLog::record`. -/
def errorLine (uri : Text) (failure : Exception) : Text :=
  uri ++ ": ".toList ++ failure.what.toList ++ ['\n']

/-- What `FileErrorLog::record` writes to `std::cerr` behind its line. -/
def recordLines (equipment : Equipment) (failure : Exception) : Stderr :=
  if equipment.verbose then ["[-] Exception: " ++ failure.what] else []

end Equipment

namespace Detailed

/-- How a turn of the loop of `Scraper::coroutine` ends; the connection is still to be closed. -/
inductive Ending where
  | threw (failure : Exception)
  | returned
  | follows (fetch : Fetch)
  deriving DecidableEq

namespace Ending

/-- Behind `query.execute`. -/
def ofExecuted (query : Query) (fetch : Fetch) : Except Exception (Option Text) → Ending
  | .error failure => threw failure
  | .ok redirect =>
      match fetch.afterRedirect query.maxRedirects redirect with
      | none => returned
      | some next => follows next

def continuation : Ending → Coroutine.Continuation
  | threw _ => .threw
  | returned => .returned
  | follows fetch => .follows fetch

theorem continuation_ofExecuted (query : Query) (fetch : Fetch)
    (executed : Except Exception (Option Text)) :
    (ofExecuted query fetch executed).continuation =
      Coroutine.continuation query fetch executed := by
  cases executed with
  | error failure => rfl
  | ok redirect =>
      simp only [ofExecuted, Coroutine.continuation]
      cases fetch.afterRedirect query.maxRedirects redirect <;> rfl

end Ending

inductive Event where
  | scraper (event : Abrade.Event)
  /-- A connection is closed. -/
  | closed (teardown : Teardown)
  /-- The error log took a record, of which so many characters reached the file. -/
  | recorded (uri : Text) (failure : Exception) (reached : ℕ)
  /-- The error log threw when so many characters of a record had reached the file. -/
  | recordThrew (uri : Text) (failure : Exception) (reached : ℕ)

/-- The shared state, the error log and `std::cerr`. -/
structure World (G K : Type) where
  shared : Abrade.World G K
  errorLog : Text
  stderr : Stderr

namespace World

variable {G K : Type}

def record (world : World G K) (update : RunStats → RunStats) : World G K :=
  { world with shared := world.shared.record update }

end World

/-- Where a coroutine stands. -/
inductive Coroutine where
  /-- Outside `Scraper::coroutine` and the `catch` block. -/
  | outside (coroutine : Abrade.Coroutine)
  | working (uri : Text) (fetch : Fetch) (rest : Awaited Response)
  /-- In `~Connection`. -/
  | closing (uri : Text) (ending : Ending)
  /-- In the `catch` block, behind `record_error`. -/
  | failed (uri : Text) (failure : Exception)

/-- Whether the coroutine's `LifetimeCounter` is alive: one or zero. -/
def Coroutine.started : Coroutine → ℕ
  | .outside coroutine => coroutine.started
  | _ => 1

/-- The points of the loop of `spawn_coroutine` outside the call of `coroutine`. -/
def IsOutside : Abrade.Coroutine → Prop
  | .created => True
  | .loop => True
  | .checking _ => True
  | .processed => True
  | _ => False

/-- Where a coroutine goes on once its connection is closed. -/
def Ending.coroutine (equipment : Equipment) (uri : Text) : Ending → Coroutine
  | threw failure => .failed uri failure
  | returned => .outside .processed
  | follows next => .working uri next (equipment.attempt next.current)

def outsideEffect : Effect Abrade.Coroutine → Effect Coroutine
  | .goto next => .goto (.outside next)
  | .spawn child next => .spawn (.outside child) (.outside next)
  | .finish => .finish

section Move

variable {G K : Type} [Generator G] [Controller K]

/-- What a coroutine can do next. -/
inductive Move (equipment : Equipment) :
    World G K → Coroutine → List Event → World G K → Effect Coroutine → Prop where
  | outside {world : World G K} {shared : Abrade.World G K} {coroutine : Abrade.Coroutine}
      {events : List Abrade.Event} {effect : Effect Abrade.Coroutine}
      (isOutside : IsOutside coroutine) (contained : ∀ event ∈ events, event ≠ .aborted)
      (moves : Abrade.Coroutine.Move equipment.query world.shared coroutine events shared effect) :
      Move equipment world (.outside coroutine) (events.map .scraper) { world with shared }
        (outsideEffect effect)
  | hand {world : World G K} {uri : Text} :
      Move equipment world (.outside (.ready uri))
        [.scraper (.handed uri), .scraper (.attempt uri)] (world.record .recordAttempt)
        (.goto (.working uri (.start uri) (equipment.attempt uri)))
  | complete {world : World G K} {uri : Text} {fetch : Fetch} {action : String}
      {operation : Operation} {resume : operation.Result → Awaited Response}
      {result : operation.Result} (allowed : operation.Allows result) :
      Move equipment world (.working uri fetch (.await action operation resume)) [] world
        (.goto (.working uri fetch (resume result)))
  | interrupt {world : World G K} {uri : Text} {fetch : Fetch} {action : String}
      {operation : Operation} {resume : operation.Result → Awaited Response} {timedOut : Bool}
      {ec : ErrorCode} {failure : Exception}
      (throws : throwIfFailed action timedOut ec = .error failure) :
      Move equipment world (.working uri fetch (.await action operation resume))
        [.scraper (.requestFailed fetch.current)] world (.goto (.closing uri (.threw failure)))
  | raise {world : World G K} {uri : Text} {fetch : Fetch} {failure : Exception} :
      Move equipment world (.working uri fetch (.fail failure))
        [.scraper (.requestFailed fetch.current)] world (.goto (.closing uri (.threw failure)))
  | execute {world : World G K} {uri : Text} {fetch : Fetch} {response : Response}
      {file : FileOutcome} {executed : Processed (Option Text)}
      (executes : equipment.query.execute response fetch.current file world.shared.outputs =
        executed) :
      Move equipment world (.working uri fetch (.done response)) (executed.events.map .scraper)
        { world with shared := { world.shared with outputs := executed.outputs } }
        (.goto (.closing uri (.ofExecuted equipment.query fetch executed.returned)))
  | close {world : World G K} {uri : Text} {ending : Ending} {shutdown : ErrorCode}
      {stderr : Stderr} (closes : (equipment.teardown shutdown).close world.stderr = .ok stderr) :
      Move equipment world (.closing uri ending)
        (.closed (equipment.teardown shutdown) ::
          (ending.continuation.events uri).map .scraper)
        { world.record ending.continuation.update with stderr }
        (.goto (ending.coroutine equipment uri))
  | log {world : World G K} {uri : Text} {failure : Exception} {reached : ℕ} :
      Move equipment world (.failed uri failure)
        [.scraper (.logged uri), .recorded uri failure reached]
        { world with
          errorLog := world.errorLog ++ (Equipment.errorLine uri failure).take reached
          stderr := world.stderr ++ equipment.recordLines failure }
        (.goto (.outside .processed))
  | logThrows {world : World G K} {uri : Text} {failure : Exception} {reached : ℕ} :
      Move equipment world (.failed uri failure)
        [.scraper (.logFailed uri), .recordThrew uri failure reached]
        { world with
          shared := world.shared.escape
          errorLog := world.errorLog ++ (Equipment.errorLine uri failure).take reached } .finish
  /-- As in the scraper's pool: more than a detached `spawn` lets happen. -/
  | abort {world : World G K} {coroutine : Coroutine} (escaped : world.shared.escaped = true) :
      Move equipment world coroutine [.scraper .aborted]
        { world with
          shared :=
            { world.shared with
              activeCoroutines := world.shared.activeCoroutines - coroutine.started } } .finish

end Move

/-- The shared state and the coroutines that have not ended. -/
abbrev State (G K : Type) :=
  Pool.State (World G K) Coroutine

/-- The state behind the first `spawn_coroutine` of `run`; records are appended to the log. -/
def initial {G K : Type} (generator : G) (controller : K) (errorLog : Text) : State G K where
  world :=
    { shared := (Scraper.initial generator controller).world, errorLog, stderr := [] }
  processes := {.outside .created}

abbrev Run {G K : Type} [Generator G] [Controller K] (equipment : Equipment) :
    State G K → List Event → State G K → Prop :=
  Transition.Run (Pool.Step (Move equipment))

end Detailed

/-! Counters that are still to be added do not matter to anything else. -/

/-- The same world with more counted. -/
def World.shift {G K : Type} (world : World G K) (more : RunStats) : World G K :=
  { world with
    outputs := { world.outputs with stats := world.outputs.stats + more } }

section Shift

variable {more : RunStats} {candidate : Text} {file : FileOutcome} {outputs : Outputs}

theorem RunStats.recordAttempt_add (stats more : RunStats) :
    (stats + more).recordAttempt = stats.recordAttempt + more := by
  rw [recordAttempt_eq, stats.recordAttempt_eq, add_right_comm]

theorem RunStats.recordError_add (stats more : RunStats) :
    (stats + more).recordError = stats.recordError + more := by
  rw [recordError_eq, stats.recordError_eq, add_right_comm]

theorem Coroutine.Continuation.update_add (next : Continuation) (stats more : RunStats) :
    next.update (stats + more) = next.update stats + more := by
  cases next with
  | threw => exact stats.recordError_add more
  | returned => rfl
  | follows fetch => exact stats.recordAttempt_add more

/-- A processing with more counted before and behind it. -/
def Processed.shift {α : Type} (processed : Processed α) (more : RunStats) : Processed α :=
  { processed with
    outputs := { processed.outputs with stats := processed.outputs.stats + more } }

theorem GetAction.process_shift (action : GetAction) (statusCode : ℕ) (body : Text) :
    action.process statusCode body candidate file { outputs with stats := outputs.stats + more } =
      (action.process statusCode body candidate file outputs).shift more := by
  unfold process
  split
  · rfl
  · split
    · rfl
    · simp only [Processed.shift]
      rw [RunStats.recordFiltered_eq, outputs.stats.recordFiltered_eq, add_right_comm]
    · unfold writeOut
      cases file with
      | unusable => rfl
      | writeThrows reached => rfl
      | returns reached =>
          simp only [Processed.shift]
          rw [RunStats.recordBytesWritten_eq, outputs.stats.recordBytesWritten_eq, add_right_comm]

theorem HeadAction.process_shift (statusCode : ℕ) :
    process statusCode candidate file { outputs with stats := outputs.stats + more } =
      (process statusCode candidate file outputs).shift more := by
  unfold process
  split
  · cases file <;> rfl
  · rfl

theorem Query.process_shift (query : Query) (response : Response) :
    query.process response candidate file { outputs with stats := outputs.stats + more } =
      (query.process response candidate file outputs).shift more := by
  cases query with
  | get policy action => exact action.process_shift response.statusCode response.body
  | head policy => exact HeadAction.process_shift response.statusCode

theorem Query.execute_shift (query : Query) (response : Response) :
    query.execute response candidate file { outputs with stats := outputs.stats + more } =
      (query.execute response candidate file outputs).shift more := by
  have recorded : (outputs.stats + more).recordResponse response.statusCode =
      outputs.stats.recordResponse response.statusCode + more := by
    rw [RunStats.recordResponse_eq, outputs.stats.recordResponse_eq, add_right_comm]
  have processed := @process_shift more candidate file
    { outputs with stats := outputs.stats.recordResponse response.statusCode } query response
  simp only [execute, recorded, processed]
  rfl

end Shift

namespace Coroutine

variable {G K : Type} [Generator G] [Controller K] {query : Query} {world world' : World G K}
  {coroutine : Coroutine} {events : List Event} {effect : Effect Coroutine}

theorem Move.shift (move : Move query world coroutine events world' effect) (more : RunStats) :
    Move query (world.shift more) coroutine events (world'.shift more) effect := by
  have recorded (world : World G K) (update : RunStats → RunStats)
      (adds : ∀ stats, update (stats + more) = update stats + more) :
      (world.record update).shift more = (world.shift more).record update := by
    simp only [World.record, World.shift, adds]
  cases move with
  | start => exact .start
  | exhausted called => exact .exhausted called
  | take called => exact .take called
  | generatorThrows called => exact .generatorThrows called
  | spawn below => exact .spawn below
  | noSpawn enough => exact .noSpawn enough
  | hand =>
      rw [recorded _ _ fun stats => stats.recordAttempt_add more]
      exact .hand
  | connect => exact .connect
  | write => exact .write
  | requestThrows awaits =>
      rw [recorded _ _ fun stats => stats.recordError_add more]
      exact .requestThrows awaits
  | @execute uri fetch response file executed next executes continues =>
      subst executes
      rw [recorded _ _ fun stats => next.update_add stats more]
      have shifted := @Query.execute_shift more fetch.current file world.outputs query response
      exact @Move.execute _ _ _ _ query (world.shift more) uri fetch response file _ next shifted
        continues
  | log => exact .log
  | logThrows => exact .logThrows
  | stay needed => exact .stay needed
  | exit above => exact .exit above
  | abort escaped => exact .abort escaped

end Coroutine

namespace Detailed

/-! What remains of a detailed state. -/

/-- What the scraper's pool has seen of an event. -/
@[simp]
def Event.seen : Event → Multiset Abrade.Event
  | scraper event => {event}
  | closed _ => 0
  | recorded _ _ _ => 0
  | recordThrew _ _ _ => 0

/-- The events behind a connection that is still to be closed. -/
@[simp]
def Coroutine.pending : Coroutine → Multiset Abrade.Event
  | closing uri ending => ending.continuation.events uri
  | _ => 0

/-- What these events are going to add to the counters. -/
def Coroutine.uncounted (coroutine : Coroutine) : RunStats :=
  (coroutine.pending.map Abrade.Event.stats).sum

/-- The point at which the scraper's pool sees the coroutine. -/
@[simp]
def Coroutine.view : Coroutine → Abrade.Coroutine
  | outside coroutine => coroutine
  | working uri fetch _ => .connecting uri fetch
  | closing uri ending => ending.continuation.coroutine uri
  | failed uri _ => .failed uri

/-- A detailed state in which every connection is closed at once. -/
def view {G K : Type} (state : State G K) : Scraper.State G K where
  world := state.world.shared.shift (weigh Coroutine.uncounted state.processes)
  processes := state.processes.map Coroutine.view

section View

variable {G K : Type} {world : World G K} {rest : Multiset Coroutine}

theorem total_seen_scraper (events : List Abrade.Event) :
    total Event.seen (events.map .scraper) = events := by
  induction events with
  | nil => rfl
  | cons event events ih => simp [ih]

theorem shift_shift (world : Abrade.World G K) (more others : RunStats) :
    (world.shift more).shift others = world.shift (more + others) := by
  simp only [Abrade.World.shift, add_assoc]

/-- What an ending counts is what its connection holds back. -/
theorem record_ending (world : Abrade.World G K) (uri : Text) (ending : Ending) :
    world.record ending.continuation.update =
      world.shift (Coroutine.closing uri ending).uncounted := by
  simp only [Abrade.World.record, Abrade.World.shift, ending.continuation.update_eq uri,
    Coroutine.uncounted, Coroutine.pending, Multiset.map_coe, Multiset.sum_coe, Pool.total]

theorem uncounted_eq_zero {coroutine : Coroutine} (nothing : coroutine.pending = 0) :
    coroutine.uncounted = 0 := by
  rw [Coroutine.uncounted, nothing]
  rfl

/-- The view of a coroutine with nothing pending, among others. -/
theorem view_cons {coroutine : Coroutine} (nothing : coroutine.pending = 0) :
    view { world, processes := coroutine ::ₘ rest } =
      { world := world.shared.shift (weigh Coroutine.uncounted rest)
        processes := coroutine.view ::ₘ rest.map Coroutine.view } := by
  simp [view, uncounted_eq_zero nothing]

theorem view_closing (uri : Text) (ending : Ending) :
    view { world, processes := .closing uri ending ::ₘ rest } =
      { world :=
          (world.shared.record ending.continuation.update).shift (weigh Coroutine.uncounted rest)
        processes := ending.continuation.coroutine uri ::ₘ rest.map Coroutine.view } := by
  rw [record_ending world.shared uri ending, shift_shift]
  simp [view]

/-- The view of a move that happens outside `Scraper::coroutine`. -/
theorem view_outsideEffect (effect : Effect Abrade.Coroutine) :
    view { world, processes := (outsideEffect effect).processes + rest } =
      { world := world.shared.shift (weigh Coroutine.uncounted rest)
        processes := effect.processes + rest.map Coroutine.view } := by
  cases effect <;> simp [view, outsideEffect, Coroutine.uncounted, Multiset.insert_eq_cons]

theorem Ending.view_coroutine (equipment : Equipment) (uri : Text) (ending : Ending) :
    (ending.coroutine equipment uri).view = ending.continuation.coroutine uri := by
  cases ending <;> rfl

theorem Ending.pending_coroutine (equipment : Equipment) (uri : Text) (ending : Ending) :
    (ending.coroutine equipment uri).pending = 0 := by
  cases ending <;> rfl

end View

section Simulation

variable {G K : Type} [Generator G] [Controller K] {equipment : Equipment}
  {world world' : World G K} {coroutine : Coroutine} {events : List Event}
  {effect : Effect Coroutine}

/-- A move of one coroutine among others, while more is still to be counted. -/
theorem run_of_move {query : Query} {world world' : Abrade.World G K}
    {coroutine : Abrade.Coroutine} {events : List Abrade.Event} {effect : Effect Abrade.Coroutine}
    (moves : Abrade.Coroutine.Move query world coroutine events world' effect) (more : RunStats)
    (rest : Multiset Abrade.Coroutine) :
    Scraper.Run query { world := world.shift more, processes := coroutine ::ₘ rest } events
      { world := world'.shift more, processes := effect.processes + rest } :=
  Transition.Run.refl.step (.move (moves.shift more))

/--
Every move is a run of the scraper's pool, silent or not, in which what follows
a connection happens before it is closed.
-/
theorem Move.simulates (move : Move equipment world coroutine events world' effect)
    (contained : ∀ event ∈ events, event ≠ .scraper .aborted) (rest : Multiset Coroutine) :
    ∃ trace, Scraper.Run equipment.query (view { world, processes := coroutine ::ₘ rest }) trace
        (view { world := world', processes := effect.processes + rest }) ∧
      coroutine.pending + (trace : Multiset Abrade.Event) =
        total Event.seen events + weigh Coroutine.pending effect.processes := by
  cases move with
  | @outside shared coroutine events effect isOutside _ moves =>
      refine ⟨events, ?_, ?_⟩
      · rw [view_outsideEffect, view_cons rfl]
        exact run_of_move moves _ _
      · rw [total_seen_scraper]
        cases effect <;> simp [outsideEffect, Multiset.insert_eq_cons]
  | @hand uri =>
      refine ⟨[.handed uri, .attempt uri], ?_, rfl⟩
      rw [Effect.processes, Multiset.singleton_add, view_cons rfl, view_cons rfl]
      exact run_of_move .hand _ _
  | complete allowed =>
      refine ⟨[], ?_, rfl⟩
      rw [Effect.processes, Multiset.singleton_add, view_cons rfl, view_cons rfl]
      exact .refl
  | @interrupt uri fetch _ _ _ _ _ failure throws =>
      refine ⟨[.requestFailed fetch.current, .threw uri], ?_, rfl⟩
      rw [Effect.processes, Multiset.singleton_add, view_cons rfl, view_closing]
      exact run_of_move (.requestThrows (.connect uri fetch)) _ _
  | @raise uri fetch failure =>
      refine ⟨[.requestFailed fetch.current, .threw uri], ?_, rfl⟩
      rw [Effect.processes, Multiset.singleton_add, view_cons rfl, view_closing]
      exact run_of_move (.requestThrows (.connect uri fetch)) _ _
  | @execute uri fetch response file executed executes =>
      let ending := Ending.ofExecuted equipment.query fetch executed.returned
      refine ⟨executed.events ++ ending.continuation.events uri, ?_, ?_⟩
      · rw [Effect.processes, Multiset.singleton_add, view_cons rfl, view_closing]
        have executing := @Abrade.Coroutine.Move.execute _ _ _ _ equipment.query world.shared uri
          fetch response file executed _ executes rfl
        rw [← Ending.continuation_ofExecuted] at executing
        exact (run_of_move .connect _ _).append
          ((run_of_move .write _ _).append (run_of_move executing _ _))
      · rw [total_seen_scraper, Effect.processes, Pool.weigh_singleton, ← Multiset.coe_add]
        exact zero_add _
  | @close uri ending shutdown stderr closes =>
      refine ⟨[], ?_, ?_⟩
      · rw [Effect.processes, Multiset.singleton_add, view_closing,
          view_cons (ending.pending_coroutine equipment uri), ending.view_coroutine equipment uri]
        exact .refl
      · rw [Pool.total_cons, total_seen_scraper, Effect.processes, Pool.weigh_singleton,
          ending.pending_coroutine equipment uri]
        simp
  | @log uri failure =>
      refine ⟨[.logged uri], ?_, rfl⟩
      rw [Effect.processes, Multiset.singleton_add, view_cons rfl, view_cons rfl]
      exact run_of_move .log _ _
  | @logThrows uri failure reached =>
      refine ⟨[.logFailed uri], ?_, rfl⟩
      have ended := run_of_move (@Abrade.Coroutine.Move.logThrows _ _ _ _ equipment.query
        world.shared uri) (weigh Coroutine.uncounted rest) (rest.map Coroutine.view)
      rw [Effect.processes, zero_add] at ended ⊢
      rw [view_cons rfl]
      exact ended
  | abort => simp at contained

/-- The run of the scraper's pool, move by move. -/
theorem exists_scraper_run {start finish : State G K} {trace : List Event}
    (run : Run equipment start trace finish)
    (contained : ∀ event ∈ trace, event ≠ .scraper .aborted) :
    ∃ coarse, Scraper.Run equipment.query (view start) coarse (view finish) ∧
      weigh Coroutine.pending start.processes + (coarse : Multiset Abrade.Event) =
        total Event.seen trace + weigh Coroutine.pending finish.processes := by
  induction run with
  | refl => exact ⟨[], .refl, by simp⟩
  | step _ moves ih =>
      rw [List.forall_mem_append] at contained
      rcases ih contained.1 with ⟨coarse, coarseRun, same⟩
      cases moves with
      | move move =>
          rcases move.simulates contained.2 _ with ⟨later, laterRun, sameNow⟩
          refine ⟨coarse ++ later, coarseRun.append laterRun, ?_⟩
          simp only [Pool.weigh_cons] at same
          rw [← Multiset.coe_add, ← add_assoc, same, Pool.total_append, Pool.weigh_add]
          calc _ = total Event.seen _ + (Coroutine.pending _ + later) +
                weigh Coroutine.pending _ := by abel
            _ = _ := by rw [sameNow]; abel

/--
Every detailed run, with any policy, is a run of the scraper's pool in which
connections close at once: the same counters, outputs and candidates, and the
same events, of which some happen earlier.
-/
theorem refines_scraper {generator : G} {controller : K} {errorLog : Text} {trace : List Event}
    {finish : State G K} (run : Run equipment (initial generator controller errorLog) trace finish)
    (contained : ∀ event ∈ trace, event ≠ .scraper .aborted) :
    ∃ coarse, Scraper.Run equipment.query (Scraper.initial generator controller) coarse
        (view finish) ∧
      (coarse : Multiset Abrade.Event) =
        total Event.seen trace + weigh Coroutine.pending finish.processes := by
  rcases exists_scraper_run run contained with ⟨coarse, coarseRun, same⟩
  refine ⟨coarse, coarseRun, ?_⟩
  simpa [initial] using same

end Simulation

section Example

/-- A TLS connection to a host with a name, with verification on. -/
def directEquipment : Equipment where
  library := workingLibrary
  connection := .tls (directConnection ("a.io".toList.map ascii))
  writer := .new "a.io".toList "abrade".toList
  query := .head ⟨false, 5, "https".toList, "a.io".toList⟩
  verbose := false

/-- One candidate whose host is not resolved in time. -/
def timedOutTrace (before behind : ℕ) : List Event :=
  [.scraper (.took "/a".toList), .scraper (.recommended before), .scraper (.handed "/a".toList),
    .scraper (.attempt "/a".toList), .scraper (.requestFailed "/a".toList),
    .closed (directEquipment.teardown .success), .scraper (.threw "/a".toList),
    .scraper (.logged "/a".toList), .recorded "/a".toList (timeoutException "resolve host") 100,
    .scraper (.recommended behind), .scraper .exhausted]

theorem run_timedOutTrace {G K : Type} [Generator G] [Controller K] {generator later ended : G}
    {controller : K} (takes : Generator.next generator = .ok (some "/a".toList, later))
    (ends : Generator.next later = .ok (none, ended))
    (enough : ¬ 1 < Controller.recommendedCoroutines controller)
    (needed : ¬ Controller.recommendedCoroutines
      (Controller.registerCompletion controller 1 0) < 1) :
    ∃ finish, Run directEquipment (initial generator controller [])
      (timedOutTrace (Controller.recommendedCoroutines controller)
        (Controller.recommendedCoroutines (Controller.registerCompletion controller 1 0)))
      finish ∧ finish.processes = 0 := by
  have timedOut : throwIfFailed "resolve host" true .success =
      .error (timeoutException "resolve host") := rfl
  have closed : (directEquipment.teardown .success).close [] = .ok [] := rfl
  refine ⟨_, ((((((((((.refl :
    Run directEquipment (initial _ _ _) [] _).step
    (Pool.step_goto (.outside (by trivial) (by simp) .start))).step
    (Pool.step_goto (.outside (by trivial) (by simp) (.take takes)))).step
    (Pool.step_goto (.outside (by trivial) (by simp) (.noSpawn enough)))).step
    (Pool.step_goto .hand)).step
    (Pool.step_goto (.interrupt timedOut))).step
    (Pool.step_goto (.close closed))).step
    (Pool.step_goto (@Move.log _ _ _ _ _ _ _ _ 100))).step
    (Pool.step_goto (.outside (by trivial) (by simp)
      (@Abrade.Coroutine.Move.stay _ _ _ _ _ _ 0 (by exact needed))))).step
    (Pool.step_finish (.outside (by trivial) (by simp) (.exhausted ends)))), rfl⟩

theorem refines_scraper_of_example :
    ∃ (coarse : List Abrade.Event) (finish : State StdinGenerator FixedController),
      Run directEquipment (initial { stdin := "/a\n".toList } (FixedController.new 1 1000 0) [])
          (timedOutTrace 1 1) finish ∧
        Scraper.Run directEquipment.query
          (Scraper.initial ({ stdin := "/a\n".toList } : StdinGenerator)
            (FixedController.new 1 1000 0)) coarse (view finish) ∧
        (coarse : Multiset Abrade.Event) = total Event.seen (timedOutTrace 1 1) := by
  rcases @run_timedOutTrace _ _ _ _ { stdin := "/a\n".toList : StdinGenerator } _ _
    (FixedController.new 1 1000 0) rfl rfl (by decide) (by decide) with ⟨finish, run, empty⟩
  rcases refines_scraper run (by simp [timedOutTrace]) with ⟨coarse, coarseRun, same⟩
  rw [empty, Pool.weigh_zero, add_zero] at same
  exact ⟨coarse, finish, run, coarseRun, same⟩

end Example

end Detailed

end Abrade
