import Abrade.Controller
import Abrade.Generator.Basic
import Abrade.Library.Pool
import Abrade.Scraper.Fetch

/-!
# The coroutine pool

`Scraper::run`: coroutines share the generator, the controller, the outputs and
the count of active coroutines, and spawn each other.  A move is the code
between two points at which another coroutine may run, or less; how the
operations on the network and on files end is up to the environment.
-/

namespace Abrade

open Pool (Effect)

/-- What the coroutines share. -/
structure World (G K : Type) where
  generator : G
  controller : K
  outputs : Outputs
  activeCoroutines : ℕ
  /-- Whether an exception has left a coroutine. -/
  escaped : Bool

/-- Where a coroutine stands. -/
inductive Coroutine where
  /-- Spawned; the body has not started. -/
  | created
  /-- At the condition of the loop. -/
  | loop
  /-- A candidate is taken; the recommendation has not been asked for. -/
  | checking (uri : Text)
  /-- Before the call of `coroutine`. -/
  | ready (uri : Text)
  | connecting (uri : Text) (fetch : Fetch)
  | writing (uri : Text) (fetch : Fetch)
  | reading (uri : Text) (fetch : Fetch)
  /-- In the `catch` block, behind `record_error`. -/
  | failed (uri : Text)
  /-- Behind the `catch` block. -/
  | processed
  deriving DecidableEq

namespace World

variable {G K : Type}

def record (world : World G K) (update : RunStats → RunStats) : World G K :=
  { world with outputs := { world.outputs with stats := update world.outputs.stats } }

/-- The constructor of `LifetimeCounter`. -/
def enter (world : World G K) : World G K :=
  { world with activeCoroutines := world.activeCoroutines + 1 }

/-- The destructor of `LifetimeCounter`. -/
def leave (world : World G K) : World G K :=
  { world with activeCoroutines := world.activeCoroutines - 1 }

/-- An exception leaves a coroutine, and the destructor of its `LifetimeCounter` runs. -/
def escape (world : World G K) : World G K :=
  { world.leave with escaped := true }

/-- `controller.register_completion(active_coroutines)` at a clock reading. -/
def complete [Controller K] (world : World G K) (now : ℤ) : World G K :=
  { world with
    controller := Controller.registerCompletion world.controller world.activeCoroutines now }

/-- `controller.recommended_coroutines()`. -/
def recommended [Controller K] (world : World G K) : ℕ :=
  Controller.recommendedCoroutines world.controller

end World

namespace Coroutine

/-- Whether the coroutine's `LifetimeCounter` is alive: one or zero. -/
@[simp]
def started : Coroutine → ℕ
  | created => 0
  | _ => 1

/-- The operation on the network a coroutine waits for. -/
inductive Awaits : Coroutine → Text → Fetch → Prop where
  | connect (uri : Text) (fetch : Fetch) : Awaits (connecting uri fetch) uri fetch
  | write (uri : Text) (fetch : Fetch) : Awaits (writing uri fetch) uri fetch
  | read (uri : Text) (fetch : Fetch) : Awaits (reading uri fetch) uri fetch

/-- How `coroutine` goes on behind `query.execute`. -/
inductive Continuation where
  | threw
  | returned
  | follows (fetch : Fetch)
  deriving DecidableEq

/-- The end of the loop of `coroutine`. -/
def continuation (query : Query) (fetch : Fetch) : Except Exception (Option Text) → Continuation
  | .error _ => .threw
  | .ok redirect =>
      match fetch.afterRedirect query.maxRedirects redirect with
      | none => .returned
      | some next => .follows next

/-- A coroutine of the pool follows a redirect when the loop for its candidate does. -/
theorem afterResponse_of_follows {query : Query} {fetch next : Fetch} {response : Response}
    {file : FileOutcome} {outputs : Outputs}
    (follows : continuation query fetch
      (query.execute response fetch.current file outputs).returned = .follows next) :
    fetch.afterResponse query.redirectPolicy response = some next := by
  simp only [Query.execute] at follows
  generalize (query.process response fetch.current file _).returned = returned at follows
  cases returned with
  | error failure => simp [Except.map, continuation] at follows
  | ok done =>
      simp only [Except.map, continuation] at follows
      unfold Fetch.afterResponse
      split at follows
      · cases follows
      · next later continues =>
          cases follows
          exact continues

namespace Continuation

/-- `record_error` in the `catch` block, or `record_attempt` at the start of the next turn. -/
def update : Continuation → RunStats → RunStats
  | threw => .recordError
  | returned => id
  | follows _ => .recordAttempt

def events (uri : Text) : Continuation → List Event
  | threw => [.threw uri]
  | returned => [.returned uri]
  | follows next => [.redirected next.current, .attempt next.current]

def coroutine (uri : Text) : Continuation → Coroutine
  | threw => failed uri
  | returned => processed
  | follows next => connecting uri next

end Continuation

section Move

variable {G K : Type} [Generator G] [Controller K]

/-- What a coroutine can do next. -/
inductive Move (query : Query) :
    World G K → Coroutine → List Event → World G K → Effect Coroutine → Prop where
  | start {world : World G K} : Move query world created [] world.enter (.goto loop)
  | exhausted {world : World G K} {generator : G}
      (called : Generator.next world.generator = .ok (none, generator)) :
      Move query world loop [.exhausted] { world with generator }.leave .finish
  | take {world : World G K} {generator : G} {uri : Text}
      (called : Generator.next world.generator = .ok (some uri, generator)) :
      Move query world loop [.took uri] { world with generator } (.goto (checking uri))
  | generatorThrows {world : World G K} {failure : Exception}
      (called : Generator.next world.generator = .error failure) :
      Move query world loop [.generatorFailed] world.escape .finish
  | spawn {world : World G K} {uri : Text} (below : world.activeCoroutines < world.recommended) :
      Move query world (checking uri) [.recommended world.recommended] world
        (.spawn created (ready uri))
  | noSpawn {world : World G K} {uri : Text}
      (enough : ¬ world.activeCoroutines < world.recommended) :
      Move query world (checking uri) [.recommended world.recommended] world (.goto (ready uri))
  | hand {world : World G K} {uri : Text} :
      Move query world (ready uri) [.handed uri, .attempt uri] (world.record .recordAttempt)
        (.goto (connecting uri (.start uri)))
  | connect {world : World G K} {uri : Text} {fetch : Fetch} :
      Move query world (connecting uri fetch) [] world (.goto (writing uri fetch))
  | write {world : World G K} {uri : Text} {fetch : Fetch} :
      Move query world (writing uri fetch) [] world (.goto (reading uri fetch))
  | requestThrows {world : World G K} {coroutine : Coroutine} {uri : Text} {fetch : Fetch}
      (awaits : Awaits coroutine uri fetch) :
      Move query world coroutine [.requestFailed fetch.current, .threw uri]
        (world.record .recordError) (.goto (failed uri))
  | execute {world : World G K} {uri : Text} {fetch : Fetch} {response : Response}
      {file : FileOutcome} {executed : Processed (Option Text)} {next : Continuation}
      (executes : query.execute response fetch.current file world.outputs = executed)
      (continues : continuation query fetch executed.returned = next) :
      Move query world (reading uri fetch) (executed.events ++ next.events uri)
        ({ world with outputs := executed.outputs }.record next.update)
        (.goto (next.coroutine uri))
  | log {world : World G K} {uri : Text} :
      Move query world (failed uri) [.logged uri] world (.goto processed)
  | logThrows {world : World G K} {uri : Text} :
      Move query world (failed uri) [.logFailed uri] world.escape .finish
  | stay {world : World G K} {now : ℤ}
      (needed : ¬ (world.complete now).recommended < (world.complete now).activeCoroutines) :
      Move query world processed [.recommended (world.complete now).recommended]
        (world.complete now) (.goto loop)
  | exit {world : World G K} {now : ℤ}
      (above : (world.complete now).recommended < (world.complete now).activeCoroutines) :
      Move query world processed [.recommended (world.complete now).recommended]
        (world.complete now).leave .finish
  /--
  An exception has left another coroutine.  With `spawn(..., detached)` it is
  dropped and ends nothing else; that it may end any other coroutine as well is
  an over-approximation, so that results do not depend on it.
  -/
  | abort {world : World G K} {coroutine : Coroutine} (escaped : world.escaped = true) :
      Move query world coroutine [.aborted]
        { world with activeCoroutines := world.activeCoroutines - coroutine.started } .finish

end Move

end Coroutine

namespace Scraper

variable {G K : Type} [Generator G] [Controller K]

/-- The shared state and the coroutines that have not ended. -/
abbrev State (G K : Type) :=
  Pool.State (World G K) Coroutine

/-- The state behind the first `spawn_coroutine` of `run`. -/
def initial (generator : G) (controller : K) : State G K where
  world :=
    { generator, controller
      outputs := { stats := {}, found := [], files := fun _ => none }
      activeCoroutines := 0
      escaped := false }
  processes := {.created}

/-- The `io_context` runs one coroutine for a while. -/
abbrev Step (query : Query) : State G K → List Event → State G K → Prop :=
  Pool.Step (Coroutine.Move query)

/-- Runs of `io_context::run`, complete once no coroutine is left. -/
abbrev Run (query : Query) : State G K → List Event → State G K → Prop :=
  Transition.Run (Step query)

end Scraper

end Abrade
