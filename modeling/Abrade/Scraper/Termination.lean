import Abrade.Library.Termination
import Abrade.Scraper.Determinism

/-!
# Every run ends

A candidate spawns at most one coroutine and follows a bounded number of
redirects, so that no schedule and no answers of the network keep the pool
going.  While a coroutine is left it can move, and whatever has happened so far
can be completed.
-/

namespace Abrade

open Pool (Effect total weigh)

namespace Query

/-- The moves one candidate can cause at most, those of the coroutine it spawns included. -/
def movesPerCandidate (query : Query) : ℕ :=
  3 * query.maxRedirects + 10

end Query

namespace Coroutine

variable {query : Query}

/-- The moves a coroutine can still make without another candidate. -/
@[simp]
def movesLeft (query : Query) : Coroutine → ℕ
  | created => 2
  | loop => 1
  | checking _ => query.movesPerCandidate
  | ready _ => 3 * query.maxRedirects + 7
  | connecting _ fetch => 3 * query.turnsLeft fetch + 3
  | writing _ fetch => 3 * query.turnsLeft fetch + 2
  | reading _ fetch => 3 * query.turnsLeft fetch + 1
  | failed _ => 3
  | processed => 2

/-- The attempts the candidate of a coroutine can still cause. -/
@[simp]
def attemptsLeft (query : Query) : Coroutine → ℕ
  | connecting _ fetch => query.maxRedirects - fetch.redirectsFollowed
  | writing _ fetch => query.maxRedirects - fetch.redirectsFollowed
  | reading _ fetch => query.maxRedirects - fetch.redirectsFollowed
  | _ => 0

theorem movesLeft_pos (coroutine : Coroutine) : 0 < coroutine.movesLeft query := by
  cases coroutine <;> simp [Query.movesPerCandidate]

theorem Awaits.movesLeft_gt {coroutine : Coroutine} {uri : Text} {fetch : Fetch}
    (awaits : Awaits coroutine uri fetch) : (failed uri).movesLeft query <
      coroutine.movesLeft query := by
  cases awaits <;>
    · simp only [movesLeft, Query.turnsLeft]
      omega

section Laws

variable {G K : Type} [Generator G] [Controller K] {world world' : World G K}
  {coroutine : Coroutine} {events : List Event} {effect : Effect Coroutine}

/-- What the candidates that the generator has not returned yet can cause. -/
def Outstanding (query : Query) (world : World G K) (moves : ℕ) : Prop :=
  ∃ remaining, Generator.Emits world.generator remaining ∧
    moves = remaining.length * query.movesPerCandidate

/-- Every move uses up one of the moves that are left, at least. -/
theorem Move.lowers (move : Move query world coroutine events world' effect)
    (within : coroutine.Within query) {moves : ℕ} (outstanding : Outstanding query world moves) :
    ∃ moves', Outstanding query world' moves' ∧
      moves' + weigh (movesLeft query) effect.processes < moves + coroutine.movesLeft query := by
  rcases outstanding with ⟨remaining, emits, rfl⟩
  cases move with
  | start => exact ⟨_, ⟨remaining, emits, rfl⟩, by simp⟩
  | exhausted called =>
      rcases emits.of_next_none called with ⟨rfl, emitsLater⟩
      exact ⟨_, ⟨[], emitsLater, rfl⟩, by simp⟩
  | take called =>
      rcases emits.of_next_some called with ⟨later, rfl, emitsLater⟩
      refine ⟨_, ⟨later, emitsLater, rfl⟩, ?_⟩
      simp [Nat.add_mul]
  | generatorThrows called => exact absurd called emits.next_ne_error
  | spawn =>
      refine ⟨_, ⟨remaining, emits, rfl⟩, ?_⟩
      simp [Query.movesPerCandidate, Multiset.insert_eq_cons]
      omega
  | noSpawn =>
      refine ⟨_, ⟨remaining, emits, rfl⟩, ?_⟩
      simp [Query.movesPerCandidate]
  | hand =>
      refine ⟨_, ⟨remaining, emits, rfl⟩, ?_⟩
      simp [Query.turnsLeft, Fetch.start]
      omega
  | connect => exact ⟨_, ⟨remaining, emits, rfl⟩, by simp⟩
  | write => exact ⟨_, ⟨remaining, emits, rfl⟩, by simp⟩
  | requestThrows awaits =>
      refine ⟨_, ⟨remaining, emits, rfl⟩, ?_⟩
      simpa using awaits.movesLeft_gt
  | @execute uri fetch _ _ _ next executes continues =>
      subst executes
      refine ⟨_, ⟨remaining, emits, rfl⟩, ?_⟩
      cases next with
      | threw =>
          simp only [Effect.processes, Pool.weigh_singleton, Continuation.coroutine, movesLeft,
            Query.turnsLeft]
          omega
      | returned =>
          simp only [Effect.processes, Pool.weigh_singleton, Continuation.coroutine, movesLeft,
            Query.turnsLeft]
          omega
      | follows next =>
          have turns := turnsLeft_of_follows (afterResponse_of_follows continues) within
          simp [Continuation.coroutine, turns]
          omega
  | log => exact ⟨_, ⟨remaining, emits, rfl⟩, by simp⟩
  | logThrows => exact ⟨_, ⟨remaining, emits, rfl⟩, by simp⟩
  | stay => exact ⟨_, ⟨remaining, emits, rfl⟩, by simp⟩
  | exit => exact ⟨_, ⟨remaining, emits, rfl⟩, by simp⟩
  | abort =>
      refine ⟨_, ⟨remaining, emits, rfl⟩, ?_⟩
      simpa using coroutine.movesLeft_pos

/-- Whatever the state is, the coroutine can go on. -/
theorem Move.exists_move (query : Query) (world : World G K) (coroutine : Coroutine) :
    ∃ events world' effect, Move query world coroutine events world' effect := by
  cases coroutine with
  | created => exact ⟨_, _, _, .start⟩
  | loop =>
      rcases called : Generator.next world.generator with failure | ⟨_ | uri, generator⟩
      · exact ⟨_, _, _, .generatorThrows called⟩
      · exact ⟨_, _, _, .exhausted called⟩
      · exact ⟨_, _, _, .take called⟩
  | checking uri =>
      by_cases below : world.activeCoroutines < world.recommended
      · exact ⟨_, _, _, .spawn below⟩
      · exact ⟨_, _, _, .noSpawn below⟩
  | ready uri => exact ⟨_, _, _, .hand⟩
  | connecting uri fetch => exact ⟨_, _, _, .connect⟩
  | writing uri fetch => exact ⟨_, _, _, .write⟩
  | reading uri fetch => exact ⟨_, _, _, .requestThrows (.read uri fetch)⟩
  | failed uri => exact ⟨_, _, _, .log⟩
  | processed =>
      by_cases above : (world.complete 0).recommended < (world.complete 0).activeCoroutines
      · exact ⟨_, _, _, .exit above⟩
      · exact ⟨_, _, _, .stay above⟩

theorem Move.attempts_bounded (move : Move query world coroutine events world' effect)
    (within : coroutine.Within query) :
    weigh (attemptsLeft query) effect.processes + total Event.attempts events ≤
      coroutine.attemptsLeft query +
        total (fun event => event.handedUri.card * (query.maxRedirects + 1)) events := by
  cases move with
  | @execute uri fetch _ _ _ next executes continues =>
      subst executes
      rw [Query.total_execute_append Event.attempts (by rintro ⟨⟩ <;> simp),
        Query.total_execute_append _ (by rintro ⟨⟩ <;> simp)]
      cases next with
      | follows next =>
          have turns := turnsLeft_of_follows (afterResponse_of_follows continues) within
          simp [Continuation.events, Continuation.coroutine, Query.turnsLeft] at turns ⊢
          omega
      | _ => simp [Continuation.events, Continuation.coroutine]
  | hand =>
      simp [Fetch.start]
  | requestThrows awaits => simp
  | _ => simp

/-- A candidate that has been taken is handed out once or not at all. -/
theorem Move.handed_bounded (move : Move query world coroutine events world' effect) :
    weigh (fun coroutine => coroutine.held.card) effect.processes +
        total (fun event => event.handedUri.card) events ≤
      coroutine.held.card + total (fun event => event.tookUri.card) events := by
  cases move with
  | @execute _ _ _ _ _ next executes =>
      subst executes
      rw [Query.total_execute_append (fun event => event.handedUri.card) (by rintro ⟨⟩ <;> simp)]
      cases next <;> simp [Continuation.events, Continuation.coroutine]
  | _ => simp

/-- The coroutine itself, and the one it may still spawn for the candidate it has taken. -/
@[simp]
def places : Coroutine → ℕ
  | checking _ => 2
  | _ => 1

theorem started_le_places (coroutine : Coroutine) : coroutine.started ≤ coroutine.places := by
  cases coroutine <;> simp

theorem one_le_places (coroutine : Coroutine) : 1 ≤ coroutine.places := by
  cases coroutine <;> simp

theorem Move.places_bounded (move : Move query world coroutine events world' effect) :
    weigh places effect.processes ≤
      coroutine.places + total (fun event => event.tookUri.card) events := by
  cases move with
  | requestThrows awaits => cases awaits <;> simp
  | @execute _ _ _ _ _ next executes => cases next <;> simp [Continuation.coroutine]
  | spawn => simp [Multiset.insert_eq_cons]
  | _ => simp

end Laws

end Coroutine

namespace Scraper

open Coroutine

variable {G K : Type} [Generator G] [Controller K] {query : Query} {uris : List Text}
  {trace : List Event} {generator : G} {controller : K}

omit [Controller K] in
theorem measured_initial (emits : Generator.Emits generator uris) :
    Pool.Measured (Outstanding query) (Within query) (movesLeft query)
      (initial generator controller) (uris.length * query.movesPerCandidate + 2) :=
  ⟨by simp [initial], _, ⟨uris, emits, rfl⟩, by simp [initial]⟩

theorem lowers (query : Query) : Transition.Lowers (@Step G K _ _ query)
    (Pool.Measured (Outstanding query) (Within query) (movesLeft query)) :=
  Pool.lowers_of_law (fun move => move.within) fun move within => move.lowers within

/--
No run is longer than a number that the candidates and the limit on redirects
fix, whatever the network, the files, the clock and the scheduler do; and as
long as a coroutine is left, the run can go on.
-/
theorem run_ends (emits : Generator.Emits generator uris) {count : ℕ} {finish : State G K}
    (steps : Transition.Steps (Step query) (initial generator controller) count trace finish) :
    count ≤ uris.length * (3 * query.maxRedirects + 10) + 2 ∧
      (finish.processes ≠ 0 → ∃ events next, Step query finish events next) := by
  constructor
  · rcases steps.bounded (lowers query) (measured_initial emits) with ⟨left, bounded, -⟩
    unfold Query.movesPerCandidate at bounded
    omega
  · intro nonempty
    apply Pool.exists_step nonempty
    intro coroutine _
    exact Move.exists_move query finish.world coroutine

/-- The generator emits what has not been taken, whatever has happened so far. -/
theorem remaining_of_run (emits : Generator.Emits generator uris) {finish : State G K}
    (run : Run query (initial generator controller) trace finish) :
    ∃ remaining, Generator.Emits finish.world.generator remaining ∧
      (uris : Multiset Text) = total Event.tookUri trace + remaining := by
  refine @Transition.Run.invariant _ _ _ _ _ _
    (fun trace state => ∃ remaining, Generator.Emits state.world.generator remaining ∧
      (uris : Multiset Text) = total Event.tookUri trace + remaining)
    ⟨uris, emits, by simp⟩ ?_ run
  rintro trace state events next ⟨remaining, emits, parts⟩ step
  cases step with
  | move moves =>
      rcases moves.generator emits with ⟨later, emitsLater, partsNow⟩
      refine ⟨later, emitsLater, ?_⟩
      rw [parts, partsNow, Pool.total_append, add_assoc]

/-- The candidates taken are among those the generator emits. -/
theorem taken_of_run (emits : Generator.Emits generator uris) {finish : State G K}
    (run : Run query (initial generator controller) trace finish) :
    total (fun event => event.tookUri.card) trace ≤ uris.length := by
  rcases remaining_of_run emits run with ⟨remaining, -, parts⟩
  have counted := congrArg Multiset.card parts
  rw [Multiset.card_add, ← total_card, Multiset.coe_card] at counted
  omega

/-- The count of active coroutines is right, also behind exceptions. -/
theorem counted_of_run {finish : State G K}
    (run : Run query (initial generator controller) trace finish) :
    finish.world.activeCoroutines = weigh Coroutine.started finish.processes :=
  @Transition.Run.invariant _ _ _ _ _ _
    (fun _ state => state.world.activeCoroutines = weigh Coroutine.started state.processes)
    (by simp [initial])
    (fun counted step => Pool.counted_of_step (fun move => move.active) step counted) run

/--
In every run, exceptions that leave coroutines included, the requests are at
most so many for each candidate, and there are never more coroutines than
candidates and one.
-/
theorem resources_of_run (emits : Generator.Emits generator uris) {finish : State G K}
    (run : Run query (initial generator controller) trace finish) :
    finish.world.outputs.stats.attemptedCount ≤ uris.length * (query.maxRedirects + 1) ∧
      finish.processes.card ≤ uris.length + 1 ∧
      finish.world.activeCoroutines ≤ uris.length + 1 := by
  have taken := taken_of_run emits run
  have handed := Pool.budgeted (fun move => move.handed_bounded) run
  have guarded := Pool.guard (fun move => move.within) (by simp [initial]) run
  have attempts := Pool.budgeted (fun move => move.1.attempts_bounded move.2) guarded
  have places := @Pool.budgeted _ _ _ _ _ (fun event => event.tookUri.card) (fun _ => 0)
    (fun move => by
      rw [Pool.total_eq_zero fun _ _ => rfl, add_zero]
      exact move.places_bounded) _ _ _ run
  have multiplied := Pool.map_total (AddMonoidHom.mulRight (query.maxRedirects + 1))
    (fun event => event.handedUri.card) trace
  have grown := Pool.accumulated (fun move => move.stats) run
  have counted := counted_of_run run
  have started := Pool.weigh_mono started_le_places finish.processes
  have present := Pool.weigh_mono one_le_places finish.processes
  rw [initial, ← RunStats.zero_def, zero_add, Event.total_stats] at grown
  rw [Pool.total_eq_zero fun _ _ => rfl, add_zero] at places
  rw [Pool.weigh_one] at present
  simp only [initial, Pool.weigh_singleton, Coroutine.places] at places
  simp only [AddMonoidHom.coe_mulRight] at multiplied
  simp only [initial, Pool.weigh_singleton, Coroutine.attemptsLeft, zero_add, held,
    Multiset.card_zero] at attempts handed
  refine ⟨?_, by omega, by omega⟩
  calc finish.world.outputs.stats.attemptedCount = total Event.attempts trace := by rw [grown]
    _ ≤ total (fun event => event.handedUri.card) trace * (query.maxRedirects + 1) := by omega
    _ ≤ uris.length * (query.maxRedirects + 1) := Nat.mul_le_mul_right _ (by omega)

/-- One candidate that is answered, up to the end of the pool. -/
theorem run_ends_of_example :
    ∃ (trace : List Event) (finish : State StdinGenerator FixedController),
      Transition.Steps (Step (.head ⟨false, 5, [], []⟩))
        (initial ({ stdin := "/a\n".toList } : StdinGenerator) (FixedController.new 1 1000 0))
        9 trace finish ∧
      finish.processes = 0 ∧
      9 ≤ (["/a".toList] : List Text).length * (3 * 5 + 10) + 2 := by
  have emits : Generator.Emits ({ stdin := "/a\n".toList } : StdinGenerator) ["/a".toList] :=
    @StdinGenerator.emits_unlines ["/a".toList] (by decide)
  have steps : ∃ trace finish,
      Transition.Steps (Step (.head ⟨false, 5, [], []⟩))
        (initial ({ stdin := "/a\n".toList } : StdinGenerator) (FixedController.new 1 1000 0))
        9 trace finish ∧ finish.processes = 0 := by
    refine ⟨_, _, (((((((((.refl :
      Transition.Steps _ (initial _ _) 0 [] _).step
      (Pool.step_goto .start)).step
      (Pool.step_goto (@Coroutine.Move.take _ _ _ _ _ _ _ "/a".toList rfl))).step
      (Pool.step_goto (.noSpawn (by decide)))).step
      (Pool.step_goto .hand)).step
      (Pool.step_goto .connect)).step
      (Pool.step_goto .write)).step
      (Pool.step_goto (@Coroutine.Move.execute _ _ _ _ _ _ _ _ ⟨200, [], []⟩ (.returns 3)
        ⟨.ok none, _, [.answered _ _, .stored _]⟩ .returned rfl rfl))).step
      (Pool.step_goto (@Coroutine.Move.stay _ _ _ _ _ _ 0 (by decide)))).step
      (Pool.step_finish (.exhausted rfl)), rfl⟩
  rcases steps with ⟨trace, finish, steps, empty⟩
  exact ⟨trace, finish, steps, empty, (run_ends emits steps).1⟩

/--
The error log throws for the first of two candidates, and the coroutine it has
spawned is left.
-/
theorem run_behind_failed_log :
    ∃ (trace : List Event) (state : State StdinGenerator FixedController),
      Run (.head ⟨false, 5, [], []⟩)
        (initial ({ stdin := "/a\n/b\n".toList } : StdinGenerator) (FixedController.new 2 1000 0))
        trace state ∧
      .logFailed "/a".toList ∈ trace ∧ total Event.tookUri trace = {"/a".toList} ∧
      state.world.outputs.stats.attemptedCount = 1 ∧ state.processes = {.created} := by
  refine ⟨_, _, ((((((.refl :
    Run _ (initial _ _) [] _).step
    (Pool.step_goto .start)).step
    (Pool.step_goto (@Coroutine.Move.take _ _ _ _ _ _ _ "/a".toList rfl))).step
    (Pool.step_spawn_behind (.spawn (by decide)))).step
    (Pool.step_goto_beside .hand)).step
    (Pool.step_goto_beside (.requestThrows (.connect _ _)))).step
    (Pool.step_finish_beside .logThrows), by simp, by simp, rfl, rfl⟩

theorem resources_of_run_of_example :
    ∃ (trace : List Event) (finish : State StdinGenerator FixedController),
      Run (.head ⟨false, 5, [], []⟩)
        (initial ({ stdin := "/a\n/b\n".toList } : StdinGenerator) (FixedController.new 2 1000 0))
        trace finish ∧
      .logFailed "/a".toList ∈ trace ∧ finish.world.outputs.stats.attemptedCount = 1 ∧
      1 ≤ (["/a".toList, "/b".toList] : List Text).length * (5 + 1) ∧
      finish.processes.card ≤ (["/a".toList, "/b".toList] : List Text).length + 1 := by
  have emits : Generator.Emits ({ stdin := "/a\n/b\n".toList } : StdinGenerator)
      ["/a".toList, "/b".toList] :=
    @StdinGenerator.emits_unlines ["/a".toList, "/b".toList] (by decide)
  rcases run_behind_failed_log with ⟨trace, finish, run, failed, -, attempted, -⟩
  rcases resources_of_run emits run with ⟨attempts, coroutines, -⟩
  rw [attempted] at attempts
  exact ⟨trace, finish, run, failed, attempted, attempts, coroutines⟩

end Scraper

namespace Query

end Query

namespace Coroutine.Continuation

end Coroutine.Continuation

namespace Scraper

open Coroutine

variable {G K : Type} [Generator G] [Controller K] {query : Query} {server : Server}
  {uris : List Text} {trace : List Event} {generator : G} {controller : K}

end Scraper

end Abrade
