import Abrade.Scraper.Connections
import Abrade.Scraper.Termination

/-!
# Every detailed run ends

An attempt awaits a fixed number of operations, each of them ends or is
interrupted, and closing a connection throws nothing.  So the operations do not
keep the pool going either, and no coroutine waits for ever.
-/

namespace Abrade

open Awaiting.Program (Script)
open Pool (Effect weigh)

namespace Equipment

/-- The moves of one turn of the loop of `Scraper::coroutine` at most. -/
def movesPerTurn (equipment : Equipment) : ℕ :=
  equipment.actions.length + 2

/-- The moves one candidate can cause at most, those of the coroutine it spawns included. -/
def movesPerCandidate (equipment : Equipment) : ℕ :=
  (equipment.query.maxRedirects + 1) * equipment.movesPerTurn + equipment.actions.length + 7

theorem script_attempt (equipment : Equipment) (target : Text) :
    Script Operation.Allows label (equipment.attempt target)
      (attemptLabels equipment.connection equipment.query) :=
  Abrade.script_attempt equipment.library equipment.connection equipment.writer equipment.query
    target

theorem length_attemptLabels (equipment : Equipment) :
    (attemptLabels equipment.connection equipment.query).length = equipment.actions.length := by
  rw [← equipment.map_fst_attemptLabels, List.length_map]

end Equipment

namespace Detailed

namespace Coroutine

/-- A coroutine that has a next move, whose operations follow a script. -/
def Going (equipment : Equipment) : Coroutine → Prop
  | outside coroutine => IsOutside coroutine ∨ ∃ uri, coroutine = .ready uri
  | working _ fetch rest =>
      fetch.redirectsFollowed ≤ equipment.query.maxRedirects ∧
        ∃ labels, Script Operation.Allows label rest labels
  | closing _ (.follows fetch) => fetch.redirectsFollowed ≤ equipment.query.maxRedirects
  | closing _ _ => True
  | failed _ _ => True

/-- The moves a coroutine can still make without another candidate. -/
noncomputable def movesLeft (equipment : Equipment) : Coroutine → ℕ
  | outside .created => 2
  | outside .loop => 1
  | outside (.checking _) => equipment.movesPerCandidate
  | outside (.ready _) => equipment.movesPerCandidate - 3
  | outside .processed => 2
  | outside _ => 1
  | working _ fetch rest =>
      equipment.query.turnsLeft fetch * equipment.movesPerTurn +
        Script.left Operation.Allows label rest + 3
  | closing _ (.follows fetch) =>
      equipment.query.turnsLeft fetch * equipment.movesPerTurn + equipment.actions.length + 4
  | closing _ _ => 4
  | failed _ _ => 3

end Coroutine

section Laws

variable {G K : Type} [Generator G] [Controller K] {equipment : Equipment}
  {world world' : World G K} {coroutine : Coroutine} {events : List Event}
  {effect : Effect Coroutine}

theorem going_ending {uri : Text} {ending : Ending}
    (going : (Coroutine.closing uri ending).Going equipment) :
    (ending.coroutine equipment uri).Going equipment := by
  cases ending with
  | threw failure => trivial
  | returned => exact .inl trivial
  | follows fetch => exact ⟨going, _, equipment.script_attempt fetch.current⟩

/-- A redirect that is followed takes one of the turns that are left. -/
theorem turnsLeft_of_ofExecuted {fetch next : Fetch} {response : Response} {file : FileOutcome}
    {outputs : Outputs}
    (follows : Ending.ofExecuted equipment.query fetch
      (equipment.query.execute response fetch.current file outputs).returned = .follows next)
    (within : fetch.redirectsFollowed ≤ equipment.query.maxRedirects) :
    equipment.query.turnsLeft fetch = equipment.query.turnsLeft next + 1 ∧
      next.redirectsFollowed ≤ equipment.query.maxRedirects := by
  have continues := Ending.continuation_ofExecuted equipment.query fetch
    (equipment.query.execute response fetch.current file outputs).returned
  rw [follows] at continues
  have redirected := Abrade.Coroutine.afterResponse_of_follows continues.symm
  rcases Fetch.of_afterResponse redirected with ⟨-, -, redirectsLeft, counted, -⟩
  refine ⟨Abrade.Coroutine.turnsLeft_of_follows redirected within, ?_⟩
  have limit : equipment.query.maxRedirects = equipment.query.redirectPolicy.maxRedirects := rfl
  omega

theorem going_outsideEffect {query : Query} {world world' : Abrade.World G K}
    {coroutine : Abrade.Coroutine} {events : List Abrade.Event} {effect : Effect Abrade.Coroutine}
    (moves : Abrade.Coroutine.Move query world coroutine events world' effect)
    (isOutside : IsOutside coroutine) :
    ∀ next ∈ (outsideEffect effect).processes, next.Going equipment := by
  cases moves with
  | requestThrows awaits => cases awaits <;> cases isOutside
  | spawn => simp [outsideEffect, Multiset.insert_eq_cons, Coroutine.Going, IsOutside]
  | connect => cases isOutside
  | write => cases isOutside
  | execute => cases isOutside
  | hand => cases isOutside
  | _ => simp [outsideEffect, Coroutine.Going, IsOutside]

theorem Move.going (move : Move equipment world coroutine events world' effect)
    (going : coroutine.Going equipment) :
    ∀ next ∈ effect.processes, next.Going equipment := by
  cases move with
  | outside isOutside _ moves => exact going_outsideEffect moves isOutside
  | @hand uri =>
      intro next nextMem
      rw [Multiset.mem_singleton.mp nextMem]
      exact ⟨Nat.zero_le _, _, equipment.script_attempt uri⟩
  | complete allowed =>
      intro next nextMem
      rw [Multiset.mem_singleton.mp nextMem]
      rcases going with ⟨within, labels, script⟩
      cases script with
      | await rest => exact ⟨within, _, rest _ allowed⟩
  | interrupt throws =>
      intro next nextMem
      rw [Multiset.mem_singleton.mp nextMem]
      trivial
  | raise =>
      intro next nextMem
      rw [Multiset.mem_singleton.mp nextMem]
      trivial
  | @execute uri fetch response file executed executes =>
      intro next nextMem
      rw [Multiset.mem_singleton.mp nextMem]
      subst executes
      cases ended : Ending.ofExecuted equipment.query fetch
        (equipment.query.execute response fetch.current file world.shared.outputs).returned with
      | threw failure => trivial
      | returned => trivial
      | follows next => exact (turnsLeft_of_ofExecuted ended going.1).2
  | close closes =>
      intro next nextMem
      rw [Multiset.mem_singleton.mp nextMem]
      exact going_ending going
  | log => simp [Coroutine.Going, IsOutside]
  | logThrows => simp
  | abort => simp

/-- What the candidates that the generator has not returned yet can cause. -/
def Outstanding (equipment : Equipment) (world : World G K) (moves : ℕ) : Prop :=
  ∃ remaining, Generator.Emits world.shared.generator remaining ∧
    moves = remaining.length * equipment.movesPerCandidate

theorem movesLeft_pos (coroutine : Coroutine) : 0 < coroutine.movesLeft equipment := by
  unfold Coroutine.movesLeft
  split <;> simp [Equipment.movesPerCandidate]

/-- An attempt can still end, and its connection be closed, before the record. -/
theorem lt_movesLeft_working (uri : Text) (fetch : Fetch) (rest : Awaited Response) :
    4 < (Coroutine.working uri fetch rest).movesLeft equipment := by
  have turn : equipment.movesPerTurn ≤ equipment.query.turnsLeft fetch * equipment.movesPerTurn :=
    Nat.le_mul_of_pos_left _ (Nat.succ_pos _)
  simp only [Coroutine.movesLeft, Equipment.movesPerTurn] at turn ⊢
  omega

/-- The moves of the loop of `spawn_coroutine`. -/
theorem lowers_outside {shared : Abrade.World G K} {coroutine : Abrade.Coroutine}
    {events : List Abrade.Event} {effect : Effect Abrade.Coroutine}
    (moves : Abrade.Coroutine.Move equipment.query world.shared coroutine events shared effect)
    (isOutside : IsOutside coroutine) (contained : ∀ event ∈ events, event ≠ .aborted)
    {amount : ℕ} (outstanding : Outstanding equipment world amount) :
    ∃ less, Outstanding equipment ({ world with shared } : World G K) less ∧
      less + weigh (Coroutine.movesLeft equipment) (outsideEffect effect).processes <
        amount + (Coroutine.outside coroutine).movesLeft equipment := by
  rcases outstanding with ⟨remaining, emits, rfl⟩
  cases moves with
  | start => exact ⟨_, ⟨remaining, emits, rfl⟩, by simp [outsideEffect, Coroutine.movesLeft]⟩
  | exhausted called =>
      rcases emits.of_next_none called with ⟨rfl, emitsLater⟩
      exact ⟨_, ⟨[], emitsLater, rfl⟩, by simp [outsideEffect, Coroutine.movesLeft]⟩
  | take called =>
      rcases emits.of_next_some called with ⟨later, rfl, emitsLater⟩
      refine ⟨_, ⟨later, emitsLater, rfl⟩, ?_⟩
      simp [outsideEffect, Coroutine.movesLeft, Nat.add_mul]
  | generatorThrows called => exact absurd called emits.next_ne_error
  | spawn =>
      refine ⟨_, ⟨remaining, emits, rfl⟩, ?_⟩
      simp [outsideEffect, Coroutine.movesLeft, Multiset.insert_eq_cons,
        Equipment.movesPerCandidate]
      omega
  | noSpawn =>
      refine ⟨_, ⟨remaining, emits, rfl⟩, ?_⟩
      simp [outsideEffect, Coroutine.movesLeft, Equipment.movesPerCandidate]
  | stay =>
      exact ⟨_, ⟨remaining, emits, rfl⟩, by simp [outsideEffect, Coroutine.movesLeft]⟩
  | exit =>
      exact ⟨_, ⟨remaining, emits, rfl⟩, by simp [outsideEffect, Coroutine.movesLeft]⟩
  | requestThrows awaits => cases awaits <;> cases isOutside
  | hand => cases isOutside
  | connect => cases isOutside
  | write => cases isOutside
  | execute => cases isOutside
  | log => cases isOutside
  | logThrows => cases isOutside
  | abort => simp at contained

/-- Every move uses up one of the moves that are left, at least. -/
theorem Move.lowers (move : Move equipment world coroutine events world' effect)
    (going : coroutine.Going equipment) {amount : ℕ}
    (outstanding : Outstanding equipment world amount) :
    ∃ less, Outstanding equipment world' less ∧
      less + weigh (Coroutine.movesLeft equipment) effect.processes <
        amount + coroutine.movesLeft equipment := by
  cases move with
  | outside isOutside contained moves => exact lowers_outside moves isOutside contained outstanding
  | @hand uri =>
      refine ⟨amount, outstanding, ?_⟩
      have operations := (equipment.script_attempt uri).left_le
      rw [equipment.length_attemptLabels] at operations
      simp only [Effect.processes, Pool.weigh_singleton, Coroutine.movesLeft,
        Equipment.movesPerCandidate, Query.turnsLeft, Fetch.start, Nat.sub_zero]
      omega
  | complete allowed =>
      refine ⟨amount, outstanding, ?_⟩
      rcases going with ⟨-, labels, script⟩
      have performed := script.left_lt allowed
      simp only [Effect.processes, Pool.weigh_singleton, Coroutine.movesLeft]
      omega
  | @interrupt uri fetch =>
      refine ⟨amount, outstanding, ?_⟩
      rw [Effect.processes, Pool.weigh_singleton]
      exact Nat.add_lt_add_left (lt_movesLeft_working uri fetch _) amount
  | @raise uri fetch =>
      refine ⟨amount, outstanding, ?_⟩
      rw [Effect.processes, Pool.weigh_singleton]
      exact Nat.add_lt_add_left (lt_movesLeft_working uri fetch _) amount
  | @execute uri fetch response file executed executes =>
      refine ⟨amount, outstanding, ?_⟩
      subst executes
      cases ended : Ending.ofExecuted equipment.query fetch
        (equipment.query.execute response fetch.current file world.shared.outputs).returned with
      | threw failure =>
          rw [Effect.processes, Pool.weigh_singleton]
          exact Nat.add_lt_add_left (lt_movesLeft_working uri fetch _) amount
      | returned =>
          rw [Effect.processes, Pool.weigh_singleton]
          exact Nat.add_lt_add_left (lt_movesLeft_working uri fetch _) amount
      | follows next =>
          have turns := (turnsLeft_of_ofExecuted ended going.1).1
          simp only [Effect.processes, Pool.weigh_singleton, Coroutine.movesLeft, turns,
            Nat.add_mul, Equipment.movesPerTurn]
          omega
  | @close uri ending _ _ closes =>
      refine ⟨amount, outstanding, ?_⟩
      cases ending with
      | threw failure =>
          simp [Ending.coroutine, Coroutine.movesLeft]
      | returned => simp [Ending.coroutine, Coroutine.movesLeft]
      | follows fetch =>
          have operations := (equipment.script_attempt fetch.current).left_le
          rw [equipment.length_attemptLabels] at operations
          simp only [Ending.coroutine, Effect.processes, Pool.weigh_singleton, Coroutine.movesLeft]
          omega
  | log => exact ⟨amount, outstanding, by simp [Coroutine.movesLeft]⟩
  | logThrows => exact ⟨amount, outstanding, by simp [Coroutine.movesLeft]⟩
  | abort =>
      refine ⟨amount, outstanding, ?_⟩
      simpa using movesLeft_pos coroutine

theorem exists_move_of_outside (query : Query) (world : Abrade.World G K)
    {coroutine : Abrade.Coroutine} (isOutside : IsOutside coroutine) :
    ∃ events world' effect, (∀ event ∈ events, event ≠ .aborted) ∧
      Abrade.Coroutine.Move query world coroutine events world' effect := by
  cases coroutine with
  | created => exact ⟨_, _, _, by simp, .start⟩
  | loop =>
      rcases called : Generator.next world.generator with failure | ⟨_ | uri, generator⟩
      · exact ⟨_, _, _, by simp, .generatorThrows called⟩
      · exact ⟨_, _, _, by simp, .exhausted called⟩
      · exact ⟨_, _, _, by simp, .take called⟩
  | checking uri =>
      by_cases below : world.activeCoroutines < world.recommended
      · exact ⟨_, _, _, by simp, .spawn below⟩
      · exact ⟨_, _, _, by simp, .noSpawn below⟩
  | processed =>
      by_cases above : (world.complete 0).recommended < (world.complete 0).activeCoroutines
      · exact ⟨_, _, _, by simp, .exit above⟩
      · exact ⟨_, _, _, by simp, .stay above⟩
  | _ => cases isOutside

/-- Whatever the state is, the coroutine can go on. -/
theorem Move.exists_move (world : World G K) (going : coroutine.Going equipment) :
    ∃ events world' effect, Move equipment world coroutine events world' effect := by
  cases coroutine with
  | outside coroutine =>
      rcases going with isOutside | ⟨uri, rfl⟩
      · rcases exists_move_of_outside equipment.query world.shared isOutside with
          ⟨events, shared, effect, contained, moves⟩
        exact ⟨_, _, _, .outside isOutside contained moves⟩
      · exact ⟨_, _, _, .hand⟩
  | working uri fetch rest =>
      cases rest with
      | done response =>
          exact ⟨_, _, _, @Move.execute _ _ _ _ _ _ _ _ response (.returns 0) _ rfl⟩
      | fail failure => exact ⟨_, _, _, .raise⟩
      | await action operation resume =>
          have timesOut : throwIfFailed action true .success = .error (timeoutException action) :=
            rfl
          exact ⟨_, _, _, .interrupt timesOut⟩
  | closing uri ending =>
      exact ⟨_, _, _, .close ((equipment.teardown .success).close_eq world.stderr)⟩
  | failed uri failure => exact ⟨_, _, _, @Move.log _ _ _ _ _ _ _ _ 0⟩

end Laws

section Runs

variable {G K : Type} [Generator G] [Controller K] {equipment : Equipment} {generator : G}
  {controller : K} {errorLog : Text} {trace : List Event} {finish : State G K} {uris : List Text}

theorem lowers (equipment : Equipment) :
    Transition.Lowers (Pool.Step (@Move G K _ _ equipment))
      (Pool.Measured (Outstanding equipment) (Coroutine.Going equipment)
        (Coroutine.movesLeft equipment)) :=
  Pool.lowers_of_law (fun move => move.going) fun move going => move.lowers going

end Runs

end Detailed

end Abrade
