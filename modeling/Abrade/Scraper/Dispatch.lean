import Abrade.Scraper.Coverage

/-!
# How many coroutines process candidates

One thread runs the `io_context`, and `spawn` starts the body of the new
coroutine before it returns.  So the running coroutine is on top of a stack of
coroutines that wait for a call of `spawn_coroutine` to return, and all others
wait for the network.
-/

namespace Abrade

open Pool (Effect weigh)
open Coroutine (Move Awaits)

namespace Event

/-- The value `recommended_coroutines()` returned. -/
@[simp]
def recommendation : Event → ℕ
  | recommended count => count
  | _ => 0

end Event

/-- The largest value `recommended_coroutines()` has returned; zero before it is called. -/
def largestRecommendation (trace : List Event) : ℕ :=
  (trace.map Event.recommendation).foldr max 0

@[simp]
theorem largestRecommendation_append (trace events : List Event) :
    largestRecommendation (trace ++ events) =
      max (largestRecommendation trace) (largestRecommendation events) := by
  induction trace with
  | nil => simp [largestRecommendation]
  | cons event trace ih =>
      simp only [largestRecommendation, List.cons_append, List.map_cons, List.foldr_cons] at ih ⊢
      rw [ih, max_assoc]

theorem largestRecommendation_le_iff {trace : List Event} {bound : ℕ} :
    largestRecommendation trace ≤ bound ↔ ∀ event ∈ trace, event.recommendation ≤ bound := by
  induction trace with
  | nil => simp [largestRecommendation]
  | cons event trace ih =>
      rw [List.forall_mem_cons, ← ih]
      simp only [largestRecommendation, List.map_cons, List.foldr_cons]
      exact max_le_iff

namespace Coroutine

/-- Whether a coroutine processes a candidate: from the first recommendation for it on. -/
@[simp]
def processing : Coroutine → Bool
  | created => false
  | loop => false
  | checking _ => false
  | _ => true

section Laws

variable {G K : Type} [Generator G] [Controller K] {query : Query} {world world' : World G K}
  {coroutine child next : Coroutine} {events : List Event} {effect : Effect Coroutine}

/-- A coroutine is spawned by an active one, below a recommendation. -/
theorem Move.of_spawn (move : Move query world coroutine events world' (.spawn child next)) :
    coroutine.started = 1 ∧ next.started = 1 ∧
      world.activeCoroutines < largestRecommendation events := by
  cases move with
  | spawn below => simpa [largestRecommendation] using below

theorem weigh_started {coroutines : Multiset Coroutine}
    (started : ∀ coroutine ∈ coroutines, coroutine.started = 1) :
    weigh Coroutine.started coroutines = coroutines.card := by
  unfold weigh
  rw [Multiset.map_congr rfl started]
  simp

/-- While all others are active, a spawn keeps their number below the largest recommendation. -/
theorem Move.few (move : Move query world coroutine events world' effect)
    {others : Multiset Coroutine} {largest : ℕ}
    (counted : world.activeCoroutines = coroutine.started + weigh started others)
    (active : ∀ other ∈ others, other.started = 1) (few : others.card + 1 ≤ max 1 largest) :
    (effect.processes + others).card ≤ max 1 (max largest (largestRecommendation events)) := by
  rw [Multiset.card_add]
  cases effect with
  | goto next =>
      rw [Effect.processes_goto, Multiset.card_singleton]
      omega
  | spawn child next =>
      rcases move.of_spawn with ⟨started, -, below⟩
      have number := weigh_started active
      simp only [Effect.processes_spawn, Multiset.insert_eq_cons, Multiset.card_cons,
        Multiset.card_singleton]
      omega
  | finish =>
      rw [Effect.processes_finish, Multiset.card_zero]
      omega

/-- A coroutine asks for the recommendation before it processes a candidate. -/
theorem Move.asks (move : Move query world coroutine events world' effect)
    (positive : Controller.Positive world.controller) (nextMem : next ∈ effect.processes)
    (processing : next.processing = true) :
    coroutine.processing = true ∨ 1 ≤ largestRecommendation events := by
  cases move with
  | spawn below =>
      right
      simpa [largestRecommendation] using Nat.one_le_of_lt below
  | noSpawn enough =>
      right
      simpa [largestRecommendation, World.recommended] using positive.recommended
  | requestThrows awaits => cases awaits <;> exact .inl rfl
  | abort => simp at nextMem
  | _ => simp_all

theorem Move.atMost {bound : ℕ} (move : Move query world coroutine events world' effect)
    (atMost : Controller.Always (· ≤ bound) world.controller) :
    largestRecommendation events ≤ bound := by
  rw [largestRecommendation_le_iff]
  cases move with
  | spawn => simpa [World.recommended] using atMost.recommended
  | noSpawn => simpa [World.recommended] using atMost.recommended
  | @stay now =>
      have after := (atMost.registerCompletion world.activeCoroutines now).recommended
      simpa [World.recommended, World.complete] using after
  | @exit now =>
      have after := (atMost.registerCompletion world.activeCoroutines now).recommended
      simpa [World.recommended, World.complete] using after
  | @execute uri fetch response file executed next executes =>
      subst executes
      rw [List.forall_mem_append]
      constructor
      · intro event eventMem
        have ofQuery := Query.balanced_execute.ofQuery event eventMem
        cases event <;> simp_all
      · cases next <;> simp [Continuation.events]
  | _ => simp

end Laws

end Coroutine

namespace Dispatch

section State

variable {G K : Type}

structure State (G K : Type) where
  world : World G K
  /-- The running coroutine, then the one whose spawn it is part of, and so on. -/
  stack : List Coroutine
  /-- The coroutines the `io_context` can resume. -/
  idle : Multiset Coroutine

@[simp]
theorem cons_add {coroutine : Coroutine} {stack : List Coroutine} {idle : Multiset Coroutine} :
    ((coroutine :: stack : List Coroutine) : Multiset Coroutine) + idle =
      coroutine ::ₘ (stack + idle) := by
  rw [← Multiset.cons_coe, Multiset.cons_add]

namespace State

/-- The coroutines that have not ended. -/
@[simp]
def coroutines (state : State G K) : Multiset Coroutine :=
  state.stack + state.idle

/-- The state as one of the pool. -/
def pool (state : State G K) : Scraper.State G K where
  world := state.world
  processes := state.coroutines

def processing (state : State G K) : ℕ :=
  state.coroutines.countP (·.processing = true)

end State

/-- What the running coroutine leaves on top of the stack; a new coroutine runs first. -/
def top : Effect Coroutine → List Coroutine
  | .goto next => [next]
  | .spawn child next => [child, next]
  | .finish => []

theorem coe_top (effect : Effect Coroutine) :
    (top effect : Multiset Coroutine) = effect.processes := by
  cases effect <;> rfl

theorem top_append_add (effect : Effect Coroutine) (stack : List Coroutine)
    (idle : Multiset Coroutine) :
    ((top effect ++ stack : List Coroutine) : Multiset Coroutine) + idle =
      effect.processes + (stack + idle) := by
  rw [← Multiset.coe_add, coe_top, add_assoc]

/-- The state behind the first `spawn_coroutine`, which no running coroutine calls. -/
def initial (generator : G) (controller : K) : State G K where
  world := (Scraper.initial generator controller).world
  stack := []
  idle := {.created}

theorem processing_le_coroutines (state : State G K) :
    state.processing ≤ state.coroutines.card :=
  Multiset.countP_le_card _ _

end State

section Invariant

variable {G K : Type} [Controller K]

/--
All coroutines but a new one on top of the stack are active, so that the check
before a spawn sees their number.
-/
structure Bounded (trace : List Event) (state : State G K) : Prop where
  counted : state.world.activeCoroutines = weigh Coroutine.started state.coroutines
  positive : Controller.Positive state.world.controller
  behind : ∀ coroutine ∈ state.stack.tail, coroutine.started = 1
  waiting : (state.stack = [] ∧ state.idle = {.created}) ∨
    ∀ coroutine ∈ state.idle, coroutine.started = 1
  few : state.coroutines.card ≤ max 1 (largestRecommendation trace)
  asked : ∀ coroutine ∈ state.coroutines, coroutine.processing = true →
    1 ≤ largestRecommendation trace

theorem bounded_initial {generator : G} {controller : K}
    (positive : Controller.Positive controller) : Bounded [] (initial generator controller) where
  counted := by simp [initial, Scraper.initial]
  positive := positive
  behind := by simp [initial]
  waiting := .inl ⟨rfl, rfl⟩
  few := by simp [initial]
  asked := by simp [initial]

/-- A coroutine that processes a candidate is there only behind a recommendation. -/
theorem Bounded.processing {trace : List Event} {state : State G K} (bounded : Bounded trace state) :
    state.processing ≤ largestRecommendation trace := by
  rcases Nat.eq_zero_or_pos state.processing with none | some
  · omega
  · rcases Multiset.countP_pos.mp some with ⟨coroutine, coroutineMem, processes⟩
    have asked := bounded.asked coroutine coroutineMem processes
    have few := bounded.few
    have all := processing_le_coroutines state
    omega

end Invariant

variable {G K : Type} [Generator G] [Controller K]

/-- What the thread of the `io_context` does next. -/
inductive Step (query : Query) : State G K → List Event → State G K → Prop where
  /-- Nothing runs, and a coroutine is resumed. -/
  | resume {world : World G K} {coroutine : Coroutine} {idle : Multiset Coroutine} :
      Step query { world, stack := [], idle := coroutine ::ₘ idle } []
        { world, stack := [coroutine], idle }
  /-- The running coroutine goes on; one that it spawns runs before it does. -/
  | move {world world' : World G K} {coroutine : Coroutine} {stack : List Coroutine}
      {idle : Multiset Coroutine} {events : List Event} {effect : Effect Coroutine}
      (moves : Move query world coroutine events world' effect) :
      Step query { world, stack := coroutine :: stack, idle } events
        { world := world', stack := top effect ++ stack, idle }
  /-- The running coroutine waits for the network, and the call that started it returns. -/
  | suspend {world : World G K} {coroutine : Coroutine} {stack : List Coroutine}
      {idle : Multiset Coroutine} {uri : Text} {fetch : Fetch}
      (awaits : Awaits coroutine uri fetch) :
      Step query { world, stack := coroutine :: stack, idle } []
        { world, stack, idle := coroutine ::ₘ idle }
  /-- A waiting coroutine is destroyed because an exception has left another one. -/
  | abort {world world' : World G K} {coroutine : Coroutine} {stack : List Coroutine}
      {idle : Multiset Coroutine}
      (moves : Move query world coroutine [.aborted] world' .finish) :
      Step query { world, stack, idle := coroutine ::ₘ idle } [.aborted]
        { world := world', stack, idle }

variable {query : Query}

/-- A step of the scheduler is one of the pool, or only moves a coroutine on or off the stack. -/
theorem Step.pool {state next : State G K} {events : List Event}
    (step : Step query state events next) :
    (events = [] ∧ next.pool = state.pool) ∨ Scraper.Step query state.pool events next.pool := by
  cases step with
  | resume => exact .inl ⟨rfl, by simp [State.pool]⟩
  | @move world world' coroutine stack idle events effect moves =>
      right
      have step := @Pool.Step.move _ _ _ _ _ _ _ ((stack : Multiset Coroutine) + idle) _ _ moves
      simpa only [State.pool, State.coroutines, cons_add, top_append_add] using step
  | suspend => exact .inl ⟨rfl, by simp [State.pool]⟩
  | @abort world world' coroutine stack idle moves =>
      right
      have step := @Pool.Step.move _ _ _ _ _ _ _ ((stack : Multiset Coroutine) + idle) _ _ moves
      simpa [State.pool] using step

abbrev Run (query : Query) : State G K → List Event → State G K → Prop :=
  Transition.Run (Step query)

theorem Run.pool {generator : G} {controller : K} {trace : List Event} {finish : State G K}
    (run : Run query (initial generator controller) trace finish) :
    Scraper.Run query (Scraper.initial generator controller) trace finish.pool := by
  have simulated := Transition.Run.simulate State.pool Step.pool run
  simpa [initial, State.pool, Scraper.initial] using simulated

theorem started_of_waiting {stack : List Coroutine} {coroutine : Coroutine}
    {idle : Multiset Coroutine}
    (waiting : (stack = [] ∧ coroutine ::ₘ idle = {.created}) ∨
      ∀ other ∈ coroutine ::ₘ idle, other.started = 1) :
    ∀ other ∈ idle, other.started = 1 := by
  rcases waiting with ⟨-, fresh⟩ | started
  · have alone : idle.card = 0 := by simpa using congrArg Multiset.card fresh
    simp [Multiset.card_eq_zero.mp alone]
  · exact fun other otherMem => started other (Multiset.mem_cons_of_mem otherMem)

theorem Bounded.step {trace events : List Event} {state next : State G K}
    (bounded : Bounded trace state) (step : Step query state events next) :
    Bounded (trace ++ events) next := by
  have countedNext : next.world.activeCoroutines = weigh Coroutine.started next.coroutines := by
    rcases step.pool with ⟨-, same⟩ | poolStep
    · rw [State.pool, State.pool, Pool.State.mk.injEq] at same
      rw [same.1, same.2]
      exact bounded.counted
    · exact Pool.counted_of_step (fun move => move.active) poolStep bounded.counted
  rcases bounded with ⟨counted, positive, behind, waiting, few, asked⟩
  cases step with
  | @resume world coroutine idle =>
      refine ⟨countedNext, positive, by simp, .inr ?_, by simpa using few, by simpa using asked⟩
      exact started_of_waiting waiting
  | @move world world' coroutine stack idle events effect moves =>
      -- Only a spawned coroutine has not started, and it is on top of the stack.
      have started := waiting.resolve_left (by simp)
      refine ⟨countedNext, moves.always positive, ?_, .inr started, ?_, ?_⟩
      · cases effect with
        | goto next => exact behind
        | spawn child next => exact List.forall_mem_cons.mpr ⟨moves.of_spawn.2.1, behind⟩
        | finish => exact fun other otherMem => behind other (List.mem_of_mem_tail otherMem)
      · simp only [State.coroutines, cons_add, Pool.weigh_cons] at counted
        simp only [State.coroutines, cons_add, Multiset.card_cons] at few
        rw [State.coroutines, top_append_add, largestRecommendation_append]
        apply moves.few counted _ few
        simpa [or_imp, forall_and] using ⟨behind, started⟩
      · simp only [State.coroutines, cons_add, Multiset.forall_mem_cons] at asked
        simp only [State.coroutines, top_append_add, largestRecommendation_append]
        intro other otherMem processing
        rcases Multiset.mem_add.mp otherMem with ofEffect | ofRest
        · rcases moves.asks positive ofEffect processing with before | now
          · exact le_max_of_le_left (asked.1 before)
          · exact le_max_of_le_right now
        · exact le_max_of_le_left (asked.2 other ofRest processing)
  | @suspend world coroutine stack idle uri fetch awaits =>
      have started := waiting.resolve_left (by simp)
      refine ⟨countedNext, positive, ?_, .inr ?_, by simpa using few, by simpa using asked⟩
      · exact fun other otherMem => behind other (List.mem_of_mem_tail otherMem)
      · rw [Multiset.forall_mem_cons]
        exact ⟨awaits.started_eq, started⟩
  | @abort world world' coroutine stack idle moves =>
      simp only [State.coroutines, Multiset.add_cons, Multiset.card_cons] at few
      simp only [State.coroutines, Multiset.add_cons, Multiset.forall_mem_cons] at asked
      refine ⟨countedNext, moves.always positive, behind, .inr ?_, ?_, ?_⟩
      · exact started_of_waiting waiting
      · simp only [State.coroutines, largestRecommendation_append]
        omega
      · intro other otherMem processing
        rw [largestRecommendation_append]
        exact le_max_of_le_left (asked.2 other otherMem processing)

section Run

variable {generator : G} {controller : K} {trace : List Event} {state : State G K}

theorem bounded_of_run (positive : Controller.Positive controller)
    (run : Run query (initial generator controller) trace state) : Bounded trace state :=
  run.invariant (bounded_initial positive) Bounded.step

theorem largestRecommendation_of_run {bound : ℕ}
    (atMost : Controller.Always (· ≤ bound) controller)
    (run : Run query (initial generator controller) trace state) :
    largestRecommendation trace ≤ bound := by
  have kept := @Transition.Run.invariant _ _ _ _ _ _
    (fun trace (state : Scraper.State G K) => largestRecommendation trace ≤ bound ∧
      Controller.Always (· ≤ bound) state.world.controller)
    ⟨by simp [largestRecommendation], atMost⟩ ?_ run.pool
  · exact kept.1
  · rintro trace state events next ⟨few, atMost⟩ step
    cases step with
    | move moves =>
        rw [largestRecommendation_append]
        exact ⟨max_le few (moves.atMost atMost), moves.always atMost⟩

end Run

/--
At any moment at most as many coroutines process a candidate as the largest
recommendation so far, and with a fixed controller never more than it was built
with.
-/
theorem processing_le_recommended (query : Query) (generator : G) :
    (∀ controller : K, Controller.Positive controller → ∀ trace state,
      Run query (initial generator controller) trace state →
        state.processing ≤ largestRecommendation trace) ∧
    ∀ fixedCoroutines fixedSamplingInterval start, 1 ≤ fixedCoroutines → ∀ trace state,
      Run query (initial generator
        (FixedController.new fixedCoroutines fixedSamplingInterval start)) trace state →
        state.processing ≤ fixedCoroutines := by
  constructor
  · intro controller positive trace state run
    exact (bounded_of_run positive run).processing
  · intro fixedCoroutines fixedSamplingInterval start positive trace state run
    have bounded := bounded_of_run (FixedController.positive_new positive _ _) run
    have few := largestRecommendation_of_run
      (@FixedController.always_new (· ≤ fixedCoroutines) _ (Nat.le_refl _) _ _) run
    exact bounded.processing.trans few

/-- Two coroutines wait for the network at the same time, as many as recommended. -/
theorem processing_le_recommended_of_example :
    ∃ (trace : List Event) (state : State StdinGenerator FixedController),
      Run (.head ⟨false, 5, [], []⟩)
        (initial ({ stdin := "/a\n/b\n".toList } : StdinGenerator) (FixedController.new 2 1000 0))
        trace state ∧
      state.processing = 2 ∧ 2 ≤ largestRecommendation trace ∧ state.processing ≤ 2 := by
  have run : ∃ trace state,
      Run (.head ⟨false, 5, [], []⟩)
        (initial ({ stdin := "/a\n/b\n".toList } : StdinGenerator) (FixedController.new 2 1000 0))
        trace state ∧ state.processing = 2 := by
    refine ⟨_, _, (((((((((((.refl :
      Run _ (initial _ _) [] _).step
      .resume).step
      (.move .start)).step
      (.move (@Move.take _ _ _ _ _ _ _ "/a".toList rfl))).step
      (.move (.spawn (by decide)))).step
      (.move .start)).step
      (.move (@Move.take _ _ _ _ _ _ _ "/b".toList rfl))).step
      (.move (.noSpawn (by decide)))).step
      (.move .hand)).step
      (.suspend (.connect _ _))).step
      (.move .hand)).step
      (.suspend (.connect _ _)), rfl⟩
  rcases run with ⟨trace, state, run, two⟩
  have positive : Controller.Positive (FixedController.new 2 1000 0) :=
    FixedController.positive_new (Nat.le_succ 1) 1000 0
  have bounds := @processing_le_recommended StdinGenerator FixedController _ _
    (.head ⟨false, 5, [], []⟩) { stdin := "/a\n/b\n".toList }
  have largest := bounds.1 _ positive trace state run
  have fixed := bounds.2 2 1000 0 (Nat.le_succ 1) trace state run
  exact ⟨trace, state, run, two, two ▸ largest, fixed⟩

end Dispatch

end Abrade
