import Abrade.Scraper.Accounting

/-!
# Results do not depend on concurrency

Against a server that answers by the target alone, everything that is going to
happen to a candidate is known before its first request.  A pool of any size
only spreads these events over the run in some order, and the order changes
neither the counters nor the collection of lines in the output file.
-/

namespace Abrade

open Pool (Effect total weigh)

/-- A server whose answer, a response or a failure, depends on the target alone. -/
abbrev Server :=
  Text → Option Response

namespace Event

/-- The server answers like this, and files and the error log take everything. -/
def AgreesWith (server : Server) : Event → Prop
  | requestFailed target => server target = none
  | answered target response => server target = some response
  | storeFailed _ => False
  | logFailed _ => False
  | _ => True

/-- The events inside `Scraper::coroutine` and its `catch` block. -/
@[simp]
def work : Event → Multiset Event
  | recommended _ => 0
  | took _ => 0
  | exhausted => 0
  | handed _ => 0
  | logged _ => 0
  | logFailed _ => 0
  | generatorFailed => 0
  | aborted => 0
  | event => {event}

/-- What `HeadAction::process` writes. -/
@[simp]
def line : Event → Multiset Text
  | stored target => {target ++ ['\n']}
  | _ => 0

theorem work_of_isOfQuery {event : Event} (ofQuery : event.isOfQuery = true) :
    event.work = {event} := by
  cases event <;> simp_all

theorem total_work_of_isOfQuery {events : List Event}
    (ofQuery : ∀ event ∈ events, event.isOfQuery = true) : total work events = events := by
  induction events with
  | nil => rfl
  | cons event events ih =>
      rw [List.forall_mem_cons] at ofQuery
      rw [Pool.total_cons, work_of_isOfQuery ofQuery.1, ih ofQuery.2]
      rfl

theorem total_eq_sum_work {M : Type} [AddCommMonoid M] {weight : Event → M}
    (onlyWork : ∀ event, weight event = (event.work.map weight).sum) (trace : List Event) :
    total weight trace = ((total work trace).map weight).sum := by
  induction trace with
  | nil => simp
  | cons event trace ih =>
      rw [Pool.total_cons, Pool.total_cons, ih, onlyWork event]
      simp

end Event

/-- Two processings that differ at most in what is behind the outputs. -/
def Processed.Alike {α : Type} (processed other : Processed α) : Prop :=
  processed.events = other.events ∧ processed.returned = other.returned

def Processed.Stores {α : Type} (processed : Processed α) : Prop :=
  ∀ target, .storeFailed target ∉ processed.events

section Alike

variable {statusCode : ℕ} {body candidate : Text} {file : FileOutcome}
  {outputs outputs' : Outputs}

theorem GetAction.alike_process {action : GetAction}
    (stores : (action.process statusCode body candidate file outputs).Stores) :
    (action.process statusCode body candidate file outputs).Alike
      (action.process statusCode body candidate (.returns 0) outputs') := by
  unfold process writeOut at *
  split at stores
  · next failed =>
      rw [if_pos failed, if_pos failed]
      exact ⟨rfl, rfl⟩
  · next successful =>
      rw [if_neg successful, if_neg successful]
      split at stores
      · exact ⟨rfl, rfl⟩
      · exact ⟨rfl, rfl⟩
      · cases file with
        | unusable => simp [Processed.Stores] at stores
        | writeThrows reached => simp [Processed.Stores] at stores
        | returns reached => exact ⟨rfl, rfl⟩

theorem HeadAction.alike_process
    (stores : (process statusCode candidate file outputs).Stores) :
    (process statusCode candidate file outputs).Alike
      (process statusCode candidate (.returns 0) outputs') := by
  unfold process at *
  split at stores
  · next successful =>
      rw [if_pos successful, if_pos successful]
      cases file with
      | unusable => simp [Processed.Stores] at stores
      | writeThrows reached => simp [Processed.Stores] at stores
      | returns reached => exact ⟨rfl, rfl⟩
  · next failed =>
      rw [if_neg failed, if_neg failed]
      exact ⟨rfl, rfl⟩

/-- Unless a file throws, what a query does depends neither on files nor on the outputs. -/
theorem Query.alike_execute {query : Query} {response : Response}
    (stores : (query.execute response candidate file outputs).Stores) :
    (query.execute response candidate file outputs).Alike
      (query.execute response candidate (.returns 0) outputs') := by
  have storesAction : (query.process response candidate file
      { outputs with stats := outputs.stats.recordResponse response.statusCode }).Stores :=
    fun target stored => stores target (List.mem_cons_of_mem _ stored)
  have alike : (query.process response candidate file
      { outputs with stats := outputs.stats.recordResponse response.statusCode }).Alike
      (query.process response candidate (.returns 0)
        { outputs' with stats := outputs'.stats.recordResponse response.statusCode }) := by
    cases query with
    | get policy action => exact GetAction.alike_process storesAction
    | head policy => exact HeadAction.alike_process storesAction
  constructor
  · simp only [execute, alike.1]
  · simp only [execute, alike.2]

/-- `HeadAction` writes the line of every candidate that is stored. -/
theorem Query.found_execute_head {policy : RedirectPolicy} {response : Response}
    (stores : ((Query.head policy).execute response candidate file outputs).Stores) :
    (((Query.head policy).execute response candidate file outputs).outputs.found :
        Multiset Text) =
      outputs.found +
        total Event.line ((Query.head policy).execute response candidate file outputs).events := by
  simp only [execute, process, HeadAction.process, Processed.Stores] at *
  split at stores
  · next successful =>
      rw [if_pos successful]
      cases file with
      | unusable => simp at stores
      | writeThrows reached => simp at stores
      | returns reached => simp [← Multiset.coe_add]
  · next failed =>
      rw [if_neg failed]
      simp

end Alike

namespace Query

def outcome (query : Query) (response : Response) (target : Text) : Processed (Option Text) :=
  query.execute response target (.returns 0) { stats := 0, found := [], files := fun _ => none }

/-- What is going to happen from a request on, in at most so many turns of the loop. -/
def forecast (query : Query) (server : Server) (uri : Text) : ℕ → Fetch → Multiset Event
  | 0, _ => 0
  | turns + 1, fetch =>
      match server fetch.current with
      | none => {.requestFailed fetch.current, .threw uri}
      | some response =>
          let outcome := query.outcome response fetch.current
          let next := Coroutine.continuation query fetch outcome.returned
          outcome.events + next.events uri +
            match next with
            | .follows next => query.forecast server uri turns next
            | _ => 0

def turnsLeft (query : Query) (fetch : Fetch) : ℕ :=
  query.maxRedirects - fetch.redirectsFollowed + 1

/-- Everything that happens to a candidate. -/
def work (query : Query) (server : Server) (uri : Text) : Multiset Event :=
  {.attempt uri} + query.forecast server uri (query.turnsLeft (.start uri)) (.start uri)

end Query

namespace Coroutine

variable {query : Query} {server : Server}

/-- What is still going to happen to the candidate of a coroutine. -/
@[simp]
def pending (query : Query) (server : Server) : Coroutine → Multiset Event
  | connecting uri fetch => query.forecast server uri (query.turnsLeft fetch) fetch
  | writing uri fetch => query.forecast server uri (query.turnsLeft fetch) fetch
  | reading uri fetch => query.forecast server uri (query.turnsLeft fetch) fetch
  | _ => 0

/-- No more redirects are followed than allowed. -/
@[simp]
def Within (query : Query) : Coroutine → Prop
  | connecting _ fetch => fetch.redirectsFollowed ≤ query.maxRedirects
  | writing _ fetch => fetch.redirectsFollowed ≤ query.maxRedirects
  | reading _ fetch => fetch.redirectsFollowed ≤ query.maxRedirects
  | _ => True

theorem Awaits.pending_eq {coroutine : Coroutine} {uri : Text} {fetch : Fetch}
    (awaits : Awaits coroutine uri fetch) :
    coroutine.pending query server = query.forecast server uri (query.turnsLeft fetch) fetch := by
  cases awaits <;> rfl

theorem turnsLeft_of_follows {fetch next : Fetch} {response : Response}
    (follows : fetch.afterResponse query.redirectPolicy response = some next)
    (within : fetch.redirectsFollowed ≤ query.maxRedirects) :
    query.turnsLeft fetch = query.turnsLeft next + 1 := by
  rcases Fetch.of_afterResponse follows with ⟨-, -, redirectsLeft, counted, -⟩
  unfold Query.turnsLeft Query.maxRedirects at *
  omega

theorem Continuation.total_work_events (uri : Text) (next : Continuation) :
    total Event.work (next.events uri) = next.events uri := by
  cases next with
  | threw => simp [Continuation.events]
  | returned => simp [Continuation.events]
  | follows next => rfl

section Laws

variable {G K : Type} [Generator G] [Controller K] {world world' : World G K}
  {coroutine : Coroutine} {events : List Event} {effect : Effect Coroutine}

theorem Move.within (move : Move query world coroutine events world' effect)
    (within : coroutine.Within query) : ∀ next ∈ effect.processes, next.Within query := by
  cases move with
  | @execute uri fetch _ _ _ next executes continues =>
      subst executes
      cases next with
      | follows next =>
          rcases Fetch.of_afterResponse (afterResponse_of_follows continues) with
            ⟨-, -, redirectsLeft, counted, -⟩
          simp only [Within, Query.maxRedirects] at within
          simp [Continuation.coroutine, Query.maxRedirects]
          omega
      | _ => simp [Continuation.coroutine]
  | hand => simp [Fetch.start]
  | connect => simpa using within
  | write => simpa using within
  | _ => simp

/-- What a candidate's request is going to do is what it does and what is going to follow. -/
theorem forecast_execute {uri : Text} {fetch : Fetch} {response : Response}
    (answers : server fetch.current = some response)
    (within : fetch.redirectsFollowed ≤ query.maxRedirects) {next : Continuation}
    (continues : continuation query fetch (query.outcome response fetch.current).returned = next) :
    query.forecast server uri (query.turnsLeft fetch) fetch =
      (query.outcome response fetch.current).events + next.events uri +
        (next.coroutine uri).pending query server := by
  rw [Query.turnsLeft, Query.forecast, answers]
  simp only [continues]
  cases next with
  | follows next =>
      have turns := turnsLeft_of_follows (afterResponse_of_follows continues) within
      rw [Query.turnsLeft, Nat.add_right_cancel_iff] at turns
      simp [Continuation.coroutine, turns]
  | _ => simp [Continuation.coroutine]

/-- What is going to happen to a candidate happens, or is still going to. -/
theorem Move.work (move : Move query world coroutine events world' effect)
    (within : coroutine.Within query) (smooth : ∀ event ∈ events, event.isAbrupt = false)
    (agrees : ∀ event ∈ events, event.AgreesWith server) :
    coroutine.pending query server +
        total (fun event => event.handedUri.bind (query.work server)) events =
      weigh (pending query server) effect.processes + total Event.work events := by
  cases move with
  | hand => simp [Query.work, add_comm]
  | @requestThrows _ uri fetch awaits =>
      have failed : server fetch.current = none := agrees (.requestFailed fetch.current) (by simp)
      rw [awaits.pending_eq, Query.turnsLeft, Query.forecast, failed]
      simp
  | @execute uri fetch response file executed next executes continues =>
      subst executes
      rw [List.forall_mem_append] at agrees
      have answered : server fetch.current = some response :=
        agrees.1 (.answered fetch.current response) List.mem_cons_self
      have stores : (query.execute response fetch.current file world.outputs).Stores :=
        fun target stored => agrees.1 (.storeFailed target) stored
      have alike : (query.execute response fetch.current file world.outputs).Alike
          (query.outcome response fetch.current) := Query.alike_execute stores
      have handed : total (fun event => event.handedUri.bind (query.work server))
          ((query.execute response fetch.current file world.outputs).events ++
            next.events uri) = 0 := by
        rw [Query.total_execute_append _ (by rintro ⟨⟩ <;> simp)]
        cases next <;> simp [Continuation.events]
      have worked : total Event.work ((query.execute response fetch.current file
          world.outputs).events ++ next.events uri) =
          (query.outcome response fetch.current).events + next.events uri := by
        rw [Pool.total_append, next.total_work_events uri,
          Event.total_work_of_isOfQuery Query.balanced_execute.ofQuery, alike.1]
      rw [alike.2] at continues
      rw [handed, worked, pending, forecast_execute answered within continues, add_zero,
        Effect.processes, Pool.weigh_singleton, add_comm]
  | abort => simp at smooth
  | _ => simp

theorem Move.found {policy : RedirectPolicy}
    (move : Move (.head policy) world coroutine events world' effect)
    (agrees : ∀ event ∈ events, event.AgreesWith server) :
    (world'.outputs.found : Multiset Text) = world.outputs.found + total Event.line events := by
  cases move with
  | @execute uri fetch response file executed next executes continues =>
      subst executes
      rw [List.forall_mem_append] at agrees
      have stores : ((Query.head policy).execute response fetch.current file
          world.outputs).Stores :=
        fun target stored => agrees.1 (.storeFailed target) stored
      have behind : total Event.line (next.events uri) = 0 := by
        cases next <;> simp [Continuation.events]
      simp only [World.record, Query.found_execute_head stores, Pool.total_append, behind, add_zero]
  | _ => simp [World.record, World.enter, World.leave, World.escape, World.complete]

end Laws

end Coroutine

namespace Scraper

section Run

variable {G K : Type} [Generator G] [Controller K] {query : Query} {server : Server}
  {uris : List Text} {trace : List Event} {generator : G} {controller : K} {finish : State G K}

theorem logs_of_agrees (agrees : ∀ event ∈ trace, event.AgreesWith server) :
    ∀ event ∈ trace, ∀ uri, event ≠ .logFailed uri := by
  rintro event eventMem uri rfl
  exact agrees _ eventMem

/-- What happens in a complete run depends on the candidates and the server alone. -/
theorem work_of_complete_run (emits : Generator.Emits generator uris)
    (positive : Controller.Positive controller)
    (run : Run query (initial generator controller) trace finish)
    (agrees : ∀ event ∈ trace, event.AgreesWith server) (empty : finish.processes = 0) :
    total Event.work trace = (uris : Multiset Text).bind (query.work server) := by
  have logs := logs_of_agrees agrees
  have smooth := smooth_of_logs emits run logs
  have guarded := Pool.guard (fun move => move.within) (by simp [initial]) run
  have restricted := Pool.restrict guarded fun event eventMem =>
    And.intro (smooth event eventMem) (agrees event eventMem)
  have kept := @Pool.conserved _ _ _ _ _ _ _ _ _ (Coroutine.pending query server)
    (fun event => event.handedUri.bind (query.work server)) Event.work
    (fun moves => moves.1.1.work moves.1.2 (fun event eventMem => (moves.2 event eventMem).1)
      fun event eventMem => (moves.2 event eventMem).2) restricted
  have handed := (covered_of_logs emits positive run logs).complete empty
  rw [empty, ← Pool.bind_total, handed] at kept
  simpa [initial] using kept.symm

theorem found_of_run {policy : RedirectPolicy}
    (run : Run (.head policy) (initial generator controller) trace finish)
    (agrees : ∀ event ∈ trace, event.AgreesWith server) :
    (finish.world.outputs.found : Multiset Text) = total Event.line trace := by
  have grown := Pool.accumulated (fun moves => moves.1.found moves.2) (Pool.restrict run agrees)
  rwa [initial, Multiset.coe_nil, zero_add] at grown

end Run

section Independence

variable {G K G' K' : Type} [Generator G] [Controller K] [Generator G'] [Controller K']
  {query : Query} {server : Server} {uris : List Text} {trace trace' : List Event}
  {generator : G} {controller : K} {generator' : G'} {controller' : K'}

/--
Two complete runs over the same candidates, with any controllers and in any
order, end with the same counters, and `HeadAction` writes the same lines.
-/
theorem results_eq (emits : Generator.Emits generator uris)
    (emits' : Generator.Emits generator' uris) (positive : Controller.Positive controller)
    (positive' : Controller.Positive controller') {finish : State G K} {finish' : State G' K'}
    (run : Run query (initial generator controller) trace finish)
    (run' : Run query (initial generator' controller') trace' finish')
    (agrees : ∀ event ∈ trace, event.AgreesWith server)
    (agrees' : ∀ event ∈ trace', event.AgreesWith server)
    (empty : finish.processes = 0) (empty' : finish'.processes = 0) :
    finish.world.outputs.stats = finish'.world.outputs.stats ∧
      ((∃ policy, query = .head policy) →
        (finish.world.outputs.found : Multiset Text) = finish'.world.outputs.found) := by
  have same : total Event.work trace = total Event.work trace' := by
    rw [work_of_complete_run emits positive run agrees empty,
      work_of_complete_run emits' positive' run' agrees' empty']
  have smooth := smooth_of_logs emits run (logs_of_agrees agrees)
  have smooth' := smooth_of_logs emits' run' (logs_of_agrees agrees')
  constructor
  · have onlyWork : ∀ event : Event, event.stats = (event.work.map Event.stats).sum := by
      rintro ⟨⟩ <;> simp
    rw [(accounted_of_smooth run smooth).stats, (accounted_of_smooth run' smooth').stats,
      Event.total_eq_sum_work onlyWork, Event.total_eq_sum_work onlyWork, same]
  · rintro ⟨policy, rfl⟩
    have onlyWork : ∀ event : Event, event.line = (event.work.map Event.line).sum := by
      rintro ⟨⟩ <;> simp
    rw [found_of_run run agrees, found_of_run run' agrees', Event.total_eq_sum_work onlyWork,
      Event.total_eq_sum_work onlyWork, same]

/-- One coroutine, or two of which the second finds nothing left to do. -/
theorem results_eq_of_example :
    ∃ (trace trace' : List Event) (finish finish' : State StdinGenerator FixedController),
      Run (.head ⟨false, 5, [], []⟩)
          (initial ({ stdin := "/a\n".toList } : StdinGenerator) (FixedController.new 1 1000 0))
          trace finish ∧
        Run (.head ⟨false, 5, [], []⟩)
          (initial ({ stdin := "/a\n".toList } : StdinGenerator) (FixedController.new 2 1000 0))
          trace' finish' ∧
        Controller.recommendedCoroutines finish.world.controller = 1 ∧
        Controller.recommendedCoroutines finish'.world.controller = 2 ∧
        finish.world.outputs.stats = finish'.world.outputs.stats ∧
        (finish.world.outputs.found : Multiset Text) = finish'.world.outputs.found := by
  have emits : Generator.Emits ({ stdin := "/a\n".toList } : StdinGenerator) ["/a".toList] :=
    @StdinGenerator.emits_unlines ["/a".toList] (by decide)
  have run : ∃ trace finish,
      Run (.head ⟨false, 5, [], []⟩)
        (initial ({ stdin := "/a\n".toList } : StdinGenerator) (FixedController.new 1 1000 0))
        trace finish ∧ finish.processes = 0 ∧
      (∀ event ∈ trace, event.AgreesWith fun _ => some ⟨200, [], []⟩) ∧
      Controller.recommendedCoroutines finish.world.controller = 1 := by
    refine ⟨_, _, (((((((((.refl :
      Run _ (initial _ _) [] _).step
      (Pool.step_goto .start)).step
      (Pool.step_goto (@Coroutine.Move.take _ _ _ _ _ _ _ "/a".toList rfl))).step
      (Pool.step_goto (.noSpawn (by decide)))).step
      (Pool.step_goto .hand)).step
      (Pool.step_goto .connect)).step
      (Pool.step_goto .write)).step
      (Pool.step_goto (@Coroutine.Move.execute _ _ _ _ _ _ _ _ ⟨200, [], []⟩ (.returns 3)
        ⟨.ok none, _, [.answered _ _, .stored _]⟩ .returned rfl rfl))).step
      (Pool.step_goto (@Coroutine.Move.stay _ _ _ _ _ _ 0 (by decide)))).step
      (Pool.step_finish (.exhausted rfl)), rfl,
      by simp [Coroutine.Continuation.events, Event.AgreesWith], rfl⟩
  have run' : ∃ trace finish,
      Run (.head ⟨false, 5, [], []⟩)
        (initial ({ stdin := "/a\n".toList } : StdinGenerator) (FixedController.new 2 1000 0))
        trace finish ∧ finish.processes = 0 ∧
      (∀ event ∈ trace, event.AgreesWith fun _ => some ⟨200, [], []⟩) ∧
      Controller.recommendedCoroutines finish.world.controller = 2 := by
    refine ⟨_, _, (((((((((((.refl :
      Run _ (initial _ _) [] _).step
      (Pool.step_goto .start)).step
      (Pool.step_goto (@Coroutine.Move.take _ _ _ _ _ _ _ "/a".toList rfl))).step
      (Pool.step_spawn (.spawn (by decide)))).step
      (Pool.step_goto_beside .start)).step
      (Pool.step_finish_beside (.exhausted rfl))).step
      (Pool.step_goto .hand)).step
      (Pool.step_goto .connect)).step
      (Pool.step_goto .write)).step
      (Pool.step_goto (@Coroutine.Move.execute _ _ _ _ _ _ _ _ ⟨200, [], []⟩ (.returns 3)
        ⟨.ok none, _, [.answered _ _, .stored _]⟩ .returned rfl rfl))).step
      (Pool.step_goto (@Coroutine.Move.stay _ _ _ _ _ _ 0 (by decide)))).step
      (Pool.step_finish (.exhausted rfl)), rfl,
      by simp [Coroutine.Continuation.events, Event.AgreesWith], rfl⟩
  rcases run with ⟨trace, finish, run, empty, agrees, one⟩
  rcases run' with ⟨trace', finish', run', empty', agrees', two⟩
  rcases results_eq emits emits (FixedController.positive_new (Nat.le_refl 1) 1000 0)
    (FixedController.positive_new (Nat.le_succ 1) 1000 0) run run' agrees agrees' empty empty' with
    ⟨stats, found⟩
  exact ⟨trace, trace', finish, finish', run, run', one, two, stats, found ⟨_, rfl⟩⟩

end Independence

end Scraper

end Abrade
