import Abrade.Scraper.Connections
import Abrade.Scraper.Termination

/-!
# What a run leaves behind

The error log, `std::cerr` and the connections of a run.  Once a run is complete
and the error log has taken everything, each candidate has returned or stands in
one line of the log, with the exception that ended it.
-/

namespace Abrade

open Pool (Effect total weigh)

/-- Whether the loop of `spawn_coroutine` emits the event itself. -/
@[simp]
def Event.isOfLoop : Event → Bool
  | recommended _ => true
  | took _ => true
  | exhausted => true
  | generatorFailed => true
  | _ => false

namespace Detailed

namespace Event

/-- The candidate and the exception of a record. -/
@[simp]
def record : Event → Option (Text × Exception)
  | recorded uri failure _ => some (uri, failure)
  | recordThrew uri failure _ => some (uri, failure)
  | _ => none

/-- What has been appended to the file of the error log. -/
@[simp]
def loggedText : Event → Text
  | recorded uri failure reached => (Equipment.errorLine uri failure).take reached
  | recordThrew uri failure reached => (Equipment.errorLine uri failure).take reached
  | _ => []

/-- What has been written to `std::cerr`. -/
@[simp]
def stderrLines (equipment : Equipment) : Event → Stderr
  | closed teardown => teardown.lines
  | recorded _ failure _ => equipment.recordLines failure
  | _ => []

/-- Whether all of a record reached the file. -/
def IsWhole : Event → Prop
  | recorded uri failure reached => (Equipment.errorLine uri failure).length ≤ reached
  | recordThrew _ _ _ => False
  | _ => True

/-- The exceptions and connections of an event are those of the equipment. -/
def IsExplained (equipment : Equipment) : Event → Prop
  | closed teardown => ∃ shutdown, teardown = equipment.teardown shutdown
  | recorded _ failure _ => equipment.Throws failure
  | recordThrew _ failure _ => equipment.Throws failure
  | scraper _ => True

/-- The connections closed. -/
@[simp]
def closings : Event → ℕ
  | closed _ => 1
  | _ => 0

/-- What the scraper's pool counts of an event. -/
@[simp]
def lift {M : Type} [Zero M] (weight : Abrade.Event → M) : Event → M
  | scraper event => weight event
  | _ => 0

/-- The records begun. -/
@[simp]
def recordings : Event → ℕ
  | recorded _ _ _ => 1
  | recordThrew _ _ _ => 1
  | _ => 0

@[simp]
def recordedUri : Event → Multiset Text
  | recorded uri _ _ => {uri}
  | _ => 0

end Event

/-- The connections a coroutine has not closed yet. -/
@[simp]
def Coroutine.opened : Coroutine → ℕ
  | working _ _ _ => 1
  | closing _ _ => 1
  | _ => 0

/-- The exceptions a coroutine has counted and not recorded. -/
@[simp]
def Coroutine.unrecorded : Coroutine → ℕ
  | failed _ _ => 1
  | _ => 0

/-- The candidates of a coroutine that have neither returned nor thrown. -/
@[simp]
def Coroutine.engaged : Coroutine → ℕ
  | outside coroutine => coroutine.held.card
  | failed _ _ => 0
  | _ => 1

section Totals

variable {M : Type} [AddCommMonoid M]

theorem total_scraper (weight : Event → M) (events : List Abrade.Event) :
    total weight (events.map .scraper) = total (fun event => weight (.scraper event)) events := by
  simp [total, Function.comp_def]

theorem total_lift_scraper (weight : Abrade.Event → M) (events : List Abrade.Event) :
    total (Event.lift weight) (events.map .scraper) = total weight events :=
  total_scraper _ events

theorem total_of_seen {coarse : List Abrade.Event} {trace : List Event}
    (weight : Abrade.Event → M) (same : (coarse : Multiset Abrade.Event) = total Event.seen trace) :
    total weight coarse = total (Event.lift weight) trace := by
  have weighed : weigh weight (coarse : Multiset Abrade.Event) = total weight coarse := by
    simp [weigh, total]
  rw [← weighed, same]
  clear same weighed
  induction trace with
  | nil => rfl
  | cons event trace ih =>
      rw [Pool.total_cons, Pool.total_cons, Pool.weigh_add, ih]
      cases event <;> simp

/-- The counters of the scraper's events, taken apart. -/
theorem total_lift_stats (trace : List Event) :
    total (Event.lift Abrade.Event.stats) trace =
      { attemptedCount := total (Event.lift Abrade.Event.attempts) trace
        successCount := total (Event.lift Abrade.Event.successes) trace
        nonSuccessCount := total (Event.lift Abrade.Event.nonSuccesses) trace
        filteredCount := total (Event.lift Abrade.Event.filterings) trace
        errorCount := total (Event.lift fun event => event.threwUri.card) trace
        bytesWrittenCount := total (Event.lift Abrade.Event.bytes) trace } := by
  induction trace with
  | nil => rfl
  | cons event trace ih =>
      simp only [Pool.total_cons, ih]
      cases event with
      | scraper event => simp only [Event.lift, event.stats_eq, RunStats.add_def]
      | _ => simp [Event.lift]

end Totals

section Laws

variable {G K : Type} [Generator G] [Controller K] {equipment : Equipment}
  {world world' : World G K} {coroutine : Coroutine} {events : List Event}
  {effect : Effect Coroutine}

theorem isOfLoop_of_outside {query : Query} {world world' : Abrade.World G K}
    {coroutine : Abrade.Coroutine} {events : List Abrade.Event} {effect : Effect Abrade.Coroutine}
    (moves : Abrade.Coroutine.Move query world coroutine events world' effect)
    (isOutside : IsOutside coroutine) (contained : ∀ event ∈ events, event ≠ .aborted) :
    ∀ event ∈ events, event.isOfLoop = true := by
  cases moves with
  | requestThrows awaits => cases awaits <;> cases isOutside
  | abort => simp at contained
  | hand => cases isOutside
  | connect => cases isOutside
  | write => cases isOutside
  | execute => cases isOutside
  | log => cases isOutside
  | logThrows => cases isOutside
  | _ => simp

/-- What ignores the events of the loop is not changed by it. -/
theorem total_outside {M : Type} [AddCommMonoid M] {query : Query} {world world' : Abrade.World G K}
    {coroutine : Abrade.Coroutine} {events : List Abrade.Event} {effect : Effect Abrade.Coroutine}
    (weight : Event → M) (ignores : ∀ event, event.isOfLoop = true → weight (.scraper event) = 0)
    (moves : Abrade.Coroutine.Move query world coroutine events world' effect)
    (isOutside : IsOutside coroutine) (contained : ∀ event ∈ events, event ≠ .aborted) :
    total weight (events.map .scraper) = 0 := by
  rw [total_scraper]
  exact Pool.total_eq_zero fun event eventMem =>
    ignores event (isOfLoop_of_outside moves isOutside contained event eventMem)

theorem total_execute {M : Type} [AddCommMonoid M] (weight : Event → M) {query : Query}
    {response : Response} {candidate : Text} {file : FileOutcome} {outputs : Outputs}
    (ignores : ∀ event, event.isOfQuery = true → weight (.scraper event) = 0) :
    total weight ((query.execute response candidate file outputs).events.map .scraper) = 0 := by
  rw [total_scraper]
  exact Pool.total_eq_zero fun event eventMem =>
    ignores event (Query.balanced_execute.ofQuery event eventMem)

theorem Move.errorLog (move : Move equipment world coroutine events world' effect) :
    world'.errorLog = world.errorLog ++ events.flatMap Event.loggedText := by
  cases move with
  | close => simp [World.record]
  | hand => simp [World.record]
  | _ => simp

theorem Move.stderr (move : Move equipment world coroutine events world' effect) :
    world'.stderr = world.stderr ++ events.flatMap (Event.stderrLines equipment) := by
  cases move with
  | @close uri ending shutdown stderr closes =>
      rw [Teardown.close_eq] at closes
      cases closes
      simp
  | hand => simp [World.record]
  | _ => simp

theorem Move.explained (move : Move equipment world coroutine events world' effect)
    (sound : coroutine.Sound equipment) : ∀ event ∈ events, event.IsExplained equipment := by
  cases move with
  | @close uri ending shutdown =>
      rw [List.forall_mem_cons]
      refine ⟨⟨shutdown, rfl⟩, ?_⟩
      simp [Event.IsExplained]
  | log =>
      have throws : equipment.Throws _ := sound
      simpa [Event.IsExplained] using throws
  | logThrows =>
      have throws : equipment.Throws _ := sound
      simpa [Event.IsExplained] using throws
  | _ => simp [Event.IsExplained]

theorem Move.stats (move : Move equipment world coroutine events world' effect) :
    world'.shared.outputs.stats =
      world.shared.outputs.stats + total (Event.lift Abrade.Event.stats) events := by
  cases move with
  | outside _ _ moves => rw [total_lift_scraper, moves.stats]
  | hand => simp [World.record, Abrade.World.record, world.shared.outputs.stats.recordAttempt_eq]
  | @execute uri fetch response file executed executes =>
      subst executes
      rw [total_lift_scraper]
      exact Query.balanced_execute.stats
  | @close uri ending shutdown stderr closes =>
      rw [Pool.total_cons, total_lift_scraper]
      simp only [World.record, Abrade.World.record, ending.continuation.update_eq uri,
        Event.lift, zero_add]
  | _ => simp [Abrade.World.escape, Abrade.World.leave]

/-- An attempt opens a connection, which is with the coroutine until it is closed. -/
theorem Move.opened (move : Move equipment world coroutine events world' effect)
    (contained : ∀ event ∈ events, event ≠ .scraper .aborted) :
    coroutine.opened + total (Event.lift Abrade.Event.attempts) events =
      weigh Coroutine.opened effect.processes + total Event.closings events := by
  cases move with
  | @outside _ coroutine events effect isOutside mild moves =>
      rw [total_outside (Event.lift Abrade.Event.attempts) (by rintro ⟨⟩ <;> simp) moves isOutside mild,
        total_outside Event.closings (by simp) moves isOutside mild]
      cases effect <;> simp [outsideEffect, Multiset.insert_eq_cons]
  | @execute uri fetch response file executed executes =>
      subst executes
      rw [total_execute (Event.lift Abrade.Event.attempts) (by rintro ⟨⟩ <;> simp),
        total_execute Event.closings (by simp)]
      simp
  | @close uri ending =>
      cases ending <;>
        simp [Ending.continuation, Ending.coroutine, Coroutine.Continuation.events]
  | abort => simp at contained
  | _ => simp

/-- The scraper's pool sees a record as the log does. -/
theorem Move.recorded (move : Move equipment world coroutine events world' effect) :
    total (Event.lift Abrade.Event.loggedUri) events = total Event.recordedUri events := by
  cases move with
  | @outside _ coroutine events effect isOutside mild moves =>
      rw [total_outside (Event.lift Abrade.Event.loggedUri) (by rintro ⟨⟩ <;> simp) moves isOutside mild,
        total_outside Event.recordedUri (by simp) moves isOutside mild]
  | @execute uri fetch response file executed executes =>
      subst executes
      rw [total_execute (Event.lift Abrade.Event.loggedUri) (by rintro ⟨⟩ <;> simp),
        total_execute Event.recordedUri (by simp)]
  | @close uri ending =>
      cases ending <;> simp [Ending.continuation, Coroutine.Continuation.events]
  | _ => simp

theorem Move.records_bounded (move : Move equipment world coroutine events world' effect) :
    weigh Coroutine.unrecorded effect.processes + total Event.recordings events ≤
      coroutine.unrecorded +
        total (Event.lift fun event => event.threwUri.card) events := by
  cases move with
  | @outside _ coroutine events effect isOutside mild moves =>
      rw [total_outside Event.recordings (by simp) moves isOutside mild]
      cases effect <;> simp [outsideEffect, Multiset.insert_eq_cons]
  | @execute uri fetch response file executed executes =>
      subst executes
      rw [total_execute Event.recordings (by simp)]
      simp
  | @close uri ending =>
      cases ending <;>
        simp [Ending.continuation, Ending.coroutine, Coroutine.Continuation.events]
  | _ => simp

/-- A candidate returns or throws once. -/
theorem Move.ends_bounded (move : Move equipment world coroutine events world' effect) :
    weigh Coroutine.engaged effect.processes +
        total (Event.lift fun event => event.threwUri.card + event.returnedUri.card) events ≤
      coroutine.engaged + total (Event.lift fun event => event.tookUri.card) events := by
  cases move with
  | @outside _ coroutine events effect isOutside mild moves =>
      rw [total_outside (Event.lift fun event => event.threwUri.card + event.returnedUri.card)
        (by rintro ⟨⟩ <;> simp) moves isOutside mild, total_lift_scraper]
      have bounded := moves.handed_bounded
      cases effect <;> simp [outsideEffect, Multiset.insert_eq_cons] at bounded ⊢ <;> omega
  | @execute uri fetch response file executed executes =>
      subst executes
      rw [total_execute (Event.lift fun event => event.threwUri.card + event.returnedUri.card)
        (by rintro ⟨⟩ <;> simp)]
      simp
  | @close uri ending =>
      cases ending <;>
        simp [Ending.continuation, Ending.coroutine, Coroutine.Continuation.events]
  | _ => simp

theorem Move.generator (move : Move equipment world coroutine events world' effect)
    {remaining : List Text} (emits : Generator.Emits world.shared.generator remaining) :
    ∃ later, Generator.Emits world'.shared.generator later ∧
      later.length + total (Event.lift fun event => event.tookUri.card) events =
        remaining.length := by
  cases move with
  | @outside _ _ events _ _ _ moves =>
      rcases moves.generator emits with ⟨later, emitsLater, parts⟩
      have counted := congrArg Multiset.card parts
      rw [Multiset.card_add, ← Scraper.total_card, Multiset.coe_card, Multiset.coe_card] at counted
      refine ⟨later, emitsLater, ?_⟩
      rw [total_lift_scraper]
      omega
  | @execute uri fetch response file executed executes =>
      subst executes
      refine ⟨remaining, emits, ?_⟩
      rw [total_execute (Event.lift fun event => event.tookUri.card) (by rintro ⟨⟩ <;> simp)]
      simp
  | @close uri ending =>
      refine ⟨remaining, emits, ?_⟩
      cases ending <;> simp [Ending.continuation, Coroutine.Continuation.events]
  | _ => exact ⟨remaining, emits, by simp⟩

/-- While records reach the file as a whole, no exception leaves a coroutine. -/
theorem Move.contained (move : Move equipment world coroutine events world' effect)
    (contained : world.shared.escaped = false) {remaining : List Text}
    (emits : Generator.Emits world.shared.generator remaining)
    (whole : ∀ event ∈ events, event.IsWhole) :
    (world'.shared.escaped = false ∧
      ∃ later, Generator.Emits world'.shared.generator later) ∧
      ∀ event ∈ events, ∀ uri, event ≠ .scraper .aborted ∧ event ≠ .scraper (.logFailed uri) := by
  cases move with
  | @outside _ coroutine events effect isOutside mild moves =>
      have ofLoop := isOfLoop_of_outside moves isOutside mild
      have smooth := moves.smooth contained emits fun event eventMem uri failed => by
        have loop := ofLoop event eventMem
        rw [failed] at loop
        cases loop
      rcases moves.generator emits with ⟨later, emitsLater, -⟩
      refine ⟨⟨moves.escaped smooth contained, later, emitsLater⟩, ?_⟩
      intro event eventMem uri
      rcases List.mem_map.mp eventMem with ⟨event, loopMem, rfl⟩
      have loop := ofLoop event loopMem
      cases event <;> simp at loop ⊢
  | @execute uri fetch response file executed executes =>
      subst executes
      refine ⟨⟨contained, remaining, emits⟩, ?_⟩
      intro event eventMem uri
      rcases List.mem_map.mp eventMem with ⟨event, queryMem, rfl⟩
      have ofQuery := Query.balanced_execute.ofQuery event queryMem
      cases event <;> simp at ofQuery ⊢
  | @close uri ending =>
      refine ⟨⟨contained, remaining, emits⟩, ?_⟩
      cases ending <;> simp [Ending.continuation, Coroutine.Continuation.events]
  | logThrows => simp [Event.IsWhole] at whole
  | abort escaped => simp [contained] at escaped
  | _ => exact ⟨⟨contained, remaining, emits⟩, by simp⟩

end Laws

section Runs

variable {G K : Type} [Generator G] [Controller K] {equipment : Equipment} {generator : G}
  {controller : K} {errorLog : Text} {uris : List Text} {trace : List Event} {finish : State G K}

theorem stats_of_run
    (run : Run equipment (initial generator controller errorLog) trace finish) :
    finish.world.shared.outputs.stats =
      { attemptedCount := total (Event.lift Abrade.Event.attempts) trace
        successCount := total (Event.lift Abrade.Event.successes) trace
        nonSuccessCount := total (Event.lift Abrade.Event.nonSuccesses) trace
        filteredCount := total (Event.lift Abrade.Event.filterings) trace
        errorCount := total (Event.lift fun event => event.threwUri.card) trace
        bytesWrittenCount := total (Event.lift Abrade.Event.bytes) trace } := by
  have grown := Pool.accumulated (fun move => move.stats) run
  rwa [initial, Scraper.initial, ← RunStats.zero_def, zero_add, total_lift_stats] at grown

theorem explained_of_run
    (run : Run equipment (initial generator controller errorLog) trace finish) :
    ∀ event ∈ trace, event.IsExplained equipment :=
  Pool.forall_event (fun moves => moves.1.explained moves.2)
    (Pool.guard (fun move => move.sound) (by simp [initial, Coroutine.Sound]) run)

/--
In every run, the attempts counted are the connections closed and those still
with a coroutine; the closed ones are of the policy and the mode, and the error
log and `std::cerr` hold what was written to them, in order.
-/
theorem connections_of_run
    (run : Run equipment (initial generator controller errorLog) trace finish)
    (contained : ∀ event ∈ trace, event ≠ .scraper .aborted) :
    finish.world.shared.outputs.stats.attemptedCount =
        weigh Coroutine.opened finish.processes + total Event.closings trace ∧
      (∀ teardown, .closed teardown ∈ trace →
        ∃ shutdown, teardown = equipment.teardown shutdown) ∧
      finish.world.errorLog = errorLog ++ trace.flatMap Event.loggedText ∧
      finish.world.stderr = trace.flatMap (Event.stderrLines equipment) := by
  have opened := Pool.conserved (fun moves => moves.1.opened moves.2) (Pool.restrict run contained)
  have written := Pool.appended (fun move => move.stderr) run
  refine ⟨?_, fun teardown closed => explained_of_run run _ closed,
    Pool.appended (fun move => move.errorLog) run, written⟩
  simp only [initial, Pool.weigh_singleton, Coroutine.opened, zero_add] at opened
  rw [stats_of_run run]
  exact opened

theorem contained_of_whole (emits : Generator.Emits generator uris)
    (run : Run equipment (initial generator controller errorLog) trace finish)
    (whole : ∀ event ∈ trace, event.IsWhole) :
    finish.world.shared.escaped = false ∧
      ∀ event ∈ trace, ∀ uri, event ≠ .scraper .aborted ∧ event ≠ .scraper (.logFailed uri) := by
  have kept := @Transition.Run.invariant _ _ _ _ _ _
    (fun trace state => (state.world.shared.escaped = false ∧
        ∃ remaining, Generator.Emits state.world.shared.generator remaining) ∧
      ∀ event ∈ trace, ∀ uri, event ≠ .scraper .aborted ∧ event ≠ .scraper (.logFailed uri))
    ⟨⟨rfl, uris, emits⟩, by simp⟩ ?_ (run.restrict whole)
  · exact ⟨kept.1.1, kept.2⟩
  · rintro trace state events next ⟨⟨contained, remaining, emits⟩, mild⟩ ⟨step, whole⟩
    cases step with
    | move moves =>
        rcases moves.contained contained emits whole with ⟨containedNext, mildNow⟩
        exact ⟨containedNext, List.forall_mem_append.mpr ⟨mild, mildNow⟩⟩

theorem mem_of_seen {coarse : List Abrade.Event}
    (same : (coarse : Multiset Abrade.Event) = total Event.seen trace) {event : Abrade.Event}
    (eventMem : event ∈ coarse) : .scraper event ∈ trace := by
  rw [← Multiset.mem_coe, same] at eventMem
  clear same
  induction trace with
  | nil => simp at eventMem
  | cons first trace ih =>
      rw [Pool.total_cons, Multiset.mem_add] at eventMem
      rcases eventMem with ofFirst | ofRest
      · cases first <;> simp at ofFirst
        simp [ofFirst]
      · exact List.mem_cons_of_mem _ (ih ofRest)

/-- The records of a trace, in order. -/
def records (trace : List Event) : List (Text × Exception) :=
  trace.filterMap Event.record

theorem loggedText_of_whole (whole : ∀ event ∈ trace, event.IsWhole) :
    trace.flatMap Event.loggedText =
      (records trace).flatMap fun record => Equipment.errorLine record.1 record.2 := by
  induction trace with
  | nil => rfl
  | cons event trace ih =>
      rw [List.forall_mem_cons] at whole
      rw [List.flatMap_cons, ih whole.2]
      cases event with
      | recorded uri failure reached =>
          have reaches : (Equipment.errorLine uri failure).length ≤ reached := whole.1
          simp [records, List.take_of_length_le reaches]
      | recordThrew => exact whole.1.elim
      | _ => simp [records, List.filterMap_cons]

theorem recordedUri_of_whole (whole : ∀ event ∈ trace, event.IsWhole) :
    total Event.recordedUri trace = ((records trace).map Prod.fst : List Text) := by
  induction trace with
  | nil => rfl
  | cons event trace ih =>
      rw [List.forall_mem_cons] at whole
      rw [Pool.total_cons, ih whole.2]
      cases event with
      | recordThrew => exact whole.1.elim
      | _ => simp [records, List.filterMap_cons]

/-- The candidates of a complete run have returned or been recorded, and were counted then. -/
theorem recorded_of_complete_run (emits : Generator.Emits generator uris)
    (positive : Controller.Positive controller)
    (run : Run equipment (initial generator controller errorLog) trace finish)
    (whole : ∀ event ∈ trace, event.IsWhole) (empty : finish.processes = 0) :
    (records trace).length = finish.world.shared.outputs.stats.errorCount ∧
      ((records trace).map Prod.fst : List Text) + total (Event.lift Abrade.Event.returnedUri) trace =
        (uris : Multiset Text) := by
  have mild := (contained_of_whole emits run whole).2
  rcases exists_scraper_run run fun event eventMem => (mild event eventMem []).1 with
    ⟨coarse, coarseRun, same⟩
  simp only [initial, Pool.weigh_singleton, Coroutine.pending, zero_add, empty, Pool.weigh_zero,
    add_zero] at same
  have logs : ∀ event ∈ coarse, ∀ uri, event ≠ .logFailed uri := by
    rintro event eventMem uri rfl
    exact (mild _ (mem_of_seen same eventMem) uri).2 rfl
  have covered := Scraper.covered_of_logs emits positive coarseRun logs
  have accounted := Scraper.accounted_of_smooth coarseRun
    (Scraper.smooth_of_logs emits coarseRun logs)
  have ended : (view finish).processes = 0 := by simp [view, empty]
  have handed := covered.complete ended
  have candidates := accounted.candidates
  have threw := accounted.records
  have counted := congrArg RunStats.errorCount accounted.stats
  rw [ended, Pool.weigh_zero, zero_add] at candidates threw
  have logged : total Abrade.Event.loggedUri coarse = ((records trace).map Prod.fst : List Text) := by
    rw [← recordedUri_of_whole whole, ← Pool.balanced (fun move => move.recorded) run,
      total_of_seen _ same]
  have returned := total_of_seen Abrade.Event.returnedUri same
  constructor
  · rw [Abrade.Event.total_stats] at counted
    have shifted : (view finish).world.outputs.stats.errorCount =
        finish.world.shared.outputs.stats.errorCount := by
      simp [view, empty, Abrade.World.shift]
    rw [← shifted, counted]
    dsimp only
    rw [Scraper.total_card, threw, logged, Multiset.coe_card, List.length_map]
  · rw [← logged, ← threw, ← returned, ← candidates, handed]

/-- The error log has grown by the lines of the records. -/
theorem errorLog_of_whole
    (run : Run equipment (initial generator controller errorLog) trace finish)
    (whole : ∀ event ∈ trace, event.IsWhole) :
    finish.world.errorLog = errorLog ++ (records trace).flatMap
      (fun record => Equipment.errorLine record.1 record.2) := by
  rw [← loggedText_of_whole whole]
  exact Pool.appended (fun move => move.errorLog) run

/--
When a run is complete and all that was recorded has reached the file, the
candidates of the generator are those that returned and those of the lines
appended to the error log, each once; a line names an exception that an attempt
can throw, and there are as many as errors counted.
-/
theorem error_log_of_complete_run (emits : Generator.Emits generator uris)
    (positive : Controller.Positive controller)
    (run : Run equipment (initial generator controller errorLog) trace finish)
    (whole : ∀ event ∈ trace, event.IsWhole) (empty : finish.processes = 0) :
    finish.world.errorLog =
        errorLog ++ (records trace).flatMap
          (fun record => Equipment.errorLine record.1 record.2) ∧
      (∀ record ∈ records trace, equipment.Throws record.2) ∧
      (records trace).length = finish.world.shared.outputs.stats.errorCount ∧
      ((records trace).map Prod.fst : List Text) + total (Event.lift Abrade.Event.returnedUri) trace =
        (uris : Multiset Text) := by
  refine ⟨errorLog_of_whole run whole, ?_, recorded_of_complete_run emits positive run whole empty⟩
  intro record recordMem
  rcases List.mem_filterMap.mp recordMem with ⟨event, eventMem, found⟩
  have explained := explained_of_run run event eventMem
  cases event <;> cases found <;> exact explained

theorem taken_le_length (emits : Generator.Emits generator uris)
    (run : Run equipment (initial generator controller errorLog) trace finish) :
    total (Event.lift fun event => event.tookUri.card) trace ≤ uris.length := by
  have kept := @Transition.Run.invariant _ _ _ _ _ _
    (fun trace state => ∃ remaining, Generator.Emits state.world.shared.generator remaining ∧
      remaining.length + total (Event.lift fun event => event.tookUri.card) trace = uris.length)
    ⟨uris, emits, by simp⟩ ?_ run
  · rcases kept with ⟨remaining, -, parts⟩
    omega
  · rintro trace state events next ⟨remaining, emits, parts⟩ step
    cases step with
    | move moves =>
        rcases moves.generator emits with ⟨later, emitsLater, partsNow⟩
        refine ⟨later, emitsLater, ?_⟩
        rw [Pool.total_append]
        omega

/-- A candidate that has thrown is one that will not return. -/
theorem errorCount_add_returned_le (emits : Generator.Emits generator uris)
    (run : Run equipment (initial generator controller errorLog) trace finish) :
    finish.world.shared.outputs.stats.errorCount +
        (total (Event.lift Abrade.Event.returnedUri) trace).card ≤ uris.length := by
  have ended := Pool.budgeted (fun move => move.ends_bounded) run
  have taken := taken_le_length emits run
  have parts : total
      (Event.lift fun event => event.threwUri.card + event.returnedUri.card) trace =
        total (Event.lift fun event => event.threwUri.card) trace +
          (total (Event.lift Abrade.Event.returnedUri) trace).card := by
    have cards := Pool.map_total Multiset.cardHom (Event.lift Abrade.Event.returnedUri) trace
    rw [Multiset.cardHom_apply] at cards
    rw [cards, ← Pool.total_add]
    exact Pool.total_congr fun event _ => by cases event <;> simp
  rw [stats_of_run run]
  simp only [initial, Pool.weigh_singleton, Coroutine.engaged, Abrade.Coroutine.held,
    Multiset.card_zero, zero_add] at ended
  dsimp only
  omega

/-- Without errors nothing has been recorded. -/
theorem whole_of_noErrors
    (run : Run equipment (initial generator controller errorLog) trace finish)
    (without : finish.world.shared.outputs.stats.errorCount = 0) :
    ∀ event ∈ trace, event.IsWhole := by
  have recorded := Pool.budgeted (fun move => move.records_bounded) run
  rw [stats_of_run run] at without
  dsimp only at without
  simp only [initial, Pool.weigh_singleton, Coroutine.unrecorded, zero_add, without] at recorded
  have nothing : total Event.recordings trace = 0 := by omega
  intro event eventMem
  have zero : event.recordings = 0 :=
    List.sum_eq_zero_iff.mp nothing _ (List.mem_map.mpr ⟨event, eventMem, rfl⟩)
  cases event with
  | recorded => cases zero
  | recordThrew => cases zero
  | _ => trivial

/-- However a complete run went, it counted no error exactly when every candidate has returned. -/
theorem noErrors_iff_all_returned (emits : Generator.Emits generator uris)
    (positive : Controller.Positive controller)
    (run : Run equipment (initial generator controller errorLog) trace finish)
    (empty : finish.processes = 0) :
    finish.world.shared.outputs.stats.errorCount = 0 ↔
      total (Event.lift Abrade.Event.returnedUri) trace = (uris : Multiset Text) := by
  constructor
  · intro without
    rcases recorded_of_complete_run emits positive run (whole_of_noErrors run without) empty with
      ⟨counted, parts⟩
    rw [without, List.length_eq_zero_iff] at counted
    simpa [counted] using parts
  · intro returned
    have few := errorCount_add_returned_le emits run
    rw [returned, Multiset.coe_card] at few
    omega

theorem connections_of_run_of_example :
    ∃ finish : State StdinGenerator FixedController,
      Run directEquipment (initial { stdin := "/a\n".toList } (FixedController.new 1 1000 0) [])
          (timedOutTrace 1 1) finish ∧
        finish.processes = 0 ∧
        finish.world.shared.outputs.stats.attemptedCount =
          weigh Coroutine.opened finish.processes + 1 ∧
        finish.world.errorLog =
          Equipment.errorLine "/a".toList (timeoutException "resolve host") := by
  rcases @run_timedOutTrace _ _ _ _ { stdin := "/a\n".toList : StdinGenerator } _ _
    (FixedController.new 1 1000 0) rfl rfl (by decide) (by decide) with ⟨finish, run, empty⟩
  rcases connections_of_run run (by simp [timedOutTrace]) with ⟨attempts, -, text, -⟩
  exact ⟨finish, run, empty, attempts, text⟩

theorem error_log_of_complete_run_of_example :
    ∃ finish : State StdinGenerator FixedController,
      Run directEquipment (initial { stdin := "/a\n".toList } (FixedController.new 1 1000 0) [])
          (timedOutTrace 1 1) finish ∧
        finish.processes = 0 ∧
        finish.world.errorLog =
          Equipment.errorLine "/a".toList (timeoutException "resolve host") ∧
        finish.world.shared.outputs.stats.errorCount = 1 := by
  have emits : Generator.Emits ({ stdin := "/a\n".toList } : StdinGenerator) ["/a".toList] :=
    @StdinGenerator.emits_unlines ["/a".toList] (by decide)
  have positive : Controller.Positive (FixedController.new 1 1000 0) :=
    FixedController.positive_new (Nat.le_refl 1) 1000 0
  have whole : ∀ event ∈ timedOutTrace 1 1, event.IsWhole := by
    have short : (Equipment.errorLine "/a".toList (timeoutException "resolve host")).length ≤ 100 :=
      by decide
    simpa [timedOutTrace, Event.IsWhole] using short
  rcases @run_timedOutTrace _ _ _ _ { stdin := "/a\n".toList : StdinGenerator } _ _
    (FixedController.new 1 1000 0) rfl rfl (by decide) (by decide) with ⟨finish, run, empty⟩
  rcases error_log_of_complete_run emits positive run whole empty with ⟨text, -, counted, -⟩
  exact ⟨finish, run, empty, text, counted.symm⟩

end Runs

end Detailed

end Abrade
