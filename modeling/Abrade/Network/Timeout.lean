import Abrade.Basic
import Abrade.Library.Interleaving

/-!
# Network timeouts

The calls of `await_void_with_timeout` and `await_result_with_timeout` that one
coroutine makes on one stream or resolver.  Handlers run one at a time, on the
thread of the `io_context`; operations complete, timers expire and queued
handlers run in any order.
-/

namespace Abrade

open Transition (Run)

universe u

/-- A `boost::system::error_code`. -/
structure ErrorCode where
  value : ℤ
  message : String
  deriving DecidableEq

namespace ErrorCode

def success : ErrorCode :=
  { value := 0, message := "Success" }

/-- `boost::asio::error::operation_aborted`. -/
def operationAborted : ErrorCode :=
  { value := 125, message := "Operation canceled" }

/-- The conversion to `bool`. -/
def failed (ec : ErrorCode) : Bool :=
  ec.value != 0

end ErrorCode

/-- `AbradeException{msg, ec}`. -/
def abradeException (msg : String) (ec : ErrorCode) : Exception :=
  .runtimeError (msg ++ "; Code " ++ toString ec.value ++ "; Message " ++ ec.message)

/-- `AbradeException{std::string{action} + " timeout"}`. -/
def timeoutException (action : String) : Exception :=
  .runtimeError (action ++ " timeout")

theorem abradeException_ne_timeoutException (action : String) (ec : ErrorCode) :
    abradeException action ec ≠ timeoutException action := by
  intro same
  have texts := congrArg String.toList (Exception.runtimeError.inj same)
  simp only [String.toList_append, List.append_assoc, List.append_cancel_left_eq] at texts
  exact absurd (congrArg List.head? texts) (by simp)

/-- The two flags that a call shares with the handler of its timer. -/
structure Flags where
  active : Bool
  timedOut : Bool
  deriving DecidableEq

/-- The handler of `timer.async_wait`, and whether it runs the cancel action. -/
def timerHandler (ec : ErrorCode) (flags : Flags) : Flags × Bool :=
  if !ec.failed && flags.active then ({ active := false, timedOut := true }, true)
  else (flags, false)

theorem timerHandler_cases (ec : ErrorCode) (flags : Flags) :
    (ec.failed = false ∧ flags.active = true ∧
        timerHandler ec flags = ({ active := false, timedOut := true }, true)) ∨
      ((ec.failed = true ∨ flags.active = false) ∧ timerHandler ec flags = (flags, false)) := by
  unfold timerHandler
  cases ec.failed <;> cases flags.active <;> simp

/-- What both wrappers do behind the operation. -/
def throwIfFailed (action : String) (timedOut : Bool) (ec : ErrorCode) : Except Exception Unit :=
  if timedOut then .error (timeoutException action)
  else if ec.failed then .error (abradeException action ec)
  else .ok ()

/-- `await_void_with_timeout` behind the operation. -/
def awaitVoidWithTimeout (action : String) (timedOut : Bool) (ec : ErrorCode) :
    Except Exception Unit :=
  throwIfFailed action timedOut ec

/-- `await_result_with_timeout` behind the operation. -/
def awaitResultWithTimeout {ρ : Type u} (action : String) (timedOut : Bool) (ec : ErrorCode)
    (result : ρ) : Except Exception ρ :=
  (throwIfFailed action timedOut ec).map fun _ => result

inductive Wrapper where
  | awaitVoidWithTimeout
  | awaitResultWithTimeout
  deriving DecidableEq

namespace Wrapper

variable {ρ : Type u}

/-- How a call returns or throws; `none` stands for the result of a void call. -/
def outcome (wrapper : Wrapper) (action : String) (timedOut : Bool) (ec : ErrorCode)
    (result : ρ) : Except Exception (Option ρ) :=
  match wrapper with
  | .awaitVoidWithTimeout => (Abrade.awaitVoidWithTimeout action timedOut ec).map fun _ => none
  | .awaitResultWithTimeout =>
      (Abrade.awaitResultWithTimeout action timedOut ec result).map some

/-- What a call returns normally. -/
def returned (wrapper : Wrapper) (result : ρ) : Option ρ :=
  match wrapper with
  | .awaitVoidWithTimeout => none
  | .awaitResultWithTimeout => some result

theorem outcome_eq (wrapper : Wrapper) (action : String) (timedOut : Bool) (ec : ErrorCode)
    (result : ρ) :
    wrapper.outcome action timedOut ec result =
      if timedOut then .error (timeoutException action)
      else if ec.failed then .error (abradeException action ec)
      else .ok (wrapper.returned result) := by
  cases wrapper <;> cases timedOut <;> cases failure : ec.failed <;>
    simp [outcome, Abrade.awaitVoidWithTimeout, Abrade.awaitResultWithTimeout, throwIfFailed,
      returned, failure, Except.map]

theorem outcome_eq_timeout_iff (wrapper : Wrapper) (action : String) (timedOut : Bool)
    (ec : ErrorCode) (result : ρ) :
    wrapper.outcome action timedOut ec result = .error (timeoutException action) ↔
      timedOut = true := by
  rw [outcome_eq]
  cases timedOut with
  | true => simp
  | false => cases ec.failed <;> simp [abradeException_ne_timeoutException]

end Wrapper

/-- Where the wait of a timer is. -/
inductive Timer where
  | armed
  /-- The handler is in the queue of the `io_context`. -/
  | queued (ec : ErrorCode)
  | handled
  deriving DecidableEq

/-- `timer.cancel()`; a handler that is queued already keeps its error code. -/
def Timer.cancel : Timer → Timer
  | .armed => .queued .operationAborted
  | timer => timer

structure Call (ρ : Type u) where
  wrapper : Wrapper
  action : String
  flags : Flags
  timer : Timer
  /-- How the operation completed; `none` while it is outstanding. -/
  completion : Option (ErrorCode × ρ)
  /-- The coroutine resumed, and the call returned or threw. -/
  resumed : Bool

inductive CallEvent (ρ : Type u) where
  | completed (ec : ErrorCode) (result : ρ)
  /-- The handler of the timer ran. -/
  | timerRan (ec : ErrorCode)
  /-- The cancel action ran; `targets` are the calls whose operations it cancels. -/
  | cancelled (targets : List ℕ)
  | resumed (outcome : Except Exception (Option ρ))

namespace Call

variable {ρ : Type u}

/-- The call up to the operation: the timer runs, and the coroutine is suspended. -/
def suspended (wrapper : Wrapper) (action : String) : Call ρ where
  wrapper
  action
  flags := { active := true, timedOut := false }
  timer := .armed
  completion := none
  resumed := false

def resume (call : Call ρ) : Call ρ :=
  { call with
    flags := { call.flags with active := false }
    timer := call.timer.cancel
    resumed := true }

@[simp]
theorem resume_timedOut (call : Call ρ) : call.resume.flags.timedOut = call.flags.timedOut :=
  rfl

@[simp]
theorem resume_active (call : Call ρ) : call.resume.flags.active = false :=
  rfl

@[simp]
theorem resume_completion (call : Call ρ) : call.resume.completion = call.completion :=
  rfl

@[simp]
theorem resume_resumed (call : Call ρ) : call.resume.resumed = true :=
  rfl

/-- What happens to one call, when `targets` are the calls with outstanding operations. -/
inductive Step (targets : List ℕ) : Call ρ → List (CallEvent ρ) → Call ρ → Prop where
  | complete {call : Call ρ} (ec : ErrorCode) (result : ρ) (outstanding : call.completion = none) :
      Step targets call [.completed ec result] { call with completion := some (ec, result) }
  | expire {call : Call ρ} (armed : call.timer = .armed) :
      Step targets call [] { call with timer := .queued .success }
  | handle {call : Call ρ} {ec : ErrorCode} (queued : call.timer = .queued ec) :
      Step targets call
        (.timerRan ec :: if (timerHandler ec call.flags).2 then [.cancelled targets] else [])
        { call with flags := (timerHandler ec call.flags).1, timer := .handled }
  | resume {call : Call ρ} {ec : ErrorCode} {result : ρ}
      (completed : call.completion = some (ec, result)) (waiting : call.resumed = false) :
      Step targets call [.resumed (call.wrapper.outcome call.action call.flags.timedOut ec result)]
        call.resume

/-- The handler of the timer ran with no error. -/
def TimedOut (history : List (CallEvent ρ)) : Prop :=
  ∃ ec, ec.failed = false ∧ .timerRan ec ∈ history

theorem timedOut_append {history events : List (CallEvent ρ)}
    (silent : ∀ ec, .timerRan ec ∉ events) : TimedOut (history ++ events) ↔ TimedOut history := by
  simp [TimedOut, silent]

/-- What the state of a call says about its past. -/
structure Follows (history : List (CallEvent ρ)) (call : Call ρ) : Prop where
  active_iff : call.flags.active = true ↔ call.flags.timedOut = false ∧ call.resumed = false
  resumed : ∀ {outcome}, .resumed outcome ∈ history → call.resumed = true
  cancelled : ∀ {targets}, .cancelled targets ∈ history → call.flags.timedOut = true
  timedOut_iff : call.resumed = false → (call.flags.timedOut = true ↔ TimedOut history)
  completed_iff : ∀ ec result,
    .completed ec result ∈ history ↔ call.completion = some (ec, result)
  waiting : call.completion = none → call.resumed = false

theorem follows_suspended (wrapper : Wrapper) (action : String) :
    Follows [] (suspended wrapper action : Call ρ) := by
  constructor <;> simp [suspended, TimedOut]

section Steps

variable {targets : List ℕ} {history events : List (CallEvent ρ)} {call call' : Call ρ}

theorem Follows.resumed_append (follows : Follows history call)
    {outcome : Except Exception (Option ρ)} (other : .resumed outcome ∉ events)
    (resumedMem : .resumed outcome ∈ history ++ events) : call.resumed = true :=
  follows.resumed ((List.mem_append.mp resumedMem).resolve_right other)

theorem Follows.cancelled_append (follows : Follows history call)
    (other : .cancelled targets ∉ events) (cancelledMem : .cancelled targets ∈ history ++ events) :
    call.flags.timedOut = true :=
  follows.cancelled ((List.mem_append.mp cancelledMem).resolve_right other)

/-- A handler that does nothing has an error, or the handler has run before. -/
theorem Follows.timedOut_append_of_idle (follows : Follows history call) {ec : ErrorCode}
    (waiting : call.resumed = false) (idle : ec.failed = true ∨ call.flags.active = false) :
    TimedOut (history ++ [.timerRan ec]) ↔ TimedOut history := by
  constructor
  · rintro ⟨latest, noError, latestMem⟩
    rcases List.mem_append.mp latestMem with latestMem | latestMem
    · exact ⟨latest, noError, latestMem⟩
    · obtain rfl : latest = ec := by simpa using latestMem
      rcases idle with failed | inactive
      · rw [noError] at failed
        cases failed
      · have expired : call.flags.timedOut = true := by
          by_contra notExpired
          have active := follows.active_iff.mpr ⟨by simpa using notExpired, waiting⟩
          rw [inactive] at active
          cases active
        exact (follows.timedOut_iff waiting).mp expired
  · rintro ⟨earlier, noError, earlierMem⟩
    exact ⟨earlier, noError, List.mem_append_left _ earlierMem⟩

theorem Step.follows (step : Step targets call events call') (follows : Follows history call) :
    Follows (history ++ events) call' := by
  cases step with
  | complete ec result outstanding =>
      have waiting := follows.waiting outstanding
      refine ⟨follows.active_iff, ?_, ?_, ?_, ?_, by simp⟩
      · exact follows.resumed_append (by simp)
      · exact follows.cancelled_append (by simp)
      · intro _
        rw [timedOut_append (by simp)]
        exact follows.timedOut_iff waiting
      · intro ec' result'
        have fresh : .completed ec' result' ∉ history := by
          rw [follows.completed_iff, outstanding]
          simp
        simp [fresh, eq_comm]
  | expire armed =>
      rw [List.append_nil]
      exact ⟨follows.active_iff, follows.resumed, follows.cancelled, follows.timedOut_iff,
        follows.completed_iff, follows.waiting⟩
  | @handle ec queued =>
      rcases timerHandler_cases ec call.flags with ⟨noError, active, handler⟩ | ⟨idle, handler⟩
      · simp only [handler, if_true]
        refine ⟨by simp, ?_, by simp, ?_, ?_, follows.waiting⟩
        · exact follows.resumed_append (by simp)
        · intro _
          exact iff_of_true rfl ⟨ec, noError, by simp⟩
        · intro ec' result'
          simpa using follows.completed_iff ec' result'
      · simp only [handler, Bool.false_eq_true, if_false]
        refine ⟨follows.active_iff, ?_, ?_, ?_, ?_, follows.waiting⟩
        · exact follows.resumed_append (by simp)
        · exact follows.cancelled_append (by simp)
        · intro waiting
          rw [follows.timedOut_iff waiting, follows.timedOut_append_of_idle waiting idle]
        · intro ec' result'
          simpa using follows.completed_iff ec' result'
  | resume completed waiting =>
      refine ⟨by simp, by simp, ?_, by simp, ?_, by simp [completed]⟩
      · exact follows.cancelled_append (by simp)
      · intro ec' result'
        simpa using follows.completed_iff ec' result'

theorem Step.waiting (step : Step targets call events call') (waiting : call'.resumed = false) :
    call.resumed = false := by
  cases step with
  | complete => exact waiting
  | expire => exact waiting
  | handle => exact waiting
  | resume => cases waiting

/-- The cancel action runs for an active call and cancels what is outstanding. -/
theorem Step.cancels {targets' : List ℕ} (step : Step targets call events call')
    (cancelledMem : .cancelled targets' ∈ events) :
    targets' = targets ∧ call.flags.active = true := by
  cases step with
  | complete => simp at cancelledMem
  | expire => simp at cancelledMem
  | @handle ec =>
      rcases timerHandler_cases ec call.flags with ⟨_, active, handler⟩ | ⟨_, handler⟩
      · exact ⟨by simpa [handler] using cancelledMem, active⟩
      · simp [handler] at cancelledMem
  | resume => simp at cancelledMem

theorem Step.same (step : Step targets call events call') :
    call'.wrapper = call.wrapper ∧ call'.action = call.action := by
  cases step <;> exact ⟨rfl, rfl⟩

end Steps

/--
What holds of an event of a call, given the earlier ones.  The cancel action
runs at most once, and never behind the coroutine.  The coroutine resumes from
the completion of its operation, with a timeout exactly when the handler of the
timer ran before.
-/
def Allowed (wrapper : Wrapper) (action : String) (before : List (CallEvent ρ)) :
    CallEvent ρ → Prop
  | .cancelled _ =>
      (∀ targets, .cancelled targets ∉ before) ∧ ∀ outcome, .resumed outcome ∉ before
  | .resumed outcome =>
      ∃ ec result,
        (∀ ec' result', .completed ec' result' ∈ before ↔ ec' = ec ∧ result' = result) ∧
          (outcome = .error (timeoutException action) ↔ TimedOut before) ∧
          (¬ TimedOut before →
            outcome = if ec.failed then .error (abradeException action ec)
              else .ok (wrapper.returned result))
  | _ => True

section Steps

variable {targets : List ℕ} {history : List (CallEvent ρ)} {call call' : Call ρ}

theorem Follows.allowed_cancelled (follows : Follows history call)
    (active : call.flags.active = true) (ec : ErrorCode) (targets : List ℕ) :
    Allowed call.wrapper call.action (history ++ [.timerRan ec]) (.cancelled targets) := by
  have ⟨notExpired, waiting⟩ := follows.active_iff.mp active
  constructor
  · intro targets cancelledMem
    rw [follows.cancelled (by simpa using cancelledMem)] at notExpired
    cases notExpired
  · intro outcome resumedMem
    rw [follows.resumed (by simpa using resumedMem)] at waiting
    cases waiting

theorem Follows.allowed_resumed (follows : Follows history call) {ec : ErrorCode} {result : ρ}
    (completed : call.completion = some (ec, result)) (waiting : call.resumed = false) :
    Allowed call.wrapper call.action history
      (.resumed (call.wrapper.outcome call.action call.flags.timedOut ec result)) := by
  refine ⟨ec, result, ?_, ?_, ?_⟩
  · intro ec' result'
    simp [follows.completed_iff, completed, eq_comm]
  · rw [Wrapper.outcome_eq_timeout_iff, follows.timedOut_iff waiting]
  · intro inTime
    have notExpired : call.flags.timedOut = false := by
      rwa [← follows.timedOut_iff waiting, Bool.not_eq_true] at inTime
    simp [Wrapper.outcome_eq, notExpired]

theorem Step.allowed {before after events : List (CallEvent ρ)} {event : CallEvent ρ}
    (step : Step targets call events call') (split : events = before ++ event :: after)
    (follows : Follows history call) :
    Allowed call.wrapper call.action (history ++ before) event := by
  cases step with
  | complete ec result outstanding =>
      rcases List.singleton_eq_append_iff.mp split with ⟨_, single⟩ | ⟨_, single⟩
      · cases single
        trivial
      · cases single
  | expire armed => simp at split
  | @handle ec queued =>
      rcases List.cons_eq_append_iff.mp split with ⟨_, first⟩ | ⟨before, rfl, rest⟩
      · cases first
        trivial
      · rcases timerHandler_cases ec call.flags with ⟨_, active, handler⟩ | ⟨_, handler⟩
        · rw [handler, if_pos rfl] at rest
          rcases List.singleton_eq_append_iff.mp rest with ⟨rfl, single⟩ | ⟨_, single⟩
          · cases single
            exact follows.allowed_cancelled active ec targets
          · cases single
        · simp [handler] at rest
  | resume completed waiting =>
      rcases List.singleton_eq_append_iff.mp split with ⟨rfl, single⟩ | ⟨_, single⟩
      · cases single
        rw [List.append_nil]
        exact follows.allowed_resumed completed waiting
      · cases single

end Steps

/-- The state of a call of this wrapper follows its past. -/
structure Tracks (wrapper : Wrapper) (action : String) (history : List (CallEvent ρ))
    (call : Call ρ) : Prop extends Follows history call where
  wrapper_eq : call.wrapper = wrapper
  action_eq : call.action = action

section Alone

variable {wrapper : Wrapper} {action : String} {history events : List (CallEvent ρ)}
  {call call' : Call ρ}

/-- A step of a call in some surroundings. -/
def Moves (call : Call ρ) (events : List (CallEvent ρ)) (call' : Call ρ) : Prop :=
  ∃ targets, Step targets call events call'

theorem tracks_suspended : Tracks wrapper action [] (suspended wrapper action : Call ρ) :=
  ⟨follows_suspended wrapper action, rfl, rfl⟩

theorem Moves.tracks (tracks : Tracks wrapper action history call)
    (moves : Moves call events call') : Tracks wrapper action (history ++ events) call' := by
  rcases moves with ⟨targets, step⟩
  exact ⟨step.follows tracks.toFollows, step.same.1.trans tracks.wrapper_eq,
    step.same.2.trans tracks.action_eq⟩

theorem tracks_of_run (run : Run Moves (suspended wrapper action) history call) :
    Tracks wrapper action history call :=
  run.invariant tracks_suspended Moves.tracks

theorem allowed_of_run (run : Run Moves (suspended wrapper action) history call)
    {before after : List (CallEvent ρ)} {event : CallEvent ρ}
    (split : history = before ++ event :: after) : Allowed wrapper action before event := by
  apply run.justified tracks_suspended Moves.tracks ?_ split
  rintro history call call' before event after ⟨follows, rfl, rfl⟩ ⟨targets, step⟩
  exact step.allowed rfl follows

end Alone

end Call

namespace Session

variable {ρ : Type u}

/--
The calls whose operations are outstanding.  The cancel action cancels all of
them: `await_stream_with_timeout` cancels the lowest layer of the stream, and
`await_resolver_with_timeout` the resolver.
-/
def outstanding (calls : List (Call ρ)) : List ℕ :=
  (List.range calls.length).filter fun index =>
    calls[index]?.any fun call => call.completion.isNone

/-- The coroutine makes a call when all earlier ones have returned or thrown. -/
def Starts (calls : List (Call ρ)) (call : Call ρ) : Prop :=
  (∀ earlier ∈ calls, earlier.resumed = true) ∧
    ∃ wrapper action, call = Call.suspended wrapper action

/-- One step of the calls on a stream or resolver. -/
abbrev Step : List (Call ρ) → List (ℕ × CallEvent ρ) → List (Call ρ) → Prop :=
  Interleaving.Step Starts fun calls => Call.Step (outstanding calls)

theorem mem_outstanding {calls : List (Call ρ)} {index : ℕ} :
    index ∈ outstanding calls ↔ ∃ call, calls[index]? = some call ∧ call.completion = none := by
  simp only [outstanding, List.mem_filter, List.mem_range, Option.any_eq_true]
  constructor
  · rintro ⟨_, call, found, outstanding⟩
    exact ⟨call, found, by simpa using outstanding⟩
  · rintro ⟨call, found, outstanding⟩
    exact ⟨(List.getElem?_eq_some_iff.mp found).1, call, found, by simp [outstanding]⟩

section Runs

variable {trace : List (ℕ × CallEvent ρ)} {calls : List (Call ρ)} {index : ℕ} {call : Call ρ}

theorem run_call (run : Run Step [] trace calls) (found : calls[index]? = some call) :
    ∃ wrapper action,
      Run Call.Moves (.suspended wrapper action) (Interleaving.history index trace) call := by
  rcases Interleaving.run_history run found with ⟨_, _, ⟨_, wrapper, action, rfl⟩, alone⟩
  exact ⟨wrapper, action, alone.mono fun ⟨others, step⟩ => ⟨outstanding others, step⟩⟩

theorem follows_of_run (run : Run Step [] trace calls) (found : calls[index]? = some call) :
    call.Follows (Interleaving.history index trace) := by
  rcases run_call run found with ⟨wrapper, action, alone⟩
  exact (Call.tracks_of_run alone).toFollows

theorem last_of_waiting (run : Run Step [] trace calls) (found : calls[index]? = some call)
    (waiting : call.resumed = false) : index + 1 = calls.length := by
  induction run generalizing index call with
  | refl => simp at found
  | @step trace events calls next run moves ih =>
      cases moves with
      | @spawn added starts =>
          rcases Interleaving.found_concat found with older | ⟨rfl, -⟩
          · rw [starts.1 call (List.mem_of_getElem? older)] at waiting
            cases waiting
          · rw [List.length_append, List.length_singleton]
      | @move moved before after events foundBefore step =>
          rw [List.length_set]
          rcases Interleaving.found_set foundBefore found with ⟨rfl, rfl⟩ | ⟨-, unchanged⟩
          · exact ih foundBefore (step.waiting waiting)
          · exact ih unchanged waiting

/-- A cancel action cancels no operation but the one of its own call. -/
theorem cancels_own (run : Run Step [] trace calls) {targets : List ℕ}
    (cancelledMem : (index, .cancelled targets) ∈ trace) :
    ∀ target ∈ targets, target = index := by
  induction run with
  | refl => simp at cancelledMem
  | @step trace events calls next run moves ih =>
      rcases List.mem_append.mp cancelledMem with cancelledMem | cancelledMem
      · exact ih cancelledMem
      · cases moves with
        | spawn => simp at cancelledMem
        | @move moved before after events found step =>
            obtain ⟨event, eventMem, same⟩ := List.mem_map.mp cancelledMem
            obtain ⟨rfl, rfl⟩ := Prod.mk.inj same
            obtain ⟨rfl, active⟩ := step.cancels eventMem
            have last : moved + 1 = calls.length :=
              last_of_waiting run found ((follows_of_run run found).active_iff.mp active).2
            intro target targetMem
            rcases mem_outstanding.mp targetMem with ⟨victim, foundVictim, outstanding⟩
            have victimWaiting := (follows_of_run run foundVictim).waiting outstanding
            have victimLast := last_of_waiting run foundVictim victimWaiting
            omega

/--
In every run of calls made one after another, every event of every call is
allowed when it happens, and no cancel action reaches another call's operation.
-/
theorem calls_time_out_alone (run : Run Step [] trace calls) (found : calls[index]? = some call) :
    (∀ {before event after}, Interleaving.history index trace = before ++ event :: after →
        Call.Allowed call.wrapper call.action before event) ∧
      ∀ targets, .cancelled targets ∈ Interleaving.history index trace →
        ∀ target ∈ targets, target = index := by
  rcases run_call run found with ⟨wrapper, action, alone⟩
  have tracks := Call.tracks_of_run alone
  refine ⟨?_, ?_⟩
  · intro before event after split
    rw [tracks.wrapper_eq, tracks.action_eq]
    exact Call.allowed_of_run alone split
  · intro targets cancelledMem
    exact cancels_own run (Interleaving.mem_history.mp cancelledMem)

end Runs

/-- The late handler of the first call does nothing; the second call is cancelled by its own. -/
theorem calls_time_out_alone_of_example :
    ∃ (trace : List (ℕ × CallEvent ℕ)) (call : Call ℕ),
      call.action = "proxy connect" ∧ trace = [(0, .completed .success 7), (0, .resumed (.ok (some 7))),
        (0, .timerRan .success), (1, .timerRan .success), (1, .cancelled [1]),
        (1, .completed .operationAborted 0),
        (1, .resumed (.error (timeoutException "proxy connect")))] ∧
      (∀ {before event after}, Interleaving.history 1 trace = before ++ event :: after →
        Call.Allowed call.wrapper call.action before event) ∧
      ∀ targets, .cancelled targets ∈ Interleaving.history 1 trace →
        ∀ target ∈ targets, target = 1 := by
  have first := Run.step (.refl : Run (@Step ℕ) [] [] [])
    (.spawn ⟨by simp, .awaitResultWithTimeout, "resolve proxy", rfl⟩)
  have late := first.step (@Interleaving.Step.move _ _ _ _ _ 0 _ _ _ rfl (.expire rfl))
  have answered := late.step
    (@Interleaving.Step.move _ _ _ _ _ 0 _ _ _ rfl (.complete .success 7 rfl))
  have returned := answered.step
    (@Interleaving.Step.move _ _ _ _ _ 0 _ _ _ rfl (.resume rfl rfl))
  have second := returned.step
    (.spawn ⟨by simp, .awaitVoidWithTimeout, "proxy connect", rfl⟩)
  have stale := second.step (@Interleaving.Step.move _ _ _ _ _ 0 _ _ _ rfl (.handle rfl))
  have expired := stale.step (@Interleaving.Step.move _ _ _ _ _ 1 _ _ _ rfl (.expire rfl))
  have cancelled := expired.step (@Interleaving.Step.move _ _ _ _ _ 1 _ _ _ rfl (.handle rfl))
  have aborted := cancelled.step
    (@Interleaving.Step.move _ _ _ _ _ 1 _ _ _ rfl (.complete .operationAborted 0 rfl))
  have threw := aborted.step (@Interleaving.Step.move _ _ _ _ _ 1 _ _ _ rfl (.resume rfl rfl))
  have alone := @calls_time_out_alone _ _ _ 1 _ threw rfl
  refine ⟨_, _, ?_, ?_, alone⟩
  · rfl
  · rfl

end Session

end Abrade
