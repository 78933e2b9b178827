import Abrade.Library.Pool
import Abrade.RunStats

/-!
# Events

What a run does, in order, and what one event contributes to the counters and
to the life of a candidate.
-/

namespace Abrade

/-- A response as the queries see it; `location` is empty when the field is absent. -/
structure Response where
  statusCode : ℕ
  location : Text
  body : Text
  deriving DecidableEq

inductive Event where
  /-- `recommended_coroutines()` returned a value. -/
  | recommended (count : ℕ)
  /-- `generator.next()` returned a candidate. -/
  | took (uri : Text)
  /-- `generator.next()` returned nothing. -/
  | exhausted
  /-- `Scraper::coroutine` was called for a candidate. -/
  | handed (uri : Text)
  /-- A request attempt began. -/
  | attempt (target : Text)
  /-- Connecting, writing or reading threw. -/
  | requestFailed (target : Text)
  /-- A response was completely read. -/
  | answered (target : Text) (response : Response)
  /-- The filters rejected a body. -/
  | filtered (target : Text)
  /-- Evaluating the filters threw. -/
  | filterFailed (target : Text)
  /-- The write of a body began. -/
  | writeStarted (target : Text)
  /-- Bytes of a body were counted as written. -/
  | bytesWritten (bytes : ℕ)
  /-- An output file took what it was given. -/
  | stored (target : Text)
  /-- An output file threw. -/
  | storeFailed (target : Text)
  /-- A redirect is followed. -/
  | redirected (target : Text)
  /-- `Scraper::coroutine` returned. -/
  | returned (uri : Text)
  /-- `Scraper::coroutine` threw. -/
  | threw (uri : Text)
  /-- The error log took a record. -/
  | logged (uri : Text)
  /-- The error log threw, and the exception left the coroutine. -/
  | logFailed (uri : Text)
  /-- `generator.next()` threw, and the exception left the coroutine. -/
  | generatorFailed
  /-- A coroutine ended because an exception left another one. -/
  | aborted
  deriving DecidableEq

namespace Event

section Candidates

/-- The candidate `generator.next()` returned. -/
@[simp]
def tookUri : Event → Multiset Text
  | took uri => {uri}
  | _ => 0

/-- The candidate `Scraper::coroutine` was called for. -/
@[simp]
def handedUri : Event → Multiset Text
  | handed uri => {uri}
  | _ => 0

@[simp]
def returnedUri : Event → Multiset Text
  | returned uri => {uri}
  | _ => 0

@[simp]
def threwUri : Event → Multiset Text
  | threw uri => {uri}
  | _ => 0

@[simp]
def loggedUri : Event → Multiset Text
  | logged uri => {uri}
  | _ => 0

end Candidates

section Requests

@[simp]
def attempts : Event → ℕ
  | attempt _ => 1
  | _ => 0

@[simp]
def redirections : Event → ℕ
  | redirected _ => 1
  | _ => 0

/-- Responses completely read. -/
@[simp]
def answers : Event → ℕ
  | answered _ _ => 1
  | _ => 0

@[simp]
def successes : Event → ℕ
  | answered _ response => if isSuccessStatus response.statusCode then 1 else 0
  | _ => 0

/-- Responses with another status. -/
@[simp]
def nonSuccesses : Event → ℕ
  | answered _ response => if isSuccessStatus response.statusCode then 0 else 1
  | _ => 0

/-- Requests that ended without a response. -/
@[simp]
def requestFailures : Event → ℕ
  | requestFailed _ => 1
  | _ => 0

/-- Exceptions behind a response: a filter or an output file threw. -/
@[simp]
def processFailures : Event → ℕ
  | filterFailed _ => 1
  | storeFailed _ => 1
  | _ => 0

/-- Bodies the filters rejected. -/
@[simp]
def filterings : Event → ℕ
  | filtered _ => 1
  | _ => 0

@[simp]
def writes : Event → ℕ
  | writeStarted _ => 1
  | _ => 0

@[simp]
def bytes : Event → ℕ
  | bytesWritten bytes => bytes
  | _ => 0

end Requests

/-- What the event adds to the counters. -/
@[simp]
def stats : Event → RunStats
  | attempt _ => .recordAttempt 0
  | answered _ response => .recordResponse 0 response.statusCode
  | filtered _ => .recordFiltered 0
  | bytesWritten bytes => .recordBytesWritten 0 bytes
  | threw _ => .recordError 0
  | _ => 0

theorem stats_eq (event : Event) :
    event.stats =
      { attemptedCount := event.attempts
        successCount := event.successes
        nonSuccessCount := event.nonSuccesses
        filteredCount := event.filterings
        errorCount := event.threwUri.card
        bytesWrittenCount := event.bytes } := by
  cases event with
  | answered target response =>
      by_cases successful : (200 ≤ response.statusCode && response.statusCode < 300) = true
      · simp [RunStats.recordResponse, isSuccessStatus, successful, RunStats.zero_def]
      · simp [RunStats.recordResponse, isSuccessStatus, successful, RunStats.zero_def]
  | _ => simp [RunStats.zero_def, RunStats.recordAttempt, RunStats.recordFiltered,
      RunStats.recordBytesWritten, RunStats.recordError]

theorem total_stats (trace : List Event) :
    Pool.total stats trace =
      { attemptedCount := Pool.total attempts trace
        successCount := Pool.total successes trace
        nonSuccessCount := Pool.total nonSuccesses trace
        filteredCount := Pool.total filterings trace
        errorCount := Pool.total (fun event => event.threwUri.card) trace
        bytesWrittenCount := Pool.total bytes trace } := by
  induction trace with
  | nil => rfl
  | cons event trace ih => simp only [Pool.total_cons, ih, event.stats_eq, RunStats.add_def]

theorem answers_eq (event : Event) : event.answers = event.successes + event.nonSuccesses := by
  cases event with
  | answered target response =>
      simp only [answers, successes, nonSuccesses]
      split <;> rfl
  | _ => rfl

/-- Whether an exception ended a coroutine. -/
@[simp]
def isAbrupt : Event → Bool
  | logFailed _ => true
  | generatorFailed => true
  | aborted => true
  | _ => false

/-- Whether a query or its action emitted the event. -/
@[simp]
def isOfQuery : Event → Bool
  | answered _ _ => true
  | filtered _ => true
  | filterFailed _ => true
  | writeStarted _ => true
  | bytesWritten _ => true
  | stored _ => true
  | storeFailed _ => true
  | _ => false

theorem isAbrupt_of_isOfQuery {event : Event} (ofQuery : event.isOfQuery = true) :
    event.isAbrupt = false := by
  cases event with
  | logFailed uri => cases ofQuery
  | generatorFailed => cases ofQuery
  | aborted => cases ofQuery
  | _ => rfl

end Event

end Abrade
