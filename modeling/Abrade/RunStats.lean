import Abrade.Basic
import Mathlib.Algebra.Group.Defs

/-!
# Run statistics

The counters of `RunStats`, as natural numbers.  They only ever grow, so that
the counters of a run are a sum over what happened in it.
-/

namespace Abrade

def isSuccessStatus (statusCode : ℕ) : Bool :=
  200 ≤ statusCode && statusCode < 300

/-- The counters of one run. -/
@[ext]
structure RunStats where
  attemptedCount : ℕ := 0
  successCount : ℕ := 0
  nonSuccessCount : ℕ := 0
  filteredCount : ℕ := 0
  errorCount : ℕ := 0
  bytesWrittenCount : ℕ := 0
  deriving DecidableEq

namespace RunStats

def recordAttempt (stats : RunStats) : RunStats :=
  { stats with attemptedCount := stats.attemptedCount + 1 }

def recordResponse (stats : RunStats) (statusCode : ℕ) : RunStats :=
  if 200 ≤ statusCode && statusCode < 300 then
    { stats with successCount := stats.successCount + 1 }
  else
    { stats with nonSuccessCount := stats.nonSuccessCount + 1 }

def recordFiltered (stats : RunStats) : RunStats :=
  { stats with filteredCount := stats.filteredCount + 1 }

def recordError (stats : RunStats) : RunStats :=
  { stats with errorCount := stats.errorCount + 1 }

def recordBytesWritten (stats : RunStats) (bytes : ℕ) : RunStats :=
  { stats with bytesWrittenCount := stats.bytesWrittenCount + bytes }

instance : Zero RunStats where
  zero := {}

instance : Add RunStats where
  add stats more :=
    { attemptedCount := stats.attemptedCount + more.attemptedCount
      successCount := stats.successCount + more.successCount
      nonSuccessCount := stats.nonSuccessCount + more.nonSuccessCount
      filteredCount := stats.filteredCount + more.filteredCount
      errorCount := stats.errorCount + more.errorCount
      bytesWrittenCount := stats.bytesWrittenCount + more.bytesWrittenCount }

theorem zero_def : (0 : RunStats) = {} :=
  rfl

theorem add_def (stats more : RunStats) :
    stats + more =
      { attemptedCount := stats.attemptedCount + more.attemptedCount
        successCount := stats.successCount + more.successCount
        nonSuccessCount := stats.nonSuccessCount + more.nonSuccessCount
        filteredCount := stats.filteredCount + more.filteredCount
        errorCount := stats.errorCount + more.errorCount
        bytesWrittenCount := stats.bytesWrittenCount + more.bytesWrittenCount } :=
  rfl

instance : AddCommMonoid RunStats where
  add_assoc stats more others := by simp [add_def, Nat.add_assoc]
  zero_add stats := by simp [add_def, zero_def]
  add_zero stats := by simp [add_def, zero_def]
  add_comm stats more := by simp [add_def, Nat.add_comm]
  nsmul := nsmulRec

section Record

variable (stats : RunStats)

theorem recordAttempt_eq : stats.recordAttempt = stats + recordAttempt 0 := by
  simp [recordAttempt, add_def, zero_def]

theorem recordResponse_eq (statusCode : ℕ) :
    stats.recordResponse statusCode = stats + recordResponse 0 statusCode := by
  unfold recordResponse
  split <;> simp [add_def, zero_def]

theorem recordFiltered_eq : stats.recordFiltered = stats + recordFiltered 0 := by
  simp [recordFiltered, add_def, zero_def]

theorem recordError_eq : stats.recordError = stats + recordError 0 := by
  simp [recordError, add_def, zero_def]

theorem recordBytesWritten_eq (bytes : ℕ) :
    stats.recordBytesWritten bytes = stats + recordBytesWritten 0 bytes := by
  simp [recordBytesWritten, add_def, zero_def]

end Record

end RunStats

end Abrade
