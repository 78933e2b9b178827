import Abrade.Library.Fallible
import Abrade.Network.Timeout

/-!
# Teardown

The cleanup routines of the four connection policies, and the destructor of
`Connection` that runs them and catches what they throw.
-/

namespace Abrade

/-- `boost::asio::error::eof`. -/
def ErrorCode.endOfFile : ErrorCode :=
  { value := 2, message := "End of file" }

/-- `what()`; the text of an `out_of_range` is the library's own. -/
def Exception.what : Exception → String
  | .runtimeError what => what
  | .overflowError what => what
  | .outOfRange => "out_of_range"
  | .outOfFuel => ""

def PlaintextConnection.cleanup (strictTeardown : Bool) (shutdownError : ErrorCode) :
    Except Exception Unit :=
  if strictTeardown && shutdownError != .endOfFile then
    .error (abradeException "tcp shutdown" shutdownError)
  else .ok ()

/-- What the cleanup routines of the other policies do with the result of their shutdown. -/
def checkShutdown (message : String) (strictTeardown : Bool) (ec : ErrorCode) :
    Except Exception Unit :=
  if strictTeardown && ec.failed && ec != .endOfFile then .error (abradeException message ec)
  else .ok ()

def TlsConnection.cleanup (strictTeardown : Bool) (ec : ErrorCode) : Except Exception Unit :=
  checkShutdown "shutdown error" strictTeardown ec

def ProxiedConnection.cleanup (strictTeardown : Bool) (shutdownError : ErrorCode) :
    Except Exception Unit :=
  checkShutdown "tcp shutdown" strictTeardown shutdownError

def ProxiedTlsConnection.cleanup (strictTeardown : Bool) (ec : ErrorCode) :
    Except Exception Unit :=
  checkShutdown "proxied ssl shutdown" strictTeardown ec

inductive ConnectionPolicy where
  | plaintextConnection
  | tlsConnection
  | proxiedConnection
  | proxiedTlsConnection
  deriving DecidableEq

namespace ConnectionPolicy

def cleanup : ConnectionPolicy → Bool → ErrorCode → Except Exception Unit
  | plaintextConnection => PlaintextConnection.cleanup
  | tlsConnection => TlsConnection.cleanup
  | proxiedConnection => ProxiedConnection.cleanup
  | proxiedTlsConnection => ProxiedTlsConnection.cleanup

end ConnectionPolicy

/-- The lines written to `std::cerr`. -/
abbrev Stderr := List String

/-- `~Connection`. -/
def Connection.destroy (cleanup : Option (ErrorCode → Except Exception Unit))
    (shutdown : ErrorCode) (stderr : Stderr) : Except Exception Stderr :=
  let ran : Except Exception Unit :=
    match cleanup with
    | none => .ok ()
    | some cleanup => cleanup shutdown
  tryCatch (ran.map fun _ => stderr) fun e =>
    .ok (stderr ++ ["[-] Connection caught exception: " ++ e.what])

/-- A connection of one policy, and what its shutdown is going to result in. -/
structure Teardown where
  policy : ConnectionPolicy
  strictTeardown : Bool
  shutdown : ErrorCode

namespace Teardown

/-- Destroys the connection. -/
def close (teardown : Teardown) (stderr : Stderr) : Except Exception Stderr :=
  Connection.destroy (some (teardown.policy.cleanup teardown.strictTeardown)) teardown.shutdown
    stderr

/-- Destroys one connection after the other. -/
def closeAll (teardowns : List Teardown) (stderr : Stderr) : Except Exception Stderr :=
  teardowns.foldlM (fun stderr teardown => teardown.close stderr) stderr

/-- The strict mode is on, and the shutdown failed with something other than `eof`. -/
def MustReport (teardown : Teardown) : Prop :=
  teardown.strictTeardown = true ∧ teardown.shutdown.failed = true ∧
    teardown.shutdown ≠ .endOfFile

/-- A plaintext connection in strict mode whose shutdown succeeds. -/
def ReportsSuccess (teardown : Teardown) : Prop :=
  teardown.policy = .plaintextConnection ∧ teardown.strictTeardown = true ∧
    teardown.shutdown.failed = false

/--
Wherever a connection stands in the sequence, the connections before it and it
itself are closed without an exception, and it writes to `std::cerr` exactly
when it must.
-/
def ReportsExactly (teardowns : List Teardown) : Prop :=
  ∀ before teardown behind, teardowns = before ++ teardown :: behind → ∀ stderr,
    ∃ reached closed, closeAll before stderr = .ok reached ∧ teardown.close reached = .ok closed ∧
      (closed ≠ reached ↔ teardown.MustReport)

section Close

variable {teardown : Teardown} {teardowns : List Teardown} {stderr : Stderr}

/-- What closing a connection adds to `std::cerr`. -/
def lines (teardown : Teardown) : Stderr :=
  match teardown.policy.cleanup teardown.strictTeardown teardown.shutdown with
  | .ok () => []
  | .error e => ["[-] Connection caught exception: " ++ e.what]

theorem close_eq (teardown : Teardown) (stderr : Stderr) :
    teardown.close stderr = .ok (stderr ++ teardown.lines) := by
  simp only [close, lines, Connection.destroy]
  cases teardown.policy.cleanup teardown.strictTeardown teardown.shutdown with
  | error failure => rfl
  | ok done => exact congrArg Except.ok (List.append_nil stderr).symm

theorem closeAll_eq (teardowns : List Teardown) (stderr : Stderr) :
    closeAll teardowns stderr = .ok (stderr ++ teardowns.flatMap lines) := by
  induction teardowns generalizing stderr with
  | nil => exact congrArg Except.ok (List.append_nil stderr).symm
  | cons teardown teardowns ih =>
      rw [closeAll, List.foldlM_cons, close_eq, Except.ok_bind]
      change closeAll teardowns _ = _
      rw [ih, List.flatMap_cons, List.append_assoc]

theorem success_ne_endOfFile {ec : ErrorCode} (success : ec.failed = false) :
    ec ≠ .endOfFile := by
  rintro rfl
  cases success

theorem checkShutdown_eq_ok_iff {message : String} {strictTeardown : Bool} {ec : ErrorCode} :
    checkShutdown message strictTeardown ec = .ok () ↔
      ¬ (strictTeardown = true ∧ ec.failed = true ∧ ec ≠ .endOfFile) := by
  unfold checkShutdown
  split_ifs with throws
  · simp only [Bool.and_eq_true, bne_iff_ne] at throws
    simp [throws]
  · simp only [Bool.and_eq_true, bne_iff_ne, and_assoc] at throws
    simp only [throws, not_false_eq_true]

/-- The cleanup of a plaintext connection also throws for a successful shutdown. -/
theorem plaintext_cleanup_eq_ok_iff {strictTeardown : Bool} {ec : ErrorCode} :
    PlaintextConnection.cleanup strictTeardown ec = .ok () ↔
      ¬ (strictTeardown = true ∧ ec ≠ .endOfFile) := by
  unfold PlaintextConnection.cleanup
  split_ifs with throws
  · simp only [Bool.and_eq_true, bne_iff_ne] at throws
    simp [throws]
  · simp only [Bool.and_eq_true, bne_iff_ne] at throws
    simp only [throws, not_false_eq_true]

theorem lines_eq_nil_iff : teardown.lines = [] ↔
    teardown.policy.cleanup teardown.strictTeardown teardown.shutdown = .ok () := by
  unfold lines
  cases teardown.policy.cleanup teardown.strictTeardown teardown.shutdown <;> simp

/-- A connection writes when it must, and when it takes a success for an error. -/
theorem lines_ne_nil_iff :
    teardown.lines ≠ [] ↔ teardown.MustReport ∨ teardown.ReportsSuccess := by
  rw [ne_eq, lines_eq_nil_iff]
  unfold MustReport ReportsSuccess
  cases policyEq : teardown.policy with
  | plaintextConnection =>
      rw [ConnectionPolicy.cleanup, plaintext_cleanup_eq_ok_iff]
      have other := @success_ne_endOfFile teardown.shutdown
      cases failed : teardown.shutdown.failed with
      | true => simp
      | false => simp [other failed]
  | tlsConnection =>
      rw [ConnectionPolicy.cleanup, TlsConnection.cleanup, checkShutdown_eq_ok_iff]
      simp
  | proxiedConnection =>
      rw [ConnectionPolicy.cleanup, ProxiedConnection.cleanup, checkShutdown_eq_ok_iff]
      simp
  | proxiedTlsConnection =>
      rw [ConnectionPolicy.cleanup, ProxiedTlsConnection.cleanup, checkShutdown_eq_ok_iff]
      simp

theorem reportsExactly_of_lines :
    ReportsExactly teardowns ↔
      ∀ teardown ∈ teardowns, (teardown.lines ≠ [] ↔ teardown.MustReport) := by
  constructor
  · intro exactly teardown teardownMem
    rcases List.mem_iff_append.mp teardownMem with ⟨before, behind, split⟩
    rcases exactly before teardown behind split [] with ⟨reached, closed, -, closes, reports⟩
    rw [close_eq] at closes
    cases closes
    rw [← reports, ne_eq, ne_eq, List.append_right_eq_self]
  · rintro all before teardown behind rfl stderr
    refine ⟨_, _, closeAll_eq before stderr, close_eq teardown _, ?_⟩
    rw [← all teardown (by simp), ne_eq, ne_eq, List.append_right_eq_self]

/--
Teardown errors are reported as the strict mode asks, in every sequence without
a strict plaintext connection whose shutdown succeeds, and in no other.
-/
theorem reportsExactly_iff (teardowns : List Teardown) :
    ReportsExactly teardowns ↔ ∀ teardown ∈ teardowns, ¬ teardown.ReportsSuccess := by
  rw [reportsExactly_of_lines]
  apply forall₂_congr
  intro teardown teardownMem
  rw [lines_ne_nil_iff]
  have exclusive : teardown.MustReport → ¬ teardown.ReportsSuccess := by
    rintro ⟨-, failed, -⟩ ⟨-, -, success⟩
    rw [failed] at success
    cases success
  tauto

/-- A successful shutdown of a plaintext connection is reported in strict mode. -/
theorem successful_shutdown_reported : ¬ ∀ teardowns, ReportsExactly teardowns := by
  intro claimed
  let teardown : Teardown :=
    { policy := .plaintextConnection, strictTeardown := true, shutdown := .success }
  have exactly := reportsExactly_of_lines.mp (claimed [teardown]) teardown List.mem_cons_self
  rcases exactly.mp (by decide) with ⟨-, failed, -⟩
  cases failed

end Close

end Teardown

end Abrade
