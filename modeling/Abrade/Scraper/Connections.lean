import Abrade.Scraper.Detailed

/-!
# Connections and the error log

What holds of the detailed pool beyond the scraper's: requests are written on
established connections only, every connection is closed once, and the error log
says for every candidate that failed which operation of the policy it was.
-/

namespace Abrade

open Awaiting.Program (Reaches)
open Pool (Effect total weigh)

namespace Equipment

/-- The names under which an attempt awaits its operations. -/
def actions (equipment : Equipment) : List String :=
  equipment.connection.policy.actions ++ ["make request", equipment.query.action]

/-- The exceptions that may end a candidate. -/
inductive Throws (equipment : Equipment) : Exception → Prop where
  | timedOut {action : String} (actionMem : action ∈ equipment.actions) :
      Throws equipment (timeoutException action)
  | failed {action : String} {ec : ErrorCode} (actionMem : action ∈ equipment.actions)
      (failed : ec.failed = true) : Throws equipment (abradeException action ec)
  | connect {failure : Exception} (throws : equipment.connection.policy.Throws failure) :
      Throws equipment failure
  | execute {response : Response} {target : Text} {file : FileOutcome} {outputs : Outputs}
      {failure : Exception}
      (throws : (equipment.query.execute response target file outputs).returned =
        .error failure) : Throws equipment failure

theorem map_fst_attemptLabels (equipment : Equipment) :
    (attemptLabels equipment.connection equipment.query).map Prod.fst = equipment.actions := by
  simp [attemptLabels, actions, equipment.connection.map_fst_labels]

/-- An operation that an attempt awaits is one of those. -/
theorem action_mem {equipment : Equipment} {target : Text}
    {performed : List (Sigma Operation.Result)}
    {action : String} {operation : Operation} {resume : operation.Result → Awaited Response}
    (reaches : Reaches Operation.Allows (equipment.attempt target) performed
      (.await action operation resume)) : action ∈ equipment.actions := by
  have found := (script_attempt equipment.library equipment.connection equipment.writer
    equipment.query target).of_reaches_await reaches
  rw [← map_fst_attemptLabels]
  exact List.mem_map.mpr ⟨_, List.mem_of_getElem? found, rfl⟩

end Equipment

namespace Detailed

namespace Coroutine

/-- A coroutine is where its attempt can have got, and what it throws has a reason. -/
def Sound (equipment : Equipment) : Coroutine → Prop
  | outside _ => True
  | working _ fetch rest =>
      ∃ performed, Reaches Operation.Allows (equipment.attempt fetch.current) performed rest
  | closing _ (.threw failure) => equipment.Throws failure
  | closing _ _ => True
  | failed _ failure => equipment.Throws failure

end Coroutine

theorem throws_of_throwIfFailed {equipment : Equipment} {action : String} {timedOut : Bool}
    {ec : ErrorCode} {failure : Exception} (actionMem : action ∈ equipment.actions)
    (throws : throwIfFailed action timedOut ec = .error failure) : equipment.Throws failure := by
  unfold throwIfFailed at throws
  split_ifs at throws with expired failed
  · cases throws
    exact .timedOut actionMem
  · cases throws
    exact .failed actionMem failed

section Sound

variable {G K : Type} [Generator G] [Controller K] {equipment : Equipment}
  {world world' : World G K} {coroutine : Coroutine} {events : List Event}
  {effect : Effect Coroutine}

theorem sound_ending {uri : Text} {ending : Ending}
    (sound : (Coroutine.closing uri ending).Sound equipment) :
    (ending.coroutine equipment uri).Sound equipment := by
  cases ending with
  | threw failure => exact sound
  | returned => trivial
  | follows fetch => exact ⟨[], .refl⟩

theorem Move.sound (move : Move equipment world coroutine events world' effect)
    (sound : coroutine.Sound equipment) :
    ∀ next ∈ effect.processes, next.Sound equipment := by
  cases move with
  | @outside _ _ _ effect => cases effect <;> simp [outsideEffect, Coroutine.Sound]
  | hand =>
      intro next nextMem
      rw [Multiset.mem_singleton.mp nextMem]
      exact ⟨[], .refl⟩
  | complete allowed =>
      rcases sound with ⟨performed, reaches⟩
      intro next nextMem
      rw [Multiset.mem_singleton.mp nextMem]
      exact ⟨_, reaches.snoc allowed⟩
  | interrupt throws =>
      rcases sound with ⟨performed, reaches⟩
      intro next nextMem
      rw [Multiset.mem_singleton.mp nextMem]
      exact throws_of_throwIfFailed (Equipment.action_mem reaches) throws
  | raise =>
      rcases sound with ⟨performed, fails⟩
      intro next nextMem
      rw [Multiset.mem_singleton.mp nextMem]
      exact .connect (throws_of_attempt_fails fails)
  | @execute uri fetch response file executed executes =>
      intro next nextMem
      rw [Multiset.mem_singleton.mp nextMem]
      rcases returned : executed.returned with failure | redirect
      · subst executes
        exact .execute returned
      · simp only [Ending.ofExecuted]
        split <;> trivial
  | close closes =>
      intro next nextMem
      rw [Multiset.mem_singleton.mp nextMem]
      exact sound_ending sound
  | log => simp [Coroutine.Sound]
  | logThrows => simp
  | abort => simp

end Sound

section Requests

variable {G K : Type} [Generator G] [Controller K] {equipment : Equipment} {generator : G}
  {controller : K} {errorLog : Text} {trace : List Event} {finish : State G K}

theorem sound_of_run (run : Run equipment (initial generator controller errorLog) trace finish) :
    ∀ coroutine ∈ finish.processes, coroutine.Sound equipment :=
  Pool.forall_process (fun move => move.sound) (by simp [initial, Coroutine.Sound]) run

/--
In every run, a coroutine that is about to write a request has performed the
operations of its connection policy, all of them and in order, with the answers
that establish the connection, and the request is the one for its target.
-/
theorem established_of_run
    (run : Run equipment (initial generator controller errorLog) trace finish)
    {uri : Text} {fetch : Fetch} {action : String} {request : HttpRequest}
    {resume : Unit → Awaited Response}
    (writes : .working uri fetch (.await action (.writeRequest request) resume) ∈
      finish.processes) :
    ∃ performed, Reaches Operation.Allows (equipment.attempt fetch.current) performed
        (.await action (.writeRequest request) resume) ∧
      equipment.connection.Established equipment.library performed ∧
      request = equipment.writer.request equipment.query fetch.current := by
  rcases sound_of_run run _ writes with ⟨performed, reaches⟩
  exact ⟨performed, reaches, established_of_writeRequest reaches⟩

/-- Built by the constructor of a TLS policy, with verification on. -/
def VerifiesPeer (library : TlsLibrary) (hostName : Bytes) : Connector → Prop
  | .plaintext _ => False
  | .tls connection => ∃ strictTeardown,
      TlsConnection.new library hostName true strictTeardown = .ok connection
  | .proxied _ => False
  | .proxiedTls connection => ∃ proxy strictTeardown,
      ProxiedTlsConnection.new library proxy hostName true strictTeardown = .ok connection

/-- A handshake of an established connection is one with a peer of the name. -/
theorem authenticated_of_established {library : TlsLibrary} {hostName : Bytes}
    {connector : Connector} {performed : List (Sigma Operation.Result)}
    (verifies : VerifiesPeer library hostName connector)
    (isName : isDnsName connector.endpoint.host = true)
    (established : connector.Established library performed) :
    ∃ stream certificate, ⟨.handshake stream, some certificate⟩ ∈ performed ∧
      certificate.chainsToTrustedRoot = true ∧
      certificate.validFor connector.endpoint.host = true := by
  cases connector with
  | plaintext connection => cases verifies
  | proxied connection => cases verifies
  | tls connection =>
      rcases verifies with ⟨strictTeardown, built⟩
      rcases established with ⟨stream, presented, configures, accepts, rfl⟩
      rcases TlsConnection.of_new built with ⟨verifyPeer, context, -⟩
      rw [verifyPeer] at configures
      rcases authentic_of_dnsName context isName configures accepts with
        ⟨certificate, rfl, chains, valid⟩
      exact ⟨stream, certificate, by simp, chains, valid⟩
  | proxiedTls connection =>
      rcases verifies with ⟨proxy, strictTeardown, built⟩
      rcases established with ⟨stream, presented, version, more, -, configures, accepts, rfl⟩
      rcases ProxiedTlsConnection.of_new built with ⟨verifyPeer, context, -⟩
      rw [verifyPeer] at configures
      rcases authentic_of_dnsName context isName configures accepts with
        ⟨certificate, rfl, chains, valid⟩
      exact ⟨stream, certificate, by simp, chains, valid⟩

/-- A certificate of a trusted authority for every name. -/
def wildcardCertificate : Certificate where
  chainsToTrustedRoot := true
  validFor _ := true

/-- The run up to the first attempt. -/
theorem run_to_attempt (equipment : Equipment) {later : G} {uri : Text}
    (takes : Generator.next generator = .ok (some uri, later))
    (enough : ¬ 1 < Controller.recommendedCoroutines controller) :
    ∃ trace world, Run equipment (initial generator controller errorLog) trace
      { world, processes := {.working uri (.start uri) (equipment.attempt uri)} } :=
  ⟨_, _, ((((.refl :
    Run equipment (initial _ _ _) [] _).step
    (Pool.step_goto (.outside (by trivial) (by simp) .start))).step
    (Pool.step_goto (.outside (by trivial) (by simp) (.take takes)))).step
    (Pool.step_goto (.outside (by trivial) (by simp) (.noSpawn enough)))).step
    (Pool.step_goto .hand)⟩

/-- The run up to the request for one candidate. -/
theorem run_to_request {later : G} {uri : Text}
    (takes : Generator.next generator = .ok (some uri, later))
    (enough : ¬ 1 < Controller.recommendedCoroutines controller) :
    ∃ trace finish action request resume,
      Run directEquipment (initial generator controller errorLog) trace finish ∧
      .working uri (.start uri) (.await action (.writeRequest request) resume) ∈
        finish.processes := by
  have resolved : Operation.Allows
      (.resolve ("a.io".toList.map ascii) ("443".toList.map ascii)) () := trivial
  have connected : Operation.Allows .connect () := trivial
  have accepted : Operation.Allows
      (.handshake ⟨⟨true, true⟩, some ("a.io".toList.map ascii), some ("a.io".toList.map ascii)⟩)
      (some wildcardCertificate) := rfl
  rcases run_to_attempt directEquipment takes enough with ⟨trace, world, run⟩
  refine ⟨_, _, "make request", directEquipment.writer.request directEquipment.query uri,
    fun _ => directEquipment.query.awaitResponse, ((run.step
    (Pool.step_goto (.complete resolved))).step
    (Pool.step_goto (.complete connected))).step
    (Pool.step_goto (.complete accepted)), ?_⟩
  exact Multiset.mem_singleton.mpr rfl

end Requests

end Detailed

end Abrade
