import Abrade.Library.Awaiting
import Abrade.Network.Verification
import Abrade.Scraper.Query

/-!
# One attempt

`connect` of the four connection policies, `make_request` and the reading half
of `execute`, as programs that await one operation after the other under its own
name.  What a resolver and a connection find stays inside the library.
-/

namespace Abrade

open Awaiting (Program)
open Awaiting.Program (ofExcept)

/-- `boost::beast::http::verb`. -/
inductive Verb where
  | unknown
  | get
  | head
  deriving DecidableEq

/-- An HTTP request with an empty body, to which `prepare_payload` adds nothing. -/
structure HttpRequest where
  method : Verb
  target : Text
  version : ℕ
  host : Text
  userAgent : Text
  deriving DecidableEq

/-- The asynchronous operations; those of the negotiation work on raw bytes. -/
inductive Operation where
  | resolve (host service : Bytes)
  /-- `async_connect` to what was resolved last. -/
  | connect
  | write (bytes : Bytes)
  | read (count : ℕ)
  | handshake (stream : TlsStream)
  | writeRequest (request : HttpRequest)
  | readResponse
  | readHeader
  deriving DecidableEq

namespace Operation

/-- What an operation that succeeds leaves behind; a handshake shows the peer's certificate. -/
abbrev Result : Operation → Type
  | read _ => Bytes
  | handshake _ => Option Certificate
  | readResponse => Response
  | readHeader => Response
  | _ => Unit

/-- A read fills its buffer, and a handshake succeeds for a certificate the stream accepts. -/
def Allows : (operation : Operation) → operation.Result → Prop
  | read count, bytes => bytes.length = count
  | handshake stream, presented => stream.accepts presented = true
  | resolve _ _, _ => True
  | connect, _ => True
  | write _, _ => True
  | writeRequest _, _ => True
  | readResponse, _ => True
  | readHeader, _ => True

end Operation

/-- A coroutine between two operations. -/
abbrev Awaited :=
  Program Operation.Result Exception

/-- `await_stream_with_timeout`. -/
def awaitStreamWithTimeout (action : String) (operation : Operation) : Awaited operation.Result :=
  .wait action operation

/-- `await_resolver_with_timeout`. -/
def awaitResolverWithTimeout (action : String) (operation : Operation) :
    Awaited operation.Result :=
  .wait action operation

/-- From `auth_request` to the check of `connect_response`. -/
def awaitNegotiate (endpoint : HostEndpoint) : Awaited Unit := do
  awaitStreamWithTimeout "proxy write auth" (.write [5, 1, 0])
  let authResponse ← awaitStreamWithTimeout "proxy read auth" (.read 2)
  let version ← ofExcept (checkedAt authResponse 0)
  ofExcept (throwIf (version != 5)
    (.runtimeError ("SOCKS version " ++ toString version.toNat ++ " not supported.")))
  let method ← ofExcept (checkedAt authResponse 1)
  ofExcept (throwIf (method != 0)
    (.runtimeError ("SOCKS authentication " ++ toString method.toNat ++ " not supported.")))
  awaitStreamWithTimeout "proxy connection" (.write (connectRequest endpoint))
  let connectResponse ← awaitStreamWithTimeout "proxy read" (.read 10)
  let reply ← ofExcept (checkedAt connectResponse 1)
  ofExcept (throwIf (reply != 0)
    (.runtimeError ("SOCKS connection failed:" ++ toString reply.toNat)))

structure PlaintextConnection where
  sensitiveTeardown : Bool
  endpoint : HostEndpoint
  deriving DecidableEq

namespace PlaintextConnection

def new (hostName : Bytes) (strictTeardown : Bool) : Except Exception PlaintextConnection := do
  let endpoint ← parseHostEndpoint hostName ("80".toList.map ascii) 80
  return { sensitiveTeardown := strictTeardown, endpoint }

def awaitConnect (connection : PlaintextConnection) : Awaited Unit := do
  awaitResolverWithTimeout "resolve host"
    (.resolve connection.endpoint.host connection.endpoint.service)
  awaitStreamWithTimeout "tcp connect" .connect

end PlaintextConnection

namespace TlsConnection

def awaitConnect (library : TlsLibrary) (connection : TlsConnection) : Awaited Unit := do
  let stream ← ofExcept (configureTlsPeer library (.new connection.context) connection.endpoint
    connection.verifyPeer)
  awaitResolverWithTimeout "resolve host"
    (.resolve connection.endpoint.host connection.endpoint.service)
  awaitStreamWithTimeout "ssl connect" .connect
  let _ ← awaitStreamWithTimeout "ssl handshake" (.handshake stream)

end TlsConnection

structure ProxiedConnection where
  sensitiveTeardown : Bool
  endpoint : HostEndpoint
  proxyEndpoint : HostEndpoint
  deriving DecidableEq

namespace ProxiedConnection

def new (proxy hostName : Bytes) (strictTeardown : Bool) : Except Exception ProxiedConnection := do
  let endpoint ← parseHostEndpoint hostName ("80".toList.map ascii) 80
  let proxyEndpoint ← parseHostEndpoint proxy ("1080".toList.map ascii) 1080
  return { sensitiveTeardown := strictTeardown, endpoint, proxyEndpoint }

def awaitConnect (connection : ProxiedConnection) : Awaited Unit := do
  awaitResolverWithTimeout "resolve proxy"
    (.resolve connection.proxyEndpoint.host connection.proxyEndpoint.service)
  awaitStreamWithTimeout "proxy connect" .connect
  awaitNegotiate connection.endpoint

end ProxiedConnection

namespace ProxiedTlsConnection

def awaitConnect (library : TlsLibrary) (connection : ProxiedTlsConnection) : Awaited Unit := do
  let stream ← ofExcept (configureTlsPeer library (.new connection.context) connection.endpoint
    connection.verifyPeer)
  awaitResolverWithTimeout "resolve proxy"
    (.resolve connection.proxyEndpoint.host connection.proxyEndpoint.service)
  awaitStreamWithTimeout "proxy connect" .connect
  awaitNegotiate connection.endpoint
  let _ ← awaitStreamWithTimeout "proxied ssl handshake" (.handshake stream)

end ProxiedTlsConnection

/-- The `Connection` a `Scraper` is instantiated with. -/
inductive Connector where
  | plaintext (connection : PlaintextConnection)
  | tls (connection : TlsConnection)
  | proxied (connection : ProxiedConnection)
  | proxiedTls (connection : ProxiedTlsConnection)

namespace Connector

def policy : Connector → ConnectionPolicy
  | plaintext _ => .plaintextConnection
  | tls _ => .tlsConnection
  | proxied _ => .proxiedConnection
  | proxiedTls _ => .proxiedTlsConnection

def sensitiveTeardown : Connector → Bool
  | plaintext connection => connection.sensitiveTeardown
  | tls connection => connection.sensitiveTeardown
  | proxied connection => connection.sensitiveTeardown
  | proxiedTls connection => connection.sensitiveTeardown

def endpoint : Connector → HostEndpoint
  | plaintext connection => connection.endpoint
  | tls connection => connection.endpoint
  | proxied connection => connection.endpoint
  | proxiedTls connection => connection.endpoint

/-- The endpoint whose address a connection looks up. -/
def firstHop : Connector → HostEndpoint
  | plaintext connection => connection.endpoint
  | tls connection => connection.endpoint
  | proxied connection => connection.proxyEndpoint
  | proxiedTls connection => connection.proxyEndpoint

def awaitConnect (library : TlsLibrary) : Connector → Awaited Unit
  | plaintext connection => connection.awaitConnect
  | tls connection => connection.awaitConnect library
  | proxied connection => connection.awaitConnect
  | proxiedTls connection => connection.awaitConnect library

end Connector

def buildRequestTemplate (hostName userAgent : Text) : HttpRequest :=
  { method := .unknown, target := [], version := 11, host := hostName, userAgent }

def Query.setMethod : Query → HttpRequest → HttpRequest
  | .get _ _, request => { request with method := .get }
  | .head _, request => { request with method := .head }

/-- The writer's template; its verbose output is left out. -/
structure RequestWriter where
  requestTemplate : HttpRequest

namespace RequestWriter

def new (hostName userAgent : Text) : RequestWriter :=
  { requestTemplate := buildRequestTemplate hostName userAgent }

def request (writer : RequestWriter) (query : Query) (uri : Text) : HttpRequest :=
  { query.setMethod writer.requestTemplate with target := uri }

def makeRequest (writer : RequestWriter) (query : Query) (uri : Text) : Awaited Unit :=
  awaitStreamWithTimeout "make request" (.writeRequest (writer.request query uri))

end RequestWriter

/-- `execute` up to the moment the response has been read. -/
def Query.awaitResponse : Query → Awaited Response
  | .get _ _ => awaitStreamWithTimeout "get query" .readResponse
  | .head _ => awaitStreamWithTimeout "head query" .readHeader

/-- Everything a turn of the loop of `Scraper::coroutine` awaits before it looks at the response. -/
def attempt (library : TlsLibrary) (connector : Connector) (writer : RequestWriter)
    (query : Query) (target : Text) : Awaited Response := do
  connector.awaitConnect library
  writer.makeRequest query target
  query.awaitResponse

/-! The names of the operations, in order. -/

/-- The operations of `connect`. -/
def ConnectionPolicy.actions : ConnectionPolicy → List String
  | .plaintextConnection => ["resolve host", "tcp connect"]
  | .tlsConnection => ["resolve host", "ssl connect", "ssl handshake"]
  | .proxiedConnection =>
      ["resolve proxy", "proxy connect", "proxy write auth", "proxy read auth", "proxy connection",
        "proxy read"]
  | .proxiedTlsConnection =>
      ["resolve proxy", "proxy connect", "proxy write auth", "proxy read auth", "proxy connection",
        "proxy read", "proxied ssl handshake"]

def Query.action : Query → String
  | .get _ _ => "get query"
  | .head _ => "head query"

/-- What sets an operation apart from the others of an attempt. -/
inductive Operation.Kind where
  | resolve (host service : Bytes)
  | writeRequest
  | other
  deriving DecidableEq

def Operation.kind : Operation → Kind
  | resolve host service => .resolve host service
  | writeRequest _ => .writeRequest
  | _ => .other

def label (action : String) (operation : Operation) : String × Operation.Kind :=
  (action, operation.kind)

/-- The operations of `connect`, of which the first one looks up the first hop. -/
def Connector.labels (connector : Connector) : List (String × Operation.Kind) :=
  match connector.policy.actions with
  | [] => []
  | first :: rest =>
      (first, .resolve connector.firstHop.host connector.firstHop.service) ::
        rest.map (·, .other)

/-- The operations of an attempt, of which the last but one writes the request. -/
def attemptLabels (connector : Connector) (query : Query) : List (String × Operation.Kind) :=
  connector.labels ++ [("make request", .writeRequest), (query.action, .other)]

section Script

open Awaiting.Program

theorem script_awaitNegotiate (endpoint : HostEndpoint) :
    Script Operation.Allows label (awaitNegotiate endpoint)
      [("proxy write auth", .other), ("proxy read auth", .other), ("proxy connection", .other),
        ("proxy read", .other)] := by
  refine .await fun _ _ => .await fun authResponse _ => ?_
  refine (Script.ofExcept _).bind fun version => (Script.ofExcept _).bind fun _ => ?_
  refine (Script.ofExcept _).bind fun method => (Script.ofExcept _).bind fun _ => ?_
  refine .await fun _ _ => .await fun connectResponse _ => ?_
  exact (Script.ofExcept _).bind fun reply => Script.ofExcept _

theorem script_awaitConnect (library : TlsLibrary) (connector : Connector) :
    Script Operation.Allows label (connector.awaitConnect library) connector.labels := by
  cases connector with
  | plaintext connection => exact .await fun _ _ => Script.wait _ _
  | tls connection =>
      refine (Script.ofExcept _).bind fun stream => ?_
      exact .await fun _ _ => .await fun _ _ => .await fun _ _ => .done ()
  | proxied connection =>
      exact .await fun _ _ => .await fun _ _ => script_awaitNegotiate connection.endpoint
  | proxiedTls connection =>
      refine (Script.ofExcept _).bind fun stream => .await fun _ _ => .await fun _ _ => ?_
      exact (script_awaitNegotiate connection.endpoint).bind fun _ => .await fun _ _ => .done ()

theorem script_attempt (library : TlsLibrary) (connector : Connector) (writer : RequestWriter)
    (query : Query) (target : Text) :
    Script Operation.Allows label (attempt library connector writer query target)
      (attemptLabels connector query) := by
  refine (script_awaitConnect library connector).bind fun _ => .await fun _ _ => ?_
  cases query with
  | get policy action => exact Script.wait _ _
  | head policy => exact Script.wait _ _

theorem Connector.map_fst_labels (connector : Connector) :
    connector.labels.map Prod.fst = connector.policy.actions := by
  cases connector <;> rfl

theorem Connector.writeRequest_notMem_labels (connector : Connector) (action : String) :
    (action, .writeRequest) ∉ connector.labels := by
  cases connector <;> simp [labels, policy, ConnectionPolicy.actions]

/-- Nothing but the address of the first hop is looked up. -/
theorem resolve_of_reaches {library : TlsLibrary} {connector : Connector} {writer : RequestWriter}
    {query : Query} {target : Text} {performed : List (Sigma Operation.Result)} {action : String}
    {host service : Bytes} {resume : Unit → Awaited Response}
    (reaches : Reaches Operation.Allows (attempt library connector writer query target) performed
      (.await action (.resolve host service) resume)) :
    host = connector.firstHop.host ∧ service = connector.firstHop.service := by
  have found := List.mem_of_getElem?
    ((script_attempt library connector writer query target).of_reaches_await reaches)
  cases connector <;>
    · simp [label, Operation.kind, attemptLabels, Connector.labels, Connector.policy,
        ConnectionPolicy.actions] at found
      exact found.2

end Script

/-! What has been performed once a connection is established. -/

/-- The operations of a negotiation that succeeds. -/
def negotiation (endpoint : HostEndpoint) (version : UInt8) (more : Bytes) :
    List (Sigma Operation.Result) :=
  [⟨.write [5, 1, 0], ()⟩, ⟨.read 2, [5, 0]⟩, ⟨.write (connectRequest endpoint), ()⟩,
    ⟨.read 10, version :: 0 :: more⟩]

section Established

open Awaiting.Program

variable {endpoint : HostEndpoint} {performed : List (Sigma Operation.Result)}

/-- A negotiation succeeds with a method selection and a reply of ten bytes, and only then. -/
theorem returns_awaitNegotiate_iff {done : Unit} :
    Returns Operation.Allows (awaitNegotiate endpoint) performed done ↔
      ∃ version more, more.length = 8 ∧ performed = negotiation endpoint version more := by
  constructor
  · intro returns
    rcases returns_await_iff.mp returns with ⟨_, _, rfl, -, returns⟩
    rcases returns_await_iff.mp returns with ⟨authResponse, _, rfl, two, returns⟩
    rcases returns_ofExcept_bind_iff.mp returns with ⟨version, versionAt, returns⟩
    rcases returns_ofExcept_bind_iff.mp returns with ⟨_, versionChecked, returns⟩
    rcases returns_ofExcept_bind_iff.mp returns with ⟨method, methodAt, returns⟩
    rcases returns_ofExcept_bind_iff.mp returns with ⟨_, methodChecked, returns⟩
    rcases returns_await_iff.mp returns with ⟨_, _, rfl, -, returns⟩
    rcases returns_await_iff.mp returns with ⟨connectResponse, _, rfl, ten, returns⟩
    rcases returns_ofExcept_bind_iff.mp returns with ⟨reply, replyAt, returns⟩
    rcases returns_ofExcept_iff.mp returns with ⟨rfl, replyChecked⟩
    rw [throwIf_eq_ok_iff, bne_eq_false_iff_eq] at versionChecked methodChecked replyChecked
    rw [checkedAt_eq_ok_iff] at versionAt methodAt replyAt
    subst versionChecked methodChecked replyChecked
    rcases List.length_eq_two.mp two with ⟨_, _, rfl⟩
    cases versionAt
    cases methodAt
    rcases connectResponse with _ | ⟨version, _ | ⟨reply, more⟩⟩
    · cases ten
    · cases ten
    · cases replyAt
      exact ⟨version, more, by simpa [Operation.Allows] using ten, rfl⟩
  · rintro ⟨version, more, eight, rfl⟩
    refine returns_await_iff.mpr ⟨(), _, rfl, trivial, ?_⟩
    refine returns_await_iff.mpr ⟨[5, 0], _, rfl, rfl, ?_⟩
    refine returns_ofExcept_bind_iff.mpr ⟨5, rfl, returns_ofExcept_bind_iff.mpr ⟨(), rfl, ?_⟩⟩
    refine returns_ofExcept_bind_iff.mpr ⟨0, rfl, returns_ofExcept_bind_iff.mpr ⟨(), rfl, ?_⟩⟩
    refine returns_await_iff.mpr ⟨(), _, rfl, trivial, ?_⟩
    refine returns_await_iff.mpr ⟨version :: 0 :: more, _, rfl, by simp [Operation.Allows, eight], ?_⟩
    exact returns_ofExcept_bind_iff.mpr ⟨0, rfl, returns_ofExcept_iff.mpr ⟨rfl, rfl⟩⟩

/-- The bytes that operations read from the other side. -/
def receivedBytes : Sigma Operation.Result → Bytes
  | ⟨.read _, bytes⟩ => bytes
  | _ => []

/-- The bytes that operations wrote to the other side. -/
def sentBytes : Sigma Operation.Result → Bytes
  | ⟨.write bytes, _⟩ => bytes
  | _ => []

/--
On a connection that delivers a stream of bytes, the operations of a
negotiation consume and write what `negotiate` does in one go.
-/
theorem negotiate_eq_ok_iff_returns {stream sent : Bytes} {channel : Channel} :
    negotiate endpoint { received := stream, sent } = .ok channel ↔
      ∃ performed, Returns Operation.Allows (awaitNegotiate endpoint) performed () ∧
        stream = performed.flatMap receivedBytes ++ channel.received ∧
        channel.sent = sent ++ performed.flatMap sentBytes := by
  rw [negotiate_eq_ok_iff]
  constructor
  · rintro ⟨version, more, rfl, eight, sentAll⟩
    refine ⟨negotiation endpoint version more,
      returns_awaitNegotiate_iff.mpr ⟨version, more, eight, rfl⟩, ?_, ?_⟩
    · simp [negotiation, receivedBytes]
    · rw [sentAll]
      simp [negotiation, sentBytes]
  · rintro ⟨performed, returns, rfl, sentAll⟩
    rcases returns_awaitNegotiate_iff.mp returns with ⟨version, more, eight, rfl⟩
    refine ⟨version, more, ?_, eight, ?_⟩
    · simp [negotiation, receivedBytes]
    · rw [sentAll]
      simp [negotiation, sentBytes]

/-- What the operations of `connect` are, with their results, when it returns. -/
def Connector.Established (library : TlsLibrary) (performed : List (Sigma Operation.Result)) :
    Connector → Prop
  | .plaintext connection =>
      performed = [⟨.resolve connection.endpoint.host connection.endpoint.service, ()⟩,
        ⟨.connect, ()⟩]
  | .tls connection => ∃ stream presented,
      configureTlsPeer library (.new connection.context) connection.endpoint
        connection.verifyPeer = .ok stream ∧ stream.accepts presented = true ∧
      performed = [⟨.resolve connection.endpoint.host connection.endpoint.service, ()⟩,
        ⟨.connect, ()⟩, ⟨.handshake stream, presented⟩]
  | .proxied connection => ∃ version more, more.length = 8 ∧
      performed = ⟨.resolve connection.proxyEndpoint.host connection.proxyEndpoint.service, ()⟩ ::
        ⟨.connect, ()⟩ :: negotiation connection.endpoint version more
  | .proxiedTls connection => ∃ stream presented version more, more.length = 8 ∧
      configureTlsPeer library (.new connection.context) connection.endpoint
        connection.verifyPeer = .ok stream ∧ stream.accepts presented = true ∧
      performed = ⟨.resolve connection.proxyEndpoint.host connection.proxyEndpoint.service, ()⟩ ::
        ⟨.connect, ()⟩ :: (negotiation connection.endpoint version more ++
          [⟨.handshake stream, presented⟩])

theorem established_of_returns {library : TlsLibrary} {connector : Connector}
    (returns : Returns Operation.Allows (connector.awaitConnect library) performed ()) :
    connector.Established library performed := by
  cases connector with
  | plaintext connection =>
      rcases returns_await_iff.mp returns with ⟨_, _, rfl, -, returns⟩
      rcases returns_await_iff.mp returns with ⟨_, _, rfl, -, returns⟩
      rcases returns_done_iff.mp returns with ⟨rfl, -⟩
      rfl
  | tls connection =>
      rcases returns_ofExcept_bind_iff.mp returns with ⟨stream, configures, returns⟩
      rcases returns_await_iff.mp returns with ⟨_, _, rfl, -, returns⟩
      rcases returns_await_iff.mp returns with ⟨_, _, rfl, -, returns⟩
      rcases returns_await_iff.mp returns with ⟨presented, _, rfl, accepts, returns⟩
      rcases returns_done_iff.mp returns with ⟨rfl, -⟩
      exact ⟨stream, presented, configures, accepts, rfl⟩
  | proxied connection =>
      rcases returns_await_iff.mp returns with ⟨_, _, rfl, -, returns⟩
      rcases returns_await_iff.mp returns with ⟨_, _, rfl, -, returns⟩
      rcases returns_awaitNegotiate_iff.mp returns with ⟨version, more, eight, rfl⟩
      exact ⟨version, more, eight, rfl⟩
  | proxiedTls connection =>
      rcases returns_ofExcept_bind_iff.mp returns with ⟨stream, configures, returns⟩
      rcases returns_await_iff.mp returns with ⟨_, _, rfl, -, returns⟩
      rcases returns_await_iff.mp returns with ⟨_, _, rfl, -, returns⟩
      change Returns Operation.Allows (awaitNegotiate connection.endpoint >>= _) _ _ at returns
      rcases returns_bind_iff.mp returns with ⟨_, _, _, rfl, negotiates, shakes⟩
      rcases returns_awaitNegotiate_iff.mp negotiates with ⟨version, more, eight, rfl⟩
      rcases returns_await_iff.mp shakes with ⟨presented, _, rfl, accepts, shaken⟩
      rcases returns_done_iff.mp shaken with ⟨rfl, -⟩
      exact ⟨stream, presented, version, more, eight, configures, accepts, rfl⟩

/-- A program that waits to write a request has established its connection. -/
theorem established_of_writeRequest {library : TlsLibrary} {connector : Connector}
    {writer : RequestWriter} {query : Query} {target : Text} {action : String}
    {request : HttpRequest} {resume : Unit → Awaited Response}
    (reaches : Reaches Operation.Allows (attempt library connector writer query target) performed
      (.await action (.writeRequest request) resume)) :
    connector.Established library performed ∧ request = writer.request query target := by
  rcases Reaches.of_bind reaches with
    ⟨middle, reached, waits⟩ | ⟨before, _, later, rfl, returns, onward⟩
  · cases middle with
    | done _ =>
        cases waits
        exact ⟨established_of_returns reached, rfl⟩
    | fail failure => cases waits
    | await found operation rest =>
        cases waits
        have waited := (script_awaitConnect library connector).of_reaches_await reached
        exact absurd (List.mem_of_getElem? waited) (connector.writeRequest_notMem_labels _)
  · rcases Reaches.of_await onward with ⟨rfl, waits⟩ | ⟨_, _, -, rfl, reads⟩
    · cases waits
      rw [List.append_nil]
      exact ⟨established_of_returns returns, rfl⟩
    · -- Behind the request only the response is awaited.
      cases query with
      | get policy action =>
          rcases Reaches.of_await reads with ⟨-, waits⟩ | ⟨_, _, -, -, ends⟩
          · cases waits
          · cases ends.of_done.2
      | head policy =>
          rcases Reaches.of_await reads with ⟨-, waits⟩ | ⟨_, _, -, -, ends⟩
          · cases waits
          · cases ends.of_done.2

/-! How a program fails by itself. -/

/-- The exceptions a negotiation throws about what the proxy sent. -/
inductive SocksFailure : Exception → Prop where
  | version (version : UInt8) (other : version ≠ 5) :
      SocksFailure
        (.runtimeError ("SOCKS version " ++ toString version.toNat ++ " not supported."))
  | authentication (method : UInt8) (other : method ≠ 0) :
      SocksFailure
        (.runtimeError ("SOCKS authentication " ++ toString method.toNat ++ " not supported."))
  | connection (reply : UInt8) (other : reply ≠ 0) :
      SocksFailure (.runtimeError ("SOCKS connection failed:" ++ toString reply.toNat))

/-- The exceptions a policy throws besides those of the operations it awaits. -/
inductive ConnectionPolicy.Throws : ConnectionPolicy → Exception → Prop where
  | sni : Throws .tlsConnection (.runtimeError "ssl sni")
  | proxiedSni : Throws .proxiedTlsConnection (.runtimeError "ssl sni")
  | socks {failure : Exception} (socks : SocksFailure failure) : Throws .proxiedConnection failure
  | proxiedSocks {failure : Exception} (socks : SocksFailure failure) :
      Throws .proxiedTlsConnection failure

theorem throwIf_eq_error_iff {condition : Bool} {failure thrown : Exception} :
    throwIf condition failure = .error thrown ↔ condition = true ∧ failure = thrown := by
  cases condition <;> simp [throwIf]

theorem exists_checkedAt {bytes : Bytes} {index : ℕ} (within : index < bytes.length) :
    ∃ byte, checkedAt bytes index = .ok byte :=
  ⟨bytes[index], checkedAt_eq_ok_iff.mpr (List.getElem?_eq_getElem within)⟩

/-- The responses have the length that was asked for, so that `at` never throws. -/
theorem socksFailure_of_fails {failure : Exception}
    (fails : Fails Operation.Allows (awaitNegotiate endpoint) performed failure) :
    SocksFailure failure := by
  rcases fails_await_iff.mp fails with ⟨_, _, -, -, fails⟩
  rcases fails_await_iff.mp fails with ⟨authResponse, _, -, two, fails⟩
  have twoBytes : authResponse.length = 2 := two
  rcases fails_ofExcept_bind fails with outOfRange | ⟨version, -, fails⟩
  · rcases @exists_checkedAt authResponse 0 (by omega) with ⟨version, found⟩
    rw [found] at outOfRange
    cases outOfRange
  rcases fails_ofExcept_bind fails with thrown | ⟨_, -, fails⟩
  · rcases throwIf_eq_error_iff.mp thrown with ⟨other, rfl⟩
    exact .version version (by simpa using other)
  rcases fails_ofExcept_bind fails with outOfRange | ⟨method, -, fails⟩
  · rcases @exists_checkedAt authResponse 1 (by omega) with ⟨method, found⟩
    rw [found] at outOfRange
    cases outOfRange
  rcases fails_ofExcept_bind fails with thrown | ⟨_, -, fails⟩
  · rcases throwIf_eq_error_iff.mp thrown with ⟨other, rfl⟩
    exact .authentication method (by simpa using other)
  rcases fails_await_iff.mp fails with ⟨_, _, -, -, fails⟩
  rcases fails_await_iff.mp fails with ⟨connectResponse, _, -, ten, fails⟩
  have tenBytes : connectResponse.length = 10 := ten
  rcases fails_ofExcept_bind fails with outOfRange | ⟨reply, -, fails⟩
  · rcases @exists_checkedAt connectResponse 1 (by omega) with ⟨reply, found⟩
    rw [found] at outOfRange
    cases outOfRange
  rcases throwIf_eq_error_iff.mp (fails_ofExcept_iff.mp fails).2 with ⟨other, rfl⟩
  exact .connection reply (by simpa using other)

theorem eq_sni_of_configureTlsPeer {library : TlsLibrary} {stream : TlsStream} {verifyPeer : Bool}
    {failure : Exception}
    (configures : configureTlsPeer library stream endpoint verifyPeer = .error failure) :
    failure = .runtimeError "ssl sni" := by
  unfold configureTlsPeer at configures
  split_ifs at configures
  all_goals
    cases configures
    rfl

theorem throws_of_fails {library : TlsLibrary} {connector : Connector} {failure : Exception}
    (fails : Fails Operation.Allows (connector.awaitConnect library) performed failure) :
    connector.policy.Throws failure := by
  cases connector with
  | plaintext connection =>
      rcases fails_await_iff.mp fails with ⟨_, _, -, -, fails⟩
      rcases fails_await_iff.mp fails with ⟨_, _, -, -, fails⟩
      cases (Reaches.of_done fails).2
  | tls connection =>
      rcases fails_ofExcept_bind fails with configures | ⟨stream, -, fails⟩
      · rw [eq_sni_of_configureTlsPeer configures]
        exact .sni
      · rcases fails_await_iff.mp fails with ⟨_, _, -, -, fails⟩
        rcases fails_await_iff.mp fails with ⟨_, _, -, -, fails⟩
        rcases fails_await_iff.mp fails with ⟨_, _, -, -, fails⟩
        cases (Reaches.of_done fails).2
  | proxied connection =>
      rcases fails_await_iff.mp fails with ⟨_, _, -, -, fails⟩
      rcases fails_await_iff.mp fails with ⟨_, _, -, -, fails⟩
      exact .socks (socksFailure_of_fails fails)
  | proxiedTls connection =>
      rcases fails_ofExcept_bind fails with configures | ⟨stream, -, fails⟩
      · rw [eq_sni_of_configureTlsPeer configures]
        exact .proxiedSni
      · rcases fails_await_iff.mp fails with ⟨_, _, -, -, fails⟩
        rcases fails_await_iff.mp fails with ⟨_, _, -, -, fails⟩
        change Fails Operation.Allows (awaitNegotiate connection.endpoint >>= _) _ _ at fails
        rcases fails_bind fails with negotiates | ⟨_, _, _, -, -, shakes⟩
        · exact .proxiedSocks (socksFailure_of_fails negotiates)
        · rcases fails_await_iff.mp shakes with ⟨_, _, -, -, shaken⟩
          cases (Reaches.of_done shaken).2

/-- Behind `connect` only operations throw. -/
theorem throws_of_attempt_fails {library : TlsLibrary} {connector : Connector}
    {writer : RequestWriter} {query : Query} {target : Text} {failure : Exception}
    (fails : Fails Operation.Allows (attempt library connector writer query target) performed
      failure) : connector.policy.Throws failure := by
  rcases fails_bind fails with connects | ⟨_, _, _, -, -, fails⟩
  · exact throws_of_fails connects
  · rcases fails_await_iff.mp fails with ⟨_, _, -, -, reads⟩
    cases query with
    | get policy action =>
        rcases fails_await_iff.mp reads with ⟨_, _, -, -, ends⟩
        cases (Reaches.of_done ends).2
    | head policy =>
        rcases fails_await_iff.mp reads with ⟨_, _, -, -, ends⟩
        cases (Reaches.of_done ends).2

end Established

end Abrade
