import Abrade.Network.Negotiation

/-!
# Verification of the peer

How the two TLS policies set up a stream, and which certificates its handshake
accepts.  The library accepts a handshake under `verify_peer` when the chain
validates and the installed callback accepts.  Resolving and connecting, which
come in between, are left out.
-/

namespace Abrade

/-- `std::isalpha` of the C locale. -/
def isAlphaByte (byte : UInt8) : Bool :=
  (ascii 'a' ≤ byte && byte ≤ ascii 'z') || (ascii 'A' ≤ byte && byte ≤ ascii 'Z')

/-- `detail::is_dns_name`. -/
def isDnsName (host : Bytes) : Bool :=
  !host.isEmpty && (Search.findFrom (· == ascii ':') 0 host).isNone && host.any isAlphaByte

/-- The flags `verify_peer` and `verify_fail_if_no_peer_cert`; neither is `verify_none`. -/
structure VerifyMode where
  verifyPeer : Bool
  failIfNoPeerCert : Bool
  deriving DecidableEq

/-- What a peer may present, as far as the library judges it. -/
structure Certificate where
  chainsToTrustedRoot : Bool
  /-- The certificate names this host name or address. -/
  validFor : Bytes → Bool

/-- An `ssl::stream` before its handshake. -/
structure TlsStream where
  verifyMode : VerifyMode
  /-- The name sent through SNI. -/
  serverName : Option Bytes
  /-- The host of the installed `host_name_verification`. -/
  verifyCallback : Option Bytes
  deriving DecidableEq

/-- How the calls of the library end. -/
structure TlsLibrary where
  /-- `set_default_verify_paths`. -/
  defaultVerifyPaths : ErrorCode
  /-- `SSL_set_tlsext_host_name`. -/
  setHostName : Bytes → Bool
  /-- A handshake that is not accepted. -/
  handshakeError : ErrorCode

namespace TlsStream

def accepts (stream : TlsStream) (presented : Option Certificate) : Bool :=
  if stream.verifyMode.verifyPeer then
    match presented with
    | none => !stream.verifyMode.failIfNoPeerCert
    | some certificate =>
        certificate.chainsToTrustedRoot &&
          match stream.verifyCallback with
          | none => true
          | some host => certificate.validFor host
  else true

/-- `async_handshake`, for what the peer presents. -/
def handshake (stream : TlsStream) (library : TlsLibrary) (action : String)
    (presented : Option Certificate) : Except Exception TlsStream :=
  if stream.accepts presented then .ok stream
  else .error (abradeException action library.handshakeError)

end TlsStream

/-- `detail::configure_tls_peer`. -/
def configureTlsPeer (library : TlsLibrary) (stream : TlsStream) (endpoint : HostEndpoint)
    (verifyPeer : Bool) : Except Exception TlsStream :=
  if !isDnsName endpoint.host then .ok stream
  else if !library.setHostName endpoint.host then .error (.runtimeError "ssl sni")
  else
    let named := { stream with serverName := some endpoint.host }
    .ok (if verifyPeer then { named with verifyCallback := some endpoint.host } else named)

/-- What the constructors of both policies do with the `ssl::context`. -/
def contextVerifyMode (library : TlsLibrary) (message : String) (isVerify : Bool) :
    Except Exception VerifyMode :=
  if isVerify then
    if library.defaultVerifyPaths.failed then
      .error (abradeException message library.defaultVerifyPaths)
    else .ok { verifyPeer := true, failIfNoPeerCert := true }
  else .ok { verifyPeer := false, failIfNoPeerCert := false }

/-- The `ssl::stream` built on a context. -/
def TlsStream.new (context : VerifyMode) : TlsStream :=
  { verifyMode := context, serverName := none, verifyCallback := none }

structure TlsConnection where
  sensitiveTeardown : Bool
  verifyPeer : Bool
  endpoint : HostEndpoint
  context : VerifyMode
  deriving DecidableEq

namespace TlsConnection

def new (library : TlsLibrary) (hostName : Bytes) (isVerify strictTeardown : Bool) :
    Except Exception TlsConnection := do
  let endpoint ← parseHostEndpoint hostName ("443".toList.map ascii) 443
  let context ← contextVerifyMode library "ssl default verify path" isVerify
  return { sensitiveTeardown := strictTeardown, verifyPeer := isVerify, endpoint, context }

def connect (library : TlsLibrary) (connection : TlsConnection)
    (presented : Option Certificate) : Except Exception TlsStream := do
  let stream ← configureTlsPeer library (.new connection.context) connection.endpoint
    connection.verifyPeer
  stream.handshake library "ssl handshake" presented

end TlsConnection

structure ProxiedTlsConnection where
  sensitiveTeardown : Bool
  verifyPeer : Bool
  endpoint : HostEndpoint
  proxyEndpoint : HostEndpoint
  context : VerifyMode
  deriving DecidableEq

namespace ProxiedTlsConnection

def new (library : TlsLibrary) (proxy hostName : Bytes) (isVerify strictTeardown : Bool) :
    Except Exception ProxiedTlsConnection := do
  let endpoint ← parseHostEndpoint hostName ("443".toList.map ascii) 443
  let proxyEndpoint ← parseHostEndpoint proxy ("1080".toList.map ascii) 1080
  let context ← contextVerifyMode library "default CA path set" isVerify
  return { sensitiveTeardown := strictTeardown, verifyPeer := isVerify, endpoint, proxyEndpoint
           context }

/-- The channel is the connection to the proxy. -/
def connect (library : TlsLibrary) (connection : ProxiedTlsConnection) (channel : Channel)
    (presented : Option Certificate) : Except Exception TlsStream := do
  let stream ← configureTlsPeer library (.new connection.context) connection.endpoint
    connection.verifyPeer
  let _ ← negotiate connection.endpoint channel
  stream.handshake library "proxied ssl handshake" presented

end ProxiedTlsConnection

/-- A connection is made only to a peer whose certificate is trusted and names the host. -/
def AuthenticatesPeer (connect : Option Certificate → Except Exception TlsStream)
    (host : Bytes) : Prop :=
  ∀ presented stream, connect presented = .ok stream →
    ∃ certificate, presented = some certificate ∧ certificate.chainsToTrustedRoot = true ∧
      certificate.validFor host = true

section Authentication

variable {library : TlsLibrary} {stream configured : TlsStream} {endpoint : HostEndpoint}
  {presented : Option Certificate}

theorem TlsStream.handshake_eq_ok_iff {action : String} {done : TlsStream} :
    stream.handshake library action presented = .ok done ↔
      stream.accepts presented = true ∧ done = stream := by
  unfold handshake
  cases stream.accepts presented with
  | true => simp [eq_comm]
  | false => simp

/-- Under `verify_peer` a certificate is presented, it chains, and the callback accepts it. -/
theorem TlsStream.of_accepts
    (verifies : stream.verifyMode = { verifyPeer := true, failIfNoPeerCert := true })
    (accepted : stream.accepts presented = true) :
    ∃ certificate, presented = some certificate ∧ certificate.chainsToTrustedRoot = true ∧
      ∀ host, stream.verifyCallback = some host → certificate.validFor host = true := by
  unfold accepts at accepted
  rw [verifies, if_pos rfl] at accepted
  cases presented with
  | none => cases accepted
  | some certificate =>
      rw [Bool.and_eq_true] at accepted
      refine ⟨certificate, rfl, accepted.1, ?_⟩
      intro host callback
      have valid := accepted.2
      rw [callback] at valid
      exact valid

/-- For a name the callback is installed; any other host leaves the stream as it is. -/
theorem configureTlsPeer_cases (configures : configureTlsPeer library stream endpoint true =
    .ok configured) :
    (isDnsName endpoint.host = true ∧ configured.verifyMode = stream.verifyMode ∧
        configured.verifyCallback = some endpoint.host) ∨
      (isDnsName endpoint.host = false ∧ configured = stream) := by
  simp only [configureTlsPeer, if_true] at configures
  split_ifs at configures with other failed
  · cases configures
    exact .inr ⟨by simpa using other, rfl⟩
  · cases configures
    exact .inl ⟨by simpa using other, rfl, rfl⟩

theorem contextVerifyMode_of_verify {message : String} {context : VerifyMode}
    (built : contextVerifyMode library message true = .ok context) :
    context = { verifyPeer := true, failIfNoPeerCert := true } := by
  unfold contextVerifyMode at built
  rw [if_pos rfl] at built
  split_ifs at built
  cases built
  rfl

/-- A handshake of a stream configured for a name authenticates the name. -/
theorem authentic_of_dnsName {context : VerifyMode}
    (verifies : context = { verifyPeer := true, failIfNoPeerCert := true })
    (isName : isDnsName endpoint.host = true)
    (configures : configureTlsPeer library (.new context) endpoint true = .ok configured)
    (accepts : configured.accepts presented = true) :
    ∃ certificate, presented = some certificate ∧ certificate.chainsToTrustedRoot = true ∧
      certificate.validFor endpoint.host = true := by
  rcases configureTlsPeer_cases configures with ⟨-, mode, callback⟩ | ⟨notName, -⟩
  · rcases TlsStream.of_accepts (mode.trans verifies) accepts with ⟨certificate, some, chains, valid⟩
    exact ⟨certificate, some, chains, valid endpoint.host callback⟩
  · rw [isName] at notName
    cases notName

/-- A certificate that chains to a trusted root and names nothing. -/
def strangerCertificate : Certificate where
  chainsToTrustedRoot := true
  validFor _ := false

theorem stranger_accepted {context : VerifyMode} {isVerify : Bool}
    (notName : isDnsName endpoint.host = false) :
    ∃ stream, configureTlsPeer library (.new context) endpoint isVerify = .ok stream ∧
      stream.accepts (some strangerCertificate) = true := by
  refine ⟨.new context, by simp [configureTlsPeer, notName], ?_⟩
  simp [TlsStream.accepts, TlsStream.new, strangerCertificate]

theorem TlsConnection.of_new {hostName : Bytes} {strictTeardown : Bool}
    {connection : TlsConnection}
    (built : new library hostName true strictTeardown = .ok connection) :
    connection.verifyPeer = true ∧
      connection.context = { verifyPeer := true, failIfNoPeerCert := true } ∧
      parseHostEndpoint hostName ("443".toList.map ascii) 443 = .ok connection.endpoint := by
  simp only [new, Except.bind_eq_ok_iff] at built
  rcases built with ⟨endpoint, parsed, context, moded, same⟩
  cases same
  exact ⟨rfl, contextVerifyMode_of_verify moded, parsed⟩

theorem ProxiedTlsConnection.of_new {proxy hostName : Bytes} {strictTeardown : Bool}
    {connection : ProxiedTlsConnection}
    (built : new library proxy hostName true strictTeardown = .ok connection) :
    connection.verifyPeer = true ∧
      connection.context = { verifyPeer := true, failIfNoPeerCert := true } ∧
      parseHostEndpoint hostName ("443".toList.map ascii) 443 = .ok connection.endpoint := by
  simp only [new, Except.bind_eq_ok_iff] at built
  rcases built with ⟨endpoint, parsed, proxyEndpoint, -, context, moded, same⟩
  cases same
  exact ⟨rfl, contextVerifyMode_of_verify moded, parsed⟩

theorem TlsConnection.authenticatesPeer_iff {hostName : Bytes} {strictTeardown : Bool}
    {connection : TlsConnection}
    (built : new library hostName true strictTeardown = .ok connection) :
    AuthenticatesPeer (connection.connect library) connection.endpoint.host ↔
      isDnsName connection.endpoint.host = true := by
  rcases of_new built with ⟨verifies, mode, -⟩
  simp only [AuthenticatesPeer, connect, verifies, Except.bind_eq_ok_iff,
    TlsStream.handshake_eq_ok_iff]
  constructor
  · intro authenticates
    by_contra other
    rw [Bool.not_eq_true] at other
    rcases stranger_accepted other with ⟨stream, configures, accepts⟩
    rcases authenticates (some strangerCertificate) stream ⟨stream, configures, accepts, rfl⟩ with
      ⟨certificate, same, -, valid⟩
    cases same
    cases valid
  · rintro isName presented done ⟨stream, configures, accepts, -⟩
    exact authentic_of_dnsName mode isName configures accepts

theorem ProxiedTlsConnection.authenticatesPeer {proxy hostName : Bytes} {strictTeardown : Bool}
    {connection : ProxiedTlsConnection}
    (built : new library proxy hostName true strictTeardown = .ok connection)
    (isName : isDnsName connection.endpoint.host = true) (channel : Channel) :
    AuthenticatesPeer (connection.connect library channel) connection.endpoint.host := by
  rcases of_new built with ⟨verifies, mode, -⟩
  simp only [AuthenticatesPeer, connect, verifies, Except.bind_eq_ok_iff,
    TlsStream.handshake_eq_ok_iff]
  rintro presented done ⟨stream, configures, _, -, accepts, -⟩
  exact authentic_of_dnsName mode isName configures accepts

/--
With verification on, both policies connect only to an authenticated peer,
exactly when the host passes for a DNS name.
-/
theorem verification_authenticates_iff {proxy hostName : Bytes} {strictTeardown : Bool}
    {tls : TlsConnection} {proxiedTls : ProxiedTlsConnection}
    (direct : TlsConnection.new library hostName true strictTeardown = .ok tls)
    (proxied : ProxiedTlsConnection.new library proxy hostName true strictTeardown =
      .ok proxiedTls) :
    (AuthenticatesPeer (tls.connect library) tls.endpoint.host ∧
        ∀ channel, AuthenticatesPeer (proxiedTls.connect library channel)
          proxiedTls.endpoint.host) ↔
      isDnsName tls.endpoint.host = true := by
  have sameEndpoint : proxiedTls.endpoint = tls.endpoint := by
    have parsed := (TlsConnection.of_new direct).2.2
    rw [(ProxiedTlsConnection.of_new proxied).2.2] at parsed
    exact Except.ok.inj parsed
  constructor
  · intro authenticates
    exact (TlsConnection.authenticatesPeer_iff direct).mp authenticates.1
  · intro isName
    refine ⟨(TlsConnection.authenticatesPeer_iff direct).mpr isName, ?_⟩
    exact ProxiedTlsConnection.authenticatesPeer proxied (sameEndpoint ▸ isName)

/-- A library whose calls succeed. -/
def workingLibrary : TlsLibrary where
  defaultVerifyPaths := .success
  setHostName _ := true
  handshakeError := { value := 167772294, message := "certificate verify failed" }

/-- The endpoint of a host without a port. -/
def defaultEndpoint (host service : Bytes) (port : UInt16) : HostEndpoint :=
  { authority := host, host, service, port }

def directConnection (host : Bytes) : TlsConnection where
  sensitiveTeardown := false
  verifyPeer := true
  endpoint := defaultEndpoint host ("443".toList.map ascii) 443
  context := { verifyPeer := true, failIfNoPeerCert := true }

/-- The connection through a proxy of the name `p`. -/
def proxiedConnection (host : Bytes) : ProxiedTlsConnection where
  sensitiveTeardown := false
  verifyPeer := true
  endpoint := defaultEndpoint host ("443".toList.map ascii) 443
  proxyEndpoint := defaultEndpoint [ascii 'p'] ("1080".toList.map ascii) 1080
  context := { verifyPeer := true, failIfNoPeerCert := true }

theorem verification_authenticates_name :
    (AuthenticatesPeer ((directConnection ("a.io".toList.map ascii)).connect workingLibrary)
        ("a.io".toList.map ascii) ∧
      ∀ channel, AuthenticatesPeer
        ((proxiedConnection ("a.io".toList.map ascii)).connect workingLibrary channel)
        ("a.io".toList.map ascii)) ∧
      isDnsName ("a.io".toList.map ascii) = true := by
  have direct : TlsConnection.new workingLibrary ("a.io".toList.map ascii) true false =
      .ok (directConnection ("a.io".toList.map ascii)) := by
    decide
  have proxied : ProxiedTlsConnection.new workingLibrary [ascii 'p'] ("a.io".toList.map ascii) true
      false = .ok (proxiedConnection ("a.io".toList.map ascii)) := by
    decide
  have isName : isDnsName ("a.io".toList.map ascii) = true := by
    decide
  exact ⟨(verification_authenticates_iff direct proxied).mpr isName, isName⟩

/-- The certificate of a stranger is accepted for the address 1.2.3.4. -/
theorem address_not_verified :
    ¬ ∀ library proxy hostName strictTeardown tls proxiedTls,
      TlsConnection.new library hostName true strictTeardown = .ok tls →
      ProxiedTlsConnection.new library proxy hostName true strictTeardown = .ok proxiedTls →
      AuthenticatesPeer (tls.connect library) tls.endpoint.host ∧
        ∀ channel, AuthenticatesPeer (proxiedTls.connect library channel)
          proxiedTls.endpoint.host := by
  intro claimed
  have direct : TlsConnection.new workingLibrary ("1.2.3.4".toList.map ascii) true false =
      .ok (directConnection ("1.2.3.4".toList.map ascii)) := by
    decide
  have proxied : ProxiedTlsConnection.new workingLibrary [ascii 'p'] ("1.2.3.4".toList.map ascii)
      true false = .ok (proxiedConnection ("1.2.3.4".toList.map ascii)) := by
    decide
  have authenticates := (claimed _ _ _ _ _ _ direct proxied).1
  have isName := (TlsConnection.authenticatesPeer_iff direct).mp authenticates
  exact absurd isName (by decide)

end Authentication

end Abrade
