import Abrade.Library.Duplex
import Abrade.Network.Connecting

/-!
# The negotiation and its proxy

The SOCKS proxy of the integration tests, up to the relay, and the session it has
with a proxied connection.  `recv_exact` is one operation, because nothing else
reads from its socket.
-/

namespace Abrade

open Awaiting (Program)
open Awaiting.Program (ofExcept)
open Transition (Steps Stuck)

/-- What a handler of the proxy awaits. -/
inductive ProxyOperation where
  | recvExact (size : ℕ)
  | sendall (bytes : Bytes)
  | createConnection (host : Text) (port : UInt16)
  deriving DecidableEq

namespace ProxyOperation

abbrev Result : ProxyOperation → Type
  | recvExact _ => Bytes
  | sendall _ => Unit
  | createConnection _ _ => Unit

def Allows : (operation : ProxyOperation) → operation.Result → Prop
  | recvExact size, bytes => bytes.length = size
  | sendall _, _ => True
  | createConnection _ _, _ => True

end ProxyOperation

/-- The exceptions `handle` raises by itself. -/
inductive ProxyError where
  | valueError
  | unicodeDecodeError
  deriving DecidableEq

namespace SocksProxyHandler

/-- `socket.inet_ntoa`. -/
def inetNtoa (packed : Bytes) : Text :=
  (".".intercalate (packed.map fun byte => toString byte.toNat)).toList

def IsAscii (encoded : Bytes) : Prop :=
  ∀ byte ∈ encoded, byte.toNat < 128

instance (encoded : Bytes) : Decidable (IsAscii encoded) :=
  inferInstanceAs (Decidable (∀ byte ∈ encoded, byte.toNat < 128))

/-- The characters of ASCII bytes. -/
def decoded (encoded : Bytes) : Text :=
  encoded.map fun byte => .ofNat byte.toNat

/-- `bytes.decode("ascii")`. -/
def decode (encoded : Bytes) : Except ProxyError Text :=
  if IsAscii encoded then .ok (decoded encoded) else .error .unicodeDecodeError

abbrev Handler :=
  Program ProxyOperation.Result ProxyError

def recvExact (size : ℕ) : Handler Bytes :=
  .wait "recv_exact" (ProxyOperation.recvExact size)

def sendall (bytes : Bytes) : Handler Unit :=
  .wait "sendall" (ProxyOperation.sendall bytes)

def createConnection (host : Text) (port : UInt16) : Handler Unit :=
  .wait "create_connection" (ProxyOperation.createConnection host port)

/-- `handle` from the port on; the target is where the relay goes. -/
def connectTo (host : Text) : Handler (Option (Text × UInt16)) := do
  let [high, low] ← recvExact 2 | .fail .valueError
  let port := Socks5.decodePort high low
  createConnection host port
  sendall [0x05, 0x00, 0x00, 0x01, 0x7F, 0x00, 0x00, 0x01, 0x00, 0x00]
  return some (host, port)

def handle : Handler (Option (Text × UInt16)) := do
  let [version, methodCount] ← recvExact 2 | .fail .valueError
  let methods ← recvExact methodCount.toNat
  if version ≠ 5 ∨ 0 ∉ methods then
    sendall [0x05, 0xFF]
    return none
  else
    sendall [0x05, 0x00]
    let [version, command, _reserved, addressType] ← recvExact 4 | .fail .valueError
    if version ≠ 5 ∨ command ≠ 1 then
      sendall [0x05, 0x07, 0x00, 0x01, 0x00, 0x00, 0x00, 0x00, 0x00, 0x00]
      return none
    else if addressType = 1 then
      let packed ← recvExact 4
      connectTo (inetNtoa packed)
    else if addressType = 3 then
      let [length] ← recvExact 1 | .fail .valueError
      let encoded ← recvExact length.toNat
      let host ← Program.ofExcept (decode encoded)
      connectTo host
    else
      sendall [0x05, 0x08, 0x00, 0x01, 0x00, 0x00, 0x00, 0x00, 0x00, 0x00]
      return none

end SocksProxyHandler

/-- A socket of the client; only reads and writes of bytes go over it as they are. -/
def clientParty : Duplex.Party UInt8 Operation.Allows where
  perform
    | .read count, incoming => Duplex.receive count incoming
    | .write bytes, incoming => some ((), incoming, bytes)
    | _, _ => none
  perform_append {operation} _ _ _ _ more performs := by
    cases operation with
    | read count => exact Duplex.receive_append more performs
    | write bytes =>
        cases performs
        rfl
    | _ => cases performs
  allowed {operation} _ _ _ _ performs := by
    cases operation with
    | read count => exact (Duplex.receive_eq_some_iff.mp performs).2.1
    | write bytes => trivial
    | _ => cases performs

/-- The proxy's end of the socket; a connection to the target succeeds. -/
def proxyParty : Duplex.Party UInt8 ProxyOperation.Allows where
  perform
    | .recvExact size, incoming => Duplex.receive size incoming
    | .sendall bytes, incoming => some ((), incoming, bytes)
    | .createConnection _ _, incoming => some ((), incoming, [])
  perform_append {operation} _ _ _ _ more performs := by
    cases operation with
    | recvExact size => exact Duplex.receive_append more performs
    | sendall bytes =>
        cases performs
        rfl
    | createConnection host port =>
        cases performs
        rfl
  allowed {operation} _ _ _ _ performs := by
    cases operation with
    | recvExact size => exact (Duplex.receive_eq_some_iff.mp performs).2.1
    | sendall bytes => trivial
    | createConnection host port => trivial

/-- Where the client and the proxy are. -/
abbrev ProxySession :=
  Duplex.State UInt8 Operation.Result ProxyOperation.Result Exception ProxyError Unit
    (Option (Text × UInt16))

namespace ProxySession

abbrev Event :=
  Duplex.Event Operation.Result ProxyOperation.Result

abbrev Step : ProxySession → List Event → ProxySession → Prop :=
  Duplex.Step clientParty proxyParty

def start (endpoint : HostEndpoint) : ProxySession :=
  { left := awaitNegotiate endpoint, right := SocksProxyHandler.handle, toRight := [],
    toLeft := [] }

/-- The client once its request is on the way. -/
def awaitReply : Awaited Unit := do
  let connectResponse ← awaitStreamWithTimeout "proxy read" (.read 10)
  let reply ← ofExcept (checkedAt connectResponse 1)
  ofExcept (throwIf (reply != 0)
    (.runtimeError ("SOCKS connection failed:" ++ toString reply.toNat)))

section Runs

variable (endpoint : HostEndpoint)

/-- As much of the host as its length byte says. -/
def cutHost : Bytes :=
  endpoint.host.take (UInt8.ofNat endpoint.host.length).toNat

/-- What the proxy reads as the port and what it leaves. -/
def behindHost : Bytes :=
  endpoint.host.drop (UInt8.ofNat endpoint.host.length).toNat ++
    [.ofNat ((endpoint.port.toNat >>> 8) &&& 0xFF), .ofNat (endpoint.port.toNat &&& 0xFF)]

theorem connectRequest_eq : connectRequest endpoint =
    5 :: 1 :: 0 :: 3 :: .ofNat endpoint.host.length ::
      (cutHost endpoint ++ behindHost endpoint) := by
  rw [cutHost, behindHost, ← List.append_assoc, List.take_append_drop]
  simp [connectRequest]

theorem length_cutHost :
    (cutHost endpoint).length = (UInt8.ofNat endpoint.host.length).toNat := by
  rw [cutHost, List.length_take, UInt8.toNat_ofNat']
  exact min_eq_left (Nat.mod_le _ _)

/-- The session when the proxy has read the host. -/
def named : ProxySession :=
  { left := awaitReply
    right := Program.ofExcept (SocksProxyHandler.decode (cutHost endpoint)) >>=
      SocksProxyHandler.connectTo
    toRight := behindHost endpoint
    toLeft := [] }

/-- In one of its orders, the session gets to where the proxy has read the host. -/
theorem steps_named : ∃ trace, Steps Step (start endpoint) 9 trace (named endpoint) := by
  refine Steps.cons (.left rfl) ?_
  refine Steps.cons (.right rfl) ?_
  refine Steps.cons (.right rfl) ?_
  refine Steps.cons (.right rfl) ?_
  refine Steps.cons (.left rfl) ?_
  refine Steps.cons (.left rfl) ?_
  refine Steps.cons (.right rfl) ?_
  refine Steps.cons (.right rfl) ?_
  have request : (connectRequest endpoint).drop 5 = cutHost endpoint ++ behindHost endpoint :=
    congrArg (List.drop 5) (connectRequest_eq endpoint)
  exact Steps.cons (.right (Duplex.receive_eq_some_iff.mpr
    ⟨request, length_cutHost endpoint, rfl⟩)) ⟨[], .refl⟩

/-- A host that is not decoded ends the handler, and the client waits. -/
theorem named_of_not_isAscii (other : ¬ SocksProxyHandler.IsAscii (cutHost endpoint)) :
    named endpoint =
      { left := awaitReply, right := .fail .unicodeDecodeError, toRight := behindHost endpoint,
        toLeft := [] } := by
  rw [named, SocksProxyHandler.decode, if_neg other]
  rfl

/-- A host that is decoded goes with the next two bytes. -/
theorem steps_of_isAscii {high low : UInt8} {left : Bytes}
    (behind : behindHost endpoint = high :: low :: left)
    (encoded : SocksProxyHandler.IsAscii (cutHost endpoint)) :
    ∃ trace, Steps Step (named endpoint) 4 trace
      { left := .done ()
        right := .done (some (SocksProxyHandler.decoded (cutHost endpoint),
          Socks5.decodePort high low))
        toRight := left
        toLeft := [] } := by
  rw [named, SocksProxyHandler.decode, if_pos encoded, behind]
  have port : Duplex.receive 2 (high :: low :: left) = some ([high, low], left, []) :=
    Duplex.receive_eq_some_iff.mpr ⟨rfl, rfl, rfl⟩
  refine Steps.cons (.right port) ?_
  refine Steps.cons (.right rfl) ?_
  refine Steps.cons (.right rfl) ?_
  refine Steps.cons (.left rfl) ⟨[], ?_⟩
  rw [List.append_nil left]
  exact .refl

/-- The session of a host that is not decoded ends with a failed proxy. -/
theorem exists_failed (other : ¬ SocksProxyHandler.IsAscii (cutHost endpoint)) :
    ∃ trace state, Steps Step (start endpoint) 9 trace state ∧ Stuck Step state ∧
      state.right = .fail .unicodeDecodeError := by
  rcases steps_named endpoint with ⟨trace, steps⟩
  rw [named_of_not_isAscii endpoint other] at steps
  exact ⟨trace, _, steps, Duplex.stuck_of_starved rfl, rfl⟩

/-- The session of a host that is decoded ends with a client and a proxy that are done. -/
theorem exists_connected {high low : UInt8} {left : Bytes}
    (behind : behindHost endpoint = high :: low :: left)
    (encoded : SocksProxyHandler.IsAscii (cutHost endpoint)) :
    ∃ trace state, Steps Step (start endpoint) 13 trace state ∧ Stuck Step state ∧
      state.left = .done () ∧
      state.right = .done (some (SocksProxyHandler.decoded (cutHost endpoint),
        Socks5.decodePort high low)) ∧
      state.toRight = left ∧ state.toLeft = [] := by
  rcases steps_named endpoint with ⟨trace, steps⟩
  rcases steps_of_isAscii endpoint behind encoded with ⟨later, rest⟩
  exact ⟨trace ++ later, _, steps.append rest, Duplex.stuck_of_done, rfl, rfl, rfl, rfl⟩

theorem exists_behindHost :
    ∃ high low left, behindHost endpoint = high :: low :: left ∧
      endpoint.host.length - (UInt8.ofNat endpoint.host.length).toNat = left.length := by
  have counted : (behindHost endpoint).length =
      endpoint.host.length - (UInt8.ofNat endpoint.host.length).toNat + 2 := by
    rw [behindHost, List.length_append, List.length_drop]
    rfl
  generalize behindHost endpoint = bytes at counted
  rcases bytes with _ | ⟨high, _ | ⟨low, left⟩⟩
  · simp only [List.length_nil] at counted
    omega
  · simp only [List.length_cons, List.length_nil] at counted
    omega
  · simp only [List.length_cons] at counted
    exact ⟨high, low, left, rfl, by omega⟩

/-- No order of the operations makes more than thirteen of them. -/
theorem count_le {count : ℕ} {trace : List Event} {state : ProxySession}
    (steps : Steps Step (start endpoint) count trace state) : count ≤ 13 := by
  by_cases encoded : SocksProxyHandler.IsAscii (cutHost endpoint)
  · rcases exists_behindHost endpoint with ⟨high, low, left, behind, -⟩
    rcases exists_connected endpoint behind encoded with ⟨_, finish, ends, stuck, -⟩
    rcases ends.completes Duplex.diamond_step stuck steps with ⟨left, _, counted, -⟩
    omega
  · rcases exists_failed endpoint encoded with ⟨_, finish, ends, stuck, -⟩
    rcases ends.completes Duplex.diamond_step stuck steps with ⟨left, _, counted, -⟩
    omega

end Runs

/--
The client goes on to use the tunnel, the proxy relays to the client's endpoint,
and nothing of the negotiation is left in between.
-/
structure Agrees (endpoint : HostEndpoint) (trace : List Event) (state : ProxySession) : Prop where
  client : state.left = .done ()
  negotiated : ∃ version more, more.length = 8 ∧
    Duplex.lefts trace = negotiation endpoint version more
  proxy : state.right =
    .done (some (SocksProxyHandler.decoded endpoint.host, endpoint.port))
  toRight : state.toRight = []
  toLeft : state.toLeft = []

section Agreement

variable {endpoint : HostEndpoint}

/-- The host of a short length is the one the proxy cuts out. -/
theorem cutHost_of_short (short : endpoint.host.length < 256) :
    cutHost endpoint = endpoint.host := by
  rw [cutHost, UInt8.toNat_ofNat_of_lt' short, List.take_length]

theorem behindHost_of_short (short : endpoint.host.length < 256) :
    behindHost endpoint =
      [.ofNat ((endpoint.port.toNat >>> 8) &&& 0xFF), .ofNat (endpoint.port.toNat &&& 0xFF)] := by
  rw [behindHost, UInt8.toNat_ofNat_of_lt' short, List.drop_length, List.nil_append]

/-- Every order of a short request's session that ends, ends in agreement. -/
theorem agrees_of_short (short : endpoint.host.length < 256)
    (encoded : SocksProxyHandler.IsAscii endpoint.host) {count : ℕ} {trace : List Event}
    {state : ProxySession} (steps : Steps Step (start endpoint) count trace state)
    (stuck : Stuck Step state) : Agrees endpoint trace state := by
  rw [← cutHost_of_short short] at encoded
  rcases exists_connected endpoint (behindHost_of_short short) encoded with
    ⟨_, finish, ends, stuckFinish, client, proxy, toRight, toLeft⟩
  have same := ends.unique Duplex.diamond_step stuckFinish steps stuck
  subst same
  rw [cutHost_of_short short, Socks5.decodePort_ofNat] at proxy
  have reaches := (Duplex.reaches_of_run steps.run).1
  rw [client] at reaches
  exact ⟨client, returns_awaitNegotiate_iff.mp reaches, proxy, toRight, toLeft⟩

/-- Of a longer host the proxy leaves bytes behind. -/
theorem lt_length_of_long (long : 256 ≤ endpoint.host.length) :
    0 < endpoint.host.length - (UInt8.ofNat endpoint.host.length).toNat := by
  have small := (UInt8.ofNat endpoint.host.length).toNat_lt
  omega

/--
However the operations of the two interleave, they are thirteen at most; and the
client and the proxy agree wherever they end exactly when the host fits its length
byte and is ASCII.
-/
theorem sessions_agree_iff (endpoint : HostEndpoint) :
    (∀ count trace state, Steps Step (start endpoint) count trace state → count ≤ 13) ∧
      ((∀ count trace state, Steps Step (start endpoint) count trace state →
          Stuck Step state → Agrees endpoint trace state) ↔
        endpoint.host.length < 256 ∧ SocksProxyHandler.IsAscii endpoint.host) := by
  refine ⟨fun count trace state steps => count_le endpoint steps, ?_, ?_⟩
  · intro agree
    by_cases encoded : SocksProxyHandler.IsAscii (cutHost endpoint)
    · rcases exists_behindHost endpoint with ⟨high, low, left, behind, counted⟩
      rcases exists_connected endpoint behind encoded with
        ⟨trace, state, steps, stuck, -, -, toRight, -⟩
      have empty := (agree _ trace state steps stuck).toRight
      have short : endpoint.host.length < 256 := by
        by_contra long
        have more := lt_length_of_long (Nat.le_of_not_lt long)
        rw [counted, ← toRight, empty] at more
        exact absurd more (Nat.lt_irrefl 0)
      exact ⟨short, cutHost_of_short short ▸ encoded⟩
    · rcases exists_failed endpoint encoded with ⟨trace, state, steps, stuck, failed⟩
      have done := (agree _ trace state steps stuck).proxy
      rw [failed] at done
      cases done
  · rintro ⟨short, encoded⟩ count trace state steps stuck
    exact agrees_of_short short encoded steps stuck

end Agreement

end ProxySession

end Abrade
