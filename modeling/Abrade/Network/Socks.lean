import Abrade.Library.Socks5
import Abrade.Network.Endpoint

/-!
# SOCKS negotiation

The CONNECT request of the two proxied connection policies.  The length of the
host goes into one byte.
-/

namespace Abrade

/-- The bytes of `connect_request`. -/
def connectRequest (endpoint : HostEndpoint) : Bytes :=
  [0x05, 0x01, 0x00, 0x03, .ofNat endpoint.host.length] ++ endpoint.host ++
    [.ofNat ((endpoint.port.toNat >>> 8) &&& 0xFF), .ofNat (endpoint.port.toNat &&& 0xFF)]

namespace ProxiedConnection

def connectRequest (endpoint : HostEndpoint) : Bytes :=
  Abrade.connectRequest endpoint

end ProxiedConnection

namespace ProxiedTlsConnection

def connectRequest (endpoint : HostEndpoint) : Bytes :=
  Abrade.connectRequest endpoint

end ProxiedTlsConnection

/-- The request is read as one for the host and the port of the endpoint, with nothing left over. -/
def RoundTrips (endpoint : HostEndpoint) (request : Bytes) : Prop :=
  Socks5.decodeConnect request = some ({ name := endpoint.host, port := endpoint.port }, [])

theorem roundTrips_connectRequest_iff (endpoint : HostEndpoint) :
    RoundTrips endpoint (connectRequest endpoint) ↔ endpoint.host.length ≤ 255 := by
  constructor
  · intro decoded
    exact Nat.le_of_lt_succ (Socks5.length_name_of_decodeConnect decoded)
  · intro short
    have request : connectRequest endpoint =
        5 :: 1 :: 0 :: 3 :: .ofNat endpoint.host.length :: (endpoint.host ++
          [.ofNat ((endpoint.port.toNat >>> 8) &&& 0xFF),
            .ofNat (endpoint.port.toNat &&& 0xFF)]) := by
      simp [connectRequest]
    rw [RoundTrips, request, Socks5.decodeConnect_append (Nat.lt_succ_of_le short),
      Socks5.decodePort_ofNat]

/--
The requests of both policies are read back, exactly when the host has at most
255 bytes.
-/
theorem connect_requests_roundTrip_iff (endpoint : HostEndpoint) :
    (RoundTrips endpoint (ProxiedConnection.connectRequest endpoint) ∧
        RoundTrips endpoint (ProxiedTlsConnection.connectRequest endpoint)) ↔
      endpoint.host.length ≤ 255 := by
  change RoundTrips endpoint (connectRequest endpoint) ∧
    RoundTrips endpoint (connectRequest endpoint) ↔ _
  rw [and_self, roundTrips_connectRequest_iff]

/-- A host of 256 bytes is accepted, and its length byte is zero. -/
theorem long_host_misread :
    ¬ ∀ authority defaultService defaultPort endpoint,
      parseHostEndpoint authority defaultService defaultPort = .ok endpoint →
      RoundTrips endpoint (ProxiedConnection.connectRequest endpoint) ∧
        RoundTrips endpoint (ProxiedTlsConnection.connectRequest endpoint) := by
  intro claimed
  have noColon : ascii ':' ∉ ascii 'a' :: List.replicate 255 (ascii 'a') := by
    rw [← List.replicate_succ]
    intro colonMem
    exact absurd (List.eq_of_mem_replicate colonMem) (by decide)
  have accepted := parseHostEndpoint_of_noColon (by decide) noColon [] 80
  have short := (roundTrips_connectRequest_iff _).mp (claimed _ _ _ _ accepted).1
  simp only [List.length_cons, List.length_replicate] at short
  omega

end Abrade
