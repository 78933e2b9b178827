import Mathlib.Data.List.Basic

/-!
# SOCKS5 messages

The CONNECT request of RFC 1928 for a domain name, as a server reads it off a
stream of bytes, and the replies that report success.
-/

namespace Socks5

/-- A request to connect to a named host. -/
structure ConnectRequest where
  name : List UInt8
  port : UInt16
  deriving DecidableEq

/-- Two bytes in network order. -/
def decodePort (high low : UInt8) : UInt16 :=
  .ofNat (256 * high.toNat + low.toNat)

/--
The version, the command, a reserved byte and the address type, one length
byte, that many bytes of a name and a port; what follows them is left over.
-/
def decodeConnect : List UInt8 → Option (ConnectRequest × List UInt8)
  | 5 :: 1 :: 0 :: 3 :: length :: rest =>
      if length.toNat ≤ rest.length then
        match rest.drop length.toNat with
        | high :: low :: rest' =>
            some ({ name := rest.take length.toNat, port := decodePort high low }, rest')
        | _ => none
      else none
  | _ => none

theorem decodePort_ofNat (port : UInt16) :
    decodePort (.ofNat ((port.toNat >>> 8) &&& 0xFF)) (.ofNat (port.toNat &&& 0xFF)) = port := by
  have bound := port.toNat_lt
  have mask (value : ℕ) : value &&& 0xFF = value % 256 := Nat.and_two_pow_sub_one_eq_mod value 8
  have shift : port.toNat >>> 8 = port.toNat / 256 := Nat.shiftRight_eq_div_pow port.toNat 8
  have high : (UInt8.ofNat ((port.toNat >>> 8) &&& 0xFF)).toNat = port.toNat / 256 := by
    rw [mask, shift, UInt8.toNat_ofNat']
    omega
  have low : (UInt8.ofNat (port.toNat &&& 0xFF)).toNat = port.toNat % 256 := by
    rw [mask, UInt8.toNat_ofNat']
    omega
  rw [decodePort, high, low, Nat.div_add_mod, UInt16.ofNat_toNat]

/-- A name of at most 255 bytes is read back, and so is what follows the request. -/
theorem decodeConnect_append {name : List UInt8} (short : name.length < 256)
    (high low : UInt8) (rest : List UInt8) :
    decodeConnect (5 :: 1 :: 0 :: 3 :: .ofNat name.length :: (name ++ high :: low :: rest)) =
      some ({ name, port := decodePort high low }, rest) := by
  have length : (UInt8.ofNat name.length).toNat = name.length := UInt8.toNat_ofNat_of_lt' short
  simp [decodeConnect, length]

theorem length_name_of_decodeConnect {bytes rest : List UInt8} {request : ConnectRequest}
    (decoded : decodeConnect bytes = some (request, rest)) : request.name.length < 256 := by
  unfold decodeConnect at decoded
  split at decoded
  · next length behind =>
      have bound := length.toNat_lt
      split at decoded
      · split at decoded
        · cases decoded
          simp only [List.length_take]
          omega
        · cases decoded
      · cases decoded
  · cases decoded

/--
The version, a zero for success, a reserved byte and the address type, then the
address the server is bound to and a port of two bytes.
-/
inductive IsSuccessReply : List UInt8 → Prop where
  | ipv4 {address port} : address.length = 4 → port.length = 2 →
      IsSuccessReply (5 :: 0 :: 0 :: 1 :: (address ++ port))
  | domain {length name port} : name.length = UInt8.toNat length → port.length = 2 →
      IsSuccessReply (5 :: 0 :: 0 :: 3 :: length :: (name ++ port))
  | ipv6 {address port} : address.length = 16 → port.length = 2 →
      IsSuccessReply (5 :: 0 :: 0 :: 4 :: (address ++ port))

/-- The first four bytes leave only the address and the port open. -/
theorem IsSuccessReply.exists_tail {reply : List UInt8} (success : IsSuccessReply reply) :
    ∃ addressType tail, reply = 5 :: 0 :: 0 :: addressType :: tail := by
  cases success with
  | ipv4 => exact ⟨1, _, rfl⟩
  | domain => exact ⟨3, _, rfl⟩
  | ipv6 => exact ⟨4, _, rfl⟩

end Socks5
