import Abrade.Basic
import Abrade.Library.Search

/-!
# Endpoints

Host authorities as `parse_host_endpoint` reads them.  They are byte strings
here, because the SOCKS negotiation sends them byte by byte.
-/

namespace Abrade

/-- A `std::string` or `std::string_view` whose bytes matter. -/
abbrev Bytes := List UInt8

/-- The byte of an ASCII character. -/
def ascii (element : Char) : UInt8 :=
  element.toUInt8

structure HostEndpoint where
  authority : Bytes
  host : Bytes
  service : Bytes
  port : UInt16
  deriving DecidableEq

def isDigitByte (byte : UInt8) : Bool :=
  ascii '0' ≤ byte && byte ≤ ascii '9'

/--
`std::from_chars` for an `unsigned int`: the value of the longest run of digits
in front and the text behind it; none without digits or when the value is too
large.
-/
def fromChars (text : Bytes) : Option (ℕ × Bytes) :=
  let digits := text.takeWhile isDigitByte
  let value := digits.foldl (fun value digit => 10 * value + (digit.toNat - (ascii '0').toNat)) 0
  if digits ≠ [] ∧ value < 2 ^ 32 then some (value, text.dropWhile isDigitByte) else none

def parseTcpPort (text : Bytes) : Except Exception UInt16 :=
  if text.isEmpty then .error (.runtimeError "Host port is empty.")
  else
    match fromChars text with
    | none => .error (.runtimeError "Host port is invalid.")
    | some (parsed, rest) =>
        if rest ≠ [] ∨ parsed = 0 ∨ 65535 < parsed then
          .error (.runtimeError "Host port is invalid.")
        else .ok (.ofNat parsed)

/-- The host, the service and the port of an authority in brackets. -/
def parseBracketed (authority defaultService : Bytes) (defaultPort : UInt16) :
    Except Exception (Bytes × Bytes × UInt16) :=
  match Search.findFrom (· == ascii ']') 0 authority with
  | none => .error (.runtimeError "Bracketed IPv6 host is missing closing bracket.")
  | some close =>
      let host := (authority.drop 1).take (close - 1)
      match authority.drop (close + 1) with
      | [] => .ok (host, defaultService, defaultPort)
      | front :: service =>
          if front ≠ ascii ':' then
            .error (.runtimeError "Bracketed IPv6 host has invalid suffix.")
          else return (host, service, ← parseTcpPort service)

/-- The host, the service and the port of an authority without brackets. -/
def parsePlain (authority defaultService : Bytes) (defaultPort : UInt16) :
    Except Exception (Bytes × Bytes × UInt16) :=
  match Search.findFrom (· == ascii ':') 0 authority with
  | none => .ok (authority, defaultService, defaultPort)
  | some firstColon =>
      if some firstColon = Search.findLast (· == ascii ':') authority then do
        let service := authority.drop (firstColon + 1)
        return (authority.take firstColon, service, ← parseTcpPort service)
      else .ok (authority, defaultService, defaultPort)

def parseHostEndpoint (authority defaultService : Bytes) (defaultPort : UInt16) :
    Except Exception HostEndpoint :=
  match authority with
  | [] => .error (.runtimeError "Host is empty.")
  | front :: _ => do
      let (host, service, port) ←
        if front = ascii '[' then parseBracketed authority defaultService defaultPort
        else parsePlain authority defaultService defaultPort
      if host.isEmpty then .error (.runtimeError "Host is empty.")
      else return { authority, host, service, port }

example : parseHostEndpoint ("h:80".toList.map ascii) [] 0 =
    .ok { authority := "h:80".toList.map ascii, host := [104], service := [56, 48], port := 80 } := by
  decide

theorem parseHostEndpoint_of_noColon {front : UInt8} {rest : Bytes} (noBracket : front ≠ ascii '[')
    (noColon : ascii ':' ∉ front :: rest) (defaultService : Bytes) (defaultPort : UInt16) :
    parseHostEndpoint (front :: rest) defaultService defaultPort =
      .ok { authority := front :: rest, host := front :: rest, service := defaultService,
            port := defaultPort } := by
  have absent : Search.findFrom (· == ascii ':') 0 (front :: rest) = none := by
    apply @Search.findFrom_eq_none _ _ _ _ [] (front :: rest) rfl rfl
    intro byte byteMem
    rw [beq_eq_false_iff_ne]
    rintro rfl
    exact noColon byteMem
  simp only [parseHostEndpoint, if_neg noBracket, parsePlain, absent]
  rfl

end Abrade
