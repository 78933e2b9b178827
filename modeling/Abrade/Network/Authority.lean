import Abrade.Library.Fallible
import Abrade.Network.Decimal

/-!
# Authorities

Which authorities `parse_host_endpoint` takes, and what it makes of them.  An
accepted authority is read in one of four ways; the direct connections use the
service of the result and the SOCKS negotiation its port.
-/

namespace Abrade

/-- How an authority is read: its host, its service and its port. -/
inductive ReadsAuthority (defaultService : Bytes) (defaultPort : UInt16) :
    Bytes → Bytes → Bytes → UInt16 → Prop where
  | whole {host} : host.head? ≠ some (ascii '[') →
      (∀ before behind, host = before ++ ascii ':' :: behind →
        ascii ':' ∈ before ∨ ascii ':' ∈ behind) →
      ReadsAuthority defaultService defaultPort host host defaultService defaultPort
  | hostAndPort {host service port} : host.head? ≠ some (ascii '[') →
      ascii ':' ∉ host → ascii ':' ∉ service → parseTcpPort service = .ok port →
      ReadsAuthority defaultService defaultPort (host ++ ascii ':' :: service) host service port
  | bracketed {host} : ascii ']' ∉ host →
      ReadsAuthority defaultService defaultPort (ascii '[' :: (host ++ [ascii ']']))
        host defaultService defaultPort
  | bracketedAndPort {host service port} : ascii ']' ∉ host → parseTcpPort service = .ok port →
      ReadsAuthority defaultService defaultPort
        (ascii '[' :: (host ++ ascii ']' :: ascii ':' :: service)) host service port

section Reading

variable {authority host service defaultService : Bytes} {port defaultPort : UInt16}

theorem parsePlain_oneColon (noColonBefore : ascii ':' ∉ host)
    (noColonBehind : ascii ':' ∉ service) :
    parsePlain (host ++ ascii ':' :: service) defaultService defaultPort =
      (parseTcpPort service).map fun port => (host, service, port) := by
  have first : Search.findFrom (· == ascii ':') 0 (host ++ ascii ':' :: service) =
      some host.length :=
    Search.findFrom_zero_eq_some rfl (by simp) (Search.forall_beq_eq_false_iff.mpr noColonBefore)
  have last : Search.findLast (· == ascii ':') (host ++ ascii ':' :: service) =
      some host.length :=
    Search.findLast_eq_some rfl (by simp) (Search.forall_beq_eq_false_iff.mpr noColonBehind)
  have serviceEq : (host ++ ascii ':' :: service).drop (host.length + 1) = service := by
    simp [List.drop_append]
  have hostEq : (host ++ ascii ':' :: service).take host.length = host := by
    simp
  simp only [parsePlain, first, last, if_true, serviceEq, hostEq]
  cases parseTcpPort service <;> rfl

theorem parsePlain_otherwise (notOne : ∀ before behind,
      authority = before ++ ascii ':' :: behind → ascii ':' ∈ before ∨ ascii ':' ∈ behind) :
    parsePlain authority defaultService defaultPort =
      .ok (authority, defaultService, defaultPort) := by
  simp only [parsePlain]
  rcases first : Search.findFrom (· == ascii ':') 0 authority with _ | firstColon
  · rfl
  · rcases Search.exists_split_of_findFrom first with ⟨before, colon, behind, split, rfl, isColon,
      noColonBefore⟩
    cases beq_iff_eq.mp isColon
    -- A last colon at the position of the first would leave none behind it.
    have different : some before.length ≠ Search.findLast (· == ascii ':') authority := by
      intro last
      rcases Search.exists_split_of_findLast last.symm with ⟨before', colon', behind', split',
        sameLength, -, noColonBehind⟩
      rw [split] at split'
      have behindEq := (List.append_inj split' sameLength).2
      cases behindEq
      rcases notOne before behind split with colonMem | colonMem
      · exact Search.forall_beq_eq_false_iff.mp noColonBefore colonMem
      · exact Search.forall_beq_eq_false_iff.mp noColonBehind colonMem
    simp only [if_neg different]

theorem findFrom_close (noClose : ascii ']' ∉ host) (rest : Bytes) :
    Search.findFrom (· == ascii ']') 0 (ascii '[' :: (host ++ ascii ']' :: rest)) =
      some (host.length + 1) := by
  have absent : ascii ']' ∉ ascii '[' :: host := by
    rw [List.mem_cons, not_or]
    exact ⟨by decide, noClose⟩
  exact Search.findFrom_zero_eq_some List.cons_append.symm (by simp)
    (Search.forall_beq_eq_false_iff.mpr absent)

theorem parseBracketed_closed (noClose : ascii ']' ∉ host) (rest : Bytes) :
    parseBracketed (ascii '[' :: (host ++ ascii ']' :: rest)) defaultService defaultPort =
      match rest with
      | [] => .ok (host, defaultService, defaultPort)
      | front :: service =>
          if front ≠ ascii ':' then
            .error (.runtimeError "Bracketed IPv6 host has invalid suffix.")
          else (parseTcpPort service).map fun port => (host, service, port) := by
  have restEq : (ascii '[' :: (host ++ ascii ']' :: rest)).drop (host.length + 1 + 1) = rest := by
    simp [List.drop_append]
  have hostEq : ((ascii '[' :: (host ++ ascii ']' :: rest)).drop 1).take (host.length + 1 - 1) =
      host := by
    simp
  simp only [parseBracketed, findFrom_close noClose, restEq, hostEq]
  cases rest with
  | nil => rfl
  | cons front service =>
      simp only
      split_ifs
      · rfl
      · cases parseTcpPort service <;> rfl

theorem parseBracketed_unclosed (noClose : ascii ']' ∉ authority) :
    parseBracketed authority defaultService defaultPort =
      .error (.runtimeError "Bracketed IPv6 host is missing closing bracket.") := by
  have absent : Search.findFrom (· == ascii ']') 0 authority = none :=
    @Search.findFrom_eq_none _ _ _ _ [] authority rfl rfl
      (Search.forall_beq_eq_false_iff.mpr noClose)
  simp only [parseBracketed, absent]

/-- A port behind a host does not change whether the authority begins with a bracket. -/
theorem head?_append_port (host service : Bytes) :
    (host ++ ascii ':' :: service).head? = some (ascii '[') ↔ host.head? = some (ascii '[') := by
  cases host with
  | nil =>
      have noBracket : ascii ':' ≠ ascii '[' := by decide
      simp [noBracket]
  | cons byte host => rfl

/-- Without a bracket in front an authority is read in the first two ways. -/
theorem readsAuthority_iff_parsePlain (noBracket : authority.head? ≠ some (ascii '[')) :
    ReadsAuthority defaultService defaultPort authority host service port ↔
      parsePlain authority defaultService defaultPort = .ok (host, service, port) := by
  constructor
  · intro reads
    cases reads with
    | whole _ notOne => exact parsePlain_otherwise notOne
    | hostAndPort _ noColonBefore noColonBehind parsed =>
        rw [parsePlain_oneColon noColonBefore noColonBehind, parsed]
        rfl
    | bracketed => exact absurd rfl noBracket
    | bracketedAndPort => exact absurd rfl noBracket
  · intro parsed
    by_cases one : ∃ before behind, authority = before ++ ascii ':' :: behind ∧
        ascii ':' ∉ before ∧ ascii ':' ∉ behind
    · rcases one with ⟨before, behind, rfl, noColonBefore, noColonBehind⟩
      rw [parsePlain_oneColon noColonBefore noColonBehind] at parsed
      rcases Except.map_eq_ok_iff.mp parsed with ⟨portRead, portParsed, same⟩
      cases same
      exact .hostAndPort (mt (head?_append_port _ _).mpr noBracket) noColonBefore noColonBehind
        portParsed
    · have notOne : ∀ before behind, authority = before ++ ascii ':' :: behind →
          ascii ':' ∈ before ∨ ascii ':' ∈ behind := by
        intro before behind split
        by_contra neither
        rw [not_or] at neither
        exact one ⟨before, behind, split, neither⟩
      rw [parsePlain_otherwise notOne] at parsed
      cases parsed
      exact .whole noBracket notOne

/-- With a bracket in front it is read in the last two. -/
theorem readsAuthority_iff_parseBracketed (bracket : authority.head? = some (ascii '[')) :
    ReadsAuthority defaultService defaultPort authority host service port ↔
      parseBracketed authority defaultService defaultPort = .ok (host, service, port) := by
  constructor
  · intro reads
    cases reads with
    | whole noBracket => exact absurd bracket noBracket
    | hostAndPort noBracket => exact absurd ((head?_append_port _ _).mp bracket) noBracket
    | bracketed noClose => rw [parseBracketed_closed noClose]
    | bracketedAndPort noClose parsed =>
        rw [parseBracketed_closed noClose]
        simp [parsed, Except.map]
  · intro parsed
    by_cases close : ascii ']' ∈ authority
    · rcases List.head?_eq_some_iff.mp bracket with ⟨inner, rfl⟩
      have closeInner : ascii ']' ∈ inner :=
        (List.mem_cons.mp close).resolve_left (by decide)
      rcases List.eq_append_cons_of_mem closeInner with ⟨inside, rest, rfl, noClose⟩
      rw [parseBracketed_closed noClose] at parsed
      rcases rest with _ | ⟨front, serviceRead⟩
      · cases parsed
        exact .bracketed noClose
      · simp only at parsed
        split_ifs at parsed with colon
        rw [ne_eq, not_not] at colon
        subst front
        rcases Except.map_eq_ok_iff.mp parsed with ⟨portRead, portParsed, same⟩
        cases same
        exact .bracketedAndPort noClose portParsed
    · rw [parseBracketed_unclosed close] at parsed
      cases parsed

/-- What `parse_host_endpoint` does with the three parts of an authority. -/
theorem checkedHost_eq_ok_iff {parts : Except Exception (Bytes × Bytes × UInt16)}
    {endpoint : HostEndpoint} :
    (do
        let (host, service, port) ← parts
        if host.isEmpty then .error (.runtimeError "Host is empty.")
        else return ({ authority, host, service, port } : HostEndpoint)) = .ok endpoint ↔
      endpoint.authority = authority ∧ endpoint.host ≠ [] ∧
        parts = .ok (endpoint.host, endpoint.service, endpoint.port) := by
  simp only [Except.bind_eq_ok_iff, List.isEmpty_iff]
  constructor
  · rintro ⟨⟨host, service, port⟩, read, built⟩
    split_ifs at built with empty
    cases built
    exact ⟨rfl, empty, read⟩
  · rintro ⟨authorityEq, nonempty, read⟩
    refine ⟨_, read, ?_⟩
    rw [if_neg nonempty, ← authorityEq]
    rfl

theorem parseHostEndpoint_eq_ok_iff {endpoint : HostEndpoint} :
    parseHostEndpoint authority defaultService defaultPort = .ok endpoint ↔
      endpoint.authority = authority ∧ endpoint.host ≠ [] ∧
        ReadsAuthority defaultService defaultPort authority endpoint.host endpoint.service
          endpoint.port := by
  rcases authority with _ | ⟨front, rest⟩
  · constructor
    · intro parsed
      cases parsed
    · rintro ⟨-, nonempty, reads⟩
      generalize noAuthority : ([] : Bytes) = authority at reads
      cases reads with
      | whole => exact absurd noAuthority.symm nonempty
      | hostAndPort => simp at noAuthority
      | bracketed => cases noAuthority
      | bracketedAndPort => cases noAuthority
  · by_cases bracket : front = ascii '['
    · have first : (front :: rest).head? = some (ascii '[') := by
        rw [List.head?_cons, bracket]
      rw [readsAuthority_iff_parseBracketed first, ← checkedHost_eq_ok_iff]
      simp only [parseHostEndpoint, if_pos bracket]
    · have first : (front :: rest).head? ≠ some (ascii '[') := by
        rw [List.head?_cons, ne_eq, Option.some.injEq]
        exact bracket
      rw [readsAuthority_iff_parsePlain first, ← checkedHost_eq_ok_iff]
      simp only [parseHostEndpoint, if_neg bracket]

end Reading

section Authorities

variable {authority host service defaultService : Bytes} {port defaultPort : UInt16}

/-- What stands outside the brackets, when an authority begins with them. -/
def outsideBrackets (authority : Bytes) : Bytes :=
  if authority.head? = some (ascii '[') ∧ ascii ']' ∈ authority then
    (authority.dropWhile (· != ascii ']')).drop 1
  else authority

theorem outsideBrackets_plain (noBracket : authority.head? ≠ some (ascii '[')) :
    outsideBrackets authority = authority :=
  if_neg fun bracketed => noBracket bracketed.1

theorem outsideBrackets_bracketed (noClose : ascii ']' ∉ host) (rest : Bytes) :
    outsideBrackets (ascii '[' :: (host ++ ascii ']' :: rest)) = rest := by
  have passes : ∀ byte ∈ ascii '[' :: host, (byte != ascii ']') = true := by
    intro byte byteMem
    rw [bne_iff_ne]
    rintro rfl
    rcases List.mem_cons.mp byteMem with same | hostMem
    · exact absurd same (by decide)
    · exact noClose hostMem
  have dropped := @Decoding.dropWhile_append _ _ _ (ascii ']' :: rest) passes
    (fun byte first => by cases first; decide)
  rw [outsideBrackets, if_pos ⟨rfl, by simp⟩, ← List.cons_append, dropped]
  rfl

/-- Where one colon stands outside the brackets, the text behind it is the port. -/
theorem ReadsAuthority.parses_suffix {before suffix : Bytes}
    (reads : ReadsAuthority defaultService defaultPort authority host service port)
    (outside : outsideBrackets authority = before ++ ascii ':' :: suffix)
    (noColonBefore : ascii ':' ∉ before) (noColonBehind : ascii ':' ∉ suffix) :
    parseTcpPort suffix = .ok port := by
  cases reads with
  | whole noBracket notOne =>
      rw [outsideBrackets_plain noBracket] at outside
      rcases notOne before suffix outside with colonMem | colonMem
      · exact absurd colonMem noColonBefore
      · exact absurd colonMem noColonBehind
  | hostAndPort noBracket noColonHost _ parsed =>
      rw [outsideBrackets_plain (mt (head?_append_port _ _).mp noBracket)] at outside
      rw [← (Search.split_unique noColonHost noColonBefore outside).2]
      exact parsed
  | bracketed noClose =>
      rw [outsideBrackets_bracketed noClose] at outside
      simp at outside
  | bracketedAndPort noClose parsed =>
      rw [outsideBrackets_bracketed noClose] at outside
      have same := Search.split_unique (List.not_mem_nil) noColonBefore outside
      rw [← same.2]
      exact parsed

theorem ReadsAuthority.denotesPort (defaults : DenotesPort defaultService defaultPort)
    (nonzero : defaultPort ≠ 0)
    (reads : ReadsAuthority defaultService defaultPort authority host service port) :
    DenotesPort service port ∧ port ≠ 0 := by
  cases reads with
  | whole => exact ⟨defaults, nonzero⟩
  | hostAndPort _ _ _ parsed => exact parseTcpPort_eq_ok_iff.mp parsed
  | bracketed => exact ⟨defaults, nonzero⟩
  | bracketedAndPort _ parsed => exact parseTcpPort_eq_ok_iff.mp parsed

theorem parseTcpPort_decimalText (nonzero : port ≠ 0) :
    parseTcpPort (decimalText port.toNat) = .ok port :=
  parseTcpPort_eq_ok_iff.mpr ⟨denotesPort_decimalText port, nonzero⟩

theorem noColon_of_isDigits (digits : IsDigits service) : ascii ':' ∉ service :=
  fun colonMem => absurd (digits.2 _ colonMem) (by decide)

/--
Formatted authorities are read back, with and without brackets; what is
accepted has a host, its own text as authority and a service that denotes the
port; a single colon outside the brackets asks for a port behind it.
-/
theorem parseHostEndpoint_inverts :
    (∀ host port defaultService defaultPort, host ≠ [] → ascii ':' ∉ host →
      host.head? ≠ some (ascii '[') → port ≠ 0 →
      parseHostEndpoint (host ++ ascii ':' :: decimalText port.toNat) defaultService defaultPort =
        .ok { authority := host ++ ascii ':' :: decimalText port.toNat, host
              service := decimalText port.toNat, port }) ∧
    (∀ host port defaultService defaultPort, host ≠ [] → ascii ']' ∉ host → port ≠ 0 →
      parseHostEndpoint (ascii '[' :: (host ++ ascii ']' :: ascii ':' :: decimalText port.toNat))
          defaultService defaultPort =
        .ok { authority := ascii '[' :: (host ++ ascii ']' :: ascii ':' :: decimalText port.toNat)
              host, service := decimalText port.toNat, port }) ∧
    (∀ host defaultService defaultPort, host ≠ [] → ascii ']' ∉ host →
      parseHostEndpoint (ascii '[' :: (host ++ [ascii ']'])) defaultService defaultPort =
        .ok { authority := ascii '[' :: (host ++ [ascii ']']), host
              service := defaultService, port := defaultPort }) ∧
    (∀ authority defaultService defaultPort endpoint, DenotesPort defaultService defaultPort →
      defaultPort ≠ 0 → parseHostEndpoint authority defaultService defaultPort = .ok endpoint →
      endpoint.host ≠ [] ∧ endpoint.authority = authority ∧ endpoint.port ≠ 0 ∧
        DenotesPort endpoint.service endpoint.port) ∧
    ∀ authority before suffix defaultService defaultPort,
      outsideBrackets authority = before ++ ascii ':' :: suffix →
      ascii ':' ∉ before → ascii ':' ∉ suffix → (∀ port, port ≠ 0 → ¬ DenotesPort suffix port) →
      ∃ failure, parseHostEndpoint authority defaultService defaultPort = .error failure := by
  refine ⟨?_, ?_, ?_, ?_, ?_⟩
  · intro host port defaultService defaultPort nonempty noColon noBracket nonzero
    have noColonBehind := noColon_of_isDigits (isDigits_decimalText port.toNat)
    exact parseHostEndpoint_eq_ok_iff.mpr ⟨rfl, nonempty,
      .hostAndPort noBracket noColon noColonBehind (parseTcpPort_decimalText nonzero)⟩
  · intro host port defaultService defaultPort nonempty noClose nonzero
    exact parseHostEndpoint_eq_ok_iff.mpr ⟨rfl, nonempty,
      .bracketedAndPort noClose (parseTcpPort_decimalText nonzero)⟩
  · intro host defaultService defaultPort nonempty noClose
    exact parseHostEndpoint_eq_ok_iff.mpr ⟨rfl, nonempty, .bracketed noClose⟩
  · intro authority defaultService defaultPort endpoint defaults nonzeroDefault parsed
    rcases parseHostEndpoint_eq_ok_iff.mp parsed with ⟨authorityEq, nonempty, reads⟩
    rcases reads.denotesPort defaults nonzeroDefault with ⟨denotes, nonzero⟩
    exact ⟨nonempty, authorityEq, nonzero, denotes⟩
  · intro authority before suffix defaultService defaultPort outside noColonBefore noColonBehind
      noPort
    apply Except.exists_error_of_forall_ne_ok
    intro endpoint parsed
    rcases parseHostEndpoint_eq_ok_iff.mp parsed with ⟨-, -, reads⟩
    have suffixParsed := reads.parses_suffix outside noColonBefore noColonBehind
    rcases parseTcpPort_eq_ok_iff.mp suffixParsed with ⟨denotes, nonzero⟩
    exact noPort endpoint.port nonzero denotes

/-- A host with a port, the address `::1` in brackets, and a port that is one too large. -/
theorem parseHostEndpoint_inverts_examples :
    parseHostEndpoint (ascii 'h' :: ascii ':' :: decimalText 80) (decimalText 443) 443 =
        .ok { authority := ascii 'h' :: ascii ':' :: decimalText 80, host := [ascii 'h']
              service := decimalText 80, port := 80 } ∧
      parseHostEndpoint (ascii '[' :: ("::1".toList.map ascii ++
          ascii ']' :: ascii ':' :: decimalText 8443)) (decimalText 443) 443 =
        .ok { authority := ascii '[' :: ("::1".toList.map ascii ++
                ascii ']' :: ascii ':' :: decimalText 8443)
              host := "::1".toList.map ascii, service := decimalText 8443, port := 8443 } ∧
      parseHostEndpoint (ascii '[' :: ("::1".toList.map ascii ++ [ascii ']']))
          (decimalText 443) 443 =
        .ok { authority := ascii '[' :: ("::1".toList.map ascii ++ [ascii ']'])
              host := "::1".toList.map ascii, service := decimalText 443, port := 443 } ∧
      DenotesPort (decimalText 80) 80 ∧
      ∃ failure, parseHostEndpoint ("h:65536".toList.map ascii) (decimalText 443) 443 =
        .error failure := by
  rcases parseHostEndpoint_inverts with ⟨plain, bracketed, withoutPort, fields, rejects⟩
  refine ⟨?_, ?_, ?_, ?_, ?_⟩
  · exact plain [ascii 'h'] 80 (decimalText 443) 443 (by decide) (by decide) (by decide) (by decide)
  · exact bracketed ("::1".toList.map ascii) 8443 (decimalText 443) 443 (by decide) (by decide)
      (by decide)
  · exact withoutPort ("::1".toList.map ascii) (decimalText 443) 443 (by decide) (by decide)
  · have parsed := plain [ascii 'h'] 80 (decimalText 443) 443 (by decide) (by decide) (by decide)
      (by decide)
    exact (fields _ _ _ _ (denotesPort_decimalText 443) (by decide) parsed).2.2.2
  · refine rejects ("h:65536".toList.map ascii) [ascii 'h'] ("65536".toList.map ascii)
      (decimalText 443) 443 (by decide) (by decide) (by decide) ?_
    rintro port - ⟨-, value⟩
    have tooLarge : digitsValue ("65536".toList.map ascii) = 65536 := by decide
    have bound := port.toNat_lt
    omega

end Authorities

end Abrade
