import Abrade.Library.Fallible
import Abrade.Network.Socks
import Abrade.Network.Teardown

/-!
# The negotiation with a proxy

What the two proxied policies read and write between the connection to the
proxy and the first byte of the target.  A read asks for a fixed number of
bytes; a stream that ends before them fails with `eof`.
-/

namespace Abrade

/-- A connected socket: what the other side sends, and what was sent to it. -/
structure Channel where
  received : Bytes
  sent : Bytes
  deriving DecidableEq

namespace Channel

/-- `boost::asio::async_write`. -/
def write (channel : Channel) (bytes : Bytes) : Channel :=
  { channel with sent := channel.sent ++ bytes }

/-- `boost::asio::async_read` into a buffer of `count` bytes. -/
def read (channel : Channel) (action : String) (count : ℕ) :
    Except Exception (Bytes × Channel) :=
  if channel.received.length < count then .error (abradeException action .endOfFile)
  else
    .ok (channel.received.take count, { channel with received := channel.received.drop count })

end Channel

/-- `if (condition) throw failure`. -/
def throwIf (condition : Bool) (failure : Exception) : Except Exception Unit :=
  if condition then .error failure else .ok ()

/-- From `auth_request` to the check of `connect_response`. -/
def negotiate (endpoint : HostEndpoint) (channel : Channel) : Except Exception Channel := do
  let channel := channel.write [5, 1, 0]
  let (authResponse, channel) ← channel.read "proxy read auth" 2
  let version ← checkedAt authResponse 0
  throwIf (version != 5)
    (.runtimeError ("SOCKS version " ++ toString version.toNat ++ " not supported."))
  let method ← checkedAt authResponse 1
  throwIf (method != 0)
    (.runtimeError ("SOCKS authentication " ++ toString method.toNat ++ " not supported."))
  let channel := channel.write (connectRequest endpoint)
  let (connectResponse, channel) ← channel.read "proxy read" 10
  let reply ← checkedAt connectResponse 1
  throwIf (reply != 0) (.runtimeError ("SOCKS connection failed:" ++ toString reply.toNat))
  return channel

def ProxiedConnection.negotiate (endpoint : HostEndpoint) (channel : Channel) :
    Except Exception Channel :=
  Abrade.negotiate endpoint channel

def ProxiedTlsConnection.negotiate (endpoint : HostEndpoint) (channel : Channel) :
    Except Exception Channel :=
  Abrade.negotiate endpoint channel

/--
A method selection and a success reply are consumed and nothing behind them; a
stream that does not begin with both fails.
-/
def NegotiatesReplies (negotiate : Channel → Except Exception Channel) (stream : Bytes) : Prop :=
  (∀ reply rest, stream = 5 :: 0 :: (reply ++ rest) → Socks5.IsSuccessReply reply →
      ∀ sent, ∃ channel, negotiate { received := stream, sent } = .ok channel ∧
        channel.received = rest) ∧
    (stream.take 4 ≠ [5, 0, 5, 0] →
      ∀ sent, ∃ failure, negotiate { received := stream, sent } = .error failure)

/-- A success reply that does not fill the buffer of ten bytes exactly. -/
def RepliesOtherLength (stream : Bytes) : Prop :=
  ∃ reply rest, stream = 5 :: 0 :: (reply ++ rest) ∧ Socks5.IsSuccessReply reply ∧
    reply.length ≠ 10

/-- A reply of another version that fills the buffer and has a zero where success is reported. -/
def RepliesOtherVersion (stream : Bytes) : Prop :=
  ∃ version more, stream = 5 :: 0 :: version :: 0 :: more ∧ version ≠ 5 ∧ 8 ≤ more.length

section Negotiation

variable {endpoint : HostEndpoint} {stream rest sent : Bytes} {channel : Channel}

theorem Channel.read_eq_ok_iff {action : String} {count : ℕ} {bytes : Bytes}
    {next : Channel} :
    channel.read action count = .ok (bytes, next) ↔
      bytes.length = count ∧ channel.received = bytes ++ next.received ∧
        next.sent = channel.sent := by
  unfold read
  constructor
  · intro reads
    split_ifs at reads with short
    cases reads
    refine ⟨?_, (List.take_append_drop _ _).symm, rfl⟩
    rw [List.length_take]
    omega
  · rintro ⟨rfl, received, sent⟩
    rw [received, if_neg (by simp)]
    simp [← sent]

theorem throwIf_eq_ok_iff {condition : Bool} {failure : Exception} {done : Unit} :
    throwIf condition failure = .ok done ↔ condition = false := by
  cases condition <;> simp [throwIf]

/-- Behind the method selection ten bytes are consumed, and only the second is looked at. -/
theorem negotiate_eq_ok_iff :
    negotiate endpoint { received := stream, sent } = .ok channel ↔
      ∃ version more, stream = 5 :: 0 :: version :: 0 :: (more ++ channel.received) ∧
        more.length = 8 ∧ channel.sent = sent ++ [5, 1, 0] ++ connectRequest endpoint := by
  simp only [negotiate, Except.bind_eq_ok_iff, Prod.exists, Channel.read_eq_ok_iff,
    checkedAt_eq_ok_iff, throwIf_eq_ok_iff, Channel.write, bne_eq_false_iff_eq, pure, Except.pure,
    Except.ok.injEq]
  constructor
  · rintro ⟨authResponse, behind, ⟨two, rfl, sentAuth⟩, _, versionAt, -, rfl, _, methodAt, -, rfl,
      connectResponse, channel, ⟨ten, received, sentAll⟩, _, replyAt, -, rfl, rfl⟩
    rcases List.length_eq_two.mp two with ⟨version, method, rfl⟩
    cases versionAt
    cases methodAt
    rcases connectResponse with _ | ⟨version, _ | ⟨reply, more⟩⟩
    · cases ten
    · cases ten
    · cases replyAt
      exact ⟨version, more, by rw [received]; rfl, by simpa using ten, by rw [sentAll, sentAuth]⟩
  · rintro ⟨version, more, rfl, eight, sentAll⟩
    exact ⟨[5, 0], { received := version :: 0 :: (more ++ channel.received), sent := _ },
      ⟨rfl, rfl, rfl⟩, 5, rfl, (), rfl, 0, rfl, (), rfl, version :: 0 :: more, channel,
      ⟨by simp [eight], rfl, sentAll⟩, 0, rfl, (), rfl, rfl⟩

theorem exists_negotiated (version : UInt8) {more : Bytes} (eight : more.length = 8)
    (endpoint : HostEndpoint) (rest sent : Bytes) :
    ∃ channel, negotiate endpoint
        { received := 5 :: 0 :: version :: 0 :: (more ++ rest), sent } = .ok channel ∧
      channel.received = rest := by
  refine ⟨{ received := rest, sent := sent ++ [5, 1, 0] ++ connectRequest endpoint }, ?_, rfl⟩
  exact negotiate_eq_ok_iff.mpr ⟨version, more, rfl, eight, rfl⟩

theorem not_negotiates_of_otherLength (other : RepliesOtherLength stream) :
    ¬ NegotiatesReplies (negotiate endpoint) stream := by
  rintro ⟨consumes, -⟩
  rcases other with ⟨reply, rest, streamEq, success, notTen⟩
  rcases consumes reply rest streamEq success [] with ⟨channel, negotiated, rfl⟩
  rcases negotiate_eq_ok_iff.mp negotiated with ⟨version, more, consumed, eight, -⟩
  have lengths := congrArg List.length (streamEq.symm.trans consumed)
  simp only [List.length_cons, List.length_append] at lengths
  omega

theorem not_negotiates_of_otherVersion (other : RepliesOtherVersion stream) :
    ¬ NegotiatesReplies (negotiate endpoint) stream := by
  rintro ⟨-, fails⟩
  rcases other with ⟨version, more, rfl, notFive, filled⟩
  have differs : (5 :: 0 :: version :: 0 :: more).take 4 ≠ [5, 0, 5, 0] := by
    simpa using notFive
  have eight : (more.take 8).length = 8 := by
    rw [List.length_take]
    omega
  rcases fails differs [] with ⟨failure, failed⟩
  rcases exists_negotiated version eight endpoint (more.drop 8) [] with ⟨channel, negotiated, -⟩
  rw [List.take_append_drop, failed] at negotiated
  cases negotiated

theorem negotiates_of_regular (noLength : ¬ RepliesOtherLength stream)
    (noVersion : ¬ RepliesOtherVersion stream) :
    NegotiatesReplies (negotiate endpoint) stream := by
  constructor
  · intro reply rest streamEq success sent
    have ten : reply.length = 10 := by
      by_contra notTen
      exact noLength ⟨reply, rest, streamEq, success, notTen⟩
    rcases success.exists_tail with ⟨addressType, tail, rfl⟩
    have eight : (0 :: addressType :: tail).length = 8 := by
      simp only [List.length_cons] at ten ⊢
      omega
    rw [streamEq]
    exact exists_negotiated 5 eight endpoint rest sent
  · intro differs sent
    apply Except.exists_error_of_forall_ne_ok
    intro channel negotiated
    rcases negotiate_eq_ok_iff.mp negotiated with ⟨version, more, streamEq, eight, -⟩
    apply noVersion
    refine ⟨version, more ++ channel.received, streamEq, ?_, ?_⟩
    · rintro rfl
      rw [streamEq] at differs
      exact differs rfl
    · rw [List.length_append]
      omega

/--
Both policies consume the replies of a proxy as specified exactly when a
success reply has ten bytes and no reply of another version is taken for one.
-/
theorem negotiates_iff (endpoint : HostEndpoint) (stream : Bytes) :
    NegotiatesReplies (ProxiedConnection.negotiate endpoint) stream ∧
        NegotiatesReplies (ProxiedTlsConnection.negotiate endpoint) stream ↔
      ¬ RepliesOtherLength stream ∧ ¬ RepliesOtherVersion stream := by
  change NegotiatesReplies (negotiate endpoint) stream ∧
    NegotiatesReplies (negotiate endpoint) stream ↔ _
  rw [and_self]
  constructor
  · intro negotiates
    exact ⟨fun other => not_negotiates_of_otherLength other negotiates,
      fun other => not_negotiates_of_otherVersion other negotiates⟩
  · rintro ⟨noLength, noVersion⟩
    exact negotiates_of_regular noLength noVersion

/-- Twelve bytes of a reply with an address of sixteen are left in the tunnel. -/
theorem ipv6_reply_misread :
    ¬ ∀ endpoint stream, NegotiatesReplies (ProxiedConnection.negotiate endpoint) stream ∧
      NegotiatesReplies (ProxiedTlsConnection.negotiate endpoint) stream := by
  intro claimed
  let endpoint : HostEndpoint :=
    { authority := [ascii 'h'], host := [ascii 'h'], service := [ascii '8', ascii '0'], port := 80 }
  let reply : Bytes := 5 :: 0 :: 0 :: 4 :: (List.replicate 16 0 ++ [0, 80])
  have success : Socks5.IsSuccessReply reply := .ipv6 rfl rfl
  have other : RepliesOtherLength (5 :: 0 :: (reply ++ [])) :=
    ⟨reply, [], rfl, success, by decide⟩
  exact not_negotiates_of_otherLength other (claimed endpoint _).1

end Negotiation

end Abrade
