import Abrade.Generator.Logarithm
import Abrade.Scraper.ErrorLog

/-!
# One invocation

`main` from the parsed command line to its exit status: the derived options, the
announcement, the generator, and the connection, query and controller that the
scraper runs with.  The start-up and summary texts are left out.
-/

namespace Abrade

open Awaiting.Program (Reaches)
open Pool (total)

/-- The parsed command line, with the fields that only `main` reads. -/
structure CommandLine extends Options where
  help : Bool := false
  verbose : Bool := false
  tor : Bool := false
  sensitiveTeardown : Bool := false
  test : Bool := false
  errorPath : Text := []
  proxy : Text := []
  userAgent : Text :=
    "Mozilla/5.0 (Windows NT 6.1; Win64; x64; rv:47.0) Gecko/20100101 Firefox/47.0".toList
  /-- `vm.contains("max-redirects")`. -/
  maxRedirectsProvided : Bool := false
  deriving DecidableEq

/-- What an invocation finds: the libraries, standard input, the files and the clock. -/
structure Surroundings where
  compileRegex : Options.CompileRegex
  lexicalCast : Text → Option SizeT
  library : TlsLibrary
  stdin : Text
  /-- Opening the output file, or creating the output directory. -/
  openOutput : Except Exception Unit
  start : ℤ

/-- The generator behind the reference `make_generator` returns. -/
inductive MainGenerator where
  | stdin (generator : StdinGenerator)
  | uri (generator : UriGenerator)

instance : Generator MainGenerator where
  next
    | .stdin generator => do
        let (result, generator) ← Generator.next generator
        return (result, .stdin generator)
    | .uri generator => do
        let (result, generator) ← Generator.next generator
        return (result, .uri generator)

/-- The bytes of a string of characters. -/
def bytes (text : Text) : Bytes :=
  text.map ascii

/-- The proxy that `--tor` stands for. -/
def torProxy : Text :=
  "127.0.0.1:9050".toList

namespace CommandLine

def isProxy (options : CommandLine) : Bool :=
  !options.proxy.isEmpty

/-- What the constructor of `Options` derives behind the validation. -/
def derive (options : CommandLine) : CommandLine :=
  { options with
    toOptions := options.toOptions.derive
    errorPath :=
      if options.errorPath.isEmpty then options.host ++ "-err.log".toList else options.errorPath
    proxy :=
      if !options.isProxy && options.tor then torProxy else options.proxy }

/-- The constructor of `Options`, behind the parser. -/
def new (compileRegex : Options.CompileRegex) (parsed : CommandLine) :
    Except Exception CommandLine :=
  if parsed.help then .ok parsed
  else do
    let accepted ← parsed.toOptions.validateParsedOptions compileRegex parsed.maxRedirectsProvided
    return { parsed with toOptions := accepted }.derive

def makeUriGenerator (surroundings : Surroundings) (options : CommandLine) :
    Except Exception UriGenerator :=
  UriGenerator.new surroundings.lexicalCast options.leadingZeros options.telescoping options.pattern

def makeGenerator (surroundings : Surroundings) (options : CommandLine) :
    Except Exception MainGenerator :=
  if options.fromStdin then .ok (.stdin { stdin := surroundings.stdin })
  else .uri <$> options.makeUriGenerator surroundings

/-- What is printed about the pattern; nothing is when standard input is read. -/
def announce {F : Type} [Logarithmic F] (surroundings : Surroundings) (options : CommandLine) :
    Except Exception (Option (UriGenerator.Announcement F)) :=
  if options.fromStdin then .ok none
  else do
    let generator ← options.makeUriGenerator surroundings
    some <$> generator.announcement

/-- The connection of the branch that `is_tls` and `is_proxy` select. -/
def makeConnection (library : TlsLibrary) (options : CommandLine) : Except Exception Connector :=
  if options.tls then
    if options.isProxy then
      .proxiedTls <$> ProxiedTlsConnection.new library (bytes options.proxy) (bytes options.host)
        options.verify options.sensitiveTeardown
    else
      .tls <$> TlsConnection.new library (bytes options.host) options.verify
        options.sensitiveTeardown
  else
    if options.isProxy then
      .proxied <$> ProxiedConnection.new (bytes options.proxy) (bytes options.host)
        options.sensitiveTeardown
    else .plaintext <$> PlaintextConnection.new (bytes options.host) options.sensitiveTeardown

/-- The scheme in front of the URIs that `--test` prints. -/
def testPrefix (options : CommandLine) : Text :=
  if options.tls then "https://".toList else "http://".toList

end CommandLine

/-- What `main` has built when it starts to call `next`. -/
inductive Prepared (F L : Type) where
  | help
  | test (announced : Option (UriGenerator.Announcement L)) (generator : MainGenerator)
  | scraper (announced : Option (UriGenerator.Announcement L)) (generator : MainGenerator)
      (controller : MainController F) (equipment : Equipment)

section Main

variable {F L : Type} [Logarithmic L]

/-- `main` from accepted options to the first call of `next`. -/
def CommandLine.prepare (surroundings : Surroundings) (options : CommandLine) :
    Except Exception (Prepared F L) :=
  if options.help then .ok .help
  else do
    let announced ← options.announce surroundings
    let generator ← options.makeGenerator surroundings
    if options.test then return .test announced generator
    let connection ← options.makeConnection surroundings.library
    let query ← options.makeQuery surroundings.compileRegex
    surroundings.openOutput
    return .scraper announced generator (options.controller surroundings.start)
      { library := surroundings.library, connection
        writer := .new options.host options.userAgent, query, verbose := options.verbose }

def RunStats.hasErrors (stats : RunStats) : Bool :=
  stats.errorCount != 0

/--
The exit status behind `run_scraper`.  An exception that left a coroutine is
taken to leave `run` too: an over-approximation, since `spawn` with `detached`
drops it.  In no run does it make a difference (`exitStatus_eq`).
-/
def exitStatus {G K : Type} (finish : Detailed.State G K) : ℕ :=
  if finish.world.shared.escaped || finish.world.shared.outputs.stats.hasErrors then 1 else 0

end Main

namespace CommandLine

variable {compileRegex : Options.CompileRegex} {surroundings : Surroundings}
  {parsed options : CommandLine}

/-- What accepted options have kept of the parsed ones, and what has been derived. -/
structure Derives (parsed options : CommandLine) : Prop where
  tls : options.tls = (parsed.tls || parsed.verify)
  verify : options.verify = parsed.verify
  host : options.host = parsed.host
  userAgent : options.userAgent = parsed.userAgent
  contents : options.contents = parsed.contents
  proxy : options.proxy =
    if !parsed.isProxy && parsed.tor then torProxy else parsed.proxy

theorem of_new (accepted : new compileRegex parsed = .ok options) (starts : options.help = false) :
    options.toOptions.Valid compileRegex ∧ Derives parsed options := by
  unfold new at accepted
  split at accepted
  · next helps =>
      cases accepted
      rw [starts] at helps
      cases helps
  · rcases Except.bind_eq_ok_iff.mp accepted with ⟨checked, validated, returned⟩
    rcases Options.valid_of_validateParsedOptions validated with ⟨valid, rejectedLiterals, rfl⟩
    cases returned
    exact ⟨⟨valid.host, valid.pattern, valid.initial, valid.minimum, valid.maximum,
      valid.sampleSize, valid.sampleInterval, valid.maxRedirects, valid.requiredRegexes,
      valid.rejectedRegexes⟩, ⟨rfl, rfl, rfl, rfl, rfl, rfl⟩⟩

/-- With a proxy or `--tor`, and only then, the options name a proxy. -/
theorem Derives.isProxy_eq (derives : Derives parsed options) :
    options.isProxy = (parsed.isProxy || parsed.tor) := by
  have named := derives.proxy
  rcases isProxy : parsed.isProxy with _ | _ <;> rcases tor : parsed.tor with _ | _ <;>
    rw [isProxy, tor] at named
  · rwa [CommandLine.isProxy, named]
  · rw [CommandLine.isProxy, named]
    rfl
  · rwa [CommandLine.isProxy, named]
  · rwa [CommandLine.isProxy, named]

theorem Derives.proxy_eq (derives : Derives parsed options)
    (asked : (parsed.isProxy || parsed.tor) = true) :
    options.proxy = if parsed.proxy = [] then torProxy else parsed.proxy := by
  have named := derives.proxy
  by_cases without : parsed.proxy = []
  · have nameless : parsed.isProxy = false := by simp [isProxy, without]
    rw [nameless, Bool.false_or] at asked
    rw [named, nameless, asked, if_pos without]
    rfl
  · have isProxy : parsed.isProxy = true := by simp [isProxy, without]
    rw [named, isProxy, if_neg without]
    rfl

/-- The policy that `is_tls` and `is_proxy` select. -/
def policyOf (isTls isProxy : Bool) : ConnectionPolicy :=
  match isTls, isProxy with
  | true, true => .proxiedTlsConnection
  | true, false => .tlsConnection
  | false, true => .proxiedConnection
  | false, false => .plaintextConnection

theorem method_of_makeQuery {query : Query} (made : options.makeQuery compileRegex = .ok query)
    (request : HttpRequest) :
    (query.setMethod request).method = if options.contents then .get else .head := by
  unfold Options.makeQuery at made
  split at made
  · next contents =>
      rcases Except.bind_eq_ok_iff.mp made with ⟨filters, -, returned⟩
      cases returned
      simp [Query.setMethod, contents]
  · next contents =>
      cases made
      simp [Query.setMethod, contents]

theorem of_makeConnection {library : TlsLibrary} {connection : Connector}
    (made : options.makeConnection library = .ok connection) :
    connection.policy = policyOf options.tls options.isProxy ∧
      connection.sensitiveTeardown = options.sensitiveTeardown ∧
      (options.tls = true → options.verify = true →
        Detailed.VerifiesPeer library (bytes options.host) connection) ∧
      (options.tls = true → parseHostEndpoint (bytes options.host) ("443".toList.map ascii) 443 =
        .ok connection.endpoint) ∧
      (options.isProxy = true → parseHostEndpoint (bytes options.proxy) ("1080".toList.map ascii)
        1080 = .ok connection.firstHop) := by
  unfold makeConnection at made
  split_ifs at made with tls proxy proxy
  · rcases Except.map_eq_ok_iff.mp made with ⟨built, new, rfl⟩
    have whole := new
    simp only [ProxiedTlsConnection.new, Except.bind_eq_ok_iff] at new
    rcases new with ⟨endpoint, parsed, proxyEndpoint, parsedProxy, context, -, same⟩
    cases same
    refine ⟨by simp [policyOf, tls, proxy, Connector.policy], rfl, fun _ verify => ?_,
      fun _ => parsed, fun _ => parsedProxy⟩
    rw [verify] at whole ⊢
    exact ⟨_, _, whole⟩
  · rcases Except.map_eq_ok_iff.mp made with ⟨built, new, rfl⟩
    have whole := new
    simp only [TlsConnection.new, Except.bind_eq_ok_iff] at new
    rcases new with ⟨endpoint, parsed, context, -, same⟩
    cases same
    refine ⟨by simp [policyOf, tls, proxy, Connector.policy], rfl, fun _ verify => ?_,
      fun _ => parsed, fun isProxy => absurd isProxy proxy⟩
    rw [verify] at whole ⊢
    exact ⟨_, whole⟩
  · rcases Except.map_eq_ok_iff.mp made with ⟨built, new, rfl⟩
    simp only [ProxiedConnection.new, Except.bind_eq_ok_iff] at new
    rcases new with ⟨endpoint, -, proxyEndpoint, parsedProxy, same⟩
    cases same
    exact ⟨by simp [policyOf, tls, proxy, Connector.policy], rfl, fun isTls => absurd isTls tls,
      fun isTls => absurd isTls tls, fun _ => parsedProxy⟩
  · rcases Except.map_eq_ok_iff.mp made with ⟨built, new, rfl⟩
    simp only [PlaintextConnection.new, Except.bind_eq_ok_iff] at new
    rcases new with ⟨endpoint, -, same⟩
    cases same
    exact ⟨by simp [policyOf, tls, proxy, Connector.policy], rfl, fun isTls => absurd isTls tls,
      fun isTls => absurd isTls tls, fun isProxy => absurd isProxy proxy⟩

theorem exists_emits {generator : MainGenerator}
    (made : options.makeGenerator surroundings = .ok generator) :
    ∃ uris, Generator.Emits generator uris := by
  unfold makeGenerator at made
  split at made
  · cases made
    rcases StdinGenerator.exists_emits { stdin := surroundings.stdin } with ⟨uris, emits⟩
    exact ⟨uris, emits.wrap fun _ => rfl⟩
  · rcases Except.map_eq_ok_iff.mp made with ⟨generator, new, rfl⟩
    rcases UriGenerator.exists_forms_of_new new with ⟨_, _, _, -, -, -, -, emits⟩
    exact ⟨_, emits.wrap fun _ => rfl⟩

end CommandLine

section Invocations

variable {F L : Type} [Logarithmic L] {surroundings : Surroundings}
  {parsed options : CommandLine} {announced : Option (UriGenerator.Announcement L)}
  {generator : MainGenerator} {controller : MainController F} {equipment : Equipment}

/-- What the parts of the scraper have been built from. -/
structure Assembles (surroundings : Surroundings) (options : CommandLine)
    (generator : MainGenerator) (controller : MainController F) (equipment : Equipment) : Prop where
  starts : options.help = false
  generator : options.makeGenerator surroundings = .ok generator
  controller : controller = options.controller surroundings.start
  library : equipment.library = surroundings.library
  connection : options.makeConnection surroundings.library = .ok equipment.connection
  writer : equipment.writer = .new options.host options.userAgent
  query : options.makeQuery surroundings.compileRegex = .ok equipment.query

theorem assembles_of_prepare (prepared : options.prepare surroundings =
    .ok (.scraper announced generator controller equipment)) :
    Assembles surroundings options generator controller equipment := by
  unfold CommandLine.prepare at prepared
  split at prepared
  · cases prepared
  · next starts =>
      rcases Except.bind_eq_ok_iff.mp prepared with ⟨_, -, prepared⟩
      rcases Except.bind_eq_ok_iff.mp prepared with ⟨generator, made, prepared⟩
      split at prepared
      · cases prepared
      · rcases Except.bind_eq_ok_iff.mp prepared with ⟨connection, connects, prepared⟩
        rcases Except.bind_eq_ok_iff.mp prepared with ⟨query, queries, prepared⟩
        rcases Except.bind_eq_ok_iff.mp prepared with ⟨_, -, prepared⟩
        cases prepared
        exact ⟨Bool.eq_false_iff.mpr starts, made, rfl, rfl, connects, rfl, queries⟩

theorem of_prepare_test (prepared : options.prepare surroundings =
      .ok (.test announced generator : Prepared F L)) :
    options.announce surroundings = .ok announced ∧
      options.makeGenerator surroundings = .ok generator := by
  unfold CommandLine.prepare at prepared
  split at prepared
  · cases prepared
  · rcases Except.bind_eq_ok_iff.mp prepared with ⟨announced, announces, prepared⟩
    rcases Except.bind_eq_ok_iff.mp prepared with ⟨generator, made, prepared⟩
    split at prepared
    · cases prepared
      exact ⟨announces, made⟩
    · rcases Except.bind_eq_ok_iff.mp prepared with ⟨_, -, prepared⟩
      rcases Except.bind_eq_ok_iff.mp prepared with ⟨_, -, prepared⟩
      rcases Except.bind_eq_ok_iff.mp prepared with ⟨_, -, prepared⟩
      cases prepared

/-- The `--test` loop prints a line for every candidate. -/
theorem exists_test_lines {uris : List Text} (emits : Generator.Emits generator uris)
    (scheme host : Text) :
    ∃ lines, lines.length = uris.length ∧
      (∀ fuel, lines.length < fuel → testLoop scheme host fuel generator = .ok lines) ∧
      ∀ line ∈ lines, scheme ++ host <+: line := by
  refine ⟨uris.map fun uri => scheme ++ host ++ uri, List.length_map _, ?_, ?_⟩
  · intro fuel enough
    rw [List.length_map] at enough
    exact testLoop_eq emits scheme host enough
  · intro line lineMem
    rcases List.mem_map.mp lineMem with ⟨uri, -, rfl⟩
    exact List.prefix_append _ _

/--
The number that `--test` announces for a pattern is the number of lines it
prints, and otherwise it announces the logarithm of that number.
-/
theorem test_prints_announced {announced : Option (UriGenerator.Announcement ℝ)}
    (prepared : options.prepare surroundings =
      .ok (.test announced generator : Prepared F ℝ)) :
    ∃ lines, (∀ fuel, lines.length < fuel →
        testLoop options.testPrefix options.host fuel generator = .ok lines) ∧
      (∀ line ∈ lines, options.testPrefix ++ options.host <+: line) ∧
      announced = if options.fromStdin then none
        else some (if lines.length < 2 ^ 64 then .cardinality (.ofNat lines.length)
          else .logCardinality (Real.log lines.length)) := by
  rcases of_prepare_test prepared with ⟨announces, made⟩
  unfold CommandLine.makeGenerator at made
  unfold CommandLine.announce at announces
  split_ifs at made announces with fromStdin
  · cases made
    cases announces
    rcases StdinGenerator.exists_emits { stdin := surroundings.stdin } with ⟨uris, emits⟩
    have emitsMain : Generator.Emits (MainGenerator.stdin { stdin := surroundings.stdin }) uris :=
      emits.wrap fun _ => rfl
    rcases exists_test_lines emitsMain options.testPrefix options.host with
      ⟨lines, -, printed, prefixed⟩
    exact ⟨lines, printed, prefixed, by rw [if_pos fromStdin]⟩
  · rcases Except.map_eq_ok_iff.mp made with ⟨generator, new, rfl⟩
    rcases Except.bind_eq_ok_iff.mp announces with ⟨same, renewed, announces⟩
    rw [new] at renewed
    cases renewed
    rcases UriGenerator.exists_forms_of_new new with ⟨pieces, tail, forms, -, read, -, rfl, emits⟩
    rw [UriGenerator.announcement_ranges read] at announces
    cases announces
    have emitsMain := @Generator.Emits.wrap _ _ _ _ MainGenerator.uri (fun _ => rfl) _ _ emits
    rcases exists_test_lines emitsMain options.testPrefix options.host with
      ⟨lines, counted, printed, prefixed⟩
    rw [← counted]
    exact ⟨lines, printed, prefixed, by rw [if_neg fromStdin]⟩

/-- Everything works, and standard input holds one candidate. -/
def exampleSurroundings : Surroundings where
  compileRegex _ := .ok fun _ => .ok true
  lexicalCast := lexicalCastSize
  library := workingLibrary
  stdin := "/a\n".toList
  openOutput := .ok ()
  start := 0

/-- `--test a.io /{d}`. -/
def testOptions : CommandLine where
  host := "a.io".toList
  pattern := "/\x7bd\x7d".toList
  test := true

/-- The generator of ten URIs. -/
def digitGenerator : UriGenerator where
  literalTokens := ["/".toList, []]
  ranges := [.implicit { domains := ["0123456789".toList], digits := [0], leadingZeros := false }]
  isComplete := false

theorem test_prints_announced_of_example :
    ∃ lines, (∀ fuel, lines.length < fuel →
        testLoop "http://".toList "a.io".toList fuel (MainGenerator.uri digitGenerator) =
          .ok lines) ∧
      (if lines.length < 2 ^ 64 then .cardinality (.ofNat lines.length)
        else .logCardinality (Real.log lines.length) : UriGenerator.Announcement ℝ) =
          .cardinality 10 := by
  have prepared : (testOptions.prepare exampleSurroundings :
      Except Exception (Prepared Float ℝ)) =
        .ok (.test (some (.cardinality 10)) (.uri digitGenerator)) := rfl
  rcases test_prints_announced prepared with ⟨lines, printed, -, announced⟩
  exact ⟨lines, printed, (Option.some.inj announced).symm⟩

variable [Floating F] {errorLog : Text} {trace : List Detailed.Event}
  {finish : Detailed.State MainGenerator (MainController F)} {uri : Text} {fetch : Fetch}
  {action : String}

/--
With `--verify` and a host that passes for a DNS name, whatever else is asked
for, no run writes a request before a handshake in which the peer has shown a
trusted certificate for that name.
-/
theorem verify_authenticates (accepted : CommandLine.new surroundings.compileRegex parsed =
      .ok options)
    (prepared : options.prepare surroundings =
      .ok (.scraper announced generator controller equipment))
    (verifies : parsed.verify = true) {endpoint : HostEndpoint}
    (parses : parseHostEndpoint (bytes parsed.host) ("443".toList.map ascii) 443 = .ok endpoint)
    (isName : isDnsName endpoint.host = true)
    (run : Detailed.Run equipment (Detailed.initial generator controller errorLog) trace finish)
    {request : HttpRequest} {resume : Unit → Awaited Response}
    (writes : .working uri fetch (.await action (.writeRequest request) resume) ∈
      finish.processes) :
    ∃ performed stream certificate,
      Reaches Operation.Allows (equipment.attempt fetch.current) performed
        (.await action (.writeRequest request) resume) ∧
      ⟨.handshake stream, some certificate⟩ ∈ performed ∧
      certificate.chainsToTrustedRoot = true ∧ certificate.validFor endpoint.host = true := by
  have assembles := assembles_of_prepare prepared
  have derives := (CommandLine.of_new accepted assembles.starts).2
  rcases CommandLine.of_makeConnection assembles.connection with ⟨-, -, verified, parsedHost, -⟩
  have tls : options.tls = true := by
    rw [derives.tls, verifies, Bool.or_true]
  have peer := verified tls (derives.verify.trans verifies)
  have same : equipment.connection.endpoint = endpoint := by
    have twice := parsedHost tls
    rw [derives.host] at twice
    exact Except.ok.inj (twice.symm.trans parses)
  rw [← assembles.library] at peer
  rw [← same] at isName ⊢
  rcases Detailed.established_of_run run writes with ⟨performed, reaches, established, -⟩
  rcases Detailed.authenticated_of_established peer isName established with
    ⟨stream, certificate, handshakeMem, chains, valid⟩
  exact ⟨performed, stream, certificate, reaches, handshakeMem, chains, valid⟩

/-- `--stdin --verify --init 1 --agent abrade a.io`. -/
def verifyLine : CommandLine where
  host := "a.io".toList
  fromStdin := true
  verify := true
  initialCoroutines := 1
  userAgent := "abrade".toList

def verifyOptions : CommandLine :=
  { verifyLine with
    tls := true, outputPath := "a.io".toList, errorPath := "a.io-err.log".toList }

theorem verifyLine_accepted :
    CommandLine.new exampleSurroundings.compileRegex verifyLine = .ok verifyOptions := by
  decide

theorem verifyOptions_prepared :
    (verifyOptions.prepare exampleSurroundings : Except Exception (Prepared Float ℝ)) =
      .ok (.scraper none (.stdin { stdin := "/a\n".toList })
        (.fixed (FixedController.new 1 1000 0)) Detailed.directEquipment) :=
  rfl

/-- Before any move, with the candidate `/a`, one coroutine and an empty error log. -/
abbrev exampleStart : Detailed.State MainGenerator (MainController Float) :=
  Detailed.initial (.stdin { stdin := "/a\n".toList }) (.fixed (FixedController.new 1 1000 0)) []

theorem verify_authenticates_of_example :
    ∃ (trace : List Detailed.Event) (finish : Detailed.State MainGenerator (MainController Float))
      (action : String) (request : HttpRequest) (resume : Unit → Awaited Response)
      (performed : List (Sigma Operation.Result)) (stream : TlsStream) (certificate : Certificate),
      Detailed.Run Detailed.directEquipment exampleStart trace finish ∧
        .working "/a".toList (.start "/a".toList) (.await action (.writeRequest request) resume) ∈
          finish.processes ∧
        Reaches Operation.Allows (Detailed.directEquipment.attempt "/a".toList) performed
          (.await action (.writeRequest request) resume) ∧
        ⟨.handshake stream, some certificate⟩ ∈ performed ∧
        certificate.chainsToTrustedRoot = true ∧
        certificate.validFor ("a.io".toList.map ascii) = true := by
  have parses : parseHostEndpoint (bytes verifyLine.host) ("443".toList.map ascii) 443 =
      .ok (defaultEndpoint ("a.io".toList.map ascii) ("443".toList.map ascii) 443) := by decide
  have isName : isDnsName ("a.io".toList.map ascii) = true := by decide
  rcases @Detailed.run_to_request _ _ _ _ (MainGenerator.stdin { stdin := "/a\n".toList })
    (MainController.fixed (FixedController.new 1 1000 0) : MainController Float) [] _ _ rfl
    (by decide) with ⟨trace, finish, action, request, resume, run, writes⟩
  rcases verify_authenticates verifyLine_accepted verifyOptions_prepared rfl parses isName run
    writes with ⟨performed, stream, certificate, reaches, handshakeMem, chains, valid⟩
  exact ⟨trace, finish, action, request, resume, performed, stream, certificate, run, writes,
    reaches, handshakeMem, chains, valid⟩

/--
With `--proxy` or `--tor`, no run looks up any name but the proxy's: the target
host is never resolved locally.
-/
theorem proxy_hides_lookups (accepted : CommandLine.new surroundings.compileRegex parsed =
      .ok options)
    (prepared : options.prepare surroundings =
      .ok (.scraper announced generator controller equipment))
    (asked : (parsed.isProxy || parsed.tor) = true)
    (run : Detailed.Run equipment (Detailed.initial generator controller errorLog) trace finish)
    {host service : Bytes} {resume : Unit → Awaited Response}
    (looksUp : .working uri fetch (.await action (.resolve host service) resume) ∈
      finish.processes) :
    ∃ proxyEndpoint,
      parseHostEndpoint (bytes (if parsed.proxy = [] then torProxy else parsed.proxy))
        ("1080".toList.map ascii) 1080 = .ok proxyEndpoint ∧
      host = proxyEndpoint.host ∧ service = proxyEndpoint.service := by
  have assembles := assembles_of_prepare prepared
  have derives := (CommandLine.of_new accepted assembles.starts).2
  rcases CommandLine.of_makeConnection assembles.connection with ⟨-, -, -, -, parsedProxy⟩
  rcases Detailed.sound_of_run run _ looksUp with ⟨performed, reaches⟩
  rw [← derives.proxy_eq asked]
  exact ⟨_, parsedProxy (derives.isProxy_eq.trans asked), resolve_of_reaches reaches⟩

/-- `--stdin --tor --init 1 a.io`. -/
def torLine : CommandLine where
  host := "a.io".toList
  fromStdin := true
  tor := true
  initialCoroutines := 1

def torOptions : CommandLine :=
  { torLine with
    proxy := torProxy, outputPath := "a.io".toList, errorPath := "a.io-err.log".toList }

/-- The connection through the proxy of `--tor`. -/
def torConnection : ProxiedConnection where
  sensitiveTeardown := false
  endpoint := defaultEndpoint ("a.io".toList.map ascii) ("80".toList.map ascii) 80
  proxyEndpoint :=
    { authority := torProxy.map ascii, host := "127.0.0.1".toList.map ascii
      service := "9050".toList.map ascii, port := 9050 }

def torEquipment : Equipment where
  library := workingLibrary
  connection := .proxied torConnection
  writer := .new "a.io".toList torLine.userAgent
  query := .head ⟨false, 5, "http".toList, "a.io".toList⟩
  verbose := false

theorem torOptions_prepared :
    (torOptions.prepare exampleSurroundings : Except Exception (Prepared Float ℝ)) =
      .ok (.scraper none (.stdin { stdin := "/a\n".toList })
        (.fixed (FixedController.new 1 1000 0)) torEquipment) :=
  rfl

theorem proxy_hides_lookups_of_example :
    ∃ (trace : List Detailed.Event) (finish : Detailed.State MainGenerator (MainController Float))
      (resume : Unit → Awaited Response) (proxyEndpoint : HostEndpoint),
      Detailed.Run torEquipment exampleStart trace finish ∧
        .working "/a".toList (.start "/a".toList)
          (.await "resolve proxy"
            (.resolve ("127.0.0.1".toList.map ascii) ("9050".toList.map ascii)) resume) ∈
          finish.processes ∧
        parseHostEndpoint (bytes torProxy) ("1080".toList.map ascii) 1080 = .ok proxyEndpoint ∧
        "127.0.0.1".toList.map ascii = proxyEndpoint.host ∧
        "9050".toList.map ascii = proxyEndpoint.service := by
  have accepted : CommandLine.new exampleSurroundings.compileRegex torLine = .ok torOptions := by
    decide
  rcases @Detailed.run_to_attempt _ _ _ _ (MainGenerator.stdin { stdin := "/a\n".toList })
    (MainController.fixed (FixedController.new 1 1000 0) : MainController Float) [] torEquipment
    _ _ rfl (by decide) with ⟨trace, world, run⟩
  have looksUp : Detailed.Coroutine.working "/a".toList (.start "/a".toList)
      (.await "resolve proxy"
        (.resolve ("127.0.0.1".toList.map ascii) ("9050".toList.map ascii)) _) ∈
      ({.working "/a".toList (.start "/a".toList) (torEquipment.attempt "/a".toList)} :
        Multiset Detailed.Coroutine) :=
    Multiset.mem_singleton.mpr rfl
  rcases proxy_hides_lookups accepted torOptions_prepared rfl run looksUp with
    ⟨proxyEndpoint, parses, host, service⟩
  exact ⟨trace, _, _, proxyEndpoint, run, looksUp, parses, host, service⟩

/--
Every request that a run writes is what the command line says, on a connection
of the policy it selects: the coroutine has got to the request by performing the
operations of the policy, all of them, with answers that establish it.
-/
theorem request_of_invocation (accepted : CommandLine.new surroundings.compileRegex parsed =
      .ok options)
    (prepared : options.prepare surroundings =
      .ok (.scraper announced generator controller equipment))
    (run : Detailed.Run equipment (Detailed.initial generator controller errorLog) trace finish)
    {request : HttpRequest} {resume : Unit → Awaited Response}
    (writes : .working uri fetch (.await action (.writeRequest request) resume) ∈
      finish.processes) :
    request =
        { method := if parsed.contents then .get else .head
          target := fetch.current, version := 11, host := parsed.host
          userAgent := parsed.userAgent } ∧
      equipment.connection.policy =
        CommandLine.policyOf (parsed.tls || parsed.verify) (parsed.isProxy || parsed.tor) ∧
      ∃ performed,
        Reaches Operation.Allows (equipment.attempt fetch.current) performed
          (.await action (.writeRequest request) resume) ∧
        equipment.connection.Established surroundings.library performed := by
  have assembles := assembles_of_prepare prepared
  have derives := (CommandLine.of_new accepted assembles.starts).2
  rcases Detailed.established_of_run run writes with ⟨performed, reaches, established, rfl⟩
  refine ⟨?_, ?_, performed, reaches, assembles.library ▸ established⟩
  · have method := CommandLine.method_of_makeQuery assembles.query
      (buildRequestTemplate options.host options.userAgent)
    rw [derives.contents] at method
    rw [assembles.writer, ← method, ← derives.host, ← derives.userAgent]
    cases equipment.query <;> rfl
  · rw [← derives.tls, ← derives.isProxy_eq]
    exact (CommandLine.of_makeConnection assembles.connection).1

theorem request_of_invocation_of_example :
    ∃ (trace : List Detailed.Event) (finish : Detailed.State MainGenerator (MainController Float))
      (action : String) (request : HttpRequest) (resume : Unit → Awaited Response)
      (performed : List (Sigma Operation.Result)),
      Detailed.Run Detailed.directEquipment exampleStart trace finish ∧
        .working "/a".toList (.start "/a".toList) (.await action (.writeRequest request) resume) ∈
          finish.processes ∧
        request =
          { method := .head, target := "/a".toList, version := 11, host := "a.io".toList
            userAgent := "abrade".toList } ∧
        Detailed.directEquipment.connection.policy = .tlsConnection ∧
        Reaches Operation.Allows (Detailed.directEquipment.attempt "/a".toList) performed
          (.await action (.writeRequest request) resume) ∧
        Detailed.directEquipment.connection.Established workingLibrary performed := by
  rcases @Detailed.run_to_request _ _ _ _ (MainGenerator.stdin { stdin := "/a\n".toList })
    (MainController.fixed (FixedController.new 1 1000 0) : MainController Float) [] _ _ rfl
    (by decide) with ⟨trace, finish, action, request, resume, run, writes⟩
  rcases request_of_invocation verifyLine_accepted verifyOptions_prepared run writes with
    ⟨isRequest, policy, performed, reaches, established⟩
  exact ⟨trace, finish, action, request, resume, performed, run, writes, isRequest, policy, reaches,
    established⟩

/--
An exception that leaves a coroutine makes no difference to the exit status:
only the error log throws one, for an error that has been counted.
-/
theorem exitStatus_eq {G K : Type} [Generator G] [Controller K] {generator : G} {controller : K}
    {uris : List Text} {finish : Detailed.State G K} (emits : Generator.Emits generator uris)
    (run : Detailed.Run equipment (Detailed.initial generator controller errorLog) trace finish) :
    exitStatus finish = if finish.world.shared.outputs.stats.hasErrors then 1 else 0 := by
  by_cases without : finish.world.shared.outputs.stats.errorCount = 0
  · have contained := (Detailed.contained_of_whole emits run
      (Detailed.whole_of_noErrors run without)).1
    rw [exitStatus, contained, Bool.false_or]
  · have errors : finish.world.shared.outputs.stats.hasErrors = true := by
      simpa [RunStats.hasErrors] using without
    rw [exitStatus, errors, Bool.or_true]

/--
The exit status of a scraping invocation is zero exactly when every candidate
has returned, and then nothing has been written to the error log; with a log
that takes everything, the converse holds too.
-/
theorem exit_status_of_complete_run
    (accepted : CommandLine.new surroundings.compileRegex parsed = .ok options)
    (prepared : options.prepare surroundings =
      .ok (.scraper announced generator controller equipment))
    (run : Detailed.Run equipment (Detailed.initial generator controller errorLog) trace finish)
    (empty : finish.processes = 0) :
    ∃ uris, Generator.Emits generator uris ∧
      (exitStatus finish = 0 ↔
        total (Detailed.Event.lift Event.returnedUri) trace = (uris : Multiset Text)) ∧
      (exitStatus finish = 0 → finish.world.errorLog = errorLog) ∧
      ((∀ event ∈ trace, event.IsWhole) → finish.world.errorLog = errorLog →
        exitStatus finish = 0) := by
  have assembles := assembles_of_prepare prepared
  have valid := (CommandLine.of_new accepted assembles.starts).1
  rcases CommandLine.exists_emits assembles.generator with ⟨uris, emits⟩
  have positive : Controller.Positive controller := by
    rw [assembles.controller]
    exact valid.positive_controller surroundings.start
  have status : exitStatus finish = 0 ↔ finish.world.shared.outputs.stats.errorCount = 0 := by
    simp [exitStatus_eq emits run, RunStats.hasErrors]
  refine ⟨uris, emits, ?_, ?_, ?_⟩
  · rw [status]
    exact Detailed.noErrors_iff_all_returned emits positive run empty
  · intro succeeds
    have without := status.mp succeeds
    have whole := Detailed.whole_of_noErrors run without
    have counted := (Detailed.recorded_of_complete_run emits positive run whole empty).1
    rw [without, List.length_eq_zero_iff] at counted
    rw [Detailed.errorLog_of_whole run whole, counted]
    exact List.append_nil errorLog
  · intro whole unchanged
    have counted := (Detailed.recorded_of_complete_run emits positive run whole empty).1
    rw [Detailed.errorLog_of_whole run whole, List.append_right_eq_self, List.flatMap_eq_nil_iff]
      at unchanged
    have nothing : Detailed.records trace = [] := by
      rw [List.eq_nil_iff_forall_not_mem]
      intro record recordMem
      have line := unchanged record recordMem
      simp [Equipment.errorLine] at line
    rw [nothing] at counted
    exact status.mpr counted.symm

theorem exit_status_of_complete_run_of_example :
    ∃ finish : Detailed.State MainGenerator (MainController Float),
      Detailed.Run Detailed.directEquipment exampleStart (Detailed.timedOutTrace 1 1) finish ∧
        finish.processes = 0 ∧ exitStatus finish ≠ 0 := by
  have emits : Generator.Emits (MainGenerator.stdin { stdin := "/a\n".toList }) ["/a".toList] :=
    (@StdinGenerator.emits_unlines ["/a".toList] (by decide)).wrap fun _ => rfl
  rcases @Detailed.run_timedOutTrace _ _ _ _ (MainGenerator.stdin { stdin := "/a\n".toList }) _ _
    (MainController.fixed (FixedController.new 1 1000 0) : MainController Float) rfl rfl
    (by decide) (by decide) with ⟨finish, run, empty⟩
  rcases exit_status_of_complete_run verifyLine_accepted verifyOptions_prepared run empty with
    ⟨uris, emitsUris, status, -, -⟩
  refine ⟨finish, run, empty, fun succeeds => ?_⟩
  have returned := status.mp succeeds
  rw [emitsUris.unique emits] at returned
  simp [Detailed.timedOutTrace] at returned

end Invocations

end Abrade
