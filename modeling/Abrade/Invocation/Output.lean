import Abrade.Invocation
import Abrade.Scraper.Files

/-!
# What an invocation stores

Nothing reaches the output but bodies, or lines, for responses that the command
line asks for, however a run goes: requests may fail, files may refuse bytes and
exceptions may leave coroutines.  No target gets out of the output directory.
-/

namespace Abrade

namespace ContentFilters

theorem contains_iff {text body : Text} :
    (Search.findInfix text body).isSome = true ↔ text <:+: body := by
  rw [Option.isSome_iff_ne_none, ne_eq, Search.findInfix_eq_none_iff, not_not]

/-- An accepted body has passed every filter. -/
theorem accepts_eq_ok_true_iff {filters : ContentFilters} {body : Text} :
    filters.accepts body = .ok true ↔
      (∀ text ∈ filters.requiredLiterals, text <:+: body) ∧
        (∀ regex ∈ filters.requiredRegexes, regex body = .ok true) ∧
        (∀ text ∈ filters.rejectedLiterals, ¬ text <:+: body) ∧
        ∀ regex ∈ filters.rejectedRegexes, regex body = .ok false := by
  have required : (filters.requiredLiterals.all fun text =>
      (Search.findInfix text body).isSome) = true ↔
        ∀ text ∈ filters.requiredLiterals, text <:+: body := by
    simp only [List.all_eq_true, contains_iff]
  have rejected : (filters.rejectedLiterals.any fun text =>
      (Search.findInfix text body).isSome) = false ↔
        ∀ text ∈ filters.rejectedLiterals, ¬ text <:+: body := by
    simp only [List.any_eq_false, contains_iff]
  have matched := @Except.allM_eq_ok_true_iff Regex Exception (fun regex => regex body)
    filters.requiredRegexes
  have unmatched := @Except.anyM_eq_ok_false_iff Regex Exception (fun regex => regex body)
    filters.rejectedRegexes
  rw [← required, ← rejected, ← matched, ← unmatched]
  unfold accepts
  cases hasRequired : filters.requiredLiterals.all fun text =>
    (Search.findInfix text body).isSome with
  | false => simp [hasRequired, pure, Except.pure]
  | true =>
      rcases matching : filters.requiredRegexes.allM (fun regex => regex body) with failure | _ | _
      · simp [hasRequired, matching]
      · simp [hasRequired, matching, pure, Except.pure]
      · cases hasRejected : filters.rejectedLiterals.any fun text =>
          (Search.findInfix text body).isSome with
        | true => simp [hasRequired, matching, hasRejected, pure, Except.pure]
        | false =>
            rcases rejects : filters.rejectedRegexes.anyM (fun regex => regex body) with
              failure | _ | _ <;>
              simp [hasRequired, matching, hasRejected, rejects, pure, Except.pure]

end ContentFilters

namespace Query

/-- A response leaves the beginning of its body or of its line in the output, or nothing. -/
inductive Writes (query : Query) (target : Text) (response : Response) (outputs : Outputs) :
    Outputs → Prop where
  | nothing {outputs' : Outputs} (files : outputs'.files = outputs.files)
      (found : outputs'.found = outputs.found) : Writes query target response outputs outputs'
  | body {policy : RedirectPolicy} {action : GetAction} {outputs' : Outputs} {reached : ℕ}
      (isGet : query = .get policy action) (accepts : action.Accepts response)
      (files : outputs'.files = fun path =>
        if path = action.path target then some (response.body.take reached)
        else outputs.files path)
      (found : outputs'.found = outputs.found) : Writes query target response outputs outputs'
  | line {policy : RedirectPolicy} {outputs' : Outputs} {reached : ℕ}
      (isHead : query = .head policy) (successful : isSuccessStatus response.statusCode = true)
      (files : outputs'.files = outputs.files)
      (found : outputs'.found = outputs.found ++ [(target ++ ['\n']).take reached]) :
      Writes query target response outputs outputs'

theorem writes_get {policy : RedirectPolicy} {action : GetAction} {target : Text}
    {response : Response} {file : FileOutcome} {outputs : Outputs} {stats : RunStats} :
    (Query.get policy action).Writes target response outputs
      (action.process response.statusCode response.body target file
        { outputs with stats }).outputs := by
  unfold GetAction.process
  split
  · exact .nothing rfl rfl
  · next success =>
      have successful : isSuccessStatus response.statusCode = true := by simpa using success
      split
      · exact .nothing rfl rfl
      · exact .nothing rfl rfl
      · next accepted =>
          cases file with
          | unusable => exact .nothing rfl rfl
          | writeThrows reached => exact .body rfl ⟨successful, accepted⟩ rfl rfl
          | returns reached => exact .body rfl ⟨successful, accepted⟩ rfl rfl

theorem writes_head {policy : RedirectPolicy} {target : Text} {response : Response}
    {file : FileOutcome} {outputs : Outputs} {stats : RunStats} :
    (Query.head policy).Writes target response outputs
      (HeadAction.process response.statusCode target file { outputs with stats }).outputs := by
  unfold HeadAction.process
  split
  · next successful =>
      cases file with
      | unusable => exact .nothing rfl rfl
      | writeThrows reached => exact .line rfl successful rfl rfl
      | returns reached =>
          have whole : (target ++ ['\n']).take (target ++ ['\n']).length = target ++ ['\n'] :=
            List.take_length
          exact .line rfl successful rfl
            (congrArg (fun line => outputs.found ++ [line]) whole.symm)
  · exact .nothing rfl rfl

theorem writes_execute {query : Query} {target : Text} {response : Response} {file : FileOutcome}
    {outputs : Outputs} :
    query.Writes target response outputs (query.execute response target file outputs).outputs := by
  cases query with
  | get policy action => exact writes_get
  | head policy => exact writes_head

end Query

namespace Detailed

/-- Every file and every line is there because of a response that was read. -/
structure Justified (query : Query) (trace : List Event) (outputs : Outputs) : Prop where
  files : ∀ path content, outputs.files path = some content →
    ∃ policy action target response reached, query = .get policy action ∧
      .scraper (.answered target response) ∈ trace ∧ action.Accepts response ∧
      path = action.path target ∧ content = response.body.take reached
  found : ∀ line ∈ outputs.found, ∃ policy target response reached, query = .head policy ∧
    .scraper (.answered target response) ∈ trace ∧
    isSuccessStatus response.statusCode = true ∧ line = (target ++ ['\n']).take reached

section Justified

variable {query : Query} {trace events : List Event} {outputs outputs' : Outputs}

theorem Justified.append (justified : Justified query trace outputs)
    (files : outputs'.files = outputs.files) (found : outputs'.found = outputs.found) :
    Justified query (trace ++ events) outputs' := by
  constructor
  · intro path content stored
    rw [files] at stored
    rcases justified.files path content stored with
      ⟨policy, action, target, response, reached, isGet, answered, rest⟩
    exact ⟨policy, action, target, response, reached, isGet, List.mem_append_left _ answered, rest⟩
  · intro line lineMem
    rw [found] at lineMem
    rcases justified.found line lineMem with
      ⟨policy, target, response, reached, isHead, answered, rest⟩
    exact ⟨policy, target, response, reached, isHead, List.mem_append_left _ answered, rest⟩

theorem Justified.writes {target : Text} {response : Response}
    (justified : Justified query trace outputs)
    (writes : query.Writes target response outputs outputs')
    (answered : .scraper (.answered target response) ∈ events) :
    Justified query (trace ++ events) outputs' := by
  have answeredNow : .scraper (.answered target response) ∈ trace ++ events :=
    List.mem_append_right _ answered
  cases writes with
  | nothing files found => exact justified.append files found
  | @body policy action _ reached isGet accepts files found =>
      have before := @Justified.append query trace events outputs
        { outputs' with files := outputs.files } justified rfl found
      refine ⟨?_, before.found⟩
      intro path content stored
      rw [files] at stored
      dsimp only at stored
      split_ifs at stored with here
      · cases stored
        exact ⟨policy, action, target, response, reached, isGet, answeredNow, accepts, here, rfl⟩
      · exact before.files path content stored
  | @line policy _ reached isHead successful files found =>
      have before := @Justified.append query trace events outputs
        { outputs' with found := outputs.found } justified files rfl
      refine ⟨before.files, ?_⟩
      intro line lineMem
      rw [found, List.mem_append, List.mem_singleton] at lineMem
      rcases lineMem with earlier | rfl
      · exact before.found line earlier
      · exact ⟨policy, target, response, reached, isHead, answeredNow, successful, rfl⟩

end Justified

section Runs

variable {G K : Type} [Generator G] [Controller K] {equipment : Equipment}
  {world world' : World G K} {coroutine : Coroutine} {events : List Event}
  {effect : Pool.Effect Coroutine} {generator : G} {controller : K} {errorLog : Text}
  {trace : List Event} {finish : State G K}

theorem outputs_of_outside {query : Query} {world world' : Abrade.World G K}
    {coroutine : Abrade.Coroutine} {events : List Abrade.Event}
    {effect : Pool.Effect Abrade.Coroutine}
    (moves : Abrade.Coroutine.Move query world coroutine events world' effect)
    (isOutside : IsOutside coroutine) : world'.outputs = world.outputs := by
  cases moves with
  | requestThrows awaits => cases awaits <;> cases isOutside
  | hand => cases isOutside
  | execute => cases isOutside
  | _ => rfl

theorem Move.justified (move : Move equipment world coroutine events world' effect)
    (justified : Justified equipment.query trace world.shared.outputs) :
    Justified equipment.query (trace ++ events) world'.shared.outputs := by
  cases move with
  | outside isOutside _ moves =>
      have same := outputs_of_outside moves isOutside
      exact justified.append (congrArg Outputs.files same) (congrArg Outputs.found same)
  | @execute uri fetch response file executed executes =>
      subst executes
      have answered : .answered fetch.current response ∈
          (equipment.query.execute response fetch.current file world.shared.outputs).events :=
        Query.answered_mem_execute_iff.mpr ⟨rfl, rfl⟩
      exact justified.writes Query.writes_execute (List.mem_map.mpr ⟨_, answered, rfl⟩)
  | _ => exact justified.append rfl rfl

theorem justified_of_run
    (run : Run equipment (initial generator controller errorLog) trace finish) :
    Justified equipment.query trace finish.world.shared.outputs := by
  refine @Transition.Run.invariant _ _ _ _ _ _
    (fun trace state => Justified equipment.query trace state.world.shared.outputs) ?_ ?_ run
  · constructor
    · intro path content stored
      cases stored
    · intro line lineMem
      cases lineMem
  · intro trace state events next justified step
    cases step with
    | move moves => exact moves.justified justified

end Runs

end Detailed

theorem eq_withScreen_of_validateParsedOptions {compileRegex : Options.CompileRegex}
    {options accepted : Options} {maxRedirectsProvided : Bool}
    (passed : options.validateParsedOptions compileRegex maxRedirectsProvided = .ok accepted) :
    accepted = options.withScreen := by
  simp only [Options.validateParsedOptions, Except.bind_eq_ok_iff] at passed
  rcases passed with ⟨-, -, -, -, -, -, -, -, -, -, -, -, -, -, -, -, -, -, -, -, -, -, -, -,
    returned⟩
  cases returned
  rfl

/-- A text given with `--screen` is rejected like the others. -/
theorem mem_rejectedLiterals_withScreen_iff {options : Options} {text : Text} :
    text ∈ options.withScreen.rejectedLiterals ↔
      text ∈ options.rejectedLiterals ∨ options.screen ≠ [] ∧ text = options.screen := by
  unfold Options.withScreen
  cases screen : options.screen with
  | nil => simp
  | cons first rest => simp

namespace CommandLine

/-- The directory that bodies are kept in. -/
def outputDirectory (parsed : CommandLine) : Text :=
  if parsed.outputPath.isEmpty then parsed.host ++ "-contents".toList else parsed.outputPath

/-- What the filters of the command line ask of a body. -/
structure Asks (compileRegex : Options.CompileRegex) (parsed : CommandLine) (body : Text) :
    Prop where
  require : ∀ text ∈ parsed.requiredLiterals, text <:+: body
  reject : ∀ text ∈ parsed.rejectedLiterals, ¬ text <:+: body
  screen : parsed.screen ≠ [] → ¬ parsed.screen <:+: body
  requireRegex : ∀ pattern ∈ parsed.requiredRegexes, ∃ regex,
    compileRegex pattern = .ok regex ∧ regex body = .ok true
  rejectRegex : ∀ pattern ∈ parsed.rejectedRegexes, ∃ regex,
    compileRegex pattern = .ok regex ∧ regex body = .ok false

variable {compileRegex : Options.CompileRegex} {parsed options : CommandLine}

/-- The accepted options have the filters of the command line, `--screen` among them. -/
theorem filters_of_new (accepted : new compileRegex parsed = .ok options)
    (starts : options.help = false) :
    options.requiredLiterals = parsed.requiredLiterals ∧
      options.rejectedLiterals = parsed.toOptions.withScreen.rejectedLiterals ∧
      options.requiredRegexes = parsed.requiredRegexes ∧
      options.rejectedRegexes = parsed.rejectedRegexes ∧
      options.contents = parsed.contents ∧
      (parsed.contents = true → options.outputPath = parsed.outputDirectory) := by
  unfold new at accepted
  split at accepted
  · next helps =>
      cases accepted
      rw [starts] at helps
      cases helps
  · rcases Except.bind_eq_ok_iff.mp accepted with ⟨checked, validated, returned⟩
    have same := eq_withScreen_of_validateParsedOptions validated
    subst same
    cases returned
    rcases Options.withScreen_eq parsed.toOptions with ⟨rejectedLiterals, same⟩
    rw [same]
    refine ⟨rfl, rfl, rfl, rfl, rfl, ?_⟩
    intro contents
    have derived : ({ parsed with toOptions := { parsed.toOptions with rejectedLiterals } } :
        CommandLine).derive.outputPath =
          if parsed.outputPath.isEmpty then
            parsed.host ++ (if parsed.contents then "-contents".toList else [])
          else parsed.outputPath := rfl
    rw [derived, contents, if_pos rfl]
    rfl

theorem compiled_of_makeRegex {pattern : Text} {regex : Regex}
    (made : Options.makeRegex compileRegex pattern = .ok regex) :
    compileRegex pattern = .ok regex := by
  unfold Options.makeRegex at made
  split at made
  · cases made
  · next compiled =>
      cases made
      exact compiled

/-- What all regexes say of a body, the patterns they were made of do. -/
theorem forall_pattern_of_mapM {patterns : List Text} {regexes : List Regex} {body : Text}
    {found : Bool} (made : patterns.mapM (Options.makeRegex compileRegex) = .ok regexes)
    (searched : ∀ regex ∈ regexes, regex body = .ok found) :
    ∀ pattern ∈ patterns, ∃ regex,
      compileRegex pattern = .ok regex ∧ regex body = .ok found := by
  have pairs := Except.mapM_eq_ok_iff.mp made
  clear made
  induction pairs with
  | nil => simp
  | @cons pattern regex patterns regexes first _ ih =>
      rw [List.forall_mem_cons] at searched ⊢
      exact ⟨⟨regex, compiled_of_makeRegex first, searched.1⟩, ih searched.2⟩

/-- A response that the action accepts is one the command line asks for. -/
theorem asks_of_accepts (accepted : new compileRegex parsed = .ok options)
    (starts : options.help = false) {policy : RedirectPolicy} {action : GetAction}
    (queries : options.makeQuery compileRegex = .ok (.get policy action)) {response : Response}
    (accepts : action.Accepts response) :
    parsed.contents = true ∧ action.pathDir = parsed.outputDirectory ∧
      isSuccessStatus response.statusCode = true ∧ parsed.Asks compileRegex response.body := by
  rcases filters_of_new accepted starts with
    ⟨required, rejected, requiredRegexes, rejectedRegexes, sameContents, directory⟩
  unfold Options.makeQuery at queries
  split at queries
  · next contents =>
      rw [sameContents] at contents
      rcases Except.bind_eq_ok_iff.mp queries with ⟨filters, built, returned⟩
      cases returned
      unfold Options.makeContentFilters at built
      rcases Except.bind_eq_ok_iff.mp built with ⟨builtRequired, madeRequired, built⟩
      rcases Except.bind_eq_ok_iff.mp built with ⟨builtRejected, madeRejected, built⟩
      cases built
      rcases accepts with ⟨successful, passes⟩
      rcases ContentFilters.accepts_eq_ok_true_iff.mp passes with
        ⟨contains, matched, omits, unmatched⟩
      dsimp only at contains matched omits unmatched
      rw [required] at contains
      rw [rejected] at omits
      rw [requiredRegexes] at madeRequired
      rw [rejectedRegexes] at madeRejected
      refine ⟨contents, directory contents, successful, contains, ?_, ?_,
        forall_pattern_of_mapM madeRequired matched, forall_pattern_of_mapM madeRejected unmatched⟩
      · intro text textMem
        exact omits text (mem_rejectedLiterals_withScreen_iff.mpr (.inl textMem))
      · intro screens
        exact omits parsed.screen (mem_rejectedLiterals_withScreen_iff.mpr (.inr ⟨screens, rfl⟩))
  · cases queries

theorem contents_of_head (accepted : new compileRegex parsed = .ok options)
    (starts : options.help = false) {policy : RedirectPolicy}
    (queries : options.makeQuery compileRegex = .ok (.head policy)) : parsed.contents = false := by
  rcases filters_of_new accepted starts with ⟨-, -, -, -, sameContents, -⟩
  unfold Options.makeQuery at queries
  split at queries
  · rcases Except.bind_eq_ok_iff.mp queries with ⟨filters, -, returned⟩
    cases returned
  · next contents => rwa [Bool.not_eq_true, sameContents] at contents

end CommandLine

/-- No character of a file name separates directories. -/
theorem slash_notMem_sanitized (target : Text) : '/' ∉ target.map GetAction.sanitized := by
  intro slashMem
  rcases List.mem_map.mp slashMem with ⟨element, -, isSlash⟩
  unfold GetAction.sanitized at isSlash
  split at isSlash
  · next kept =>
      rw [isSlash] at kept
      cases kept
  · cases isSlash

section Invocations

variable {F L : Type} [Logarithmic L] [Floating F] {surroundings : Surroundings}
  {parsed options : CommandLine} {announced : Option (UriGenerator.Announcement L)}
  {generator : MainGenerator} {controller : MainController F} {equipment : Equipment}
  {errorLog : Text} {trace : List Detailed.Event}
  {finish : Detailed.State MainGenerator (MainController F)}

/--
Whatever a run stores comes from a successful response it has read.  A file lies
in the output directory, has the name of the response's target and holds the
beginning of a body that every filter of the command line lets pass; without
`--contents` there are only lines, each with the beginning of a target's.
-/
theorem stored_of_invocation
    (accepted : CommandLine.new surroundings.compileRegex parsed = .ok options)
    (prepared : options.prepare surroundings =
      .ok (.scraper announced generator controller equipment))
    (run : Detailed.Run equipment (Detailed.initial generator controller errorLog) trace finish) :
    (∀ path content, finish.world.shared.outputs.files path = some content →
        parsed.contents = true ∧ ∃ target response reached,
          .scraper (.answered target response) ∈ trace ∧
          isSuccessStatus response.statusCode = true ∧
          parsed.Asks surroundings.compileRegex response.body ∧
          path = parsed.outputDirectory ++ '/' :: target.map GetAction.sanitized ∧
          '/' ∉ target.map GetAction.sanitized ∧ content = response.body.take reached) ∧
      ∀ line ∈ finish.world.shared.outputs.found,
        parsed.contents = false ∧ ∃ target response reached,
          .scraper (.answered target response) ∈ trace ∧
          isSuccessStatus response.statusCode = true ∧
          line = (target ++ ['\n']).take reached := by
  have assembles := assembles_of_prepare prepared
  have justified := Detailed.justified_of_run run
  constructor
  · intro path content stored
    rcases justified.files path content stored with
      ⟨policy, action, target, response, reached, isGet, answered, accepts, rfl, rfl⟩
    have queries := assembles.query
    rw [isGet] at queries
    rcases CommandLine.asks_of_accepts accepted assembles.starts queries accepts with
      ⟨contents, directory, successful, asks⟩
    refine ⟨contents, target, response, reached, answered, successful, asks, ?_,
      slash_notMem_sanitized target, rfl⟩
    rw [GetAction.path_eq, directory, List.append_assoc]
    rfl
  · intro line lineMem
    rcases justified.found line lineMem with
      ⟨policy, target, response, reached, isHead, answered, successful, rfl⟩
    have queries := assembles.query
    rw [isHead] at queries
    exact ⟨CommandLine.contents_of_head accepted assembles.starts queries, target, response,
      reached, answered, successful, rfl⟩

/-- `--stdin --contents --require b --screen x --init 1 a.io`. -/
def contentsLine : CommandLine where
  host := "a.io".toList
  fromStdin := true
  contents := true
  requiredLiterals := ["b".toList]
  screen := "x".toList
  initialCoroutines := 1

def contentsOptions : CommandLine :=
  { contentsLine with
    rejectedLiterals := ["x".toList], outputPath := "a.io-contents".toList
    errorPath := "a.io-err.log".toList }

def contentsEquipment : Equipment where
  library := workingLibrary
  connection := .plaintext
    { sensitiveTeardown := false
      endpoint := defaultEndpoint ("a.io".toList.map ascii) ("80".toList.map ascii) 80 }
  writer := .new "a.io".toList contentsLine.userAgent
  query := .get ⟨false, 5, "http".toList, "a.io".toList⟩
    ⟨"a.io-contents".toList, ⟨["b".toList], ["x".toList], [], []⟩⟩
  verbose := false

theorem contentsOptions_prepared :
    (contentsOptions.prepare exampleSurroundings : Except Exception (Prepared Float ℝ)) =
      .ok (.scraper none (.stdin { stdin := "/a\n".toList })
        (.fixed (FixedController.new 1 1000 0)) contentsEquipment) :=
  rfl

/-- One candidate, answered with a body that is kept. -/
theorem stored_of_invocation_of_example :
    ∃ (trace : List Detailed.Event) (finish : Detailed.State MainGenerator (MainController Float))
      (target : Text) (response : Response) (reached : ℕ),
      Detailed.Run contentsEquipment exampleStart trace finish ∧
        finish.world.shared.outputs.files "a.io-contents/_a".toList = some "abc".toList ∧
        .scraper (.answered target response) ∈ trace ∧
        isSuccessStatus response.statusCode = true ∧
        contentsLine.Asks exampleSurroundings.compileRegex response.body ∧
        "a.io-contents/_a".toList =
          contentsLine.outputDirectory ++ '/' :: target.map GetAction.sanitized ∧
        "abc".toList = response.body.take reached := by
  have accepted : CommandLine.new exampleSurroundings.compileRegex contentsLine =
      .ok contentsOptions := by
    decide
  rcases @Detailed.run_to_attempt _ _ _ _ (MainGenerator.stdin { stdin := "/a\n".toList })
    (MainController.fixed (FixedController.new 1 1000 0) : MainController Float) []
    contentsEquipment _ _ rfl (by decide) with ⟨trace, world, run⟩
  have resolved : Operation.Allows
      (.resolve ("a.io".toList.map ascii) ("80".toList.map ascii)) () := trivial
  have connected : Operation.Allows .connect () := trivial
  have written : Operation.Allows (.writeRequest
      (contentsEquipment.writer.request contentsEquipment.query "/a".toList)) () := trivial
  have answered : Operation.Allows .readResponse ⟨200, [], "abc".toList⟩ := trivial
  have stored := ((((run.step
    (Pool.step_goto (.complete resolved))).step
    (Pool.step_goto (.complete connected))).step
    (Pool.step_goto (.complete written))).step
    (Pool.step_goto (.complete answered))).step
    (Pool.step_goto (@Detailed.Move.execute _ _ _ _ _ _ _ _ _ (.returns 3) _ rfl))
  rcases (stored_of_invocation accepted contentsOptions_prepared stored).1
    "a.io-contents/_a".toList "abc".toList rfl with
    ⟨-, target, response, reached, answered, successful, asks, path, -, content⟩
  exact ⟨_, _, target, response, reached, stored, rfl, answered, successful, asks, path, content⟩

end Invocations

end Abrade
