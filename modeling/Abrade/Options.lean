import Abrade.Library.Fallible
import Abrade.Scraper.Query

/-!
# Options

The options that generation and scraping depend on, and the checks of
`validate_parsed_options`.  The text of the command line is parsed elsewhere;
compiling a `boost::regex` is a parameter.
-/

namespace Abrade

/-- The parsed command line, with the defaults of its parser. -/
structure Options where
  initialCoroutines : ℕ := 1000
  minimumCoroutines : ℕ := 1
  maximumCoroutines : ℕ := 25000
  sampleSize : ℕ := 50
  sampleInterval : ℕ := 1000
  tls : Bool := false
  verify : Bool := false
  contents : Bool := false
  optimize : Bool := false
  leadingZeros : Bool := false
  telescoping : Bool := false
  fromStdin : Bool := false
  followRedirects : Bool := false
  maxRedirects : ℕ := 5
  host : Text := []
  pattern : Text := "/".toList
  outputPath : Text := []
  helpStr : String := ""
  screen : Text := []
  requiredLiterals : List Text := []
  rejectedLiterals : List Text := []
  requiredRegexes : List Text := []
  rejectedRegexes : List Text := []
  deriving DecidableEq

namespace Options

def exception (options : Options) (message : String) : Exception :=
  .runtimeError (message ++ "\n" ++ options.helpStr)

/-- One `if` of `validate_parsed_options` with its `throw`. -/
def reject (options : Options) (condition : Bool) (message : String) : Except Exception Unit :=
  if condition then .error (options.exception message) else .ok ()

/-- `boost::regex{pattern}`; a failure carries the text of the `regex_error`. -/
abbrev CompileRegex :=
  Text → Except String Regex

def validateRegex (compileRegex : CompileRegex) (optionName : String) (options : Options)
    (pattern : Text) : Except Exception Unit :=
  match compileRegex pattern with
  | .error what => .error (options.exception (optionName ++ " is not a valid regex: " ++ what))
  | .ok _ => .ok ()

def validateRegexOptions (compileRegex : CompileRegex) (patterns : List Text)
    (optionName : String) (options : Options) : Except Exception Unit :=
  patterns.forM (validateRegex compileRegex optionName options)

/-- `--screen` is an alias for `--reject`. -/
def withScreen (options : Options) : Options :=
  if !options.screen.isEmpty then
    { options with rejectedLiterals := options.rejectedLiterals ++ [options.screen] }
  else options

def validateParsedOptions (compileRegex : CompileRegex) (options : Options)
    (maxRedirectsProvided : Bool) : Except Exception Options := do
  options.reject options.host.isEmpty "you must supply a host."
  options.reject (!options.fromStdin && options.pattern.isEmpty) "you must supply a pattern."
  options.reject (options.initialCoroutines < 1) "init must be positive"
  options.reject (options.minimumCoroutines < 1) "min must be positive"
  options.reject (options.maximumCoroutines < 1) "max must be positive"
  options.reject (options.sampleSize < 1) "ssize must be positive"
  options.reject (options.sampleInterval < 1) "ssize must be positive"
  let options := options.withScreen
  let hasFilters := !options.requiredLiterals.isEmpty || !options.rejectedLiterals.isEmpty ||
    !options.requiredRegexes.isEmpty || !options.rejectedRegexes.isEmpty
  options.reject (hasFilters && !options.contents) "content filters require --contents"
  validateRegexOptions compileRegex options.requiredRegexes "--require-regex" options
  validateRegexOptions compileRegex options.rejectedRegexes "--reject-regex" options
  options.reject (options.maxRedirects < 1) "max-redirects must be positive"
  options.reject (maxRedirectsProvided && !options.followRedirects)
    "max-redirects requires --follow-redirects"
  return options

/-- The derived options, set behind the validation. -/
def derive (options : Options) : Options :=
  { options with
    tls := options.tls || options.verify
    outputPath :=
      if options.outputPath.isEmpty then
        options.host ++ (if options.contents then "-contents".toList else [])
      else options.outputPath }

theorem reject_eq_ok_iff {options : Options} {condition : Bool} {message : String} {done : Unit} :
    options.reject condition message = .ok done ↔ condition = false := by
  cases condition <;> simp [reject]

theorem validateRegex_eq_ok_iff {compileRegex : CompileRegex} {optionName : String}
    {options : Options} {pattern : Text} {done : Unit} :
    validateRegex compileRegex optionName options pattern = .ok done ↔
      ∃ regex, compileRegex pattern = .ok regex := by
  unfold validateRegex
  cases compileRegex pattern <;> simp

/-- What every accepted set of options promises. -/
structure Valid (compileRegex : CompileRegex) (options : Options) : Prop where
  host : options.host ≠ []
  pattern : options.fromStdin = false → options.pattern ≠ []
  initial : 1 ≤ options.initialCoroutines
  minimum : 1 ≤ options.minimumCoroutines
  maximum : 1 ≤ options.maximumCoroutines
  sampleSize : 1 ≤ options.sampleSize
  sampleInterval : 1 ≤ options.sampleInterval
  maxRedirects : 1 ≤ options.maxRedirects
  requiredRegexes : ∀ pattern ∈ options.requiredRegexes, ∃ regex, compileRegex pattern = .ok regex
  rejectedRegexes : ∀ pattern ∈ options.rejectedRegexes, ∃ regex, compileRegex pattern = .ok regex

theorem withScreen_eq (options : Options) :
    ∃ rejectedLiterals, options.withScreen = { options with rejectedLiterals } := by
  unfold withScreen
  split
  · exact ⟨_, rfl⟩
  · exact ⟨options.rejectedLiterals, rfl⟩

/-- Accepted options passed every check and changed in their rejected literals at most. -/
theorem valid_of_validateParsedOptions {compileRegex : CompileRegex} {options accepted : Options}
    {maxRedirectsProvided : Bool}
    (passed : options.validateParsedOptions compileRegex maxRedirectsProvided = .ok accepted) :
    accepted.Valid compileRegex ∧ ∃ rejectedLiterals, accepted = { options with rejectedLiterals } := by
  simp only [validateParsedOptions, validateRegexOptions, Except.bind_eq_ok_iff, reject_eq_ok_iff,
    Except.forM_eq_ok_iff, validateRegex_eq_ok_iff] at passed
  rcases passed with ⟨-, host, -, pattern, -, initial, -, minimum, -, maximum, -, sampleSize, -,
    sampleInterval, -, -, -, required, -, rejected, -, maxRedirects, -, -, returned⟩
  rcases withScreen_eq options with ⟨rejectedLiterals, same⟩
  rw [same] at returned maxRedirects required rejected
  cases returned
  simp only [decide_eq_false_iff_not, Nat.not_lt] at initial minimum maximum
  simp only [decide_eq_false_iff_not, Nat.not_lt] at sampleSize sampleInterval maxRedirects
  refine ⟨⟨?_, ?_, initial, minimum, maximum, sampleSize, sampleInterval, maxRedirects, required,
    rejected⟩, _, rfl⟩
  · simpa using host
  · simpa using pattern

end Options

end Abrade
