import Abrade.Redirect
import Abrade.Scraper.Event

/-!
# Queries and actions

What happens once a response has been read: `GetQuery` and `HeadQuery` with
their actions and the output files.  Console output is left out.
-/

namespace Abrade

/-- Everything a run writes to, as the queries and actions see it. -/
structure Outputs where
  stats : RunStats
  /-- What each call of `HeadAction::process` appended to the output file. -/
  found : List Text
  /-- The contents of the files in the output directory. -/
  files : Text → Option Text

/-- How the operations on one output file end. -/
inductive FileOutcome where
  /-- Nothing reaches the file: it cannot be opened, or its stream has failed before. -/
  | unusable
  /-- Writing throws after `reached` bytes reached the file. -/
  | writeThrows (reached : ℕ)
  /-- Nothing throws, and `reached` bytes are in the file after it is closed. -/
  | returns (reached : ℕ)
  deriving DecidableEq

/-- How a call of an action or a query ended. -/
structure Processed (α : Type) where
  returned : Except Exception α
  outputs : Outputs
  events : List Event

abbrev Regex :=
  Text → Except Exception Bool

/-- Filters on the bodies of successful responses. -/
structure ContentFilters where
  requiredLiterals : List Text
  rejectedLiterals : List Text
  requiredRegexes : List Regex
  rejectedRegexes : List Regex

namespace ContentFilters

def accepts (filters : ContentFilters) (body : Text) : Except Exception Bool := do
  let bodyContains (text : Text) : Bool := (Search.findInfix text body).isSome
  let bodyMatches (pattern : Regex) : Except Exception Bool := pattern body
  if !filters.requiredLiterals.all bodyContains then return false
  if !(← filters.requiredRegexes.allM bodyMatches) then return false
  if filters.rejectedLiterals.any bodyContains then return false
  return !(← filters.rejectedRegexes.anyM bodyMatches)

end ContentFilters

/-- The failure of a stream with its exceptions enabled. -/
def streamFailure : Exception :=
  .runtimeError "basic_ios::clear: iostream error"

namespace HeadAction

def process (statusCode : ℕ) (candidate : Text) (file : FileOutcome) (outputs : Outputs) :
    Processed Unit :=
  if isSuccessStatus statusCode then
    let line := candidate ++ ['\n']
    match file with
    | .unusable =>
        { returned := .error streamFailure, outputs, events := [.storeFailed candidate] }
    | .writeThrows reached =>
        { returned := .error streamFailure
          outputs := { outputs with found := outputs.found ++ [line.take reached] }
          events := [.storeFailed candidate] }
    | .returns _ =>
        { returned := .ok ()
          outputs := { outputs with found := outputs.found ++ [line] }
          events := [.stored candidate] }
  else { returned := .ok (), outputs, events := [] }

end HeadAction

structure GetAction where
  pathDir : Text
  filters : ContentFilters

namespace GetAction

/-- The characters `[a-zA-Z0-9.-]`, which a file name keeps. -/
def isKept (element : Char) : Bool :=
  ('a' ≤ element && element ≤ 'z') || ('A' ≤ element && element ≤ 'Z') ||
    ('0' ≤ element && element ≤ '9') || element == '.' || element == '-'

/-- The file a candidate's body is written to. -/
def path (action : GetAction) (candidate : Text) : Text :=
  action.pathDir ++ ['/'] ++ candidate.map fun element => if isKept element then element else '_'

def writeOut (action : GetAction) (body candidate : Text) (file : FileOutcome)
    (outputs : Outputs) : Processed Unit :=
  let truncated (reached : ℕ) : Text → Option Text :=
    fun path => if path = action.path candidate then some (body.take reached) else outputs.files path
  match file with
  | .unusable =>
      { returned := .error streamFailure, outputs
        events := [.writeStarted candidate, .storeFailed candidate] }
  | .writeThrows reached =>
      { returned := .error streamFailure
        outputs := { outputs with files := truncated reached }
        events := [.writeStarted candidate, .storeFailed candidate] }
  | .returns reached =>
      { returned := .ok ()
        outputs :=
          { outputs with
            files := truncated reached
            stats := outputs.stats.recordBytesWritten body.length }
        events := [.writeStarted candidate, .bytesWritten body.length, .stored candidate] }

def process (action : GetAction) (statusCode : ℕ) (body candidate : Text) (file : FileOutcome)
    (outputs : Outputs) : Processed Unit :=
  if !isSuccessStatus statusCode then { returned := .ok (), outputs, events := [] }
  else
    match action.filters.accepts body with
    | .error failure => { returned := .error failure, outputs, events := [.filterFailed candidate] }
    | .ok false =>
        { returned := .ok ()
          outputs := { outputs with stats := outputs.stats.recordFiltered }
          events := [.filtered candidate] }
    | .ok true => action.writeOut body candidate file outputs

end GetAction

/-- `GetQuery` or `HeadQuery`, with its action. -/
inductive Query where
  | get (redirectPolicy : RedirectPolicy) (action : GetAction)
  | head (redirectPolicy : RedirectPolicy)

namespace Query

def redirectPolicy : Query → RedirectPolicy
  | get redirectPolicy _ => redirectPolicy
  | head redirectPolicy => redirectPolicy

def maxRedirects (query : Query) : ℕ :=
  query.redirectPolicy.maxRedirects

def process : Query → Response → Text → FileOutcome → Outputs → Processed Unit
  | get _ action, response, description, file, outputs =>
      action.process response.statusCode response.body description file outputs
  | head _, response, description, file, outputs =>
      HeadAction.process response.statusCode description file outputs

/-- `execute`, from the moment the response has been read. -/
def execute (query : Query) (response : Response) (description : Text) (file : FileOutcome)
    (outputs : Outputs) : Processed (Option Text) :=
  let recorded := { outputs with stats := outputs.stats.recordResponse response.statusCode }
  let processed := query.process response description file recorded
  { returned := processed.returned.map fun _ =>
      query.redirectPolicy.redirectTarget response.statusCode response.location description
    outputs := processed.outputs
    events := .answered description response :: processed.events }

/-- The response is successful and not filtered: what follows for its body or its line. -/
@[simp]
def keeps : Query → Event → ℕ
  | get _ _, .filterFailed _ => 1
  | get _ _, .writeStarted _ => 1
  | head _, .stored _ => 1
  | head _, .storeFailed _ => 1
  | _, _ => 0

end Query

open Pool (total)

/-- What every processing of a response keeps: its events account for what it did. -/
structure Processed.Balanced {α : Type} (processed : Processed α) (outputs : Outputs) : Prop where
  ofQuery : ∀ event ∈ processed.events, event.isOfQuery = true
  stats : processed.outputs.stats = outputs.stats + total Event.stats processed.events
  failures : total Event.processFailures processed.events =
    match processed.returned with
    | .error _ => 1
    | .ok _ => 0

section Balanced

variable {statusCode : ℕ} {body candidate : Text} {file : FileOutcome} {outputs : Outputs}

theorem GetAction.balanced_writeOut {action : GetAction} :
    (action.writeOut body candidate file outputs).Balanced outputs := by
  unfold writeOut
  cases file with
  | unusable => constructor <;> simp
  | writeThrows reached => constructor <;> simp
  | returns reached => constructor <;> simp [outputs.stats.recordBytesWritten_eq]

theorem GetAction.balanced_process {action : GetAction} :
    (action.process statusCode body candidate file outputs).Balanced outputs := by
  unfold process
  split
  · constructor <;> simp
  · split
    · constructor <;> simp
    · constructor <;> simp [outputs.stats.recordFiltered_eq]
    · exact balanced_writeOut

theorem HeadAction.balanced_process :
    (process statusCode candidate file outputs).Balanced outputs := by
  unfold process
  split
  · cases file <;> constructor <;> simp
  · constructor <;> simp

theorem Query.balanced_process {query : Query} {response : Response} :
    (query.process response candidate file outputs).Balanced outputs := by
  cases query with
  | get policy action => exact GetAction.balanced_process
  | head policy => exact HeadAction.balanced_process

theorem Query.balanced_execute {query : Query} {response : Response} :
    (query.execute response candidate file outputs).Balanced outputs := by
  have processed := @balanced_process candidate file
    { outputs with stats := outputs.stats.recordResponse response.statusCode } query response
  constructor
  · simpa [execute] using processed.ofQuery
  · rw [outputs.stats.recordResponse_eq] at processed
    simpa [execute, outputs.stats.recordResponse_eq, add_assoc] using processed.stats
  · have failures := processed.failures
    simp only [execute, Pool.total_cons, Event.processFailures, Nat.zero_add]
    rw [failures]
    cases (query.process response candidate file _).returned <;> rfl

/-- A weight that ignores the events of queries sees only what is behind them. -/
theorem Query.total_execute_append {M : Type} [AddCommMonoid M] (weight : Event → M)
    (ignores : ∀ event, event.isOfQuery = true → weight event = 0) {query : Query}
    {response : Response} {behind : List Event} :
    total weight ((query.execute response candidate file outputs).events ++ behind) =
      total weight behind := by
  have nothing : total weight (query.execute response candidate file outputs).events = 0 :=
    Pool.total_eq_zero fun event eventMem => ignores event (balanced_execute.ofQuery event eventMem)
  rw [Pool.total_append, nothing, zero_add]

theorem Query.total_answers {query : Query} {response : Response} :
    total Event.answers (query.execute response candidate file outputs).events = 1 := by
  cases query with
  | get policy action =>
      simp only [execute, process, GetAction.process]
      split
      · simp
      · split
        · simp
        · simp
        · unfold GetAction.writeOut
          cases file <;> simp
  | head policy =>
      simp only [execute, process, HeadAction.process]
      split
      · cases file <;> simp
      · simp

/-- A successful response is filtered, or something follows for it. -/
theorem Query.total_successes {query : Query} {response : Response} :
    total Event.successes (query.execute response candidate file outputs).events =
      total Event.filterings (query.execute response candidate file outputs).events +
        total query.keeps (query.execute response candidate file outputs).events := by
  cases query with
  | get policy action =>
      simp only [execute, process, GetAction.process]
      split
      · simp_all
      · split
        · simp_all
        · simp_all
        · unfold GetAction.writeOut
          cases file <;> simp_all
  | head policy =>
      simp only [execute, process, HeadAction.process]
      split
      · cases file <;> simp_all
      · simp_all

end Balanced

end Abrade
