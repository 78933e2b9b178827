import Abrade.Generator.Distinct
import Abrade.Scraper.Determinism

/-!
# The files of a run

`GetAction` names the file of a body after its target.  The name keeps letters,
digits, dots and hyphens only, so that targets can share a file; the URIs of one
pattern never do.
-/

namespace Abrade

open Pool (Effect)

namespace GetAction

/-- `regex_replace` with the pattern `[^a-zA-Z0-9.-]`. -/
def sanitized (element : Char) : Char :=
  if isKept element then element else '_'

theorem path_eq (action : GetAction) (target : Text) :
    action.path target = action.pathDir ++ ['/'] ++ target.map sanitized :=
  rfl

theorem isKept_of_isAlphanum {element : Char} (word : element.isAlphanum = true) :
    isKept element = true := by
  have ranges : (decide ('A' ≤ element ∧ element ≤ 'Z') || ('a' ≤ element && element ≤ 'z') ||
      ('0' ≤ element && element ≤ '9')) = true := word
  simp only [Bool.decide_and, Bool.or_eq_true] at ranges
  simp only [isKept, Bool.or_eq_true]
  rcases ranges with (upper | lower) | digit
  · exact .inl (.inl (.inl (.inr upper)))
  · exact .inl (.inl (.inl (.inl lower)))
  · exact .inl (.inl (.inr digit))

theorem isAlphanum_sanitized {element : Char} (outside : element.isAlphanum = false) :
    (sanitized element).isAlphanum = false := by
  unfold sanitized
  split
  · exact outside
  · rfl

/-- Different targets with the same separators in the same order have distinct files. -/
theorem eq_of_path_eq {action : GetAction} {target target' : Text}
    (separators : target.filter (!·.isAlphanum) = target'.filter (!·.isAlphanum))
    (same : action.path target = action.path target') : target = target' := by
  rw [path_eq, path_eq, List.append_cancel_left_eq] at same
  apply Decoding.eq_of_map_eq _ _ same separators
  · intro element word
    rw [sanitized, if_pos (isKept_of_isAlphanum word)]
  · exact fun element => isAlphanum_sanitized

end GetAction

/-- The separators of a URI are those of the literals, whatever words stand between them. -/
theorem filter_interleave {literals values : List Text}
    (lengths : literals.length = values.length + 1)
    (words : ∀ value ∈ values, ∀ element ∈ value, element.isAlphanum = true) :
    (interleave literals values).filter (!·.isAlphanum) =
      literals.flatten.filter (!·.isAlphanum) := by
  induction values generalizing literals with
  | nil =>
      rcases List.length_eq_one_iff.mp lengths with ⟨literal, rfl⟩
      simp [interleave]
  | cons value values ih =>
      cases literals with
      | nil => simp at lengths
      | cons literal literals =>
          rw [List.forall_mem_cons] at words
          have noSeparator : value.filter (!·.isAlphanum) = [] := by
            simpa using words.1
          simp only [interleave, List.flatten_cons, List.filter_append, noSeparator,
            ih (by simpa using lengths) words.2, List.append_nil]

namespace UriGenerator

theorem filter_of_mem_uris {leadZero telescoping : Bool} {literals : List Text}
    {forms : List Form} (lengths : literals.length = forms.length + 1) {uri : Text}
    (uriMem : uri ∈ uris leadZero telescoping literals forms) :
    uri.filter (!·.isAlphanum) = literals.flatten.filter (!·.isAlphanum) := by
  rcases List.mem_map.mp uriMem with ⟨chosen, chosenMem, rfl⟩
  have isChosen : Form.Chosen leadZero telescoping forms chosen :=
    Odometer.mem_cartesian_iff.mp chosenMem
  apply filter_interleave
  · rw [lengths, Form.length_shown isChosen]
  · exact Form.isAlphanum_of_mem_shown isChosen (by simp)

/-- Two different URIs of one generator are written to different files. -/
theorem path_ne_of_emitted {lexicalCast : Text → Option SizeT} {leadZero telescoping : Bool}
    {input : Text} {generator : UriGenerator}
    (accepted : new lexicalCast leadZero telescoping input = .ok generator)
    {call call' : ℕ} {uri uri' : Text} (emitted : Generator.nth generator call = .ok (some uri))
    (emitted' : Generator.nth generator call' = .ok (some uri')) (different : uri ≠ uri')
    (action : GetAction) : action.path uri ≠ action.path uri' := by
  rcases exists_forms_of_new accepted with ⟨pieces, tail, forms, -, -, lengths, -, emits⟩
  have uriMem := List.mem_of_getElem? (Except.ok.inj ((emits call).symm.trans emitted))
  have uriMem' := List.mem_of_getElem? (Except.ok.inj ((emits call').symm.trans emitted'))
  intro same
  apply different
  apply GetAction.eq_of_path_eq _ same
  rw [filter_of_mem_uris lengths uriMem, filter_of_mem_uris lengths uriMem']

theorem path_ne_of_emitted_of_example :
    (⟨"out".toList, ⟨[], [], [], []⟩⟩ : GetAction).path "/9_?x".toList ≠
      (⟨"out".toList, ⟨[], [], [], []⟩⟩ : GetAction).path "/10_?x".toList := by
  have accepted : new lexicalCastSize false false "/\x7b9:10\x7d_?x".toList =
      .ok { literalTokens := ["/".toList, "_?x".toList]
            ranges := [.explicit { start := 9, stop := 10, current := 9 }]
            isComplete := false } := by decide
  exact @path_ne_of_emitted _ false false _ _ accepted 0 1 _ _ rfl rfl (by decide) _

end UriGenerator

namespace GetAction

/-- The body of the response is to be kept. -/
def Accepts (action : GetAction) (response : Response) : Prop :=
  isSuccessStatus response.statusCode = true ∧ action.filters.accepts response.body = .ok true

end GetAction

namespace Query

variable {policy : RedirectPolicy} {action : GetAction} {response : Response} {target : Text}
  {file : FileOutcome} {outputs : Outputs}

theorem answered_not_mem_process {query : Query} (other : Text) (otherResponse : Response) :
    .answered other otherResponse ∉ (query.process response target file outputs).events := by
  cases query with
  | get policy action =>
      simp only [process, GetAction.process]
      split
      · simp
      · split
        · simp
        · simp
        · cases file <;> simp [GetAction.writeOut]
  | head policy =>
      simp only [process, HeadAction.process]
      split
      · cases file <;> simp
      · simp

theorem answered_mem_execute_iff {query : Query} {other : Text} {otherResponse : Response} :
    .answered other otherResponse ∈ (query.execute response target file outputs).events ↔
      other = target ∧ otherResponse = response := by
  simp only [execute, List.mem_cons, answered_not_mem_process, or_false, Event.answered.injEq]

/-- A kept body replaces what was in the file of its target, and nothing else. -/
theorem files_execute_of_accepts (accepts : action.Accepts response) :
    ((Query.get policy action).execute response target (.returns response.body.length)
        outputs).outputs.files =
      fun path => if path = action.path target then some response.body else outputs.files path := by
  simp [execute, process, GetAction.process, accepts.1, accepts.2, GetAction.writeOut]

theorem files_execute_of_not_accepts (rejects : ¬ action.Accepts response) :
    ((Query.get policy action).execute response target (.returns response.body.length)
        outputs).outputs.files = outputs.files := by
  simp only [execute, process, GetAction.process]
  split
  · rfl
  · next successful =>
      split
      · rfl
      · rfl
      · next accepted => exact absurd ⟨by simpa using successful, accepted⟩ rejects

end Query

namespace Coroutine

variable {G K : Type} [Generator G] [Controller K]

/-- A move after whose operations on files, which all succeed, a written body is there whole. -/
structure WholeMove (query : Query) (world : World G K) (coroutine : Coroutine)
    (events : List Event) (world' : World G K) (effect : Effect Coroutine) : Prop where
  move : Move query world coroutine events world' effect
  files : ∀ target response, .answered target response ∈ events →
    world'.outputs.files =
      (query.execute response target (.returns response.body.length) world.outputs).outputs.files

/-- A move reads no response and leaves the files alone, or it reads one. -/
theorem Move.answered_cases {query : Query} {world world' : World G K} {coroutine : Coroutine}
    {events : List Event} {effect : Effect Coroutine}
    (move : Move query world coroutine events world' effect) :
    ((∀ target response, .answered target response ∉ events) ∧
        world'.outputs.files = world.outputs.files) ∨
      ∃ target response, ∀ other otherResponse, .answered other otherResponse ∈ events ↔
        other = target ∧ otherResponse = response := by
  cases move with
  | @execute uri fetch response file executed next executes continues =>
      subst executes
      refine .inr ⟨fetch.current, response, ?_⟩
      intro other otherResponse
      have behind : .answered other otherResponse ∉ next.events uri := by
        cases next <;> simp [Continuation.events]
      rw [List.mem_append, or_iff_left behind, Query.answered_mem_execute_iff]
  | _ => simp [World.record, World.enter, World.leave, World.escape, World.complete]

theorem WholeMove.of_noAnswer {query : Query} {world world' : World G K} {coroutine : Coroutine}
    {events : List Event} {effect : Effect Coroutine}
    (move : Move query world coroutine events world' effect)
    (noAnswer : ∀ target response, .answered target response ∉ events) :
    WholeMove query world coroutine events world' effect :=
  ⟨move, fun target response answered => absurd answered (noAnswer target response)⟩

theorem WholeMove.execute {query : Query} {world : World G K} {uri : Text} {fetch : Fetch}
    {response : Response} {executed : Processed (Option Text)} {next : Continuation}
    (executes : query.execute response fetch.current (.returns response.body.length)
      world.outputs = executed)
    (continues : continuation query fetch executed.returned = next) :
    WholeMove query world (reading uri fetch) (executed.events ++ next.events uri)
      ({ world with outputs := executed.outputs }.record next.update)
      (.goto (next.coroutine uri)) := by
  refine ⟨.execute executes continues, ?_⟩
  intro target other answered
  subst executes
  have behind : .answered target other ∉ next.events uri := by
    cases next <;> simp [Continuation.events]
  rw [List.mem_append, or_iff_left behind, Query.answered_mem_execute_iff] at answered
  rcases answered with ⟨rfl, rfl⟩
  rfl

end Coroutine

namespace Scraper

variable {G K : Type} [Generator G] [Controller K]

/-- Runs in which every operation on an output file succeeds. -/
abbrev WholeRun (query : Query) : State G K → List Event → State G K → Prop :=
  Transition.Run (Pool.Step (Coroutine.WholeMove query))

/-- Where a body was to be kept, there is a file, with a body kept under the same name. -/
def FilesKept (action : GetAction) (trace : List Event) (files : Text → Option Text) : Prop :=
  ∀ target response, .answered target response ∈ trace → action.Accepts response →
    ∃ other otherResponse, .answered other otherResponse ∈ trace ∧ action.Accepts otherResponse ∧
      action.path other = action.path target ∧
      files (action.path target) = some otherResponse.body

theorem FilesKept.of_move {policy : RedirectPolicy} {action : GetAction} {world world' : World G K}
    {coroutine : Coroutine} {events trace : List Event} {effect : Effect Coroutine}
    (kept : FilesKept action trace world.outputs.files)
    (whole : Coroutine.WholeMove (.get policy action) world coroutine events world' effect) :
    FilesKept action (trace ++ events) world'.outputs.files := by
  intro target response answered accepts
  rw [List.mem_append] at answered
  rcases whole.move.answered_cases with ⟨noAnswer, sameFiles⟩ | ⟨current, answer, answers⟩
  · rcases answered with before | now
    · rcases kept target response before accepts with ⟨other, answer, answered, rest⟩
      exact ⟨other, answer, List.mem_append_left _ answered, by rwa [sameFiles]⟩
    · exact absurd now (noAnswer target response)
  · have files := whole.files current answer ((answers current answer).mpr ⟨rfl, rfl⟩)
    have isNow : .answered current answer ∈ trace ++ events :=
      List.mem_append_right _ ((answers current answer).mpr ⟨rfl, rfl⟩)
    by_cases acceptsNow : action.Accepts answer
    · rw [Query.files_execute_of_accepts acceptsNow] at files
      by_cases shared : action.path target = action.path current
      · exact ⟨current, answer, isNow, acceptsNow, shared.symm, by simp [files, shared]⟩
      · rcases answered with before | now
        · rcases kept target response before accepts with ⟨other, earlier, answered, rest⟩
          exact ⟨other, earlier, List.mem_append_left _ answered,
            by simpa [files, shared] using rest⟩
        · rcases (answers target response).mp now with ⟨rfl, -⟩
          exact absurd rfl shared
    · rw [Query.files_execute_of_not_accepts acceptsNow] at files
      rcases answered with before | now
      · rcases kept target response before accepts with ⟨other, earlier, answered, rest⟩
        exact ⟨other, earlier, List.mem_append_left _ answered, by rwa [files]⟩
      · rcases (answers target response).mp now with ⟨rfl, rfl⟩
        exact absurd accepts acceptsNow

theorem filesKept_of_run {policy : RedirectPolicy} {action : GetAction} {generator : G}
    {controller : K} {trace : List Event} {finish : State G K}
    (run : WholeRun (.get policy action) (initial generator controller) trace finish) :
    FilesKept action trace finish.world.outputs.files := by
  refine @Transition.Run.invariant _ _ _ _ _ _
    (fun trace state => FilesKept action trace state.world.outputs.files) ?_ ?_ run
  · intro target response answered
    cases answered
  · intro trace state events next kept step
    cases step with
    | move moves => exact FilesKept.of_move kept moves

/--
When every operation on an output file succeeds, the file of each kept body is
there and has a body kept under the same name; all kept bodies are there,
exactly when those that share a name are equal.
-/
theorem files_of_whole_run {policy : RedirectPolicy} {action : GetAction} {generator : G}
    {controller : K} {trace : List Event} {finish : State G K}
    (run : WholeRun (.get policy action) (initial generator controller) trace finish) :
    FilesKept action trace finish.world.outputs.files ∧
      ((∀ target response, .answered target response ∈ trace → action.Accepts response →
          finish.world.outputs.files (action.path target) = some response.body) ↔
        ∀ target response other otherResponse, .answered target response ∈ trace →
          .answered other otherResponse ∈ trace → action.Accepts response →
          action.Accepts otherResponse → action.path target = action.path other →
          response.body = otherResponse.body) := by
  have kept := filesKept_of_run run
  refine ⟨kept, ?_, ?_⟩
  · intro nothingLost target response other otherResponse answered answered' accepts accepts' shared
    have content := nothingLost target response answered accepts
    rw [shared, nothingLost other otherResponse answered' accepts'] at content
    exact (Option.some.inj content).symm
  · intro agree target response answered accepts
    rcases kept target response answered accepts with
      ⟨other, otherResponse, answered', accepts', shared, content⟩
    rw [content, agree other otherResponse target response answered' answered accepts' accepts
      shared]

/-- Two candidates that differ in a separator, each answered with itself, and what is left. -/
theorem exists_run_with_shared_name :
    ∃ trace finish,
      WholeRun (.get ⟨false, 5, [], []⟩ ⟨"out".toList, ⟨[], [], [], []⟩⟩)
        (initial ({ stdin := "/a?b\n/a/b\n".toList } : StdinGenerator)
          (FixedController.new 1 1000 0))
        trace finish ∧ finish.processes = 0 ∧
      (∀ event ∈ trace, event.AgreesWith fun target => some ⟨200, [], target⟩) ∧
      .answered "/a?b".toList ⟨200, [], "/a?b".toList⟩ ∈ trace ∧
      .answered "/a/b".toList ⟨200, [], "/a/b".toList⟩ ∈ trace ∧
      ∀ path content, finish.world.outputs.files path = some content →
        content = "/a/b".toList := by
  refine ⟨_, _, ((((((((((((((((.refl : WholeRun _ (initial _ _) [] _).step
    (Pool.step_goto (.of_noAnswer .start (by simp)))).step
    (Pool.step_goto (.of_noAnswer
      (@Coroutine.Move.take _ _ _ _ _ _ _ "/a?b".toList rfl) (by simp)))).step
    (Pool.step_goto (.of_noAnswer (.noSpawn (by decide)) (by simp)))).step
    (Pool.step_goto (.of_noAnswer .hand (by simp)))).step
    (Pool.step_goto (.of_noAnswer .connect (by simp)))).step
    (Pool.step_goto (.of_noAnswer .write (by simp)))).step
    (Pool.step_goto (@Coroutine.WholeMove.execute _ _ _ _ _ _ _ _ ⟨200, [], "/a?b".toList⟩
      ⟨.ok none, _, [.answered _ _, .writeStarted _, .bytesWritten 4, .stored _]⟩ .returned
      rfl rfl))).step
    (Pool.step_goto (.of_noAnswer (@Coroutine.Move.stay _ _ _ _ _ _ 0 (by decide))
      (by simp)))).step
    (Pool.step_goto (.of_noAnswer
      (@Coroutine.Move.take _ _ _ _ _ _ _ "/a/b".toList rfl) (by simp)))).step
    (Pool.step_goto (.of_noAnswer (.noSpawn (by decide)) (by simp)))).step
    (Pool.step_goto (.of_noAnswer .hand (by simp)))).step
    (Pool.step_goto (.of_noAnswer .connect (by simp)))).step
    (Pool.step_goto (.of_noAnswer .write (by simp)))).step
    (Pool.step_goto (@Coroutine.WholeMove.execute _ _ _ _ _ _ _ _ ⟨200, [], "/a/b".toList⟩
      ⟨.ok none, _, [.answered _ _, .writeStarted _, .bytesWritten 4, .stored _]⟩ .returned
      rfl rfl))).step
    (Pool.step_goto (.of_noAnswer (@Coroutine.Move.stay _ _ _ _ _ _ 0 (by decide))
      (by simp)))).step
    (Pool.step_finish (.of_noAnswer (.exhausted rfl) (by simp))), rfl, ?_, ?_, ?_, ?_⟩
  · simp [Coroutine.Continuation.events, Event.AgreesWith, Fetch.start]
  · simp [Fetch.start]
  · simp [Fetch.start]
  · -- Both bodies went to the same name, and the second one replaced the first.
    intro path content stored
    change (if path = "out/_a_b".toList then some "/a/b".toList
      else if path = "out/_a_b".toList then some "/a?b".toList else none) = some content at stored
    split_ifs at stored
    exact (Option.some.inj stored).symm

theorem files_of_whole_run_of_example :
    ∃ trace finish,
      WholeRun (.get ⟨false, 5, [], []⟩ ⟨"out".toList, ⟨[], [], [], []⟩⟩)
        (initial ({ stdin := "/a?b\n/a/b\n".toList } : StdinGenerator)
          (FixedController.new 1 1000 0))
        trace finish ∧
      finish.processes = 0 ∧
      .answered "/a?b".toList ⟨200, [], "/a?b".toList⟩ ∈ trace ∧
      .answered "/a/b".toList ⟨200, [], "/a/b".toList⟩ ∈ trace ∧
      FilesKept ⟨"out".toList, ⟨[], [], [], []⟩⟩ trace finish.world.outputs.files := by
  rcases exists_run_with_shared_name with
    ⟨trace, finish, run, empty, -, answered, answered', -⟩
  exact ⟨trace, finish, run, empty, answered, answered', (files_of_whole_run run).1⟩

/-- Both bodies are kept in `_a_b`, and the first of them is in no file at the end. -/
theorem shared_name_loses_body :
    ¬ ∀ (generator : StdinGenerator) (controller : FixedController) (policy : RedirectPolicy)
        (action : GetAction) (server : Server) (trace : List Event)
        (finish : State StdinGenerator FixedController),
      WholeRun (.get policy action) (initial generator controller) trace finish →
      (∀ event ∈ trace, event.AgreesWith server) → finish.processes = 0 →
      ∀ target response, .answered target response ∈ trace → action.Accepts response →
        ∃ path, finish.world.outputs.files path = some response.body := by
  intro claimed
  rcases exists_run_with_shared_name with
    ⟨trace, finish, run, empty, agrees, answered, -, stored⟩
  rcases claimed _ _ _ _ _ trace finish run agrees empty _ _ answered ⟨rfl, rfl⟩ with
    ⟨path, content⟩
  exact absurd (stored path _ content) (by decide)

end Scraper

end Abrade
