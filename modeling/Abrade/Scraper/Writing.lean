import Abrade.Scraper.Files

/-!
# Writing a body

`GetAction::write_out` over a file that may refuse bytes at any point.  What
`write` leaves in the buffer of the stream reaches the file when the destructor
closes it, which discards errors.
-/

namespace Abrade

/-- A file, and the stream that `write_out` opens on it. -/
structure OutputFile where
  opens : Bool
  /-- How many bytes the file takes before it refuses. -/
  capacity : ℕ
  /-- How many bytes of a write leave the buffer of the stream before the write returns. -/
  drained : ℕ → ℕ
  drained_le : ∀ size, drained size ≤ size

namespace OutputFile

/-- `open` and `write`, with exceptions enabled, and the destructor of the stream. -/
def outcome (file : OutputFile) (size : ℕ) : FileOutcome :=
  if !file.opens then .unusable
  else if file.capacity < file.drained size then .writeThrows file.capacity
  else .returns (min size file.capacity)

/-- The write leaves more in the buffer than the file is going to take. -/
def LosesBuffered (file : OutputFile) (size : ℕ) : Prop :=
  file.opens = true ∧ file.drained size ≤ file.capacity ∧ file.capacity < size

theorem outcome_of_loses {file : OutputFile} {size : ℕ} (loses : file.LosesBuffered size) :
    file.outcome size = .returns file.capacity := by
  rcases loses with ⟨opens, buffered, refused⟩
  have partly : min size file.capacity = file.capacity := Nat.min_eq_right (Nat.le_of_lt refused)
  rw [outcome, opens, if_neg (by simp), if_neg (Nat.not_lt.mpr buffered), partly]

theorem outcome_of_not_loses {file : OutputFile} {size : ℕ} (keeps : ¬ file.LosesBuffered size) :
    file.outcome size = .returns size ∨ file.outcome size = .unusable ∨
      file.outcome size = .writeThrows file.capacity := by
  unfold outcome
  split_ifs with closed refused
  · exact .inr (.inl rfl)
  · exact .inr (.inr rfl)
  · left
    have whole : size ≤ file.capacity := by
      by_contra short
      exact keeps ⟨by simpa using closed, Nat.not_lt.mp refused, Nat.not_le.mp short⟩
    rw [Nat.min_eq_left whole]

end OutputFile

namespace GetAction

section Writing

variable {action : GetAction} {response : Response} {target : Text} {outputs : Outputs}
  {file : OutputFile}

/-- All of the body is in the file, and its bytes are counted. -/
def Stores (action : GetAction) (response : Response) (target : Text) (file : OutputFile)
    (outputs : Outputs) : Prop :=
  let processed := action.process response.statusCode response.body target
    (file.outcome response.body.length) outputs
  processed.returned = .ok () ∧ processed.outputs.files (action.path target) = some response.body ∧
    processed.outputs.stats = outputs.stats.recordBytesWritten response.body.length

/-- An exception is thrown with nothing counted, and the scraper records an error for it. -/
def Throws (action : GetAction) (response : Response) (target : Text) (file : OutputFile)
    (outputs : Outputs) : Prop :=
  let processed := action.process response.statusCode response.body target
    (file.outcome response.body.length) outputs
  (∃ failure, processed.returned = .error failure) ∧ processed.outputs.stats = outputs.stats ∧
    ∀ policy fetch, Coroutine.continuation (.get policy action) fetch
      ((Query.get policy action).execute response target (file.outcome response.body.length)
        outputs).returned = .threw

theorem process_of_accepts (accepts : action.Accepts response) (ends : FileOutcome) :
    action.process response.statusCode response.body target ends outputs =
      action.writeOut response.body target ends outputs := by
  simp [process, accepts.1, accepts.2]

theorem continuation_of_accepts (accepts : action.Accepts response) {ends : FileOutcome}
    {failure : Exception}
    (throws : ∀ outputs, (action.writeOut response.body target ends outputs).returned =
      .error failure) (policy : RedirectPolicy) (fetch : Fetch) :
    Coroutine.continuation (.get policy action) fetch
      ((Query.get policy action).execute response target ends outputs).returned = .threw := by
  have processed := throws
    { outputs with stats := outputs.stats.recordResponse response.statusCode }
  rw [← process_of_accepts accepts] at processed
  simp only [Query.execute, Query.process, processed]
  rfl

theorem not_stores_or_throws (accepts : action.Accepts response)
    (loses : file.LosesBuffered response.body.length) :
    ¬ (action.Stores response target file outputs ∨
      action.Throws response target file outputs) := by
  have ends := OutputFile.outcome_of_loses loses
  unfold Stores Throws
  simp only [process_of_accepts accepts, ends]
  rintro (⟨-, stored, -⟩ | ⟨⟨failure, throws⟩, -⟩)
  · simp only [writeOut, if_true, Option.some.injEq] at stored
    have length := congrArg List.length stored
    have short := loses.2.2
    rw [List.length_take] at length
    omega
  · simp [writeOut] at throws

/-- An accepted body is stored or reported, unless the closing stream loses a part of it. -/
theorem stores_or_throws_iff (accepts : action.Accepts response) :
    action.Stores response target file outputs ∨ action.Throws response target file outputs ↔
      ¬ file.LosesBuffered response.body.length := by
  constructor
  · intro fine loses
    exact not_stores_or_throws accepts loses fine
  · intro keeps
    unfold Stores Throws
    simp only [process_of_accepts accepts]
    rcases OutputFile.outcome_of_not_loses keeps with ends | ends | ends
    · left
      rw [ends]
      refine ⟨rfl, ?_, rfl⟩
      simp [writeOut]
    · right
      rw [ends]
      exact ⟨⟨streamFailure, rfl⟩, rfl, continuation_of_accepts accepts fun _ => rfl⟩
    · right
      rw [ends]
      exact ⟨⟨streamFailure, rfl⟩, rfl, continuation_of_accepts accepts fun _ => rfl⟩

/-- An action without filters. -/
def unfiltered : GetAction where
  pathDir := ['.']
  filters :=
    { requiredLiterals := [], rejectedLiterals := [], requiredRegexes := [], rejectedRegexes := [] }

def shortResponse : Response where
  statusCode := 200
  location := []
  body := ['x']

/-- A file that leaves a short write in the buffer of its stream. -/
def bufferedFile (capacity : ℕ) : OutputFile where
  opens := true
  capacity := capacity
  drained _ := 0
  drained_le := Nat.zero_le

theorem unfiltered_accepts : unfiltered.Accepts shortResponse :=
  ⟨rfl, rfl⟩

/-- An action that keeps bodies with a text in them. -/
def requiring (text : Text) : GetAction where
  pathDir := "out".toList
  filters :=
    { requiredLiterals := [text], rejectedLiterals := [], requiredRegexes := []
      rejectedRegexes := [] }

def longResponse : Response where
  statusCode := 200
  location := []
  body := "abcdefgh".toList

/-- A stream that writes full buffers of three bytes, and the rest when it is closed. -/
def blockFile (capacity : ℕ) : OutputFile where
  opens := true
  capacity := capacity
  drained size := size / 3 * 3
  drained_le size := Nat.div_mul_le_self size 3

theorem requiring_accepts : (requiring "cde".toList).Accepts longResponse :=
  ⟨rfl, rfl⟩

/-- Six bytes leave the buffer during the write, and the other two behind it. -/
theorem short_body_stored :
    (blockFile 8).drained longResponse.body.length = 6 ∧
      ((requiring "cde".toList).Stores longResponse "/a".toList (blockFile 8)
          { stats := 0, found := [], files := fun _ => none } ∨
        (requiring "cde".toList).Throws longResponse "/a".toList (blockFile 8)
          { stats := 0, found := [], files := fun _ => none }) := by
  refine ⟨rfl, (stores_or_throws_iff requiring_accepts).mpr ?_⟩
  rintro ⟨-, -, short⟩
  exact absurd short (by decide)

/-- A full disk refuses the byte that waits in the buffer, and nothing reports it. -/
theorem full_disk_unreported :
    ¬ ∀ (action : GetAction) (response : Response) (target : Text) (file : OutputFile)
      (outputs : Outputs), action.Accepts response →
        action.Stores response target file outputs ∨
          action.Throws response target file outputs := by
  intro claimed
  exact not_stores_or_throws unfiltered_accepts ⟨rfl, Nat.le_refl 0, by decide⟩
    (claimed unfiltered shortResponse ['/', 'a'] (bufferedFile 0)
      { stats := 0, found := [], files := fun _ => none } unfiltered_accepts)

end Writing

end GetAction

end Abrade
