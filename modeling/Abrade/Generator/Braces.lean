import Abrade.Generator.Construction

/-!
# Unmatched braces

Reading the braces from left to right, the constructor misses one kind of
mismatch: it looks for a stray closing brace only behind the last form, so a
closing brace in a literal before a form is taken as plain text.
-/

namespace Abrade

/-- Whether the braces match, read from the left with a form open or not. -/
def properlyMatched : Bool → Text → Bool
  | isOpen, [] => !isOpen
  | isOpen, '{' :: rest => !isOpen && properlyMatched true rest
  | isOpen, '}' :: rest => isOpen && properlyMatched false rest
  | isOpen, _ :: rest => properlyMatched isOpen rest

theorem properlyMatched_cons {element : Char} (noOpening : element ≠ '{')
    (noClosing : element ≠ '}') (isOpen : Bool) (rest : Text) :
    properlyMatched isOpen (element :: rest) = properlyMatched isOpen rest := by
  rw [properlyMatched]
  · exact noOpening
  · exact noClosing

theorem properlyMatched_append {text : Text} (noOpening : '{' ∉ text) (noClosing : '}' ∉ text)
    (isOpen : Bool) (rest : Text) :
    properlyMatched isOpen (text ++ rest) = properlyMatched isOpen rest := by
  induction text with
  | nil => rfl
  | cons element text ih =>
      simp only [List.mem_cons, not_or] at noOpening noClosing
      rw [List.cons_append,
        properlyMatched_cons (Ne.symm noOpening.1) (Ne.symm noClosing.1)]
      exact ih noOpening.2 noClosing.2

theorem properlyMatched_stray {literal : Text} (noOpening : '{' ∉ literal)
    (closing : '}' ∈ literal) (rest : Text) : properlyMatched false (literal ++ rest) = false := by
  rcases List.eq_append_cons_of_mem closing with ⟨before, after, rfl, noClosing⟩
  have noOpeningBefore : '{' ∉ before := fun opening => noOpening (by simp [opening])
  rw [List.append_assoc, properlyMatched_append noOpeningBefore noClosing]
  rfl

/-- The braces of a split input match exactly when no literal before a form has a closing one. -/
theorem Splits.properlyMatched_iff {input tail : Text} {pieces : List (Text × Text)}
    (split : Splits input pieces tail) (bodiesClean : ∀ piece ∈ pieces, '{' ∉ piece.2) :
    properlyMatched false input = true ↔ ∀ piece ∈ pieces, '}' ∉ piece.1 := by
  induction split with
  | @tail text noOpening noClosing =>
      have scanned := properlyMatched_append noOpening noClosing false []
      rw [List.append_nil] at scanned
      simp [scanned, properlyMatched]
  | @form literal body rest tail pieces noOpening noClosing split ih =>
      have bodyClean : '{' ∉ body := bodiesClean (literal, body) (by simp)
      have restClean := ih fun piece pieceMem => bodiesClean piece (by simp [pieceMem])
      by_cases stray : '}' ∈ literal
      · simp [properlyMatched_stray noOpening stray, stray]
      · rw [properlyMatched_append noOpening stray]
        have opened : properlyMatched false ('{' :: (body ++ '}' :: rest)) =
            properlyMatched true (body ++ '}' :: rest) := rfl
        have closed : properlyMatched true ('}' :: rest) = properlyMatched false rest := rfl
        rw [opened, properlyMatched_append bodyClean noClosing, closed, restClean]
        simp [stray]

theorem decimalSize_numeral {digits : Text} {value : SizeT}
    (cast : decimalSize digits = some value) : ∀ element ∈ digits, element.isDigit := by
  simp only [decimalSize] at cast
  split at cast
  · next numeral => exact List.all_eq_true.mp numeral.2.1
  · cases cast

theorem lexicalCastSize_numeral {token : Text} {value : SizeT}
    (cast : lexicalCastSize token = some value) :
    ∀ element ∈ token, element = '+' ∨ element = '-' ∨ element.isDigit := by
  unfold lexicalCastSize at cast
  split at cast
  · rcases Option.map_eq_some_iff.mp cast with ⟨magnitude, cast, -⟩
    simpa using fun element elementMem =>
      Or.inr (Or.inr (decimalSize_numeral cast element elementMem))
  · simpa using fun element elementMem =>
      Or.inr (Or.inr (decimalSize_numeral cast element elementMem))
  · exact fun element elementMem => Or.inr (Or.inr (decimalSize_numeral cast element elementMem))

namespace Form

theorem opening_unknown {domain : Text} : getDomain '{' ≠ .ok domain := by
  have unknown : getDomain '{' =
      .error (.runtimeError ("Unknown implicit range element: " ++ '{'.toString)) := by decide
  simp [unknown]

theorem Reads.noOpening {lexicalCast : Text → Option SizeT} {body : Text} {form : Form}
    (numeral : ∀ token value, lexicalCast token = some value →
      ∀ element ∈ token, element = '+' ∨ element = '-' ∨ element.isDigit)
    (reads : Reads lexicalCast body form) : '{' ∉ body := by
  have noBrace {token : Text} {value : SizeT} (cast : lexicalCast token = some value) :
      '{' ∉ token := by
    intro opening
    exact absurd (numeral token value cast '{' opening) (by decide)
  cases reads with
  | continuation => simp
  | @explicit before after first last noColon start stop ordered =>
      have inBefore := noBrace start
      have inAfter : '{' ∉ after := by
        simpa using noBrace stop
      simp [inBefore, inAfter]
  | implicit nonempty noColon known =>
      intro opening
      rcases known '{' opening with ⟨domain, found⟩
      exact opening_unknown found

end Form

section Failure

variable {lexicalCast : Text → Option SizeT} {leadZero telescoping : Bool}

theorem ImplicitRange.new_eq_error {pattern : Text} {failure : Exception}
    (failed : ImplicitRange.new pattern leadZero = .error failure) :
    ∃ what, failure = .runtimeError what := by
  rcases Except.bind_eq_error_iff.mp failed with failed | ⟨domains, -, failed⟩
  · rcases Except.exists_of_mapM_eq_error failed with ⟨symbol, -, unknown⟩
    unfold getDomain at unknown
    split at unknown
    · cases unknown
      exact ⟨_, rfl⟩
    · cases unknown
  · cases failed

theorem TelescopingRange.new_eq_error {pattern : Text} {failure : Exception}
    (failed : TelescopingRange.new pattern leadZero = .error failure) :
    ∃ what, failure = .runtimeError what := by
  rcases Except.bind_eq_error_iff.mp failed with failed | ⟨ranges, -, failed⟩
  · rcases Except.exists_of_mapM_eq_error failed with ⟨offset, offsetMem, failed⟩
    simp only [substr_suffix (List.mem_range.mp offsetMem), Except.ok_bind] at failed
    exact ImplicitRange.new_eq_error failed
  · cases failed

namespace UriGenerator

theorem parseEndpoint_eq_error {token : Text} {failure : Exception}
    (failed : parseEndpoint lexicalCast token = .error failure) :
    ∃ what, failure = .runtimeError what := by
  unfold parseEndpoint at failed
  split at failed
  · cases failed
    exact ⟨_, rfl⟩
  · cases failed

theorem makeRange_eq_error {ranges : List Range} {pattern : Pattern} {failure : Exception}
    (failed : makeRange lexicalCast leadZero telescoping ranges pattern = .error failure) :
    ∃ what, failure = .runtimeError what := by
  unfold makeRange at failed
  split at failed
  · rcases Except.bind_eq_error_iff.mp failed with failed | ⟨start, -, failed⟩
    · exact parseEndpoint_eq_error failed
    · rcases Except.bind_eq_error_iff.mp failed with failed | ⟨stop, -, failed⟩
      · exact parseEndpoint_eq_error failed
      · rcases Except.bind_eq_error_iff.mp failed with failed | ⟨range, -, failed⟩
        · unfold ExplicitRange.new at failed
          split at failed
          · cases failed
            exact ⟨_, rfl⟩
          · cases failed
        · cases failed
  · split at failed
    · exact TelescopingRange.new_eq_error (Except.map_eq_error_iff.mp failed)
    · exact ImplicitRange.new_eq_error (Except.map_eq_error_iff.mp failed)
  · split at failed
    · cases failed
      exact ⟨_, rfl⟩
    · cases failed

theorem newFrom_eq_error {before rest : Text} {fuel : ℕ} (enough : rest.length < fuel)
    {literals : List Text} {ranges : List Range} {failure : Exception}
    (failed : newFrom lexicalCast leadZero telescoping (before ++ rest) fuel before.length
      literals ranges = .error failure) : ∃ what, failure = .runtimeError what := by
  induction fuel generalizing before rest literals ranges with
  | zero => omega
  | succ fuel ih =>
      cases ahead rest with
      | clean noOpening noClosing => simp [newFrom_clean noOpening noClosing] at failed
      | stray noOpening closing =>
          rw [newFrom, parseNextPattern_stray noOpening closing, Except.error_bind] at failed
          cases failed
          exact ⟨_, rfl⟩
      | unclosed noOpening noClosing =>
          rw [newFrom, parseNextPattern_unclosed noOpening noClosing,
            Except.error_bind] at failed
          cases failed
          exact ⟨_, rfl⟩
      | @form literal body rest noOpening noClosing =>
          rw [newFrom_form noOpening noClosing] at failed
          rcases Except.bind_eq_error_iff.mp failed with failed | ⟨range, -, failed⟩
          · exact makeRange_eq_error failed
          · refine ih ?_ failed
            simp only [List.length_append, List.length_cons] at enough
            omega

theorem new_eq_error {input : Text} {failure : Exception}
    (failed : new lexicalCast leadZero telescoping input = .error failure) :
    ∃ what, failure = .runtimeError what := by
  have followed := @newFrom_eq_error lexicalCast leadZero telescoping [] input
    (input.length + 1) (by omega) [] [] failure
  exact followed (by simpa [new] using failed)

/-- A closing brace before the first form closes nothing, and the constructor accepts it. -/
theorem stray_closing_brace_accepted :
    ¬ (properlyMatched false "\x7d\x7b1:2\x7d".toList = false →
      ∃ failure, new lexicalCastSize false false "\x7d\x7b1:2\x7d".toList = .error failure) := by
  have accepted : new lexicalCastSize false false "\x7d\x7b1:2\x7d".toList =
      .ok { literalTokens := ["\x7d".toList, []]
            ranges := [.explicit { start := 1, stop := 2, current := 1 }]
            isComplete := false } := by decide
  rw [accepted]
  simp [properlyMatched]

/--
Unmatched braces make the constructor throw, unless the input splits into
literals and readable bodies with a closing brace in a literal before a body.
-/
theorem unmatched_throws_iff
    (numeral : ∀ token value, lexicalCast token = some value →
      ∀ element ∈ token, element = '+' ∨ element = '-' ∨ element.isDigit) (input : Text) :
    (properlyMatched false input = false →
        ∃ what, new lexicalCast leadZero telescoping input = .error (.runtimeError what)) ↔
      ∀ pieces tail forms, Splits input pieces tail →
        List.Forall₂ (fun piece form => Form.Reads lexicalCast piece.2 form) pieces forms →
        forms.head? ≠ some .continuation → ∀ piece ∈ pieces, '}' ∉ piece.1 := by
  have bodiesClean {pieces : List (Text × Text)} {forms : List Form}
      (read : List.Forall₂ (fun piece form => Form.Reads lexicalCast piece.2 form) pieces forms) :
      ∀ piece ∈ pieces, '{' ∉ piece.2 := by
    induction read with
    | nil => simp
    | cons reads _ ih =>
        rw [List.forall_mem_cons]
        exact ⟨reads.noOpening numeral, ih⟩
  constructor
  · intro throws pieces tail forms split read first
    by_contra stray
    have unmatched : properlyMatched false input = false := by
      rw [Bool.eq_false_iff]
      exact fun isMatched => stray ((split.properlyMatched_iff (bodiesClean read)).mp isMatched)
    rcases throws unmatched with ⟨what, failed⟩
    have accepted := (@new_eq_ok_iff lexicalCast leadZero telescoping _ _).mpr
      ⟨pieces, tail, forms, split, read, first, rfl⟩
    rw [failed] at accepted
    cases accepted
  · intro clean unmatched
    rcases built : new lexicalCast leadZero telescoping input with failure | generator
    · rcases new_eq_error built with ⟨what, rfl⟩
      exact ⟨what, rfl⟩
    · rcases new_eq_ok_iff.mp built with ⟨pieces, tail, forms, split, read, first, -⟩
      have isMatched := (split.properlyMatched_iff (bodiesClean read)).mpr
        (clean pieces tail forms split read first)
      rw [isMatched] at unmatched
      cases unmatched

/-- A form that is never closed throws. -/
theorem unmatched_throws_iff_of_example :
    (properlyMatched false "/\x7bd".toList = false →
        ∃ what, new lexicalCastSize false false "/\x7bd".toList = .error (.runtimeError what)) ↔
      ∀ pieces tail forms, Splits "/\x7bd".toList pieces tail →
        List.Forall₂ (fun piece form => Form.Reads lexicalCastSize piece.2 form) pieces forms →
        forms.head? ≠ some .continuation → ∀ piece ∈ pieces, '}' ∉ piece.1 :=
  unmatched_throws_iff (fun _ _ cast => lexicalCastSize_numeral cast) _

end UriGenerator

end Failure

end Abrade
