import Abrade.Generator.Cardinality
import Abrade.Generator.Rendering
import Abrade.Library.Decoding
import Mathlib.Data.Finset.Card

/-!
# Distinct URIs

The values of every form are letters and digits.  Where literals that start
with something else stand between the forms, a URI can therefore be taken apart
again, and no URI is emitted twice.
-/

namespace Abrade

namespace Form

section Values

variable {leadZero telescoping : Bool} {form : Form} {own : List Text}

theorem isAlphanum_of_mem_toDigits {number : ℕ} {element : Char}
    (elementMem : element ∈ Nat.toDigits 10 number) : element.isAlphanum = true := by
  have digit := Nat.isDigit_of_mem_toDigits (by decide) (by decide) elementMem
  simp [Char.isAlphanum, digit]

theorem isAlphanum_of_mem_values (hasValues : form.values leadZero telescoping = some own)
    {value : Text} (valueMem : value ∈ own) : ∀ element ∈ value, element.isAlphanum = true := by
  cases form with
  | explicit first last =>
      cases hasValues
      rcases List.mem_map.mp valueMem with ⟨number, -, rfl⟩
      exact fun element => isAlphanum_of_mem_toDigits
  | implicit symbols =>
      cases hasValues
      cases telescoping with
      | false => exact isAlphanum_of_mem_implicitValues valueMem
      | true =>
          rcases List.mem_flatMap.mp valueMem with ⟨length, -, valueMem⟩
          exact isAlphanum_of_mem_implicitValues valueMem
  | continuation => cases hasValues

theorem toDigits_injective : Function.Injective (Nat.toDigits 10) := by
  intro number number' same
  rw [← @Nat.ofDigitChars_ten_toDigits number, same, Nat.ofDigitChars_ten_toDigits]

theorem nodup_values (hasValues : form.values leadZero false = some own) : own.Nodup := by
  cases form with
  | explicit first last =>
      cases hasValues
      exact List.Nodup.map toDigits_injective (List.nodup_range' ..)
  | implicit symbols =>
      cases hasValues
      exact nodup_implicitValues leadZero symbols
  | continuation => cases hasValues

end Values

section Shown

variable {leadZero telescoping : Bool} {forms : List Form} {chosen chosen' : List Text}

/-- The chosen values are one for each form that has any. -/
def Chosen (leadZero telescoping : Bool) (forms : List Form) (chosen : List Text) : Prop :=
  List.Forall₂ (· ∈ ·) chosen (forms.filterMap (values leadZero telescoping))

/-- A choice for a form with values in front is a value of it and a choice for the others. -/
theorem Chosen.of_own {form : Form} {own : List Text}
    (hasOwn : form.values leadZero telescoping = some own)
    (chosenMem : Chosen leadZero telescoping (form :: forms) chosen) :
    ∃ value rest, chosen = value :: rest ∧ value ∈ own ∧ Chosen leadZero telescoping forms rest := by
  rw [Chosen, List.filterMap_cons_some hasOwn] at chosenMem
  cases chosenMem with
  | cons valueMem rest => exact ⟨_, _, rfl, valueMem, rest⟩

theorem length_shown (chosenMem : Chosen leadZero telescoping forms chosen) (previous : Text) :
    (shown forms chosen previous).length = forms.length := by
  induction forms generalizing chosen previous with
  | nil => rfl
  | cons form forms ih =>
      by_cases repeats : form = continuation
      · subst form
        rw [shown_continuation, List.length_cons, List.length_cons, ih chosenMem]
      · rcases exists_values leadZero telescoping repeats with ⟨own, hasOwn⟩
        rcases chosenMem.of_own hasOwn with ⟨value, rest, rfl, -, restMem⟩
        rw [shown_own repeats, List.length_cons, List.length_cons, ih restMem]

theorem isAlphanum_of_mem_shown (chosenMem : Chosen leadZero telescoping forms chosen)
    {previous : Text} (previousWord : ∀ element ∈ previous, element.isAlphanum = true) :
    ∀ value ∈ shown forms chosen previous, ∀ element ∈ value, element.isAlphanum = true := by
  induction forms generalizing chosen previous with
  | nil => simp [shown]
  | cons form forms ih =>
      by_cases repeats : form = continuation
      · subst form
        rw [shown_continuation, List.forall_mem_cons]
        exact ⟨previousWord, ih chosenMem previousWord⟩
      · rcases exists_values leadZero telescoping repeats with ⟨own, hasOwn⟩
        rcases chosenMem.of_own hasOwn with ⟨value, rest, rfl, valueMem, restMem⟩
        have word := isAlphanum_of_mem_values hasOwn valueMem
        rw [shown_own repeats, List.forall_mem_cons]
        exact ⟨word, ih restMem word⟩

theorem shown_injective (chosenMem : Chosen leadZero telescoping forms chosen)
    (chosenMem' : Chosen leadZero telescoping forms chosen') {previous previous' : Text}
    (same : shown forms chosen previous = shown forms chosen' previous') : chosen = chosen' := by
  induction forms generalizing chosen chosen' previous previous' with
  | nil =>
      cases chosenMem
      cases chosenMem'
      rfl
  | cons form forms ih =>
      by_cases repeats : form = continuation
      · subst form
        rw [shown_continuation, shown_continuation] at same
        exact ih chosenMem chosenMem' (List.cons.inj same).2
      · rcases exists_values leadZero telescoping repeats with ⟨own, hasOwn⟩
        rcases chosenMem.of_own hasOwn with ⟨value, rest, rfl, -, restMem⟩
        rcases chosenMem'.of_own hasOwn with ⟨value', rest', rfl, -, restMem'⟩
        rw [shown_own repeats, shown_own repeats, List.cons.injEq] at same
        rw [same.1, ih restMem restMem' same.2]

end Shown

end Form

/-- The literal starts with something that is neither a letter nor a digit. -/
def Separates (literal : Text) : Prop :=
  ∃ element, literal.head? = some element ∧ element.isAlphanum = false

theorem head?_interleave {literal : Text} (separates : Separates literal) (literals : List Text)
    (values : List Text) : (interleave (literal :: literals) values).head? = literal.head? := by
  rcases separates with ⟨element, starts, -⟩
  rw [starts]
  cases values with
  | nil => simpa [interleave] using starts
  | cons value values => simp [interleave, starts]

/-- Between separating literals, words are found again. -/
theorem interleave_injective {literals values values' : List Text}
    (lengths : literals.length = values.length + 1)
    (lengths' : literals.length = values'.length + 1)
    (separated : ∀ literal ∈ literals.tail.dropLast, Separates literal)
    (words : ∀ value ∈ values, ∀ element ∈ value, element.isAlphanum = true)
    (words' : ∀ value ∈ values', ∀ element ∈ value, element.isAlphanum = true)
    (same : interleave literals values = interleave literals values') : values = values' := by
  induction values generalizing literals values' with
  | nil =>
      have empty : values'.length = 0 := by
        simp only [List.length_nil] at lengths
        omega
      exact (List.length_eq_zero_iff.mp empty).symm
  | cons value values ih =>
      rcases literals with _ | ⟨literal, _ | ⟨next, literals⟩⟩
      · simp at lengths
      · simp at lengths
      · rcases values' with _ | ⟨value', values'⟩
        · simp at lengths'
        · simp only [List.length_cons, Nat.add_right_cancel_iff] at lengths lengths'
          rw [List.forall_mem_cons] at words words'
          simp only [interleave, List.append_assoc, List.append_cancel_left_eq] at same
          cases values with
          | nil =>
              -- Behind the last value both URIs end with the same literal.
              have noMore : literals = [] := by simpa using lengths
              subst literals
              have noMore' : values' = [] := by simpa using lengths'.symm
              subst values'
              rw [interleave, List.append_cancel_right_eq] at same
              rw [same]
          | cons following values =>
              have more : literals ≠ [] := by
                rintro rfl
                simp at lengths
              simp only [List.tail_cons, List.dropLast_cons_of_ne_nil more,
                List.forall_mem_cons] at separated
              rcases separated with ⟨separates, separated⟩
              have stops {element : Char} {shown : List Text}
                  (starts : (interleave (next :: literals) shown).head? = some element) :
                  element.isAlphanum = false := by
                rw [head?_interleave separates] at starts
                rcases separates with ⟨first, isFirst, outside⟩
                rw [isFirst] at starts
                rw [← Option.some.inj starts]
                exact outside
              rcases Decoding.block_unique words.1 words'.1 (fun _ => stops) (fun _ => stops) same
                with ⟨rfl, behind⟩
              have separatedBehind : ∀ literal ∈ (next :: literals).tail.dropLast,
                  Separates literal := separated
              rw [ih (by simpa using lengths) (by simpa using lengths') separatedBehind words.2
                words'.2 behind]

theorem nodup_uris {leadZero : Bool} {literals : List Text} {forms : List Form}
    (lengths : literals.length = forms.length + 1)
    (separated : ∀ literal ∈ literals.tail.dropLast, Separates literal) :
    (uris leadZero false literals forms).Nodup := by
  apply List.Nodup.map_on
  · intro chosen chosenMem chosen' chosenMem' same
    have isChosen : Form.Chosen leadZero false forms chosen :=
      Odometer.mem_cartesian_iff.mp chosenMem
    have isChosen' : Form.Chosen leadZero false forms chosen' :=
      Odometer.mem_cartesian_iff.mp chosenMem'
    have shownSame := interleave_injective (by rw [lengths, Form.length_shown isChosen])
      (by rw [lengths, Form.length_shown isChosen']) separated
      (Form.isAlphanum_of_mem_shown isChosen (by simp))
      (Form.isAlphanum_of_mem_shown isChosen' (by simp)) same
    exact Form.shown_injective isChosen isChosen' shownSame
  · apply Odometer.nodup_cartesian
    intro own ownMem
    rcases List.mem_filterMap.mp ownMem with ⟨form, -, hasOwn⟩
    exact Form.nodup_values hasOwn

namespace UriGenerator

/--
Without telescoping, when every literal between two forms starts with neither a
letter nor a digit, no URI is emitted twice and `get_range_size` counts
distinct URIs.
-/
theorem emits_distinct_uris {lexicalCast : Text → Option SizeT} {leadZero : Bool} {input : Text}
    {generator : UriGenerator} (accepted : new lexicalCast leadZero false input = .ok generator)
    {pieces : List (Text × Text)} {tail : Text} (split : Splits input pieces tail)
    (separated : ∀ piece ∈ pieces.tail, Separates piece.1) :
    ∃ emitted, Generator.Emits generator emitted ∧ emitted.Nodup ∧
      ∀ calls later size, Generator.afterCalls calls generator = .ok later →
        later.getRangeSize = .ok size → emitted.toFinset.card = size.toNat := by
  rcases exists_forms_of_new accepted with
    ⟨pieces', tail', forms, split', bodies, lengths, rfl, emits⟩
  rcases split.unique split' with ⟨rfl, rfl⟩
  have between : ∀ literal ∈ (pieces.map Prod.fst ++ [tail]).tail.dropLast,
      Separates literal := by
    cases pieces with
    | nil => simp
    | cons piece pieces =>
        intro literal literalMem
        simp only [List.map_cons, List.cons_append, List.tail_cons,
          List.dropLast_concat] at literalMem
        rcases List.mem_map.mp literalMem with ⟨other, otherMem, rfl⟩
        exact separated other otherMem
  have distinct := @nodup_uris leadZero _ _ lengths between
  refine ⟨_, emits, distinct, ?_⟩
  intro calls later size called counted
  rw [List.toFinset_card_of_nodup distinct, ← checkedSize_eq_ok_iff]
  exact (getRangeSize_afterCalls bodies called).symm.trans counted

/-- Suppressed decimal digits, a slash, and the same digits again. -/
theorem emits_distinct_uris_of_example :
    ∃ emitted, Generator.Emits
        ({ literalTokens := [[], "/".toList, "x".toList]
           ranges := [.implicit { domains := ["0123456789".toList, "0123456789".toList]
                                  digits := [0, 0], leadingZeros := false },
             .continuation { target := 0 }]
           isComplete := false } : UriGenerator) emitted ∧ emitted.Nodup ∧
      ∀ calls later size, Generator.afterCalls calls
          ({ literalTokens := [[], "/".toList, "x".toList]
             ranges := [.implicit { domains := ["0123456789".toList, "0123456789".toList]
                                    digits := [0, 0], leadingZeros := false },
               .continuation { target := 0 }]
             isComplete := false } : UriGenerator) = .ok later →
        later.getRangeSize = .ok size → emitted.toFinset.card = size.toNat := by
  have split : Splits "\x7bdd\x7d/\x7b\x7dx".toList [([], "dd".toList), ("/".toList, [])]
      "x".toList :=
    @Splits.form [] "dd".toList _ _ _ (by decide) (by decide)
      (@Splits.form "/".toList [] _ _ _ (by decide) (by decide) (.tail (by decide) (by decide)))
  refine @emits_distinct_uris lexicalCastSize false _ _ (by decide) _ _ split ?_
  intro piece pieceMem
  have onlyPiece : piece = ("/".toList, []) := by simpa using pieceMem
  subst piece
  exact ⟨'/', rfl, by decide⟩

end UriGenerator

end Abrade
