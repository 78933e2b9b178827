import Abrade.Generator.Increments
import Mathlib.Data.List.GetD

/-!
# How digit vectors read

Every domain lists distinct letters and digits.  A text of known width
therefore determines its digits, and in front of a suppressed text there were
only zero digits, so that no two digit vectors read the same.  A zero digit is
not always the character `0`, which decides what the suppression drops.
-/

namespace Abrade

namespace Form

section Render

variable {domains : List Text} {digits digits' : List ℕ}

theorem fullWidth_cons (domain : Text) (digit : ℕ) :
    fullWidth (domain :: domains) (digit :: digits) =
      domain.getD digit '0' :: fullWidth domains digits :=
  rfl

theorem length_fullWidth (valid : Valid domains digits) :
    (fullWidth domains digits).length = digits.length := by
  simp [fullWidth, valid.length_eq]

theorem leadingZeroCount_lt (nonempty : digits ≠ []) : leadingZeroCount digits < digits.length := by
  have positive := List.length_pos_iff.mpr nonempty
  have bound : leadingZeroCount digits ≤ digits.dropLast.length :=
    (List.takeWhile_prefix _).length_le
  rw [List.length_dropLast] at bound
  omega

theorem replicate_append_drop (digits : List ℕ) :
    List.replicate (leadingZeroCount digits) 0 ++ digits.drop (leadingZeroCount digits) =
      digits := by
  induction digits with
  | nil => rfl
  | cons digit digits ih =>
      cases digits with
      | nil => rfl
      | cons next digits =>
          rw [leadingZeroCount_cons_cons]
          by_cases zero : digit = 0
          · subst digit
            simpa [List.replicate_succ] using ih
          · simp [zero]

theorem fullWidth_injective (nodups : ∀ domain ∈ domains, domain.Nodup)
    (valid : Valid domains digits) (valid' : Valid domains digits')
    (same : fullWidth domains digits = fullWidth domains digits') : digits = digits' := by
  induction valid generalizing digits' with
  | nil =>
      cases valid'
      rfl
  | @cons digit domain digits domains inside valid ih =>
      cases valid' with
      | @cons digit' _ digits' _ inside' valid' =>
          rw [List.forall_mem_cons] at nodups
          rw [fullWidth_cons, fullWidth_cons, List.cons.injEq] at same
          rcases same with ⟨headSame, tailSame⟩
          rw [List.getD_eq_getElem _ _ inside, List.getD_eq_getElem _ _ inside',
            nodups.1.getElem_inj_iff] at headSame
          rw [headSame, ih nodups.2 valid' tailSame]

theorem render_injective {leadZero : Bool} (nodups : ∀ domain ∈ domains, domain.Nodup)
    (valid : Valid domains digits) (valid' : Valid domains digits')
    (same : render leadZero domains digits = render leadZero domains digits') :
    digits = digits' := by
  have width : digits.length = digits'.length := valid.length_eq.trans valid'.length_eq.symm
  cases leadZero with
  | true => exact fullWidth_injective nodups valid valid' same
  | false =>
      by_cases empty : digits = []
      · subst empty
        exact (List.length_eq_zero_iff.mp width.symm).symm
      · have empty' : digits' ≠ [] := by
          rintro rfl
          exact empty (List.length_eq_zero_iff.mp width)
        have inside := leadingZeroCount_lt empty
        have inside' := leadingZeroCount_lt empty'
        change (fullWidth domains digits).drop (leadingZeroCount digits) =
          (fullWidth domains digits').drop (leadingZeroCount digits') at same
        have dropped : leadingZeroCount digits = leadingZeroCount digits' := by
          have lengths := congrArg List.length same
          rw [List.length_drop, List.length_drop, length_fullWidth valid,
            length_fullWidth valid'] at lengths
          omega
        have behind : digits.drop (leadingZeroCount digits) =
            digits'.drop (leadingZeroCount digits) := by
          apply fullWidth_injective _ (List.forall₂_drop _ valid) (List.forall₂_drop _ valid')
          · simpa [fullWidth, ← dropped, List.drop_zipWith] using same
          · intro domain domainMem
            exact nodups domain (List.mem_of_mem_drop domainMem)
        rw [← replicate_append_drop digits, ← replicate_append_drop digits', behind, dropped]

theorem nodup_digitVectors (domains : List Text) : (digitVectors domains).Nodup := by
  apply Odometer.nodup_cartesian
  intro positions positionsMem
  rcases List.mem_map.mp positionsMem with ⟨domain, -, rfl⟩
  exact List.nodup_range

theorem mem_digitVectors_iff : digits ∈ digitVectors domains ↔ Valid domains digits := by
  rw [digitVectors, Odometer.mem_cartesian_iff, List.forall₂_map_right_iff]
  simp only [List.mem_range]
  rfl

theorem mem_fullWidth {element : Char} (valid : Valid domains digits)
    (elementMem : element ∈ fullWidth domains digits) : ∃ domain ∈ domains, element ∈ domain := by
  induction valid with
  | nil => simp [fullWidth] at elementMem
  | @cons digit domain digits domains inside valid ih =>
      rw [fullWidth_cons, List.mem_cons] at elementMem
      rcases elementMem with rfl | elementMem
      · refine ⟨domain, by simp, ?_⟩
        rw [List.getD_eq_getElem _ _ inside]
        exact List.getElem_mem inside
      · rcases ih elementMem with ⟨other, otherMem, inOther⟩
        exact ⟨other, by simp [otherMem], inOther⟩

theorem mem_render {element : Char} {leadZero : Bool} (valid : Valid domains digits)
    (elementMem : element ∈ render leadZero domains digits) :
    ∃ domain ∈ domains, element ∈ domain := by
  cases leadZero with
  | true => exact mem_fullWidth valid elementMem
  | false => exact mem_fullWidth valid (List.mem_of_mem_drop elementMem)

end Render

section Domain

theorem domain_nodup (symbol : Char) : (domain symbol).Nodup := by
  unfold domain
  split
  · exact List.nodup_nil
  · next values found =>
      rcases exists_definition found with ⟨definition, definitionMem, -, rfl⟩
      rcases domainDefinitions_wellFormed definition definitionMem with ⟨-, -, ascending, -⟩
      have sorted := List.isChain_iff_pairwise.mp ascending
      apply List.Nodup.of_map Char.toNat
      exact sorted.imp ne_of_lt

theorem isAlphanum_of_mem_domain {symbol element : Char} (elementMem : element ∈ domain symbol) :
    element.isAlphanum = true := by
  unfold domain at elementMem
  split at elementMem
  · cases elementMem
  · next values found =>
      rcases exists_definition found with ⟨definition, definitionMem, -, rfl⟩
      rcases domainDefinitions_wellFormed definition definitionMem with ⟨-, -, -, alphanumeric, -⟩
      exact List.all_eq_true.mp alphanumeric element elementMem

theorem domains_nodup (symbols : Text) : ∀ values ∈ symbols.map domain, values.Nodup := by
  intro values valuesMem
  rcases List.mem_map.mp valuesMem with ⟨symbol, -, rfl⟩
  exact domain_nodup symbol

theorem nodup_implicitValues (leadZero : Bool) (symbols : Text) :
    (implicitValues leadZero symbols).Nodup := by
  apply (nodup_digitVectors _).map_on
  intro digits digitsMem digits' digitsMem' same
  exact render_injective (domains_nodup symbols) (valid_of_mem_digitVectors digitsMem)
    (valid_of_mem_digitVectors digitsMem') same

theorem isAlphanum_of_mem_implicitValues {leadZero : Bool} {symbols value : Text}
    (valueMem : value ∈ implicitValues leadZero symbols) :
    ∀ element ∈ value, element.isAlphanum = true := by
  intro element elementMem
  rcases List.mem_map.mp valueMem with ⟨digits, digitsMem, rfl⟩
  rcases mem_render (valid_of_mem_digitVectors digitsMem) elementMem with
    ⟨values, valuesMem, inValues⟩
  rcases List.mem_map.mp valuesMem with ⟨symbol, -, rfl⟩
  exact isAlphanum_of_mem_domain inValues

theorem getD_eq_iff_of_not_mem_tail {element : Char} {values : Text} {digit : ℕ}
    (inside : digit < values.length) (onlyFirst : element ∉ values.tail) :
    values.getD digit '0' = element ↔ digit = 0 ∧ values.head? = some element := by
  cases values with
  | nil => cases inside
  | cons value values =>
      cases digit with
      | zero => simp
      | succ digit =>
          have behind : values.getD digit '0' ≠ element := by
            rintro rfl
            apply onlyFirst
            rw [List.getD_eq_getElem _ _ (Nat.lt_of_succ_lt_succ inside)]
            exact List.getElem_mem _
          simpa using behind

theorem getD_domain_eq_zero_iff {symbol : Char} {digit : ℕ}
    (inside : digit < (domain symbol).length) :
    (domain symbol).getD digit '0' = '0' ↔ digit = 0 ∧ symbol ≠ 'a' ∧ symbol ≠ 'A' := by
  rcases found : getDomain symbol with failure | values
  · simp [domain, found] at inside
  · rw [domain_of_getDomain found] at inside ⊢
    rcases exists_definition found with ⟨definition, definitionMem, rfl, rfl⟩
    rcases domainDefinitions_wellFormed definition definitionMem with
      ⟨-, -, -, -, onlyFirst, first⟩
    rw [getD_eq_iff_of_not_mem_tail inside onlyFirst, first]

end Domain

section Suppression

/-- The text without the zeros in front of it; its last character stays. -/
def suppressZeros (text : Text) : Text :=
  text.drop (text.dropLast.takeWhile (· == '0')).length

theorem suppressZeros_cons {element : Char} {text : Text} (nonempty : text ≠ []) :
    suppressZeros (element :: text) =
      if element = '0' then suppressZeros text else element :: text := by
  by_cases zero : element = '0' <;>
    simp [suppressZeros, List.dropLast_cons_of_ne_nil nonempty, zero]

theorem render_false_cons (domain : Text) (domains : List Text) (digit next : ℕ)
    (digits : List ℕ) :
    render false (domain :: domains) (digit :: next :: digits) =
      if digit = 0 then render false domains (next :: digits)
      else domain.getD digit '0' :: fullWidth domains (next :: digits) := by
  by_cases zero : digit = 0 <;> simp [render, leadingZeroCount_cons_cons, zero, fullWidth_cons]

/-- None of the zero digits in front of the last position belongs to a letter domain. -/
def KeepsLetters (symbols : Text) (digits : List ℕ) : Prop :=
  ∀ i, i + 1 < digits.length → (∀ j ≤ i, digits[j]? = some 0) →
    symbols[i]? ≠ some 'a' ∧ symbols[i]? ≠ some 'A'

theorem keepsLetters_cons_cons (symbol : Char) (symbols : Text) (digit next : ℕ)
    (digits : List ℕ) :
    KeepsLetters (symbol :: symbols) (digit :: next :: digits) ↔
      (digit = 0 → (symbol ≠ 'a' ∧ symbol ≠ 'A') ∧ KeepsLetters symbols (next :: digits)) := by
  constructor
  · rintro keeps rfl
    constructor
    · simpa using keeps 0 (by simp)
    · intro i inside zeros
      refine keeps (i + 1) (by simpa using inside) ?_
      intro j before
      cases j with
      | zero => rfl
      | succ j => exact zeros j (by omega)
  · intro keeps i inside zeros
    have zero : digit = 0 := by simpa using zeros 0 (by omega)
    rcases keeps zero with ⟨noLetter, rest⟩
    cases i with
    | zero => simpa using noLetter
    | succ i => exact rest i (by simpa using inside) fun j before => zeros (j + 1) (by omega)

theorem length_render_le (leadZero : Bool) (domains : List Text) (digits : List ℕ) :
    (render leadZero domains digits).length ≤ (fullWidth domains digits).length := by
  cases leadZero with
  | true => exact le_rfl
  | false => exact (List.drop_sublist _ _).length_le

/-- The suppression leaves out nothing but the character `0` unless it meets a letter domain. -/
theorem render_eq_suppressZeros_iff {symbols : Text} {digits : List ℕ}
    (valid : Valid (symbols.map domain) digits) :
    render false (symbols.map domain) digits =
        suppressZeros (fullWidth (symbols.map domain) digits) ↔ KeepsLetters symbols digits := by
  induction symbols generalizing digits with
  | nil =>
      cases valid
      simp [render, fullWidth, suppressZeros, KeepsLetters]
  | cons symbol symbols ih =>
      rw [List.map_cons] at valid
      cases valid with
      | @cons digit _ digits _ inside valid =>
          cases digits with
          | nil =>
              have empty : symbols = [] := by simpa using valid.length_eq.symm
              subst symbols
              simp [render, fullWidth, suppressZeros, KeepsLetters]
          | cons next digits =>
              have width := length_fullWidth valid
              have nonempty : fullWidth (symbols.map domain) (next :: digits) ≠ [] := by
                rw [← List.length_pos_iff, width]
                simp
              have readsZero := getD_domain_eq_zero_iff inside
              rw [List.map_cons, render_false_cons, fullWidth_cons, suppressZeros_cons nonempty,
                keepsLetters_cons_cons, ← ih valid]
              by_cases zero : digit = 0
              · by_cases letter : symbol ≠ 'a' ∧ symbol ≠ 'A'
                · rw [if_pos zero, if_pos (readsZero.mpr ⟨zero, letter⟩)]
                  simp [zero, letter]
                · rw [if_pos zero, if_neg fun reads => letter (readsZero.mp reads).2]
                  constructor
                  · intro same
                    have shorter := length_render_le false (symbols.map domain) (next :: digits)
                    rw [same, List.length_cons] at shorter
                    omega
                  · exact fun keeps => absurd (keeps zero).1 letter
              · rw [if_neg zero, if_neg fun reads => zero (readsZero.mp reads).1]
                simp [zero]

end Suppression

end Form

namespace ImplicitRange

/-- The states of a freshly built range after any increments and resets. -/
inductive Reachable (symbols : Text) (leadZero : Bool) : ImplicitRange → Prop where
  | built {range : ImplicitRange} (accepted : new symbols leadZero = .ok range) :
      Reachable symbols leadZero range
  | moved {range next : ImplicitRange} {carry : Bool} (reachable : Reachable symbols leadZero range)
      (moves : range.incrementReturnCarry = .ok (carry, next)) : Reachable symbols leadZero next
  | reset {range : ImplicitRange} (reachable : Reachable symbols leadZero range) :
      Reachable symbols leadZero range.reset

theorem Reachable.invariant {symbols : Text} {leadZero : Bool} {range : ImplicitRange}
    (reachable : Reachable symbols leadZero range) :
    range.domains = symbols.map Form.domain ∧ range.leadingZeros = leadZero ∧
      Form.Valid (symbols.map Form.domain) range.digits := by
  induction reachable with
  | built accepted =>
      rcases new_eq_ok_iff.mp accepted with ⟨known, rfl⟩
      exact ⟨rfl, rfl, Form.valid_zeros known⟩
  | moved _ moves ih =>
      rcases ih with ⟨domains, leadingZeros, valid⟩
      have kept := keeps_of_incrementFrom moves
      have domainsNext := kept.domains.trans domains
      refine ⟨domainsNext, kept.leadingZeros.trans leadingZeros, ?_⟩
      rw [← domainsNext]
      apply kept.valid
      rwa [domains]
  | reset _ ih => exact ih

theorem Reachable.getCurrent_eq {symbols : Text} {leadZero : Bool} {range : ImplicitRange}
    (reachable : Reachable symbols leadZero range) :
    range.getCurrent = .ok (Form.render leadZero range.domains range.digits) := by
  rcases reachable.invariant with ⟨domains, leadingZeros, valid⟩
  rw [← domains] at valid
  rw [← leadingZeros]
  exact getCurrent_eq_render valid

/-- The text shown is the full width without its leading zeros; a leading letter stays. -/
def SuppressesOnlyZeros (range : ImplicitRange) : Prop :=
  ∃ shown, range.getCurrent = .ok shown ∧
    shown = Form.suppressZeros (Form.fullWidth range.domains range.digits) ∧
    ∀ letter, letter.isAlpha = true →
      (Form.fullWidth range.domains range.digits).head? = some letter →
      shown = Form.fullWidth range.domains range.digits

theorem head_ne_zero_of_isAlpha {letter : Char} (alphabetic : letter.isAlpha = true) :
    letter ≠ '0' := by
  rintro rfl
  cases alphabetic

theorem suppressZeros_of_head {letter : Char} {text : Text} (different : letter ≠ '0')
    (starts : text.head? = some letter) : Form.suppressZeros text = text := by
  cases text with
  | nil => cases starts
  | cons first rest =>
      have same : first = letter := by simpa using starts
      by_cases empty : rest = []
      · simp [Form.suppressZeros, empty]
      · rw [Form.suppressZeros_cons empty, same, if_neg different]

/--
A reachable state with suppression on leaves out zeros only, exactly when none
of the positions it leaves out belongs to a letter domain.
-/
theorem suppressesOnlyZeros_iff {symbols : Text} {range : ImplicitRange}
    (reachable : Reachable symbols false range) :
    range.SuppressesOnlyZeros ↔ Form.KeepsLetters symbols range.digits := by
  rcases reachable.invariant with ⟨domains, -, valid⟩
  rw [← Form.render_eq_suppressZeros_iff valid, SuppressesOnlyZeros, reachable.getCurrent_eq,
    domains]
  constructor
  · rintro ⟨shown, same, suppressed, -⟩
    rw [← suppressed]
    exact Except.ok.inj same
  · intro suppressed
    refine ⟨_, rfl, suppressed, ?_⟩
    intro letter alphabetic starts
    rw [suppressed]
    exact suppressZeros_of_head (head_ne_zero_of_isAlpha alphabetic) starts

/-- The first value of two decimal digits. -/
theorem suppressesOnlyZeros_iff_of_example :
    SuppressesOnlyZeros
        { domains := ["0123456789".toList, "0123456789".toList], digits := [0, 0],
          leadingZeros := false } ↔
      Form.KeepsLetters ['d', 'd'] [0, 0] :=
  suppressesOnlyZeros_iff (.built rfl)

/-- The first value of two letters is shown as a single letter. -/
theorem leading_letter_suppressed :
    ¬ ∀ symbols range, Reachable symbols false range → range.SuppressesOnlyZeros := by
  intro claimed
  have fresh : new ['a', 'a'] false =
      .ok { domains := ["abcdefghijklmnopqrstuvwxyz".toList, "abcdefghijklmnopqrstuvwxyz".toList],
            digits := [0, 0], leadingZeros := false } := rfl
  rcases claimed _ _ (.built fresh) with ⟨shown, current, suppressed, -⟩
  have oneLetter : getCurrent
      { domains := ["abcdefghijklmnopqrstuvwxyz".toList, "abcdefghijklmnopqrstuvwxyz".toList],
        digits := [0, 0], leadingZeros := false } = .ok ['a'] := by decide
  rw [oneLetter] at current
  rw [← Except.ok.inj current] at suppressed
  exact absurd suppressed (by decide)

end ImplicitRange

end Abrade
