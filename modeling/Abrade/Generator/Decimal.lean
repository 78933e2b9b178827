import Abrade.Generator.Cardinality
import Abrade.Generator.Explicit
import Abrade.Generator.Rendering
import Abrade.Generator.Splitting
import Abrade.Library.Radix
import Mathlib.Tactic.Ring

/-!
# Decimal forms

Without leading zeros, a form of `n` symbols `d` shows the numerals from 0 up,
and so does the explicit form from 0 to `10 ^ n - 1`.  A generator depends on a
form only through its values, so the two forms can stand for each other.
-/

namespace Abrade

namespace Form

section Numerals

variable {digits : List ℕ}

theorem getD_domain_d {digit : ℕ} (inside : digit < 10) :
    (domain 'd').getD digit '0' = digit.digitChar := by
  have listed : ∀ digit < 10, (domain 'd').getD digit '0' = digit.digitChar := by decide
  exact listed digit inside

/-- Digits behind a nonzero number are the last digits of its numeral. -/
theorem toDigits_append_fullWidth (inside : ∀ digit ∈ digits, digit < 10) {leading : ℕ}
    (positive : 0 < leading) :
    Nat.toDigits 10 leading ++ fullWidth (List.replicate digits.length (domain 'd')) digits =
      Nat.toDigits 10
        (leading * 10 ^ digits.length + Radix.value (List.replicate digits.length 10) digits) := by
  induction digits generalizing leading with
  | nil => simp [fullWidth]
  | cons digit digits ih =>
      rw [List.forall_mem_cons] at inside
      have shifted : 0 < 10 * leading + digit := by omega
      rw [List.length_cons, List.replicate_succ, List.replicate_succ, fullWidth_cons,
        getD_domain_d inside.1, List.append_cons, ← Nat.toDigits_of_lt_base inside.1,
        Nat.toDigits_append_toDigits (by decide) positive inside.1, ih inside.2 shifted]
      congr 1
      rw [Radix.value_cons, List.prod_replicate]
      ring

theorem render_decimal (nonempty : digits ≠ []) (inside : ∀ digit ∈ digits, digit < 10) :
    render false (List.replicate digits.length (domain 'd')) digits =
      Nat.toDigits 10 (Radix.value (List.replicate digits.length 10) digits) := by
  induction digits with
  | nil => exact absurd rfl nonempty
  | cons digit digits ih =>
      rw [List.forall_mem_cons] at inside
      cases digits with
      | nil =>
          have shown : render false [domain 'd'] [digit] = [(domain 'd').getD digit '0'] := rfl
          rw [List.length_singleton, List.replicate_one, List.replicate_one, shown,
            getD_domain_d inside.1, Radix.value_cons, List.prod_nil, mul_one, Radix.value_nil,
            add_zero, Nat.toDigits_of_lt_base inside.1]
      | cons next digits =>
          rw [List.length_cons, List.replicate_succ, List.replicate_succ, render_false_cons,
            Radix.value_cons, List.prod_replicate]
          by_cases zero : digit = 0
          · rw [if_pos zero, ih (by simp) inside.2, zero, Nat.zero_mul, Nat.zero_add]
          · rw [if_neg zero, getD_domain_d inside.1,
              ← toDigits_append_fullWidth inside.2 (Nat.pos_of_ne_zero zero),
              Nat.toDigits_of_lt_base inside.1]
            rfl

/-- The values of `n` symbols `d` are the numerals below `10 ^ n`. -/
theorem implicitValues_decimal {n : ℕ} (positive : 0 < n) :
    implicitValues false (List.replicate n 'd') =
      (List.range (10 ^ n)).map (Nat.toDigits 10) := by
  have vectors : digitVectors ((List.replicate n 'd').map domain) =
      Radix.numerals (List.replicate n 10) := by
    rw [digitVectors, Radix.numerals, List.map_replicate, List.map_replicate, List.map_replicate]
    rfl
  have count := Radix.map_value_numerals (List.replicate n 10)
  rw [List.prod_replicate] at count
  rw [implicitValues, vectors, ← count, List.map_map, List.map_replicate]
  apply List.map_congr_left
  intro digits digitsMem
  have length : digits.length = n := by
    simpa using (Radix.mem_numerals_iff.mp digitsMem).length_eq
  have inside := Radix.lt_of_mem_numerals_replicate digitsMem
  have nonempty : digits ≠ [] := by
    rw [← List.length_pos_iff, length]
    exact positive
  have rendered := render_decimal nonempty inside
  rwa [length] at rendered

/-- The body `0:M` of the explicit form with the values of `n` symbols `d`. -/
def decimalBody (n : ℕ) : Text :=
  '0' :: ':' :: Nat.toDigits 10 (10 ^ n - 1)

theorem not_mem_toDigits {element : Char} (noDigit : element.isDigit = false) (number : ℕ) :
    element ∉ Nat.toDigits 10 number := by
  intro elementMem
  have digit := Nat.isDigit_of_mem_toDigits (by decide) (by decide) elementMem
  rw [noDigit] at digit
  cases digit

theorem noClosing_decimalBody (n : ℕ) : '}' ∉ decimalBody n := by
  have noDigits := @not_mem_toDigits '}' rfl (10 ^ n - 1)
  simp [decimalBody, noDigits]

theorem reads_decimalBody {lexicalCast : Text → Option SizeT}
    (numbers : ∀ value : SizeT, lexicalCast value.toString = some value) {n : ℕ}
    (fits : 10 ^ n - 1 < 2 ^ 64) :
    Reads lexicalCast (decimalBody n) (explicit 0 (.ofNat (10 ^ n - 1))) := by
  have start := numbers 0
  have stop := numbers (.ofNat (10 ^ n - 1))
  rw [SizeT.toString, UInt64.toNat_ofNat_of_lt' fits] at stop
  apply @Reads.explicit _ ['0'] _ _ _ (by decide) start
  · rwa [filter_noColon (not_mem_toDigits rfl _)]
  · rw [UInt64.le_iff_toNat_le]
    exact Nat.zero_le _

theorem values_decimal {n : ℕ} (positive : 0 < n) (fits : 10 ^ n - 1 < 2 ^ 64) :
    (explicit 0 (.ofNat (10 ^ n - 1))).values false false =
      (implicit (List.replicate n 'd')).values false false := by
  have last := UInt64.toNat_ofNat_of_lt' fits
  have count : 10 ^ n - 1 + 1 = 10 ^ n := Nat.sub_add_cancel (Nat.pow_pos (by decide))
  simp only [values, last, implicitValues_decimal positive, List.range_eq_range']
  rw [show UInt64.toNat 0 = 0 from rfl, Nat.sub_zero, count]
  rfl

theorem Reads.eq_implicit {lexicalCast : Text → Option SizeT} {body : Text} {form : Form}
    (reads : Reads lexicalCast body form) (nonempty : body ≠ []) (noColon : ':' ∉ body) :
    form = .implicit body := by
  cases reads with
  | continuation => exact absurd rfl nonempty
  | explicit => simp at noColon
  | implicit => rfl

end Numerals

section Congruence

variable {leadZero telescoping : Bool} {forms forms' : List Form}

/-- The forms have the same values, one by one. -/
def SameValues (leadZero telescoping : Bool) (forms forms' : List Form) : Prop :=
  List.Forall₂
    (fun form form' => form.values leadZero telescoping = form'.values leadZero telescoping)
    forms forms'

theorem values_eq_none_iff {form : Form} :
    form.values leadZero telescoping = none ↔ form = continuation := by
  cases form <;> simp [values]

theorem shown_own_nil {form : Form} (hasValues : form ≠ continuation) (forms : List Form)
    (previous : Text) : shown (form :: forms) [] previous = [] := by
  cases form with
  | explicit => rfl
  | implicit => rfl
  | continuation => exact absurd rfl hasValues

theorem SameValues.shown_eq (same : SameValues leadZero telescoping forms forms')
    (chosen : List Text) (previous : Text) :
    shown forms chosen previous = shown forms' chosen previous := by
  induction same generalizing chosen previous with
  | nil => rfl
  | @cons form form' forms forms' head _ ih =>
      by_cases repeats : form = continuation
      · have repeats' : form' = continuation := by
          rwa [← @values_eq_none_iff leadZero telescoping, ← head, values_eq_none_iff]
        rw [repeats, repeats', shown_continuation, shown_continuation, ih]
      · have repeats' : form' ≠ continuation := by
          rwa [ne_eq, ← @values_eq_none_iff leadZero telescoping, ← head, values_eq_none_iff]
        cases chosen with
        | nil => rw [shown_own_nil repeats, shown_own_nil repeats']
        | cons value chosen => rw [shown_own repeats, shown_own repeats', ih]

theorem SameValues.filterMap_eq (same : SameValues leadZero telescoping forms forms') :
    forms.filterMap (values leadZero telescoping) =
      forms'.filterMap (values leadZero telescoping) := by
  induction same with
  | nil => rfl
  | cons head _ ih => rw [List.filterMap_cons, List.filterMap_cons, head, ih]

theorem SameValues.uris_eq (same : SameValues leadZero telescoping forms forms')
    (literals : List Text) :
    uris leadZero telescoping literals forms = uris leadZero telescoping literals forms' := by
  rw [uris, uris, same.filterMap_eq]
  exact List.map_congr_left fun chosen _ => by rw [same.shown_eq]

end Congruence

end Form

namespace Splits

variable {body body' tail : Text} {pieces : List (Text × Text)}

/-- A body between braces anywhere in a split input is a piece of it, and can be replaced. -/
theorem exists_replaced {input : Text} (split : Splits input pieces tail)
    (clean : ∀ piece ∈ pieces, '{' ∉ piece.2) (noClosing : '}' ∉ body) (noClosing' : '}' ∉ body')
    {before after : Text} (same : input = before ++ (braced body ++ after)) :
    ∃ front literal back, pieces = front ++ (literal, body) :: back ∧
      Splits (before ++ (braced body' ++ after)) (front ++ (literal, body') :: back) tail := by
  have spread (between : Text) : braced between ++ after = '{' :: (between ++ '}' :: after) := by
    simp [braced]
  rw [spread] at same ⊢
  induction split generalizing before with
  | tail noOpening => simp [same] at noOpening
  | @form literal bodyHere rest tail pieces noOpening noClosingHere split ih =>
      rw [List.forall_mem_cons] at clean
      by_cases opening : '{' ∈ before
      · rcases List.eq_append_cons_of_mem opening with ⟨literal', before, rfl, noOpening'⟩
        rw [List.append_assoc, List.cons_append] at same
        rcases Search.split_unique noOpening noOpening' same with ⟨rfl, inner⟩
        have closing : '}' ∈ before := by
          by_contra unclosed
          have noClosingBefore : '}' ∉ before ++ '{' :: body := by simp [unclosed, noClosing]
          have regrouped : bodyHere ++ '}' :: rest = (before ++ '{' :: body) ++ '}' :: after := by
            simpa using inner
          rcases Search.split_unique noClosingHere noClosingBefore regrouped with ⟨rfl, -⟩
          simp at clean
        rcases List.eq_append_cons_of_mem closing with ⟨bodyHere', before, rfl, noClosingHere'⟩
        rw [List.append_assoc, List.cons_append] at inner
        rcases Search.split_unique noClosingHere noClosingHere' inner with ⟨rfl, behind⟩
        rcases ih clean.2 behind with ⟨front, inFront, back, rfl, split'⟩
        refine ⟨(literal, bodyHere) :: front, inFront, back, rfl, ?_⟩
        have replaced := Splits.form noOpening noClosingHere split'
        simpa using replaced
      · rcases Search.split_unique noOpening opening same with ⟨rfl, inner⟩
        rcases Search.split_unique noClosingHere noClosing inner with ⟨rfl, rfl⟩
        exact ⟨[], literal, pieces, rfl, .form noOpening noClosing' split⟩

end Splits

theorem lexicalCastSize_toString (value : SizeT) : lexicalCastSize value.toString = some value := by
  have numeral : IsNumeral value.toString value.toNat :=
    ⟨_, .inl rfl, Nat.toDigits_ne_nil,
      fun _ => Nat.isDigit_of_mem_toDigits (by decide) (by decide), Nat.ofDigitChars_ten_toDigits,
      value.toNat_lt⟩
  exact (lexicalCastSize_eq_some_iff numeral.noMinus).mpr numeral

namespace UriGenerator

section Decimal

variable {lexicalCast : Text → Option SizeT} {generator : UriGenerator} {before after : Text}

/-- Both generators emit the same URIs and report the same size, at any time. -/
def Agree (generator other : UriGenerator) : Prop :=
  ∃ emitted, Generator.Emits generator emitted ∧ Generator.Emits other emitted ∧
    ∀ calls, ∃ later otherLater, Generator.afterCalls calls generator = .ok later ∧
      Generator.afterCalls calls other = .ok otherLater ∧
      otherLater.getRangeSize = later.getRangeSize

theorem agree_of_sameValues {leadZero telescoping : Bool} {literals bodies bodies' : List Text}
    {forms forms' : List Form} (read : List.Forall₂ (Form.Reads lexicalCast) bodies forms)
    (read' : List.Forall₂ (Form.Reads lexicalCast) bodies' forms')
    (first : forms.head? ≠ some .continuation) (first' : forms'.head? ≠ some .continuation)
    (lengths : literals.length = forms.length + 1)
    (same : Form.SameValues leadZero telescoping forms forms') :
    Agree
      { literalTokens := literals, ranges := Form.ranges leadZero telescoping 0 forms
        isComplete := false }
      { literalTokens := literals, ranges := Form.ranges leadZero telescoping 0 forms'
        isComplete := false } := by
  have emits := @emits_forms _ leadZero telescoping _ _ _ read first lengths
  have emits' := @emits_forms _ leadZero telescoping literals _ _ read' first'
    (by rw [lengths, same.length_eq])
  rw [← same.uris_eq] at emits'
  refine ⟨_, emits, emits', ?_⟩
  intro calls
  rcases emits.exists_afterCalls calls with ⟨later, called⟩
  rcases emits'.exists_afterCalls calls with ⟨otherLater, calledOther⟩
  refine ⟨later, otherLater, called, calledOther, ?_⟩
  rw [getRangeSize_afterCalls read called, getRangeSize_afterCalls read' calledOther,
    same.uris_eq]

/-- A body of an accepted pattern can be replaced by another that is read with the same values. -/
theorem exists_agree_of_values {leadZero telescoping : Bool} {body body' : Text} {form' : Form}
    (numeral : ∀ token value, lexicalCast token = some value →
      ∀ element ∈ token, element = '+' ∨ element = '-' ∨ element.isDigit)
    (accepted : new lexicalCast leadZero telescoping (before ++ (braced body ++ after)) =
      .ok generator)
    (noClosing : '}' ∉ body) (noClosing' : '}' ∉ body')
    (reads' : Form.Reads lexicalCast body' form') (hasValues : form' ≠ .continuation)
    (sameValues : ∀ form, Form.Reads lexicalCast body form →
      form.values leadZero telescoping = form'.values leadZero telescoping) :
    ∃ other, new lexicalCast leadZero telescoping (before ++ (braced body' ++ after)) =
      .ok other ∧ Agree generator other := by
  rcases new_eq_ok_iff.mp accepted with ⟨pieces, tail, forms, split, read, first, rfl⟩
  have clean := fun piece pieceMem => (clean_of_reads numeral split read piece pieceMem).1
  rcases split.exists_replaced clean noClosing noClosing' rfl with
    ⟨front, literal, back, rfl, replaced⟩
  rcases exists_of_forall₂_append_cons read with
    ⟨frontForms, form, backForms, rfl, readFront, reads, readBack⟩
  have read' : List.Forall₂ (fun piece form => Form.Reads lexicalCast piece.2 form)
      (front ++ (literal, body') :: back) (frontForms ++ form' :: backForms) :=
    List.rel_append readFront (.cons reads' readBack)
  have first' : (frontForms ++ form' :: backForms).head? ≠ some .continuation := by
    cases frontForms with
    | nil => simpa using hasValues
    | cons form forms => simpa using first
  have same : Form.SameValues leadZero telescoping (frontForms ++ form :: backForms)
      (frontForms ++ form' :: backForms) :=
    List.rel_append (List.forall₂_refl _) (.cons (sameValues form reads) (List.forall₂_refl _))
  have lengths : ((front ++ (literal, body) :: back).map Prod.fst ++ [tail]).length =
      (frontForms ++ form :: backForms).length + 1 := by
    rw [← read.length_eq, List.length_append, List.length_map, List.length_singleton]
  refine ⟨_, new_eq_ok_iff.mpr ⟨_, tail, _, replaced, read', first', rfl⟩, ?_⟩
  have agree := agree_of_sameValues (List.forall₂_map_left_iff.mpr read)
    (List.forall₂_map_left_iff.mpr read') first first' lengths same
  simpa only [List.map_append, List.map_cons] using agree

/--
A form of `n` symbols `d` anywhere in an accepted pattern can be replaced by
the explicit form from 0 to `10 ^ n - 1`.
-/
theorem decimal_form_replaced
    (numeral : ∀ token value, lexicalCast token = some value →
      ∀ element ∈ token, element = '+' ∨ element = '-' ∨ element.isDigit)
    (numbers : ∀ value : SizeT, lexicalCast value.toString = some value) {n : ℕ}
    (positive : 0 < n) (fits : 10 ^ n - 1 ≤ 2 ^ 64 - 1)
    (accepted : new lexicalCast false false
      (before ++ (braced (List.replicate n 'd') ++ after)) = .ok generator) :
    ∃ other, new lexicalCast false false (before ++ (braced (Form.decimalBody n) ++ after)) =
      .ok other ∧ Agree generator other := by
  have small : 10 ^ n - 1 < 2 ^ 64 := by omega
  apply exists_agree_of_values numeral accepted (by simp) (Form.noClosing_decimalBody n)
    (Form.reads_decimalBody numbers small) (by simp)
  intro form reads
  rw [reads.eq_implicit (by simp; omega) (by simp), Form.values_decimal positive small]

/-- Two decimal digits between an explicit form and a continuation. -/
theorem decimal_form_replaced_of_example :
    ∃ other, new lexicalCastSize false false "/\x7b7:8\x7d-\x7b0:99\x7d\x7b\x7d".toList =
      .ok other ∧ Agree
        { literalTokens := ["/".toList, "-".toList, [], []]
          ranges := [.explicit { start := 7, stop := 8, current := 7 },
            .implicit { domains := ["0123456789".toList, "0123456789".toList]
                        digits := [0, 0], leadingZeros := false },
            .continuation { target := 1 }]
          isComplete := false } other :=
  @decimal_form_replaced lexicalCastSize _ "/\x7b7:8\x7d-".toList "\x7b\x7d".toList
    (fun _ _ cast => lexicalCastSize_numeral cast) lexicalCastSize_toString 2 (by decide)
    (by decide) (by decide)

end Decimal

end UriGenerator

end Abrade
