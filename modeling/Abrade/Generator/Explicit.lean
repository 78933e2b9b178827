import Abrade.Generator.Sweeps

/-!
# Explicit forms

Which bodies with a colon the constructor accepts.  `{START:END}` asks for two
decimal numerals; the token loop drops every further colon, and the conversion
of an endpoint also takes a minus sign.
-/

namespace Abrade

/-- Decimal digits, behind at most one plus sign, that denote a `size_t`. -/
def IsNumeral (text : Text) (value : ℕ) : Prop :=
  ∃ digits, (text = digits ∨ text = '+' :: digits) ∧ digits ≠ [] ∧
    (∀ digit ∈ digits, digit.isDigit = true) ∧ Nat.ofDigitChars 10 digits 0 = value ∧
    value < 2 ^ 64

/-- The body is `START:END`, for numerals of these values in ascending order. -/
def IsNumeralRange (body : Text) (start stop : ℕ) : Prop :=
  ∃ first last, body = first ++ ':' :: last ∧ IsNumeral first start ∧ IsNumeral last stop ∧
    start ≤ stop

section Numerals

variable {text digits : Text}

theorem decimalSize_eq_some_iff {value : SizeT} :
    decimalSize digits = some value ↔ digits ≠ [] ∧ (∀ digit ∈ digits, digit.isDigit = true) ∧
      Nat.ofDigitChars 10 digits 0 = value.toNat := by
  have bound := value.toNat_lt
  simp only [decimalSize, ← Nat.ofDigitChars_eq_foldl]
  constructor
  · intro cast
    split at cast
    · next numeral =>
        rcases numeral with ⟨nonempty, allDigits, small⟩
        rw [← Option.some.inj cast, UInt64.toNat_ofNat_of_lt' small]
        exact ⟨nonempty, List.all_eq_true.mp allDigits, rfl⟩
    · cases cast
  · rintro ⟨nonempty, allDigits, same⟩
    rw [if_pos ⟨nonempty, List.all_eq_true.mpr allDigits, by omega⟩, same, UInt64.ofNat_toNat]

theorem lexicalCastSize_eq_some_iff (noMinus : text.head? ≠ some '-') {value : SizeT} :
    lexicalCastSize text = some value ↔ IsNumeral text value.toNat := by
  have numeral (digits : Text) : decimalSize digits = some value ↔ digits ≠ [] ∧
      (∀ digit ∈ digits, digit.isDigit = true) ∧
        Nat.ofDigitChars 10 digits 0 = value.toNat ∧ value.toNat < 2 ^ 64 := by
    rw [decimalSize_eq_some_iff]
    simp [value.toNat_lt]
  unfold lexicalCastSize
  split
  · simp at noMinus
  · next digits =>
      rw [numeral]
      constructor
      · intro isNumeral
        exact ⟨digits, .inr rfl, isNumeral⟩
      · rintro ⟨other, rfl | same, nonempty, allDigits, isNumeral⟩
        · exact absurd (allDigits '+' (by simp)) (by decide)
        · cases same
          exact ⟨nonempty, allDigits, isNumeral⟩
  · next noSign noPlus =>
      rw [numeral]
      constructor
      · intro isNumeral
        exact ⟨text, .inl rfl, isNumeral⟩
      · rintro ⟨other, rfl | same, isNumeral⟩
        · exact isNumeral
        · exact absurd same (noPlus other)

theorem IsNumeral.isDigit_or_plus {value : ℕ} (numeral : IsNumeral text value) :
    ∀ element ∈ text, element = '+' ∨ element.isDigit = true := by
  rcases numeral with ⟨digits, rfl | rfl, -, allDigits, -⟩
  · exact fun element elementMem => .inr (allDigits element elementMem)
  · rw [List.forall_mem_cons]
    exact ⟨.inl rfl, fun element elementMem => .inr (allDigits element elementMem)⟩

theorem IsNumeral.not_mem {value : ℕ} (numeral : IsNumeral text value) {element : Char}
    (notPlus : element ≠ '+') (noDigit : element.isDigit = false) : element ∉ text := by
  intro elementMem
  rcases numeral.isDigit_or_plus element elementMem with same | digit
  · exact notPlus same
  · rw [noDigit] at digit
    cases digit

theorem IsNumeral.noColon {value : ℕ} (numeral : IsNumeral text value) : ':' ∉ text :=
  numeral.not_mem (by decide) rfl

theorem IsNumeral.noMinus {value : ℕ} (numeral : IsNumeral text value) :
    text.head? ≠ some '-' := by
  intro starts
  exact numeral.not_mem (by decide) (show '-'.isDigit = false from rfl)
    (List.mem_of_mem_head? starts)

theorem IsNumeral.lt {value : ℕ} (numeral : IsNumeral text value) : value < 2 ^ 64 := by
  rcases numeral with ⟨_, _, _, _, _, small⟩
  exact small

theorem filter_noColon (noColon : ':' ∉ text) : text.filter (· != ':') = text := by
  apply List.filter_eq_self.mpr
  intro element elementMem
  rw [bne_iff_ne]
  rintro rfl
  exact noColon elementMem

end Numerals

namespace Form

theorem Reads.exists_of_colon {lexicalCast : Text → Option SizeT} {body : Text} {form : Form}
    (reads : Reads lexicalCast body form) (colon : ':' ∈ body) :
    ∃ start stop, form = .explicit start stop := by
  cases reads with
  | continuation => cases colon
  | explicit => exact ⟨_, _, rfl⟩
  | implicit _ noColon _ => exact absurd colon noColon

theorem getElem?_ranges (leadZero telescoping : Bool) (forms : List Form) (position index : ℕ) :
    (ranges leadZero telescoping position forms)[index]? =
      forms[index]?.map fun form => form.range leadZero telescoping (position + index) := by
  induction forms generalizing position index with
  | nil => rfl
  | cons form forms ih =>
      cases index with
      | zero => rfl
      | succ index =>
          rw [ranges, List.getElem?_cons_succ, List.getElem?_cons_succ, ih, Nat.add_right_comm]
          rfl

end Form

theorem exists_of_forall₂_append_cons {α β : Type} {related : α → β → Prop} {front back : List α}
    {entry : α} {images : List β} (matched : List.Forall₂ related (front ++ entry :: back) images) :
    ∃ frontImages image backImages, images = frontImages ++ image :: backImages ∧
      List.Forall₂ related front frontImages ∧ related entry image ∧
      List.Forall₂ related back backImages := by
  induction front generalizing images with
  | nil =>
      cases matched with
      | cons head rest => exact ⟨[], _, _, rfl, .nil, head, rest⟩
  | cons first front ih =>
      cases matched with
      | cons head rest =>
          rcases ih rest with ⟨frontImages, image, backImages, rfl, front, here, back⟩
          exact ⟨_ :: frontImages, image, backImages, rfl, .cons head front, here, back⟩

namespace UriGenerator

section Explicit

variable {leadZero telescoping : Bool} {input literal body tail : Text}
  {front back : List (Text × Text)} {frontForms backForms : List Form}

/--
The constructor accepts the input exactly when the body is a range of numerals,
and the range at the position of the form then runs through these numbers.
-/
def AcceptsNumeralRanges (leadZero telescoping : Bool) (input body : Text) (position : ℕ) : Prop :=
  ((∃ generator, new lexicalCastSize leadZero telescoping input = .ok generator) ↔
      ∃ start stop, IsNumeralRange body start stop) ∧
    ∀ generator, new lexicalCastSize leadZero telescoping input = .ok generator →
      ∃ start stop range, IsNumeralRange body start stop ∧
        generator.ranges[position]? = some range ∧
        Odometer.Produces Range.incrementReturnCarry Range.reset
          (Range.getCurrent generator.ranges generator.ranges.length) range
          ((List.range' start (stop + 1 - start)).map (Nat.toDigits 10))

/-- Read without its further colons and with its signs, the body is a range only when it has none. -/
def HasNoSlip (body : Text) : Prop :=
  ∀ first rest start stop, body = first ++ ':' :: rest → ':' ∉ first →
    lexicalCastSize first = some start →
    lexicalCastSize (rest.filter (· != ':')) = some stop → start ≤ stop →
    ':' ∉ rest ∧ first.head? ≠ some '-' ∧ rest.head? ≠ some '-'

theorem reads_at_position {lexicalCast : Text → Option SizeT} {generator : UriGenerator}
    (split : Splits input (front ++ (literal, body) :: back) tail)
    (accepted : new lexicalCast leadZero telescoping input = .ok generator) :
    ∃ form, Form.Reads lexicalCast body form ∧
      generator.ranges[front.length]? = some (form.range leadZero telescoping front.length) := by
  rcases new_eq_ok_iff.mp accepted with ⟨pieces, tail', forms, split', read, -, rfl⟩
  rcases split.unique split' with ⟨rfl, rfl⟩
  rcases exists_of_forall₂_append_cons read with
    ⟨frontForms, form, backForms, rfl, readFront, reads, -⟩
  refine ⟨form, reads, ?_⟩
  rw [Form.getElem?_ranges, readFront.length_eq]
  simp

theorem accepted_of_reads {lexicalCast : Text → Option SizeT} {start stop : SizeT}
    (split : Splits input (front ++ (literal, body) :: back) tail)
    (readFront : List.Forall₂ (fun piece form => Form.Reads lexicalCast piece.2 form)
      front frontForms)
    (readBack : List.Forall₂ (fun piece form => Form.Reads lexicalCast piece.2 form)
      back backForms)
    (first : frontForms.head? ≠ some .continuation)
    (reads : Form.Reads lexicalCast body (.explicit start stop)) :
    ∃ generator, new lexicalCast leadZero telescoping input = .ok generator := by
  refine ⟨_, new_eq_ok_iff.mpr ⟨_, _, frontForms ++ .explicit start stop :: backForms, split,
    List.rel_append readFront (.cons reads readBack), ?_, rfl⟩⟩
  cases frontForms with
  | nil => simp
  | cons form forms => simpa using first

theorem reads_of_isNumeralRange {start stop : ℕ} (isRange : IsNumeralRange body start stop) :
    ∃ first last, Form.Reads lexicalCastSize body (.explicit first last) ∧
      first.toNat = start ∧ last.toNat = stop := by
  rcases isRange with ⟨first, last, rfl, startNumeral, stopNumeral, ordered⟩
  have startValue := UInt64.toNat_ofNat_of_lt' startNumeral.lt
  have stopValue := UInt64.toNat_ofNat_of_lt' stopNumeral.lt
  refine ⟨.ofNat start, .ofNat stop, ?_, startValue, stopValue⟩
  apply Form.Reads.explicit startNumeral.noColon
  · rwa [lexicalCastSize_eq_some_iff startNumeral.noMinus, startValue]
  · rwa [filter_noColon stopNumeral.noColon, lexicalCastSize_eq_some_iff stopNumeral.noMinus,
      stopValue]
  · rw [UInt64.le_iff_toNat_le, startValue, stopValue]
    exact ordered

theorem isNumeralRange_of_reads {start stop : SizeT} (noSlip : HasNoSlip body)
    (reads : Form.Reads lexicalCastSize body (.explicit start stop)) :
    IsNumeralRange body start.toNat stop.toNat := by
  cases reads with
  | @explicit first rest _ _ noColon startCast stopCast ordered =>
      rcases noSlip first rest start stop rfl noColon startCast stopCast ordered with
        ⟨oneColon, firstSign, restSign⟩
      rw [filter_noColon oneColon] at stopCast
      exact ⟨first, rest, rfl, (lexicalCastSize_eq_some_iff firstSign).mp startCast,
        (lexicalCastSize_eq_some_iff restSign).mp stopCast, UInt64.le_iff_toNat_le.mp ordered⟩

theorem noSlip_of_isNumeralRange {start stop : ℕ} (isRange : IsNumeralRange body start stop) :
    HasNoSlip body := by
  intro first rest _ _ same noColon _ _ _
  rcases isRange with ⟨first', rest', rfl, startNumeral, stopNumeral, -⟩
  rcases Search.split_unique startNumeral.noColon noColon same with ⟨rfl, rfl⟩
  exact ⟨stopNumeral.noColon, startNumeral.noMinus, stopNumeral.noMinus⟩

/-- The range of an explicit form runs through its numbers, whatever else the generator has. -/
theorem produces_explicit {start stop : SizeT} (ordered : start ≤ stop) (ranges : List Range)
    (hops position : ℕ) :
    Odometer.Produces Range.incrementReturnCarry Range.reset (Range.getCurrent ranges hops)
      ((Form.explicit start stop).range leadZero telescoping position)
      ((List.range' start.toNat (stop.toNat + 1 - start.toNat)).map (Nat.toDigits 10)) := by
  refine ⟨_, _, Range.sweep_explicit ordered, ?_⟩
  apply (Form.showsValue_explicit start stop).imp
  intro state value shown
  exact shown ranges hops

/--
Between readable forms, the constructor accepts a body with a colon exactly
when it is a range of numerals, and runs through these, unless the body turns
into a range by dropping a colon or negating an endpoint.
-/
theorem acceptsNumeralRanges_iff
    (split : Splits input (front ++ (literal, body) :: back) tail) (colon : ':' ∈ body)
    (readFront : List.Forall₂ (fun piece form => Form.Reads lexicalCastSize piece.2 form)
      front frontForms)
    (readBack : List.Forall₂ (fun piece form => Form.Reads lexicalCastSize piece.2 form)
      back backForms)
    (first : frontForms.head? ≠ some .continuation) :
    AcceptsNumeralRanges leadZero telescoping input body front.length ↔ HasNoSlip body := by
  constructor
  · rintro ⟨accepts, -⟩ before rest start stop same noColon startCast stopCast ordered
    have reads : Form.Reads lexicalCastSize body (.explicit start stop) := by
      rw [same]
      exact .explicit noColon startCast stopCast ordered
    rcases accepts.mp (accepted_of_reads split readFront readBack first reads) with
      ⟨start', stop', isRange⟩
    exact noSlip_of_isNumeralRange isRange before rest start stop same noColon startCast stopCast
      ordered
  · intro noSlip
    constructor
    · constructor
      · rintro ⟨generator, accepted⟩
        rcases reads_at_position split accepted with ⟨form, reads, -⟩
        rcases reads.exists_of_colon colon with ⟨start, stop, rfl⟩
        exact ⟨_, _, isNumeralRange_of_reads noSlip reads⟩
      · rintro ⟨start, stop, isRange⟩
        rcases reads_of_isNumeralRange isRange with ⟨start, stop, reads, -⟩
        exact accepted_of_reads split readFront readBack first reads
    · intro generator accepted
      rcases reads_at_position split accepted with ⟨form, reads, atPosition⟩
      rcases reads.exists_of_colon colon with ⟨start, stop, rfl⟩
      have isRange := isNumeralRange_of_reads noSlip reads
      rcases isRange with ⟨_, _, _, _, _, ordered⟩
      exact ⟨_, _, _, isNumeralRange_of_reads noSlip reads, atPosition,
        produces_explicit (UInt64.le_iff_toNat_le.mpr ordered) _ _ _⟩

theorem acceptsNumeralRanges_iff_of_example :
    AcceptsNumeralRanges false false "/\x7b1:3\x7d".toList "1:3".toList 0 ↔
      HasNoSlip "1:3".toList := by
  have split : Splits "/\x7b1:3\x7d".toList [("/".toList, "1:3".toList)] [] :=
    @Splits.form "/".toList "1:3".toList [] [] [] (by decide) (by decide)
      (.tail (by decide) (by decide))
  exact @acceptsNumeralRanges_iff false false _ "/".toList _ [] [] [] [] [] split (by decide) .nil
    .nil (by simp)

/-- The second colon is dropped, and the range runs from 1 to 23. -/
theorem second_colon_dropped :
    ¬ AcceptsNumeralRanges false false "/\x7b1:2:3\x7d".toList "1:2:3".toList 0 := by
  rintro ⟨accepts, -⟩
  have accepted : new lexicalCastSize false false "/\x7b1:2:3\x7d".toList =
      .ok { literalTokens := ["/".toList, []]
            ranges := [.explicit { start := 1, stop := 23, current := 1 }]
            isComplete := false } := by decide
  rcases accepts.mp ⟨_, accepted⟩ with ⟨start, stop, isRange⟩
  have noSlip := noSlip_of_isNumeralRange isRange "1".toList "2:3".toList 1 23 (by decide)
    (by decide) (by decide) (by decide) (by decide)
  exact noSlip.1 (by decide)

end Explicit

end UriGenerator

end Abrade
