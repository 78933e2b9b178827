import Abrade.Library.Decoding
import Abrade.Network.Endpoint
import Mathlib.Data.List.TakeWhile

/-!
# Decimal byte strings

Digits as `std::from_chars` and `std::strtoull` read them, and what a port text
has to be for `parse_tcp_port` to take it.
-/

namespace Abrade

/-- The number a run of digits stands for. -/
def digitsValue (digits : Bytes) : ℕ :=
  digits.foldl (fun value digit => 10 * value + (digit.toNat - (ascii '0').toNat)) 0

/-- Decimal digits, at least one of them. -/
def IsDigits (text : Bytes) : Prop :=
  text ≠ [] ∧ ∀ byte ∈ text, isDigitByte byte = true

/-- The text is a decimal numeral for the port. -/
def DenotesPort (text : Bytes) (port : UInt16) : Prop :=
  IsDigits text ∧ digitsValue text = port.toNat

/-- The decimal text of a number. -/
def decimalText (value : ℕ) : Bytes :=
  (Nat.toDigits 10 value).map ascii

section DecimalText

theorem toNat_ascii {element : Char} (digit : element.isDigit = true) :
    (ascii element).toNat = element.toNat := by
  have bounds : 48 ≤ element.toNat ∧ element.toNat ≤ 57 := Char.isDigit_iff_toNat.mp digit
  change element.toNat % 256 = element.toNat
  omega

theorem isDigitByte_iff {byte : UInt8} :
    isDigitByte byte = true ↔ 48 ≤ byte.toNat ∧ byte.toNat ≤ 57 := by
  rw [isDigitByte, Bool.and_eq_true, decide_eq_true_iff, decide_eq_true_iff,
    UInt8.le_iff_toNat_le, UInt8.le_iff_toNat_le]
  rfl

theorem isDigits_decimalText (value : ℕ) : IsDigits (decimalText value) := by
  constructor
  · rw [decimalText, ne_eq, List.map_eq_nil_iff]
    exact Nat.toDigits_ne_nil
  · intro byte byteMem
    rcases List.mem_map.mp byteMem with ⟨element, elementMem, rfl⟩
    have digit := Nat.isDigit_of_mem_toDigits (by decide) (by decide) elementMem
    rw [isDigitByte_iff, toNat_ascii digit]
    exact Char.isDigit_iff_toNat.mp digit

theorem digitsValue_decimalText (value : ℕ) : digitsValue (decimalText value) = value := by
  rw [digitsValue, decimalText, List.foldl_map]
  calc (Nat.toDigits 10 value).foldl
          (fun sofar element => 10 * sofar + ((ascii element).toNat - (ascii '0').toNat)) 0
      = Nat.ofDigitChars 10 (Nat.toDigits 10 value) 0 := by
        rw [Nat.ofDigitChars_eq_foldl]
        apply List.foldl_ext
        intro sofar element elementMem
        rw [toNat_ascii (Nat.isDigit_of_mem_toDigits (by decide) (by decide) elementMem)]
        rfl
    _ = value := Nat.ofDigitChars_ten_toDigits

theorem denotesPort_decimalText (port : UInt16) : DenotesPort (decimalText port.toNat) port :=
  ⟨isDigits_decimalText _, digitsValue_decimalText _⟩

end DecimalText

section Ports

variable {text : Bytes}

/-- Only a text of digits is read to its end. -/
theorem fromChars_eq_nil_iff {value : ℕ} :
    fromChars text = some (value, []) ↔
      IsDigits text ∧ digitsValue text = value ∧ value < 2 ^ 32 := by
  simp only [fromChars]
  constructor
  · intro read
    split at read
    · next accepted =>
        rcases accepted with ⟨nonempty, small⟩
        rcases Prod.mk.inj (Option.some.inj read) with ⟨valueEq, restEq⟩
        have allDigits := List.dropWhile_eq_nil_iff.mp restEq
        have whole := List.takeWhile_eq_self_iff.mpr allDigits
        rw [whole] at nonempty small valueEq
        exact ⟨⟨nonempty, allDigits⟩, valueEq, valueEq ▸ small⟩
    · cases read
  · rintro ⟨⟨nonempty, allDigits⟩, rfl, small⟩
    have whole := List.takeWhile_eq_self_iff.mpr allDigits
    have nothing := List.dropWhile_eq_nil_iff.mpr allDigits
    rw [whole, nothing, if_pos ⟨nonempty, small⟩]
    rfl

theorem parseTcpPort_eq_ok_iff {port : UInt16} :
    parseTcpPort text = .ok port ↔ DenotesPort text port ∧ port ≠ 0 := by
  have bound := port.toNat_lt
  have nonzero_iff : port ≠ 0 ↔ port.toNat ≠ 0 := not_congr UInt16.toNat_inj.symm
  rw [nonzero_iff]
  constructor
  · intro parsed
    simp only [parseTcpPort] at parsed
    split at parsed
    · cases parsed
    · split at parsed
      · cases parsed
      · next value rest read =>
          split at parsed
          · cases parsed
          · next inRange =>
              simp only [not_or, not_not, not_lt] at inRange
              rcases inRange with ⟨rfl, positive, small⟩
              rcases fromChars_eq_nil_iff.mp read with ⟨isDigits, valueEq, -⟩
              have portEq : port.toNat = value := by
                rw [← Except.ok.inj parsed]
                exact UInt16.toNat_ofNat_of_lt' (Nat.lt_succ_of_le small)
              exact ⟨⟨isDigits, by omega⟩, by omega⟩
  · rintro ⟨⟨isDigits, valueEq⟩, nonzero⟩
    have read : fromChars text = some (port.toNat, []) :=
      fromChars_eq_nil_iff.mpr ⟨isDigits, valueEq, by omega⟩
    have nonempty : text.isEmpty = false := List.isEmpty_eq_false_iff.mpr isDigits.1
    have inRange : ¬ (([] : Bytes) ≠ [] ∨ port.toNat = 0 ∨ 65535 < port.toNat) := by
      simp only [ne_eq, not_true_eq_false, false_or]
      omega
    simp only [parseTcpPort, nonempty, Bool.false_eq_true, if_false, read, if_neg inRange,
      UInt16.ofNat_toNat]

end Ports

end Abrade
