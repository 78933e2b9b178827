import Abrade.Network.Decimal

/-!
# The timeout of an operation

How `network_operation_timeout` reads `ABRADE_NETWORK_TIMEOUT_MS`.  The value
is judged after `strtoull` has converted it, and `strtoull` takes a sign.
-/

namespace Abrade

/-- A string as the environment holds it, without the terminating zero byte. -/
structure CString where
  bytes : Bytes
  noNul : 0 ∉ bytes

abbrev Environment := String → Option CString

/-- `detail::environment_variable`. -/
def environmentVariable (environment : Environment) (name : String) : CString :=
  match environment name with
  | none => { bytes := [], noNul := List.not_mem_nil }
  | some value => value

/-- `std::isspace` of the C locale. -/
def isSpaceByte (byte : UInt8) : Bool :=
  byte == ascii ' ' || (9 ≤ byte && byte ≤ 13)

inductive Sign where
  | none
  | plus
  | minus
  deriving DecidableEq

namespace Sign

def text : Sign → Bytes
  | .none => []
  | .plus => [ascii '+']
  | .minus => [ascii '-']

/-- The sign in front of a text, and the text behind it. -/
def split : Bytes → Sign × Bytes
  | [] => (.none, [])
  | front :: rest =>
      if front = ascii '-' then (.minus, rest)
      else if front = ascii '+' then (.plus, rest)
      else (.none, front :: rest)

/-- A magnitude that does not fit saturates; a minus sign negates modulo `2 ^ 64`. -/
def convert (sign : Sign) (magnitude : ℕ) : ℕ :=
  if 2 ^ 64 ≤ magnitude then 2 ^ 64 - 1
  else if sign = .minus then (2 ^ 64 - magnitude) % 2 ^ 64
  else magnitude

end Sign

/-- `std::strtoull` with base 10: the converted value and the text at `end`. -/
def strtoull (text : Bytes) : ℕ × Bytes :=
  let (sign, unsigned) := Sign.split (text.dropWhile isSpaceByte)
  let digits := unsigned.takeWhile isDigitByte
  if digits = [] then (0, text)
  else (sign.convert (digitsValue digits), unsigned.dropWhile isDigitByte)

/-- The timeout in milliseconds. -/
def networkOperationTimeout (environment : Environment) : ℕ :=
  let defaultTimeout := 30000
  let rawTimeout := (environmentVariable environment "ABRADE_NETWORK_TIMEOUT_MS").bytes
  if rawTimeout.isEmpty then defaultTimeout
  else
    let (parsed, stop) := strtoull rawTimeout
    if stop.headD 0 ≠ 0 ∨ parsed = 0 ∨ 2 ^ 31 - 1 < parsed then defaultTimeout
    else parsed

/-- White space, a sign, digits and what stands behind the digits. -/
structure Numeral where
  space : Bytes
  sign : Sign
  digits : Bytes
  behind : Bytes
  isSpace : ∀ byte ∈ space, isSpaceByte byte = true
  isDigits : IsDigits digits
  stops : ∀ byte, behind.head? = some byte → isDigitByte byte = false

namespace Numeral

def text (numeral : Numeral) : Bytes :=
  numeral.space ++ (numeral.sign.text ++ (numeral.digits ++ numeral.behind))

def magnitude (numeral : Numeral) : ℕ :=
  digitsValue numeral.digits

/-- The integer that the digits denote with their sign. -/
def value (numeral : Numeral) : ℤ :=
  if numeral.sign = .minus then -(numeral.magnitude : ℤ) else numeral.magnitude

end Numeral

/--
The timeout is the default, or it is what a string of white space, an optional
plus sign and digits denotes; negative, zero and too large numbers and anything
behind the digits give the default.
-/
def HonoursTimeout (text : Bytes) (timeout : ℕ) : Prop :=
  (timeout = 30000 ∨ ∃ numeral : Numeral, numeral.text = text ∧ numeral.sign ≠ .minus ∧
      numeral.behind = [] ∧ 1 ≤ numeral.magnitude ∧ numeral.magnitude ≤ 2 ^ 31 - 1 ∧
      timeout = numeral.magnitude) ∧
    ∀ numeral : Numeral, numeral.text = text →
      (numeral.value ≤ 0 ∨ 2 ^ 31 - 1 < numeral.value ∨ numeral.behind ≠ []) → timeout = 30000

/--
A minus sign and digits whose negation modulo `2 ^ 64` is a positive `int` other
than the default.
-/
def WrapsToTimeout (text : Bytes) : Prop :=
  ∃ numeral : Numeral, numeral.text = text ∧ numeral.sign = .minus ∧ numeral.behind = [] ∧
    2 ^ 64 - 2 ^ 31 < numeral.magnitude ∧ numeral.magnitude < 2 ^ 64 ∧
    numeral.magnitude ≠ 2 ^ 64 - 30000

section Conversion

theorem isDigitByte_eq_false_of_isSpaceByte {byte : UInt8} (space : isSpaceByte byte = true) :
    isDigitByte byte = false := by
  rw [Bool.eq_false_iff, ne_eq, isDigitByte_iff]
  rw [isSpaceByte, Bool.or_eq_true, Bool.and_eq_true, beq_iff_eq, decide_eq_true_iff,
    decide_eq_true_iff, UInt8.le_iff_toNat_le, UInt8.le_iff_toNat_le] at space
  rcases space with rfl | ⟨-, upper⟩
  · decide
  · have bound : byte.toNat ≤ 13 := upper
    omega

theorem Sign.split_text_append {sign : Sign} {rest : Bytes}
    (noSign : ∀ byte, rest.head? = some byte → byte ≠ ascii '-' ∧ byte ≠ ascii '+') :
    Sign.split (sign.text ++ rest) = (sign, rest) := by
  cases sign with
  | none =>
      cases rest with
      | nil => rfl
      | cons byte rest =>
          rcases noSign byte rfl with ⟨noMinus, noPlus⟩
          simp [text, split, noMinus, noPlus]
  | plus => rfl
  | minus => rfl

theorem Sign.text_append_split (rest : Bytes) :
    (Sign.split rest).1.text ++ (Sign.split rest).2 = rest := by
  cases rest with
  | nil => rfl
  | cons byte rest =>
      simp only [split]
      split_ifs with minus plus
      · simp [text, minus]
      · simp [text, plus]
      · rfl

/-- White space ends at a sign or at a digit. -/
theorem Sign.not_space_of_head {sign : Sign} {digits rest : Bytes} (isDigits : IsDigits digits)
    {byte : UInt8} (first : (sign.text ++ (digits ++ rest)).head? = some byte) :
    isSpaceByte byte = false := by
  cases sign with
  | none =>
      rcases List.exists_cons_of_ne_nil isDigits.1 with ⟨digit, digits, rfl⟩
      have digitFirst := isDigits.2 digit List.mem_cons_self
      cases first
      rw [Bool.eq_false_iff]
      intro space
      rw [isDigitByte_eq_false_of_isSpaceByte space] at digitFirst
      cases digitFirst
  | plus =>
      cases first
      rfl
  | minus =>
      cases first
      rfl

theorem strtoull_text (numeral : Numeral) :
    strtoull numeral.text = (numeral.sign.convert numeral.magnitude, numeral.behind) := by
  have space : numeral.text.dropWhile isSpaceByte =
      numeral.sign.text ++ (numeral.digits ++ numeral.behind) := by
    apply Decoding.dropWhile_append numeral.isSpace
    intro byte first
    exact Sign.not_space_of_head numeral.isDigits first
  have sign : Sign.split (numeral.sign.text ++ (numeral.digits ++ numeral.behind)) =
      (numeral.sign, numeral.digits ++ numeral.behind) := by
    apply Sign.split_text_append
    intro byte first
    rcases List.exists_cons_of_ne_nil numeral.isDigits.1 with ⟨digit, digits, digitsEq⟩
    have digitFirst := numeral.isDigits.2 digit (digitsEq ▸ List.mem_cons_self)
    rw [digitsEq] at first
    cases first
    constructor
    · rintro rfl
      cases digitFirst
    · rintro rfl
      cases digitFirst
  have digits := Decoding.takeWhile_append numeral.isDigits.2 numeral.stops
  have behind := Decoding.dropWhile_append numeral.isDigits.2 numeral.stops
  simp only [strtoull, space, sign, digits, behind, if_neg numeral.isDigits.1]
  rfl

/-- Without digits behind the white space and the sign, nothing is converted. -/
theorem strtoull_cases (text : Bytes) :
    (∃ numeral : Numeral, numeral.text = text) ∨ strtoull text = (0, text) := by
  rcases splitEq : Sign.split (text.dropWhile isSpaceByte) with ⟨sign, unsigned⟩
  by_cases noDigits : unsigned.takeWhile isDigitByte = []
  · right
    simp only [strtoull, splitEq, if_pos noDigits]
  · left
    let numeral : Numeral :=
      { space := text.takeWhile isSpaceByte
        sign
        digits := unsigned.takeWhile isDigitByte
        behind := unsigned.dropWhile isDigitByte
        isSpace := fun _ byteMem => List.mem_takeWhile_imp byteMem
        isDigits := ⟨noDigits, fun _ byteMem => List.mem_takeWhile_imp byteMem⟩
        stops := by
          intro byte first
          have fails := List.head?_dropWhile_not isDigitByte unsigned
          rw [first] at fails
          exact fails }
    refine ⟨numeral, ?_⟩
    have signed := Sign.text_append_split (text.dropWhile isSpaceByte)
    rw [splitEq] at signed
    calc numeral.text
        = text.takeWhile isSpaceByte ++ (sign.text ++
            (unsigned.takeWhile isDigitByte ++ unsigned.dropWhile isDigitByte)) := rfl
      _ = text := by
        rw [List.takeWhile_append_dropWhile, signed, List.takeWhile_append_dropWhile]

end Conversion

section Contract

variable {environment : Environment}

/-- The end pointer stands at the terminating zero byte only when nothing is left. -/
theorem CString.headD_eq_zero_iff (value : CString) {before behind : Bytes}
    (suffix : before ++ behind = value.bytes) : behind.headD 0 = 0 ↔ behind = [] := by
  cases behind with
  | nil => simp
  | cons byte behind =>
      have noNul := value.noNul
      rw [← suffix] at noNul
      simp only [List.headD_cons, reduceCtorEq, iff_false]
      rintro rfl
      exact noNul (List.mem_append_right _ List.mem_cons_self)

theorem networkOperationTimeout_numeral {numeral : Numeral}
    (text : numeral.text =
      (environmentVariable environment "ABRADE_NETWORK_TIMEOUT_MS").bytes) :
    networkOperationTimeout environment =
      if numeral.behind ≠ [] ∨ numeral.sign.convert numeral.magnitude = 0 ∨
          2 ^ 31 - 1 < numeral.sign.convert numeral.magnitude then 30000
      else numeral.sign.convert numeral.magnitude := by
  have nonempty : numeral.text ≠ [] := by
    intro empty
    simp only [Numeral.text, List.append_eq_nil_iff] at empty
    exact numeral.isDigits.1 empty.2.2.1
  have suffix : (numeral.space ++ (numeral.sign.text ++ numeral.digits)) ++ numeral.behind =
      (environmentVariable environment "ABRADE_NETWORK_TIMEOUT_MS").bytes := by
    rw [← text, Numeral.text, List.append_assoc, List.append_assoc]
  have stop := CString.headD_eq_zero_iff _ suffix
  simp only [networkOperationTimeout, ← text, List.isEmpty_iff, if_neg nonempty, strtoull_text,
    ne_eq, stop]

theorem networkOperationTimeout_of_noNumeral
    (noNumeral : ¬ ∃ numeral : Numeral, numeral.text =
      (environmentVariable environment "ABRADE_NETWORK_TIMEOUT_MS").bytes) :
    networkOperationTimeout environment = 30000 := by
  have unread := (strtoull_cases _).resolve_left noNumeral
  simp only [networkOperationTimeout, unread]
  split
  · rfl
  · simp

/-- The value of a minus sign is the negation, unless the magnitude is zero or saturates. -/
theorem Sign.convert_minus {magnitude : ℕ} (positive : 0 < magnitude) (small : magnitude < 2 ^ 64) :
    Sign.minus.convert magnitude = 2 ^ 64 - magnitude := by
  rw [convert, if_neg (Nat.not_le.mpr small), if_pos rfl]
  omega

theorem Sign.convert_of_ne_minus {sign : Sign} (noMinus : sign ≠ .minus) (magnitude : ℕ) :
    sign.convert magnitude = min magnitude (2 ^ 64 - 1) := by
  rw [convert, if_neg noMinus]
  split_ifs <;> omega

theorem Numeral.value_nonpos_of_minus {numeral : Numeral} (minus : numeral.sign = .minus) :
    numeral.value ≤ 0 := by
  rw [value, if_pos minus]
  omega

/-- What is out of range or followed by something falls back, unless its negation passes. -/
theorem fallsBack_of_not_wraps {numeral : Numeral}
    (text : numeral.text = (environmentVariable environment "ABRADE_NETWORK_TIMEOUT_MS").bytes)
    (noWrap : ¬ WrapsToTimeout (environmentVariable environment "ABRADE_NETWORK_TIMEOUT_MS").bytes)
    (outside : numeral.value ≤ 0 ∨ 2 ^ 31 - 1 < numeral.value ∨ numeral.behind ≠ []) :
    networkOperationTimeout environment = 30000 := by
  rw [networkOperationTimeout_numeral text]
  split_ifs with rejected
  · rfl
  · simp only [not_or, not_not, not_lt] at rejected
    rcases rejected with ⟨nothing, nonzero, inRange⟩
    by_cases minus : numeral.sign = .minus
    · rw [minus] at nonzero inRange ⊢
      have positive : 0 < numeral.magnitude := by
        rw [Nat.pos_iff_ne_zero]
        intro zero
        rw [zero] at nonzero
        exact nonzero (by decide)
      have small : numeral.magnitude < 2 ^ 64 := by
        by_contra large
        rw [Sign.convert, if_pos (Nat.not_lt.mp large)] at inRange
        omega
      rw [Sign.convert_minus positive small] at inRange ⊢
      by_contra notDefault
      exact noWrap ⟨numeral, text, minus, nothing, by omega, small, by omega⟩
    · rw [Sign.convert_of_ne_minus minus] at nonzero inRange ⊢
      rw [Numeral.value, if_neg minus] at outside
      rcases outside with zero | large | something
      · omega
      · omega
      · exact absurd nothing something

theorem not_honours_of_wraps
    (wraps : WrapsToTimeout (environmentVariable environment "ABRADE_NETWORK_TIMEOUT_MS").bytes) :
    ¬ HonoursTimeout (environmentVariable environment "ABRADE_NETWORK_TIMEOUT_MS").bytes
      (networkOperationTimeout environment) := by
  intro honours
  rcases wraps with ⟨numeral, text, minus, nothing, large, small, notDefault⟩
  have fallsBack := honours.2 numeral text (.inl (Numeral.value_nonpos_of_minus minus))
  have taken : ¬ (numeral.behind ≠ [] ∨ 2 ^ 64 - numeral.magnitude = 0 ∨
      2 ^ 31 - 1 < 2 ^ 64 - numeral.magnitude) := by
    rintro (something | zero | tooLarge)
    · exact something nothing
    · omega
    · omega
  rw [networkOperationTimeout_numeral text, minus, Sign.convert_minus (by omega) small,
    if_neg taken] at fallsBack
  omega

/--
The documented fallback holds exactly when the value is not a negative number
whose negation modulo `2 ^ 64` passes for a timeout.
-/
theorem networkOperationTimeout_honours_iff (environment : Environment) :
    HonoursTimeout (environmentVariable environment "ABRADE_NETWORK_TIMEOUT_MS").bytes
        (networkOperationTimeout environment) ↔
      ¬ WrapsToTimeout (environmentVariable environment "ABRADE_NETWORK_TIMEOUT_MS").bytes := by
  constructor
  · intro honours wraps
    exact not_honours_of_wraps wraps honours
  · intro noWrap
    refine ⟨?_, fun numeral text => fallsBack_of_not_wraps text noWrap⟩
    by_cases notDefault : networkOperationTimeout environment = 30000
    · exact .inl notDefault
    · right
      have read : ∃ numeral : Numeral, numeral.text =
          (environmentVariable environment "ABRADE_NETWORK_TIMEOUT_MS").bytes := by
        by_contra noNumeral
        exact notDefault (networkOperationTimeout_of_noNumeral noNumeral)
      rcases read with ⟨numeral, text⟩
      have inside := mt (fallsBack_of_not_wraps text noWrap) notDefault
      simp only [not_or, not_le, not_lt, not_not] at inside
      rcases inside with ⟨positive, inRange, nothing⟩
      have noMinus : numeral.sign ≠ .minus :=
        fun minus => absurd (Numeral.value_nonpos_of_minus minus) (Int.not_le.mpr positive)
      rw [Numeral.value, if_neg noMinus] at positive inRange
      refine ⟨numeral, text, noMinus, nothing, by omega, by omega, ?_⟩
      have timeout := networkOperationTimeout_numeral text
      rw [Sign.convert_of_ne_minus noMinus] at timeout
      split_ifs at timeout
      · exact absurd timeout notDefault
      · omega

/-- Minus 18446744073709551615 is taken for one millisecond. -/
theorem negative_timeout_accepted :
    ¬ ∀ environment : Environment,
      HonoursTimeout (environmentVariable environment "ABRADE_NETWORK_TIMEOUT_MS").bytes
        (networkOperationTimeout environment) := by
  intro claimed
  let value : CString :=
    { bytes := "-18446744073709551615".toList.map ascii, noNul := by decide }
  let numeral : Numeral :=
    { space := [], sign := .minus, digits := decimalText 18446744073709551615, behind := []
      isSpace := fun _ byteMem => absurd byteMem List.not_mem_nil
      isDigits := isDigits_decimalText _
      stops := fun _ first => nomatch first }
  have magnitude : numeral.magnitude = 18446744073709551615 := digitsValue_decimalText _
  have text : numeral.text = value.bytes := by decide
  have wraps : WrapsToTimeout value.bytes :=
    ⟨numeral, text, rfl, rfl, by omega, by omega, by omega⟩
  let environment : Environment := fun _ => some value
  exact @not_honours_of_wraps environment wraps (claimed environment)

end Contract

end Abrade
