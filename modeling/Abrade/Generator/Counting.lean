import Abrade.Generator.Increments
import Abrade.Library.Radix

/-!
# Counting with digits

An increment of an implicit range takes its digits to the next mixed radix
numeral, the radices being the sizes of the domains.  It carries exactly when
the numeral goes round to zero.  The digits are then those the constructor
sets, which is why `reset` need not touch them.
-/

namespace Abrade

open Odometer (advance)

namespace ImplicitRange

def radices (range : ImplicitRange) : List ℕ :=
  range.domains.map List.length

/-- The number the digits stand for, the last digit the least significant. -/
def value (range : ImplicitRange) : ℕ :=
  Radix.value range.radices range.digits

/-- `next` counts one further than `range`; `carry` says that it went round to the start. -/
structure IsSuccessor (range next : ImplicitRange) (carry : Bool) : Prop where
  domains : next.domains = range.domains
  leadingZeros : next.leadingZeros = range.leadingZeros
  valid : Form.Valid next.domains next.digits
  value : next.value = (range.value + 1) % range.radices.prod
  carries : carry = true ↔ next.value = 0
  initial : carry = true → next.digits = range.domains.map fun _ => 0
  reset : carry = true → ∀ symbols fresh, new symbols range.leadingZeros = .ok fresh →
    fresh.domains = range.domains → next.reset = fresh

section Successor

variable {range : ImplicitRange} {domains : List Text} {digits : List ℕ}

theorem valid_iff_below :
    Form.Valid domains digits ↔ List.Forall₂ (· < ·) digits (domains.map List.length) := by
  rw [List.forall₂_map_right_iff]
  rfl

theorem ofCells_zip (leadZero : Bool) (lengths : digits.length = domains.length) :
    ofCells leadZero (domains.zip digits) = { domains, digits, leadingZeros := leadZero } := by
  rw [ofCells, List.map_fst_zip lengths.ge, List.map_snd_zip lengths.le]

/-- The odometer of the cells moves as the numeral of their digits does. -/
theorem advance_zip (valid : Form.Valid domains digits) :
    advance cellStep id (domains.zip digits) =
      .ok ((Radix.successor (domains.map List.length) digits).map id domains.zip) := by
  induction valid with
  | nil => rfl
  | @cons digit domain digits domains _ _ ih =>
      rw [List.zip_cons_cons, advance, ih, List.map_cons, Radix.successor]
      rcases Radix.successor (domains.map List.length) digits with ⟨_ | _, moved⟩
      · rfl
      · by_cases inside : digit + 1 < domain.length
        · simp [cellStep, inside]
        · simp [cellStep, inside]

/-- The loop of `increment_return_carry` is the successor of a mixed radix numeral. -/
theorem incrementReturnCarry_eq_successor (nonempty : range.domains ≠ [])
    (valid : Form.Valid range.domains range.digits) :
    range.incrementReturnCarry =
      .ok ((Radix.successor range.radices range.digits).1,
        { range with digits := (Radix.successor range.radices range.digits).2 }) := by
  rcases range with ⟨domains, digits, leadZero⟩
  change domains ≠ [] at nonempty
  change Form.Valid domains digits at valid
  have cellsNonempty : domains.zip digits ≠ [] := by
    rw [← List.length_pos_iff, List.length_zip, valid.length_eq, Nat.min_self]
    exact List.length_pos_iff.mpr nonempty
  have nextLength : (Radix.successor (domains.map List.length) digits).2.length =
      domains.length := by
    rw [(Radix.successor_below (valid_iff_below.mp valid)).length_eq, List.length_map]
  rw [← ofCells_zip leadZero valid.length_eq, incrementReturnCarry_ofCells leadZero cellsNonempty,
    advance_zip valid, ofCells_zip leadZero valid.length_eq]
  simp only [Except.map, Prod.map, ofCells_zip leadZero nextLength]
  rfl

theorem isSuccessor_successor (valid : Form.Valid range.domains range.digits) :
    IsSuccessor range { range with digits := (Radix.successor range.radices range.digits).2 }
      (Radix.successor range.radices range.digits).1 := by
  have below : List.Forall₂ (· < ·) range.digits range.radices := valid_iff_below.mp valid
  have zeros (carries : (Radix.successor range.radices range.digits).1 = true) :
      (Radix.successor range.radices range.digits).2 = range.domains.map fun _ => 0 := by
    rw [Radix.successor_eq_zeros below carries, radices, List.map_map]
    rfl
  refine ⟨rfl, rfl, ?_, Radix.value_successor below, Radix.successor_carries_iff below, zeros, ?_⟩
  · exact valid_iff_below.mpr (Radix.successor_below below)
  · intro carries symbols fresh built sameDomains
    rcases new_eq_ok_iff.mp built with ⟨-, rfl⟩
    have freshDigits : (Form.implicitRange range.leadingZeros symbols).digits =
        range.domains.map fun _ => 0 := by
      rw [← sameDomains, Form.implicitRange, List.map_map]
      rfl
    rw [reset, Form.implicitRange, ImplicitRange.mk.injEq]
    exact ⟨sameDomains.symm, (zeros carries).trans freshDigits.symm, rfl⟩

/-- The generator resets a range that carries, which leaves an implicit range as it is. -/
theorem incrementRangeAt_implicit {generator : UriGenerator} {pivot : ℕ} {next : ImplicitRange}
    {carry : Bool} (found : generator.ranges[pivot]? = some (.implicit range))
    (moves : range.incrementReturnCarry = .ok (carry, next)) :
    generator.incrementRangeAt pivot =
      .ok (carry, { generator with ranges := generator.ranges.set pivot (.implicit next) }) := by
  rw [UriGenerator.incrementRangeAt, checkedAt_eq_ok_iff.mpr found, Except.ok_bind,
    Range.incrementReturnCarry, moves]
  cases carry with
  | true => rfl
  | false => rfl

/--
One increment takes valid digits to the next numeral modulo the number of
numerals, and carries exactly when it arrives at zero.  The generator keeps the
range an increment returns, and behind a carry that is the range as it was
built.
-/
theorem increment_isSuccessor (nonempty : range.domains ≠ [])
    (valid : Form.Valid range.domains range.digits) :
    ∃ carry next, range.incrementReturnCarry = .ok (carry, next) ∧ IsSuccessor range next carry ∧
      ∀ (generator : UriGenerator) pivot, generator.ranges[pivot]? = some (.implicit range) →
        generator.incrementRangeAt pivot =
          .ok (carry, { generator with ranges := generator.ranges.set pivot (.implicit next) }) := by
  have moves := incrementReturnCarry_eq_successor nonempty valid
  refine ⟨_, _, moves, isSuccessor_successor valid, ?_⟩
  intro generator pivot found
  exact incrementRangeAt_implicit found moves

/-- The last of sixteen numerals, over a domain of two values and one of eight. -/
theorem increment_isSuccessor_of_last :
    ∃ carry next,
      incrementReturnCarry
          { domains := ["01".toList, "01234567".toList], digits := [1, 7], leadingZeros := true } =
        .ok (carry, next) ∧
      IsSuccessor
        { domains := ["01".toList, "01234567".toList], digits := [1, 7], leadingZeros := true }
        next carry ∧
      ∀ (generator : UriGenerator) pivot,
        generator.ranges[pivot]? = some (.implicit
          { domains := ["01".toList, "01234567".toList], digits := [1, 7], leadingZeros := true }) →
        generator.incrementRangeAt pivot =
          .ok (carry, { generator with ranges := generator.ranges.set pivot (.implicit next) }) :=
  increment_isSuccessor (by decide) (.cons (by decide) (.cons (by decide) .nil))

end Successor

end ImplicitRange

end Abrade
