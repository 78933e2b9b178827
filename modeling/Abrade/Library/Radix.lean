import Abrade.Library.Odometer

/-!
# Mixed radix numerals

A row of digits, each below the radix of its position, read as a number with
the last digit the least significant.  In lexicographic order the rows are the
numerals of the numbers below the product of the radices, one after another.
-/

namespace Radix

open Odometer (cartesian)

/-- The number a row of digits stands for. -/
def value : List ℕ → List ℕ → ℕ
  | _ :: radices, digit :: digits => digit * radices.prod + value radices digits
  | _, _ => 0

/-- Every row of digits below the radices, in lexicographic order. -/
def numerals (radices : List ℕ) : List (List ℕ) :=
  cartesian (radices.map List.range)

@[simp]
theorem value_nil (digits : List ℕ) : value [] digits = 0 := by
  cases digits <;> rfl

@[simp]
theorem value_cons (radix : ℕ) (radices : List ℕ) (digit : ℕ) (digits : List ℕ) :
    value (radix :: radices) (digit :: digits) = digit * radices.prod + value radices digits :=
  rfl

theorem mem_numerals_iff {radices digits : List ℕ} :
    digits ∈ numerals radices ↔ List.Forall₂ (· < ·) digits radices := by
  rw [numerals, Odometer.mem_cartesian_iff, List.forall₂_map_right_iff]
  simp only [List.mem_range]

theorem lt_of_mem_numerals_replicate {count radix : ℕ} {digits : List ℕ}
    (digitsMem : digits ∈ numerals (List.replicate count radix)) :
    ∀ digit ∈ digits, digit < radix := by
  have below := mem_numerals_iff.mp digitsMem
  have constant : ∀ other ∈ List.replicate count radix, other = radix :=
    fun _ => List.eq_of_mem_replicate
  clear digitsMem
  generalize List.replicate count radix = radices at below constant
  induction below with
  | nil => simp
  | cons first _ ih =>
      rw [List.forall_mem_cons] at constant ⊢
      exact ⟨constant.1 ▸ first, ih constant.2⟩

theorem range_mul (blocks width : ℕ) :
    List.range (blocks * width) =
      (List.range blocks).flatMap fun block => (List.range width).map (block * width + ·) := by
  induction blocks with
  | zero => simp
  | succ blocks ih =>
      rw [Nat.succ_mul, List.range_add, ih, List.range_succ, List.flatMap_append,
        List.flatMap_singleton]

/-- The rows count up. -/
theorem map_value_numerals (radices : List ℕ) :
    (numerals radices).map (value radices) = List.range radices.prod := by
  induction radices with
  | nil => rfl
  | cons radix radices ih =>
      have behind (digit : ℕ) : ((numerals radices).map (digit :: ·)).map (value (radix :: radices)) =
          (List.range radices.prod).map (digit * radices.prod + ·) := by
        rw [← ih, List.map_map, List.map_map]
        rfl
      rw [numerals, List.map_cons, Odometer.cartesian_cons, List.map_flatMap, List.prod_cons,
        range_mul]
      exact List.flatMap_congr fun digit _ => behind digit

/--
The row behind a row of digits, and whether it has gone round to zero.  The last
digit moves first; a digit that reaches its radix returns to zero and moves the
digit before it.
-/
def successor : List ℕ → List ℕ → Bool × List ℕ
  | radix :: radices, digit :: digits =>
      let (carry, digits) := successor radices digits
      if carry then
        if digit + 1 < radix then (false, (digit + 1) :: digits) else (true, 0 :: digits)
      else (false, digit :: digits)
  | _, _ => (true, [])

section Successor

variable {radices digits : List ℕ}

theorem value_lt_prod (below : List.Forall₂ (· < ·) digits radices) :
    value radices digits < radices.prod := by
  induction below with
  | nil => simp
  | @cons digit radix digits radices first _ ih =>
      rw [value_cons, List.prod_cons]
      calc
        digit * radices.prod + value radices digits < (digit + 1) * radices.prod := by
          rw [Nat.succ_mul]
          omega
        _ ≤ radix * radices.prod := Nat.mul_le_mul_right _ first

theorem value_eq_zero_iff (below : List.Forall₂ (· < ·) digits radices) :
    value radices digits = 0 ↔ ∀ digit ∈ digits, digit = 0 := by
  induction below with
  | nil => simp
  | @cons digit radix digits radices first rest ih =>
      have positive : radices.prod ≠ 0 := Nat.ne_zero_of_lt (value_lt_prod rest)
      rw [value_cons, Nat.add_eq_zero_iff, ih, List.forall_mem_cons, Nat.mul_eq_zero]
      simp only [positive, or_false]

theorem successor_below (below : List.Forall₂ (· < ·) digits radices) :
    List.Forall₂ (· < ·) (successor radices digits).2 radices := by
  induction below with
  | nil => exact .nil
  | @cons digit radix digits radices first rest ih =>
      rw [successor]
      rcases next : successor radices digits with ⟨_ | _, moved⟩
      · rw [next] at ih
        exact .cons first ih
      · rw [next] at ih
        by_cases inside : digit + 1 < radix
        · simp only [inside, if_true]
          exact .cons inside ih
        · simp only [inside, if_true, if_false]
          exact .cons (Nat.zero_lt_of_lt first) ih

/-- The row counts one further, and a carry takes away the whole range of values. -/
theorem value_successor_add (below : List.Forall₂ (· < ·) digits radices) :
    value radices (successor radices digits).2 +
        (if (successor radices digits).1 then radices.prod else 0) =
      value radices digits + 1 := by
  induction below with
  | nil => simp [successor]
  | @cons digit radix digits radices first _ ih =>
      rw [successor]
      rcases next : successor radices digits with ⟨_ | _, moved⟩
      · simp only [next, Bool.false_eq_true, if_false] at ih ⊢
        rw [value_cons, value_cons]
        omega
      · simp only [next, if_true] at ih ⊢
        by_cases inside : digit + 1 < radix
        · simp only [inside, if_true, Bool.false_eq_true, if_false]
          rw [value_cons, value_cons, Nat.succ_mul]
          omega
        · have last : radix = digit + 1 := by omega
          simp only [inside, if_true, if_false]
          rw [value_cons, value_cons, List.prod_cons, last, Nat.succ_mul]
          omega

theorem value_successor (below : List.Forall₂ (· < ·) digits radices) :
    value radices (successor radices digits).2 = (value radices digits + 1) % radices.prod := by
  have counted := value_successor_add below
  have bound := value_lt_prod (successor_below below)
  rw [← counted]
  split
  · rw [Nat.add_mod_right, Nat.mod_eq_of_lt bound]
  · rw [Nat.add_zero, Nat.mod_eq_of_lt bound]

/-- A row carries exactly when it goes round to zero. -/
theorem successor_carries_iff (below : List.Forall₂ (· < ·) digits radices) :
    (successor radices digits).1 = true ↔ value radices (successor radices digits).2 = 0 := by
  have counted := value_successor_add below
  have bound := value_lt_prod below
  constructor
  · intro carries
    rw [if_pos carries] at counted
    omega
  · intro zero
    by_contra still
    rw [if_neg still] at counted
    omega

theorem successor_eq_zeros (below : List.Forall₂ (· < ·) digits radices)
    (carries : (successor radices digits).1 = true) :
    (successor radices digits).2 = radices.map fun _ => 0 := by
  have inside := successor_below below
  have zero := (value_eq_zero_iff inside).mp ((successor_carries_iff below).mp carries)
  rw [List.map_const', ← inside.length_eq]
  exact List.eq_replicate_iff.mpr ⟨rfl, zero⟩

end Successor

end Radix
