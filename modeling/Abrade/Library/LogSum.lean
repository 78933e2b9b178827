import Mathlib.Analysis.SpecialFunctions.Log.Basic

/-!
# Logarithms of products and sums

The logarithm of a product as a running sum, and the logarithm of a sum whose
summands are only known by their logarithms, shifted before the exponentials are
taken.
-/

namespace LogSum

universe u

variable {α : Type u}

/-- The first of the largest entries. -/
def maxElement (less : α → α → Bool) : List α → Option α
  | [] => none
  | entry :: entries =>
      some (entries.foldl
        (fun largest entry => if less largest entry then entry else largest) entry)

theorem maxElement_eq_none_iff {less : α → α → Bool} {entries : List α} :
    maxElement less entries = none ↔ entries = [] := by
  cases entries <;> simp [maxElement]

theorem foldl_add (weight : α → ℝ) (start : ℝ) (entries : List α) :
    entries.foldl (fun sum entry => sum + weight entry) start =
      start + (entries.map weight).sum := by
  induction entries generalizing start with
  | nil => simp
  | cons entry entries ih =>
      rw [List.foldl_cons, ih, List.map_cons, List.sum_cons, add_assoc]

/-- The logarithm of a product of positive numbers is the sum of their logarithms. -/
theorem sum_log {count : α → ℕ} {entries : List α}
    (positive : ∀ entry ∈ entries, 0 < count entry) :
    (entries.map fun entry => Real.log (count entry)).sum =
      Real.log ((entries.map count).prod : ℕ) := by
  induction entries with
  | nil => simp
  | cons entry entries ih =>
      rw [List.forall_mem_cons] at positive
      have restPositive : 0 < (entries.map count).prod := by
        apply Nat.pos_of_ne_zero
        apply List.prod_ne_zero
        intro zeroMem
        rcases List.mem_map.mp zeroMem with ⟨other, otherMem, zero⟩
        exact (positive.2 other otherMem).ne' zero
      rw [List.map_cons, List.sum_cons, ih positive.2, List.map_cons, List.prod_cons,
        Nat.cast_mul, Real.log_mul (by exact_mod_cast positive.1.ne')
          (by exact_mod_cast restPositive.ne')]

/-- The shifted sum of exponentials. -/
noncomputable def shiftedSum (key : α → ℝ) (shift : ℝ) (entries : List α) : ℝ :=
  (entries.map fun entry => Real.exp (key entry - shift)).sum

section Shifted

variable {key : α → ℝ} {shift : ℝ} {entries : List α}

theorem shiftedSum_eq : shiftedSum key shift entries =
    (entries.map fun entry => Real.exp (key entry)).sum * Real.exp (-shift) := by
  unfold shiftedSum
  induction entries with
  | nil => simp
  | cons entry entries ih =>
      rw [List.map_cons, List.sum_cons, ih, List.map_cons, List.sum_cons, add_mul,
        sub_eq_add_neg, Real.exp_add]

theorem sum_exp_pos (nonempty : entries ≠ []) :
    0 < (entries.map fun entry => Real.exp (key entry)).sum := by
  apply List.sum_pos
  · intro value valueMem
    rcases List.mem_map.mp valueMem with ⟨entry, -, rfl⟩
    exact Real.exp_pos _
  · simpa using nonempty

/-- The shift does not change the logarithm of the sum. -/
theorem add_log_shiftedSum (nonempty : entries ≠ []) :
    shift + Real.log (shiftedSum key shift entries) =
      Real.log (entries.map fun entry => Real.exp (key entry)).sum := by
  rw [shiftedSum_eq, Real.log_mul (sum_exp_pos nonempty).ne' (Real.exp_pos _).ne', Real.log_exp]
  ring

end Shifted

end LogSum
