import Mathlib.Algebra.BigOperators.Group.List.Basic
import Mathlib.Algebra.Field.Defs

/-!
# Linear trends

The sums a simple linear regression is made of, for samples with two
coordinates over any field.
-/

namespace Regression

universe u

variable {K : Type u} [Field K]

def mean (numbers : List K) : K :=
  numbers.sum / numbers.length

/-- The sum of the squared deviations of the first coordinate from its mean. -/
def variation (samples : List (K × K)) : K :=
  (samples.map fun sample =>
    (sample.1 - mean (samples.map Prod.fst)) * (sample.1 - mean (samples.map Prod.fst))).sum

/-- The sum of the products of the deviations of both coordinates from their means. -/
def covariation (samples : List (K × K)) : K :=
  (samples.map fun sample =>
    (sample.1 - mean (samples.map Prod.fst)) * (sample.2 - mean (samples.map Prod.snd))).sum

section Columns

variable {first second : List K}

theorem variation_zip (same : first.length = second.length) :
    variation (first.zip second) =
      (first.map fun number => (number - mean first) * (number - mean first)).sum := by
  have firsts : (first.zip second).map Prod.fst = first := List.map_fst_zip (Nat.le_of_eq same)
  have squares : (first.zip second).map
        (fun sample => (sample.1 - mean first) * (sample.1 - mean first)) =
      ((first.zip second).map Prod.fst).map
        fun number => (number - mean first) * (number - mean first) := by
    rw [List.map_map]
    rfl
  rw [variation, firsts, squares, firsts]

theorem covariation_zip (same : first.length = second.length) :
    covariation (first.zip second) =
      (List.zipWith (fun number other => (number - mean first) * (other - mean second))
        first second).sum := by
  have firsts : (first.zip second).map Prod.fst = first := List.map_fst_zip (Nat.le_of_eq same)
  have seconds : (first.zip second).map Prod.snd = second :=
    List.map_snd_zip (Nat.le_of_eq same.symm)
  rw [covariation, firsts, seconds, List.map_zip_eq_zipWith]
  rfl

end Columns

end Regression
