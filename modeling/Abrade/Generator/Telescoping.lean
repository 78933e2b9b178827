import Abrade.Generator.Rendering

/-!
# Telescoping

The values of a telescoping range are those of its suffix ranges, one suffix
after another.  With leading zeros, values of different suffixes differ in
length; without them, every suffix repeats the values of the shorter ones.
-/

namespace Abrade

def ImplicitRange.Produces (range : ImplicitRange) (values : List Text) : Prop :=
  Odometer.Produces incrementReturnCarry reset getCurrent range values

/-- The values shown from this state until the range carries. -/
def TelescopingRange.Produces (range : TelescopingRange) (values : List Text) : Prop :=
  Odometer.Produces incrementReturnCarry reset getCurrent range values

namespace Form

variable {symbols : Text} {leadZero : Bool}

theorem produces_implicitRange (nonempty : symbols ≠ [])
    (known : ∀ symbol ∈ symbols, ∃ domain, getDomain symbol = .ok domain) (leadZero : Bool) :
    (implicitRange leadZero symbols).Produces (implicitValues leadZero symbols) :=
  ⟨_, _, sweep_implicitRange nonempty known leadZero, implicitStates_show leadZero symbols⟩

/-- The values of all suffixes, shortest suffix first. -/
def telescopedValues (leadZero : Bool) (symbols : Text) : List Text :=
  (List.range' 1 symbols.length).flatMap fun length =>
    implicitValues leadZero (suffix symbols length)

theorem produces_suffixRanges (nonempty : symbols ≠ [])
    (known : ∀ symbol ∈ symbols, ∃ domain, getDomain symbol = .ok domain) (leadZero : Bool) :
    TelescopingRange.Produces { ranges := suffixRanges leadZero symbols, index := 0 }
      (telescopedValues leadZero symbols) := by
  have inner := sweep_suffixRanges known leadZero
  exact ⟨_, _, TelescopingRange.sweep (suffixRanges_ne_nil nonempty leadZero) inner,
    telescopedStates_show leadZero symbols⟩

theorem length_suffix {length : ℕ} (inside : length ≤ symbols.length) :
    (suffix symbols length).length = length := by
  rw [suffix, List.length_drop]
  omega

theorem suffix_succ {length : ℕ} (inside : length < symbols.length) :
    suffix symbols (length + 1) =
      symbols[symbols.length - (length + 1)] :: suffix symbols length := by
  rw [suffix, List.drop_eq_getElem_cons (by omega), suffix]
  congr 2
  omega

theorem length_of_mem_implicitValues {value : Text} (valueMem : value ∈ implicitValues true symbols) :
    value.length = symbols.length := by
  rcases List.mem_map.mp valueMem with ⟨digits, digitsMem, rfl⟩
  have valid := valid_of_mem_digitVectors digitsMem
  change (fullWidth (symbols.map domain) digits).length = symbols.length
  rw [length_fullWidth valid, valid.length_eq, List.length_map]

/-- A zero digit in front of a suppressed value is not seen. -/
theorem implicitValues_subset_cons {symbol : Char} {values : Text}
    (found : getDomain symbol = .ok values) (nonempty : symbols ≠ []) :
    implicitValues false symbols ⊆ implicitValues false (symbol :: symbols) := by
  intro value valueMem
  rcases List.mem_map.mp valueMem with ⟨digits, digitsMem, rfl⟩
  have valid := valid_of_mem_digitVectors digitsMem
  apply List.mem_map.mpr
  refine ⟨0 :: digits, ?_, ?_⟩
  · rw [mem_digitVectors_iff]
    apply List.Forall₂.cons _ valid
    rw [domain_of_getDomain found]
    exact List.length_pos_iff.mpr (domain_ne_nil found)
  · cases digits with
    | nil =>
        have empty : symbols = [] := by simpa using valid.length_eq.symm
        exact absurd empty nonempty
    | cons next digits => rw [List.map_cons, render_false_cons, if_pos rfl]

/-- Suppressed, the first value of the last symbol is also a value of the last two symbols. -/
theorem exists_value_of_two_suffixes (several : 2 ≤ symbols.length)
    (known : ∀ symbol ∈ symbols, ∃ domain, getDomain symbol = .ok domain) :
    ∃ value ∈ implicitValues false (suffix symbols 1),
      value ∈ implicitValues false (suffix symbols 2) := by
  have inside : 1 < symbols.length := several
  rcases known _ (List.getElem_mem (show symbols.length - 2 < symbols.length by omega)) with
    ⟨values, found⟩
  have shortNonempty : suffix symbols 1 ≠ [] := suffix_ne_nil Nat.one_pos (Nat.le_of_lt inside)
  have contained := implicitValues_subset_cons found shortNonempty
  rw [← suffix_succ inside] at contained
  have firstMem : render false ((suffix symbols 1).map domain) ((suffix symbols 1).map fun _ => 0) ∈
      implicitValues false (suffix symbols 1) := by
    apply List.mem_map_of_mem
    rw [mem_digitVectors_iff]
    exact valid_zeros (known_suffix known 1)
  exact ⟨_, firstMem, contained firstMem⟩

theorem length_eq_of_mem_suffixes {value : Text} {length length' : ℕ}
    (inside : length ≤ symbols.length) (inside' : length' ≤ symbols.length)
    (valueMem : value ∈ implicitValues true (suffix symbols length))
    (valueMem' : value ∈ implicitValues true (suffix symbols length')) : length = length' := by
  have short := length_of_mem_implicitValues valueMem
  have long := length_of_mem_implicitValues valueMem'
  rwa [short, length_suffix inside, length_suffix inside'] at long

/-- No value comes from two suffixes with leading zeros, or when there is one suffix only. -/
theorem nodup_telescopedValues_iff (nonempty : symbols ≠ [])
    (known : ∀ symbol ∈ symbols, ∃ domain, getDomain symbol = .ok domain) :
    (telescopedValues leadZero symbols).Nodup ↔ leadZero = true ∨ symbols.length = 1 := by
  have positive := List.length_pos_iff.mpr nonempty
  rw [telescopedValues, List.nodup_flatMap]
  constructor
  · rintro ⟨-, disjoint⟩
    by_contra neither
    rw [not_or, Bool.not_eq_true] at neither
    rcases neither with ⟨rfl, notOne⟩
    have several : 2 ≤ symbols.length := by omega
    rcases Nat.exists_eq_add_of_le several with ⟨more, split⟩
    have lengths : List.range' 1 symbols.length = 1 :: 2 :: List.range' 3 more := by
      rw [split, Nat.add_comm]
      rfl
    rw [lengths, List.pairwise_cons] at disjoint
    rcases exists_value_of_two_suffixes several known with ⟨value, valueMem, valueMem'⟩
    exact disjoint.1 2 (by simp) valueMem valueMem'
  · intro either
    refine ⟨fun length _ => nodup_implicitValues leadZero (suffix symbols length), ?_⟩
    rcases either with rfl | single
    · apply List.Pairwise.imp_of_mem _ (List.pairwise_lt_range' ..)
      intro length longer lengthMem longerMem before value valueMem valueMem'
      rw [List.mem_range'_1] at lengthMem longerMem
      have same := length_eq_of_mem_suffixes (by omega) (by omega) valueMem valueMem'
      omega
    · rw [single]
      exact List.pairwise_singleton _ _

end Form

namespace TelescopingRange

/--
The values shown until the range carries are those of the suffix ranges of the
template, each of them shown once.
-/
def ProducesUnion (symbols : Text) (leadZero : Bool) (range : TelescopingRange) : Prop :=
  ∃ values, range.Produces values ∧ values.Nodup ∧
    ∀ value, value ∈ values ↔
      ∃ length inner innerValues, 1 ≤ length ∧ length ≤ symbols.length ∧
        ImplicitRange.new (Form.suffix symbols length) leadZero = .ok inner ∧
        inner.Produces innerValues ∧ value ∈ innerValues

section Union

variable {symbols : Text} {leadZero : Bool} {range : TelescopingRange}

theorem produces_of_new (nonempty : symbols ≠ [])
    (accepted : new symbols leadZero = .ok range) :
    range.Produces (Form.telescopedValues leadZero symbols) := by
  rcases new_eq_ok_iff.mp accepted with ⟨known, rfl⟩
  exact Form.produces_suffixRanges nonempty known leadZero

/-- Whether or not values repeat, they are the values of the suffix ranges. -/
theorem mem_telescopedValues_iff (accepted : new symbols leadZero = .ok range) (value : Text) :
    value ∈ Form.telescopedValues leadZero symbols ↔
      ∃ length inner innerValues, 1 ≤ length ∧ length ≤ symbols.length ∧
        ImplicitRange.new (Form.suffix symbols length) leadZero = .ok inner ∧
        inner.Produces innerValues ∧ value ∈ innerValues := by
  rcases new_eq_ok_iff.mp accepted with ⟨known, -⟩
  have produced {length : ℕ} (positive : 1 ≤ length) (inside : length ≤ symbols.length) :
      (Form.implicitRange leadZero (Form.suffix symbols length)).Produces
        (Form.implicitValues leadZero (Form.suffix symbols length)) :=
    Form.produces_implicitRange (Form.suffix_ne_nil positive inside)
      (Form.known_suffix known length) leadZero
  simp only [Form.telescopedValues, List.mem_flatMap, List.mem_range'_1]
  constructor
  · rintro ⟨length, ⟨positive, inside⟩, valueMem⟩
    have inside : length ≤ symbols.length := by omega
    exact ⟨length, _, _, positive, inside,
      ImplicitRange.new_eq_ok_iff.mpr ⟨Form.known_suffix known length, rfl⟩,
      produced positive inside, valueMem⟩
  · rintro ⟨length, inner, innerValues, positive, inside, built, produces, valueMem⟩
    rcases ImplicitRange.new_eq_ok_iff.mp built with ⟨-, rfl⟩
    have same := Odometer.Produces.unique produces (produced positive inside)
    exact ⟨length, ⟨positive, by omega⟩, same ▸ valueMem⟩

theorem producesUnion_iff_nodup (nonempty : symbols ≠ [])
    (accepted : new symbols leadZero = .ok range) :
    range.ProducesUnion symbols leadZero ↔ (Form.telescopedValues leadZero symbols).Nodup := by
  have produces := produces_of_new nonempty accepted
  constructor
  · rintro ⟨values, producesValues, nodup, -⟩
    rwa [Odometer.Produces.unique produces producesValues]
  · intro nodup
    exact ⟨_, produces, nodup, mem_telescopedValues_iff accepted⟩

/--
A telescoping range shows every value of its suffix ranges once, exactly when
leading zeros are kept or the template has a single symbol.
-/
theorem producesUnion_iff (nonempty : symbols ≠ [])
    (accepted : new symbols leadZero = .ok range) :
    range.ProducesUnion symbols leadZero ↔ leadZero = true ∨ symbols.length = 1 := by
  rw [producesUnion_iff_nodup nonempty accepted]
  exact Form.nodup_telescopedValues_iff nonempty (new_eq_ok_iff.mp accepted).1

theorem producesUnion_iff_of_example :
    ProducesUnion ['d', 'd'] true
        { ranges := [{ domains := ["0123456789".toList], digits := [0], leadingZeros := true },
            { domains := ["0123456789".toList, "0123456789".toList], digits := [0, 0],
              leadingZeros := true }],
          index := 0 } ↔
      true = true ∨ ['d', 'd'].length = 1 :=
  producesUnion_iff (by simp) rfl

/-- Two decimal digits without leading zeros: `0` is the first value of both suffixes. -/
theorem telescoped_value_repeated :
    ¬ ∀ symbols leadZero range, symbols ≠ [] → new symbols leadZero = .ok range →
      range.ProducesUnion symbols leadZero := by
  intro claimed
  have built : new ['d', 'd'] false = .ok
      { ranges := [{ domains := ["0123456789".toList], digits := [0], leadingZeros := false },
          { domains := ["0123456789".toList, "0123456789".toList], digits := [0, 0],
            leadingZeros := false }],
        index := 0 } := rfl
  have nodup := (producesUnion_iff_nodup (by simp) built).mp (claimed _ _ _ (by simp) built)
  have known := (new_eq_ok_iff.mp built).1
  exact absurd ((Form.nodup_telescopedValues_iff (by simp) known).mp nodup) (by decide)

end Union

end TelescopingRange

end Abrade
