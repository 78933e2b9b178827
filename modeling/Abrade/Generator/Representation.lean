import Abrade.Generator.Counting
import Abrade.Generator.Enumeration
import Abrade.Generator.Explicit

/-!
# The representation invariant

What holds of the ranges of a generator between any two calls of `next`.  A
call breaks it for a while: a counter has stepped past its end, or a telescoping
range past its last suffix, until the reset behind the carry.  Every access
through `.at` rests on the invariant, so no call throws.
-/

namespace Abrade

/-- The counter stands between its ends. -/
structure ExplicitRange.WellFormed (range : ExplicitRange) : Prop where
  start_le : range.start ≤ range.current
  le_stop : range.current ≤ range.stop

/-- As many digits as domains, at least one, and each digit below the size of its domain. -/
structure ImplicitRange.WellFormed (range : ImplicitRange) : Prop where
  nonempty : range.domains ≠ []
  valid : Form.Valid range.domains range.digits

def ImplicitRange.AllZero (range : ImplicitRange) : Prop :=
  ∀ digit ∈ range.digits, digit = 0

/-- The index is that of a suffix range, and only this one may have moved. -/
structure TelescopingRange.WellFormed (range : TelescopingRange) : Prop where
  index_lt : range.index < range.ranges.length
  inner : ∀ inner ∈ range.ranges, inner.WellFormed
  allZero : ∀ i inner, i ≠ range.index → range.ranges[i]? = some inner → inner.AllZero

/-- A continuation at `position` refers to the range directly before it. -/
def ContinuationRange.WellFormed (position : ℕ) (range : ContinuationRange) : Prop :=
  range.target + 1 = position

namespace Range

/-- The invariant of the range at `position` in a generator. -/
def WellFormed (position : ℕ) : Range → Prop
  | explicit range => range.WellFormed
  | implicit range => range.WellFormed
  | telescoping range => range.WellFormed
  | continuation range => range.WellFormed position

end Range

namespace UriGenerator

/-- The literals stand around the ranges, and every range keeps the invariant of its kind. -/
structure WellFormed (generator : UriGenerator) : Prop where
  literals : generator.literalTokens.length = generator.ranges.length + 1
  ranges : ∀ position (range : Range), generator.ranges[position]? = some range →
    range.WellFormed position

/-- No access through `.at` throws, neither in a call nor in one range's part of it. -/
structure NeverThrows (generator : UriGenerator) : Prop where
  next : ∃ result later, generator.next = .ok (result, later)
  incrementRanges : ∃ later, generator.incrementRanges = .ok later
  incrementReturnCarry : ∀ range ∈ generator.ranges, ∃ carry moved,
    range.incrementReturnCarry = .ok (carry, moved)
  getCurrent : ∀ position < generator.ranges.length, ∃ value,
    currentAt generator.ranges position = .ok value

end UriGenerator

namespace ExplicitRange

/-- The counter leaves its ends only to be reset. -/
theorem WellFormed.increment {range : ExplicitRange} (wellFormed : range.WellFormed) :
    (if range.incrementReturnCarry.1 then range.incrementReturnCarry.2.reset
      else range.incrementReturnCarry.2).WellFormed := by
  rcases range with ⟨start, stop, current⟩
  rcases wellFormed with ⟨startLe, leStop⟩
  change start ≤ current at startLe
  change current ≤ stop at leStop
  by_cases atStop : current = stop
  · simp only [incrementReturnCarry, atStop, beq_self_eq_true, if_true]
    exact ⟨UInt64.le_refl start, UInt64.le_trans startLe leStop⟩
  · have notStop : (current == stop) = false := by simpa using atStop
    simp only [incrementReturnCarry, notStop, Bool.false_eq_true, if_false]
    have before : current.toNat < stop.toNat := by
      have le := UInt64.le_iff_toNat_le.mp leStop
      have ne : current.toNat ≠ stop.toNat := fun same => atStop (UInt64.toNat_inj.mp same)
      omega
    have next : (current + 1).toNat = current.toNat + 1 := SizeT.toNat_add_one before
    constructor
    · change start ≤ current + 1
      rw [UInt64.le_iff_toNat_le] at startLe ⊢
      omega
    · change current + 1 ≤ stop
      rw [UInt64.le_iff_toNat_le]
      omega

end ExplicitRange

namespace ImplicitRange

theorem WellFormed.exists_increment {range : ImplicitRange} (wellFormed : range.WellFormed) :
    ∃ carry moved, range.incrementReturnCarry = .ok (carry, moved) ∧ moved.WellFormed ∧
      (carry = true → moved.AllZero) := by
  have successor := isSuccessor_successor wellFormed.valid
  refine ⟨_, _, incrementReturnCarry_eq_successor wellFormed.nonempty wellFormed.valid,
    ⟨wellFormed.nonempty, successor.valid⟩, ?_⟩
  intro carries digit digitMem
  rw [successor.initial carries, List.mem_map] at digitMem
  rcases digitMem with ⟨_, -, rfl⟩
  rfl

theorem WellFormed.exists_getCurrent {range : ImplicitRange} (wellFormed : range.WellFormed) :
    ∃ value, range.getCurrent = .ok value :=
  ⟨_, getCurrent_eq_render wellFormed.valid⟩

end ImplicitRange

namespace TelescopingRange

theorem wellFormed_of_allZero {ranges : List ImplicitRange} {index : ℕ}
    (inside : index < ranges.length)
    (fresh : ∀ inner ∈ ranges, inner.WellFormed ∧ inner.AllZero) :
    WellFormed { ranges, index } where
  index_lt := inside
  inner inner innerMem := (fresh inner innerMem).1
  allZero _ inner _ found := (fresh inner (List.mem_of_getElem? found)).2

/-- The index leaves the suffix ranges only behind the last carry, to be reset. -/
theorem WellFormed.exists_increment {range : TelescopingRange} (wellFormed : range.WellFormed) :
    ∃ carry moved, range.incrementReturnCarry = .ok (carry, moved) ∧
      (if carry then moved.reset else moved).WellFormed := by
  rcases range with ⟨ranges, index⟩
  have inside : index < ranges.length := wellFormed.index_lt
  have current : ranges[index]? = some ranges[index] := List.getElem?_eq_getElem inside
  rcases (wellFormed.inner ranges[index] (List.getElem_mem inside)).exists_increment with
    ⟨innerCarry, inner, innerMoves, innerWellFormed, innerZero⟩
  have moves := @incrementReturnCarry_eq { ranges, index } _ _ _ current innerMoves
  have others : ∀ i other, i ≠ index → (ranges.set index inner)[i]? = some other →
      other.AllZero := by
    intro i other different found
    rw [List.getElem?_set_ne different.symm] at found
    exact wellFormed.allZero i other different found
  have allWellFormed : ∀ other ∈ ranges.set index inner, other.WellFormed := by
    intro other otherMem
    rcases List.mem_or_eq_of_mem_set otherMem with old | rfl
    · exact wellFormed.inner other old
    · exact innerWellFormed
  cases innerCarry with
  | false =>
      refine ⟨false, { ranges := ranges.set index inner, index }, moves, ?_⟩
      exact ⟨by simpa using inside, allWellFormed, others⟩
  | true =>
      have fresh : ∀ other ∈ ranges.set index inner, other.WellFormed ∧ other.AllZero := by
        intro other otherMem
        refine ⟨allWellFormed other otherMem, ?_⟩
        rcases List.mem_iff_getElem?.mp otherMem with ⟨i, found⟩
        by_cases here : i = index
        · subst here
          rw [List.getElem?_set_self inside] at found
          exact Option.some.inj found ▸ innerZero rfl
        · exact others i other here found
      refine ⟨ranges.length == index + 1,
        { ranges := ranges.set index inner, index := index + 1 }, moves, ?_⟩
      by_cases last : ranges.length = index + 1
      · rw [if_pos (by simpa using last), reset_eq]
        exact wellFormed_of_allZero (by rw [List.length_set]; omega) fresh
      · rw [if_neg (by simpa using last)]
        exact wellFormed_of_allZero (by rw [List.length_set]; omega) fresh

theorem WellFormed.exists_getCurrent {range : TelescopingRange} (wellFormed : range.WellFormed) :
    ∃ value, range.getCurrent = .ok value := by
  have inside := wellFormed.index_lt
  have current : checkedAt range.ranges range.index = .ok range.ranges[range.index] :=
    checkedAt_eq_ok_iff.mpr (List.getElem?_eq_getElem inside)
  rcases (wellFormed.inner _ (List.getElem_mem inside)).exists_getCurrent with
    ⟨value, shown⟩
  exact ⟨value, by rw [getCurrent, current, Except.ok_bind, shown]⟩

end TelescopingRange

namespace Range

section Ranges

variable {position : ℕ} {range : Range} {ranges : List Range}

/-- One step of `increment_ranges`: behind a carry it is the reset that restores the invariant. -/
theorem WellFormed.exists_increment (wellFormed : range.WellFormed position) :
    ∃ carry moved, range.incrementReturnCarry = .ok (carry, moved) ∧
      (if carry then moved.reset else moved).WellFormed position := by
  cases range with
  | explicit range =>
      have kept := ExplicitRange.WellFormed.increment wellFormed
      rcases moves : range.incrementReturnCarry with ⟨carry, moved⟩
      rw [moves] at kept
      refine ⟨carry, explicit moved, by rw [incrementReturnCarry, moves]; rfl, ?_⟩
      cases carry with
      | true => exact kept
      | false => exact kept
  | implicit range =>
      rcases ImplicitRange.WellFormed.exists_increment wellFormed with
        ⟨carry, moved, moves, movedWellFormed, -⟩
      refine ⟨carry, implicit moved, by rw [incrementReturnCarry, moves]; rfl, ?_⟩
      cases carry with
      | true => exact movedWellFormed
      | false => exact movedWellFormed
  | telescoping range =>
      rcases TelescopingRange.WellFormed.exists_increment wellFormed with
        ⟨carry, moved, moves, movedWellFormed⟩
      refine ⟨carry, telescoping moved, by rw [incrementReturnCarry, moves]; rfl, ?_⟩
      cases carry with
      | true => exact movedWellFormed
      | false => exact movedWellFormed
  | continuation range => exact ⟨true, continuation range, rfl, wellFormed⟩

/-- A range shows a value of its own unless it refers to the one before it. -/
theorem WellFormed.exists_showsValue (wellFormed : range.WellFormed position) :
    (∃ value, Form.ShowsValue range value) ∨
      ∃ target, range = continuation { target } ∧ target + 1 = position := by
  cases range with
  | explicit range =>
      left
      refine ⟨range.getCurrent, ?_⟩
      intro ranges hops
      cases hops <;> rfl
  | implicit range =>
      left
      rcases ImplicitRange.WellFormed.exists_getCurrent wellFormed with ⟨value, shown⟩
      refine ⟨value, ?_⟩
      intro ranges hops
      cases hops <;> exact shown
  | telescoping range =>
      left
      rcases TelescopingRange.WellFormed.exists_getCurrent wellFormed with ⟨value, shown⟩
      refine ⟨value, ?_⟩
      intro ranges hops
      cases hops <;> exact shown
  | continuation range => exact .inr ⟨range.target, rfl, wellFormed⟩

/-- References lead to the left, so they end at a range with a value of its own. -/
theorem exists_getCurrent {hops : ℕ}
    (wellFormed : ∀ position (range : Range), ranges[position]? = some range →
      range.WellFormed position)
    (found : ranges[position]? = some range) (enough : position ≤ hops) :
    ∃ value, getCurrent ranges hops range = .ok value := by
  induction hops generalizing position range with
  | zero =>
      rcases (wellFormed position range found).exists_showsValue with
        ⟨value, shown⟩ | ⟨target, rfl, before⟩
      · exact ⟨value, shown ranges 0⟩
      · omega
  | succ hops ih =>
      rcases (wellFormed position range found).exists_showsValue with
        ⟨value, shown⟩ | ⟨target, rfl, before⟩
      · exact ⟨value, shown ranges (hops + 1)⟩
      · have inside : target < ranges.length := by
          have bound := (List.getElem?_eq_some_iff.mp found).1
          omega
        have targetAt : ranges[target]? = some ranges[target] := List.getElem?_eq_getElem inside
        rw [getCurrent, checkedAt_eq_ok_iff.mpr targetAt, Except.ok_bind]
        exact ih targetAt (by omega)

end Ranges

end Range

namespace Form

section Built

variable {symbols : Text}

theorem wellFormed_implicitRange (nonempty : symbols ≠ [])
    (known : ∀ symbol ∈ symbols, ∃ domain, getDomain symbol = .ok domain) (leadZero : Bool) :
    (implicitRange leadZero symbols).WellFormed where
  nonempty := by simpa [implicitRange] using nonempty
  valid := valid_zeros known

theorem allZero_implicitRange (leadZero : Bool) (symbols : Text) :
    (implicitRange leadZero symbols).AllZero := by
  intro digit digitMem
  rcases List.mem_map.mp digitMem with ⟨_, -, rfl⟩
  rfl

theorem wellFormed_suffixRanges (nonempty : symbols ≠ [])
    (known : ∀ symbol ∈ symbols, ∃ domain, getDomain symbol = .ok domain) (leadZero : Bool) :
    TelescopingRange.WellFormed { ranges := suffixRanges leadZero symbols, index := 0 } := by
  apply TelescopingRange.wellFormed_of_allZero
  · exact List.length_pos_iff.mpr (suffixRanges_ne_nil nonempty leadZero)
  · intro inner innerMem
    rcases List.mem_map.mp innerMem with ⟨length, lengthMem, rfl⟩
    rw [List.mem_range'_1] at lengthMem
    have suffixNonempty : suffix symbols length ≠ [] := suffix_ne_nil lengthMem.1 (by omega)
    exact ⟨wellFormed_implicitRange suffixNonempty (known_suffix known length) leadZero,
      allZero_implicitRange leadZero _⟩

/-- The constructor builds ranges that keep the invariant. -/
theorem wellFormed_range {lexicalCast : Text → Option SizeT} {body : Text} {form : Form}
    (reads : Reads lexicalCast body form) (leadZero telescoping : Bool) {position : ℕ}
    (follows : form = continuation → 0 < position) :
    (form.range leadZero telescoping position).WellFormed position := by
  cases reads with
  | continuation => exact Nat.sub_add_cancel (follows rfl)
  | @explicit _ _ first last _ _ _ ordered => exact ⟨UInt64.le_refl first, ordered⟩
  | implicit nonempty _ known =>
      cases telescoping with
      | true => exact wellFormed_suffixRanges nonempty known leadZero
      | false => exact wellFormed_implicitRange nonempty known leadZero

end Built

end Form

namespace UriGenerator

section Invariant

variable {generator : UriGenerator}

theorem WellFormed.exists_incrementRanges (wellFormed : generator.WellFormed) :
    ∃ later, generator.incrementRanges = .ok later ∧ later.WellFormed := by
  rcases Odometer.exists_advance (fun good => Range.WellFormed.exists_increment good)
    wellFormed.ranges with ⟨carry, moved, moves, movedWellFormed⟩
  refine ⟨generator.withMoved (carry, moved), ?_, ?_, movedWellFormed⟩
  · rw [incrementRanges_eq, moves]
    rfl
  · change generator.literalTokens.length = moved.length + 1
    rw [Odometer.length_of_advance moves]
    exact wellFormed.literals

theorem WellFormed.exists_currentAt (wellFormed : generator.WellFormed) {position : ℕ}
    (inside : position < generator.ranges.length) :
    ∃ value, currentAt generator.ranges position = .ok value := by
  have found : generator.ranges[position]? = some generator.ranges[position] :=
    List.getElem?_eq_getElem inside
  rw [currentAt, checkedAt_eq_ok_iff.mpr found, Except.ok_bind]
  exact Range.exists_getCurrent wellFormed.ranges found (Nat.le_of_lt inside)

theorem WellFormed.exists_current (wellFormed : generator.WellFormed) :
    ∃ result, generator.current = .ok result := by
  have shown : ∀ position ∈ List.range generator.ranges.length, ∃ value,
      currentAt generator.ranges position = .ok value :=
    fun position positionMem => wellFormed.exists_currentAt (List.mem_range.mp positionMem)
  rcases Except.exists_forall₂_of_exists_ok shown with ⟨values, shown⟩
  exact ⟨_, current_eq wellFormed.literals shown⟩

/-- A call of `next` keeps the invariant, also the one whose last carry ends the enumeration. -/
theorem WellFormed.exists_next (wellFormed : generator.WellFormed) :
    ∃ result later, Generator.next generator = .ok (result, later) ∧ later.WellFormed := by
  by_cases complete : generator.isComplete = true
  · exact ⟨none, generator, by simp [Generator.next, next, complete], wellFormed⟩
  · rcases wellFormed.exists_current with ⟨result, shown⟩
    rcases wellFormed.exists_incrementRanges with ⟨later, moves, laterWellFormed⟩
    refine ⟨some result, later, ?_, laterWellFormed⟩
    simp [Generator.next, next, complete, shown, moves, pure, Except.pure]

theorem WellFormed.neverThrows (wellFormed : generator.WellFormed) : generator.NeverThrows where
  next := by
    rcases wellFormed.exists_next with ⟨result, later, called, -⟩
    exact ⟨result, later, called⟩
  incrementRanges := by
    rcases wellFormed.exists_incrementRanges with ⟨later, moves, -⟩
    exact ⟨later, moves⟩
  incrementReturnCarry range rangeMem := by
    rcases List.mem_iff_getElem?.mp rangeMem with ⟨position, found⟩
    rcases (wellFormed.ranges position range found).exists_increment with ⟨carry, moved, moves, -⟩
    exact ⟨carry, moved, moves⟩
  getCurrent _ inside := wellFormed.exists_currentAt inside

variable {lexicalCast : Text → Option SizeT} {leadZero telescoping : Bool} {input : Text}

theorem wellFormed_of_new (accepted : new lexicalCast leadZero telescoping input = .ok generator) :
    generator.WellFormed := by
  rcases new_eq_ok_iff.mp accepted with ⟨pieces, tail, forms, -, read, first, rfl⟩
  constructor
  · simp [Form.length_ranges, read.length_eq]
  · intro position range found
    rw [Form.getElem?_ranges, Nat.zero_add, Option.map_eq_some_iff] at found
    rcases found with ⟨form, formAt, rfl⟩
    rcases List.getElem?_eq_some_iff.mp formAt with ⟨inside, rfl⟩
    have reads := (List.forall₂_iff_get.mp read).2 position (by rwa [read.length_eq]) inside
    apply Form.wellFormed_range reads
    intro continues
    rw [List.head?_eq_getElem?] at first
    rcases Nat.eq_zero_or_pos position with rfl | positive
    · exact absurd (formAt.trans (congrArg some continues)) first
    · exact positive

/--
Between any two calls of `next` on an accepted pattern, and behind its end, the
ranges keep the representation invariant, and no access through `.at` throws.
-/
theorem representation_invariant
    (accepted : new lexicalCast leadZero telescoping input = .ok generator) (calls : ℕ) :
    ∃ later, Generator.afterCalls calls generator = .ok later ∧ later.WellFormed ∧
      later.NeverThrows := by
  rcases Generator.exists_afterCalls WellFormed.exists_next (wellFormed_of_new accepted) calls with
    ⟨later, called, wellFormed⟩
  exact ⟨later, called, wellFormed, wellFormed.neverThrows⟩

/-- Nine calls bring the telescoping range to its second suffix. -/
theorem representation_invariant_of_example :
    ∃ later,
      Generator.afterCalls 9
          ({ literalTokens := ["/".toList, "-".toList, "x".toList, []]
             ranges := [.explicit { start := 9, stop := 10, current := 9 },
               .continuation { target := 0 },
               .telescoping
                 { ranges := [{ domains := ["01234567".toList], digits := [0],
                                leadingZeros := false },
                     { domains := ["01234567".toList, "01234567".toList], digits := [0, 0],
                       leadingZeros := false }]
                   index := 0 }]
             isComplete := false } : UriGenerator) = .ok later ∧
        later.WellFormed ∧ later.NeverThrows :=
  @representation_invariant _ lexicalCastSize false true "/\x7b9:10\x7d-\x7b\x7dx\x7boo\x7d".toList
    (by decide) 9

end Invariant

end UriGenerator

end Abrade
