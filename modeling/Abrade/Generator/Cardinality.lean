import Abrade.Generator.Enumeration
import Abrade.Generator.Increments
import Mathlib.Algebra.BigOperators.Group.List.Basic

/-!
# Cardinality

The checked sums and products of `size` agree with the number of URIs a fresh
generator emits: exact up to the largest `size_t` and an overflow beyond it, no
matter how far the generator has run.
-/

namespace Abrade

open Odometer (cartesian)

/-- A natural number as a `size_t`, or the overflow. -/
def checkedSize (count : ℕ) : Except Exception SizeT :=
  if count < 2 ^ 64 then .ok (.ofNat count) else .error (.overflowError overflowMessage)

theorem checkedSize_eq_ok_iff {count : ℕ} {size : SizeT} :
    checkedSize count = .ok size ↔ count = size.toNat := by
  have bound := size.toNat_lt
  unfold checkedSize
  split
  · next small =>
      rw [Except.ok.injEq, ← UInt64.toNat_inj, UInt64.toNat_ofNat_of_lt' small]
  · next large =>
      constructor
      · rintro ⟨⟩
      · intro same
        omega

theorem checkedSize_eq_error_iff {count : ℕ} :
    checkedSize count = .error (.overflowError overflowMessage) ↔ 2 ^ 64 - 1 < count := by
  unfold checkedSize
  split
  · next small => simp; omega
  · next large => simp; omega

theorem checkedAdd_eq {left right : ℕ} (leftSmall : left < 2 ^ 64) (rightSmall : right < 2 ^ 64) :
    checkedAdd (.ofNat left) (.ofNat right) = checkedSize (left + right) := by
  have overflows : SizeT.max - .ofNat left < UInt64.ofNat right ↔ ¬ left + right < 2 ^ 64 := by
    have below : UInt64.ofNat left ≤ SizeT.max := by
      rw [UInt64.le_iff_toNat_le, UInt64.toNat_ofNat_of_lt' leftSmall]
      simp [SizeT.max]
      omega
    rw [UInt64.lt_iff_toNat_lt, UInt64.toNat_sub_of_le _ _ below,
      UInt64.toNat_ofNat_of_lt' leftSmall,
      UInt64.toNat_ofNat_of_lt' rightSmall]
    simp [SizeT.max]
    omega
  unfold checkedAdd checkedSize
  by_cases fits : left + right < 2 ^ 64
  · rw [if_neg (by rwa [overflows, not_not]), if_pos fits, ← UInt64.ofNat_add]
  · rw [if_pos (overflows.mpr fits), if_neg fits]

theorem checkedMultiply_eq {left right : ℕ} (leftSmall : left < 2 ^ 64)
    (rightSmall : right < 2 ^ 64) :
    checkedMultiply (.ofNat left) (.ofNat right) = checkedSize (left * right) := by
  have overflows : (UInt64.ofNat right ≠ 0 ∧ SizeT.max / .ofNat right < UInt64.ofNat left) ↔
      ¬ left * right < 2 ^ 64 := by
    rw [UInt64.lt_iff_toNat_lt, UInt64.toNat_div, UInt64.toNat_ofNat_of_lt' leftSmall,
      UInt64.toNat_ofNat_of_lt' rightSmall, ne_eq, ← UInt64.toNat_inj,
      UInt64.toNat_ofNat_of_lt' rightSmall]
    rcases Nat.eq_zero_or_pos right with rfl | positive
    · simp
    · rw [Nat.div_lt_iff_lt_mul positive]
      simp [SizeT.max]
      omega
  unfold checkedMultiply checkedSize
  by_cases fits : left * right < 2 ^ 64
  · rw [if_neg (by rwa [overflows, not_not]), if_pos fits, ← UInt64.ofNat_mul]
  · rw [if_pos (overflows.mpr fits), if_neg fits]

section Folds

variable {α : Type} {sizeOf : α → Except Exception SizeT} {count : α → ℕ}

/-- A fold of checked products of positive sizes overflows exactly when the product does. -/
theorem foldlM_checkedMultiply {entries : List α}
    (sizes : ∀ entry ∈ entries, sizeOf entry = checkedSize (count entry))
    (positive : ∀ entry ∈ entries, 0 < count entry) {start : ℕ} (startPositive : 0 < start)
    (startSmall : start < 2 ^ 64) :
    entries.foldlM (fun size entry => do checkedMultiply size (← sizeOf entry)) (.ofNat start) =
      checkedSize (start * (entries.map count).prod) := by
  induction entries generalizing start with
  | nil =>
      rw [List.foldlM_nil, List.map_nil, List.prod_nil, mul_one, checkedSize, if_pos startSmall]
      rfl
  | cons entry entries ih =>
      have restPositive : 0 < (entries.map count).prod :=
        List.prod_pos_iff_forall_pos_nat.mpr fun value valueMem => by
          rcases List.mem_map.mp valueMem with ⟨other, otherMem, rfl⟩
          exact positive other (by simp [otherMem])
      have entryPositive := positive entry (by simp)
      rw [List.foldlM_cons, sizes entry (by simp), List.map_cons, List.prod_cons, ← mul_assoc]
      -- Every factor is positive, so an overflow on the way is one of the whole product.
      have grows (value : ℕ) (large : ¬ value < 2 ^ 64) (factor : ℕ) (factorPositive : 0 < factor) :
          ¬ value * factor < 2 ^ 64 := by
        have := Nat.le_mul_of_pos_right value factorPositive
        omega
      by_cases entrySmall : count entry < 2 ^ 64
      · rw [checkedSize, if_pos entrySmall, Except.ok_bind,
          checkedMultiply_eq startSmall entrySmall]
        by_cases productSmall : start * count entry < 2 ^ 64
        · rw [checkedSize, if_pos productSmall, Except.ok_bind]
          exact ih (fun other otherMem => sizes other (by simp [otherMem]))
            (fun other otherMem => positive other (by simp [otherMem]))
            (Nat.mul_pos startPositive entryPositive) productSmall
        · rw [checkedSize, checkedSize, if_neg productSmall,
            if_neg (grows _ productSmall _ restPositive), Except.error_bind]
      · have productLarge := grows _ entrySmall start startPositive
        rw [mul_comm] at productLarge
        rw [checkedSize, checkedSize, if_neg entrySmall,
          if_neg (grows _ productLarge _ restPositive), Except.error_bind, Except.error_bind]

theorem foldlM_checkedAdd {entries : List α}
    (sizes : ∀ entry ∈ entries, sizeOf entry = checkedSize (count entry)) {start : ℕ}
    (startSmall : start < 2 ^ 64) :
    entries.foldlM (fun size entry => do checkedAdd size (← sizeOf entry)) (.ofNat start) =
      checkedSize (start + (entries.map count).sum) := by
  induction entries generalizing start with
  | nil =>
      rw [List.foldlM_nil, List.map_nil, List.sum_nil, add_zero, checkedSize, if_pos startSmall]
      rfl
  | cons entry entries ih =>
      rw [List.foldlM_cons, sizes entry (by simp), List.map_cons, List.sum_cons, ← add_assoc]
      by_cases entrySmall : count entry < 2 ^ 64
      · rw [checkedSize, if_pos entrySmall, Except.ok_bind, checkedAdd_eq startSmall entrySmall]
        by_cases sumSmall : start + count entry < 2 ^ 64
        · rw [checkedSize, if_pos sumSmall, Except.ok_bind]
          exact ih (fun other otherMem => sizes other (by simp [otherMem])) sumSmall
        · rw [checkedSize, checkedSize, if_neg sumSmall, if_neg (by omega), Except.error_bind]
      · rw [checkedSize, checkedSize, if_neg entrySmall, if_neg (by omega), Except.error_bind,
          Except.error_bind]

theorem foldlM_congr_of_map {combine : SizeT → SizeT → Except Exception SizeT}
    {entries entries' : List α} (same : entries.map sizeOf = entries'.map sizeOf) (start : SizeT) :
    entries.foldlM (fun size entry => do combine size (← sizeOf entry)) start =
      entries'.foldlM (fun size entry => do combine size (← sizeOf entry)) start := by
  have overSizes (list : List α) :
      list.foldlM (fun size entry => do combine size (← sizeOf entry)) start =
        (list.map sizeOf).foldlM (fun size entry => do combine size (← entry)) start := by
    rw [List.foldlM_map]
  rw [overSizes, overSizes, same]

end Folds

/-! Counting states does not depend on the counters. -/

theorem ImplicitRange.Keeps.size_eq {range next : ImplicitRange} (keeps : range.Keeps next) :
    next.size = range.size := by
  rw [ImplicitRange.size, ImplicitRange.size, keeps.domains]

namespace Range

theorem Kept.size_eq {range next : Range} (kept : Kept range next) : next.size = range.size := by
  cases kept with
  | explicit => rfl
  | implicit keeps => exact keeps.size_eq
  | telescoping keeps =>
      apply foldlM_congr_of_map
      induction keeps with
      | nil => rfl
      | cons head _ ih => rw [List.map_cons, List.map_cons, head.size_eq, ih]
  | continuation => rfl

theorem size_of_incrementReturnCarry {range moved : Range} {carry : Bool}
    (moves : range.incrementReturnCarry = .ok (carry, moved)) : moved.size = range.size :=
  ((Kept.refl range).increment moves).size_eq

theorem size_reset (range : Range) : range.reset.size = range.size :=
  (Kept.refl range).reset.size_eq

end Range

namespace UriGenerator

theorem getRangeSize_of_next {generator later : UriGenerator} {result : Option Text}
    (called : next generator = .ok (result, later)) :
    later.getRangeSize = generator.getRangeSize := by
  unfold next at called
  split at called
  · cases called
    rfl
  · rcases Except.bind_eq_ok_iff.mp called with ⟨shown, -, called⟩
    rcases Except.bind_eq_ok_iff.mp called with ⟨moved, incremented, called⟩
    cases called
    rw [incrementRanges_eq] at incremented
    rcases Except.map_eq_ok_iff.mp incremented with ⟨⟨carry, ranges⟩, advanced, rfl⟩
    exact foldlM_congr_of_map
      (Odometer.map_of_advance Range.size_of_incrementReturnCarry Range.size_reset advanced) 1

end UriGenerator

namespace Form

theorem domain_length_lt {symbol : Char} {domain : Text} (found : getDomain symbol = .ok domain) :
    domain.length < 2 ^ 64 := by
  rcases exists_definition found with ⟨definition, definitionMem, -, rfl⟩
  rcases domainDefinitions_wellFormed definition definitionMem with ⟨-, small, -⟩
  exact Nat.lt_trans small (by decide)

theorem length_implicitValues (leadZero : Bool) (symbols : Text) :
    (implicitValues leadZero symbols).length =
      ((symbols.map domain).map List.length).prod := by
  unfold implicitValues digitVectors
  rw [List.length_map, Odometer.length_cartesian, List.map_map]
  congr 2
  funext domain
  simp

theorem implicitValues_ne_nil {symbols : Text}
    (known : ∀ symbol ∈ symbols, ∃ domain, getDomain symbol = .ok domain) (leadZero : Bool) :
    0 < (implicitValues leadZero symbols).length := by
  rw [length_implicitValues]
  apply List.prod_pos_iff_forall_pos_nat.mpr
  intro length lengthMem
  rcases List.mem_map.mp lengthMem with ⟨values, valuesMem, rfl⟩
  exact List.length_pos_iff.mpr (domains_ne_nil known values valuesMem)

theorem size_implicitRange {symbols : Text}
    (known : ∀ symbol ∈ symbols, ∃ domain, getDomain symbol = .ok domain) (leadZero : Bool) :
    (implicitRange leadZero symbols).size =
      checkedSize (implicitValues leadZero symbols).length := by
  have folded := @foldlM_checkedMultiply Text (fun domain => .ok (.ofNat domain.length))
    List.length (symbols.map domain)
    (by
      intro values valuesMem
      rcases List.mem_map.mp valuesMem with ⟨symbol, symbolMem, rfl⟩
      rcases known symbol symbolMem with ⟨domain, found⟩
      rw [domain_of_getDomain found, checkedSize, if_pos (domain_length_lt found)])
    (fun values valuesMem => List.length_pos_iff.mpr (domains_ne_nil known values valuesMem))
    1 (by decide) (by decide)
  rw [one_mul, ← length_implicitValues] at folded
  exact folded

/-- How many values a form runs through; a continuation counts as one. -/
def count (leadZero telescoping : Bool) (form : Form) : ℕ :=
  ((form.values leadZero telescoping).map List.length).getD 1

theorem count_pos {lexicalCast : Text → Option SizeT} {body : Text} {form : Form}
    (reads : Reads lexicalCast body form) (leadZero telescoping : Bool) :
    0 < form.count leadZero telescoping := by
  cases reads with
  | continuation => exact Nat.one_pos
  | @explicit _ _ first last _ _ _ ordered =>
      have := UInt64.le_iff_toNat_le.mp ordered
      simp [count, values]
      omega
  | implicit nonempty _ known =>
      cases telescoping with
      | false => exact implicitValues_ne_nil known leadZero
      | true =>
          have positive := List.length_pos_iff.mpr nonempty
          rcases List.exists_mem_of_length_pos (implicitValues_ne_nil known leadZero) with
            ⟨value, valueMem⟩
          have wholeMem : body.length ∈ List.range' 1 body.length := by
            rw [List.mem_range'_1]
            omega
          apply List.length_pos_of_mem
          exact List.mem_flatMap.mpr ⟨body.length, wholeMem, by rwa [suffix_length]⟩

theorem size_range {lexicalCast : Text → Option SizeT} {body : Text} {form : Form}
    (reads : Reads lexicalCast body form) (leadZero telescoping : Bool) (position : ℕ) :
    (form.range leadZero telescoping position).size =
      checkedSize (form.count leadZero telescoping) := by
  cases reads with
  | continuation => rfl
  | @explicit _ _ first last _ _ _ ordered =>
      have below := UInt64.le_iff_toNat_le.mp ordered
      have bound := last.toNat_lt
      have width : last - first = .ofNat (last.toNat - first.toNat) := by
        rw [← UInt64.toNat_inj, UInt64.toNat_sub_of_le _ _ ordered,
          UInt64.toNat_ofNat_of_lt' (Nat.lt_of_le_of_lt (Nat.sub_le _ _) bound)]
      have one : (1 : SizeT) = .ofNat 1 := rfl
      rw [range, Range.size, ExplicitRange.size, width, one,
        checkedAdd_eq (by omega) (by decide)]
      congr 1
      simp [count, values]
      omega
  | implicit nonempty _ known =>
      cases telescoping with
      | false => exact size_implicitRange known leadZero
      | true =>
          have folded := @foldlM_checkedAdd ℕ
            (fun length => (implicitRange leadZero (suffix body length)).size)
            (fun length => (implicitValues leadZero (suffix body length)).length)
            (List.range' 1 body.length)
            (fun length _ => size_implicitRange (known_suffix known length) leadZero)
            0 (by decide)
          rw [zero_add, ← List.length_flatMap] at folded
          simp only [range, if_true, Range.size, TelescopingRange.size, suffixRanges,
            List.foldlM_map]
          exact folded

theorem length_uris (leadZero telescoping : Bool) (literals : List Text) (forms : List Form) :
    (uris leadZero telescoping literals forms).length =
      (forms.map (count leadZero telescoping)).prod := by
  unfold uris
  rw [List.length_map, Odometer.length_cartesian]
  induction forms with
  | nil => rfl
  | cons form forms ih =>
      rw [List.map_cons, List.prod_cons, ← ih, count]
      rcases hasOwn : form.values leadZero telescoping with _ | own
      · rw [List.filterMap_cons_none hasOwn]
        simp
      · rw [List.filterMap_cons_some hasOwn]
        simp

theorem foldlM_size_ranges {lexicalCast : Text → Option SizeT} {bodies : List Text}
    {forms : List Form} (leadZero telescoping : Bool)
    (read : List.Forall₂ (Reads lexicalCast) bodies forms) :
    (ranges leadZero telescoping 0 forms).foldlM
        (fun size range => do checkedMultiply size (← range.size)) 1 =
      checkedSize (forms.map (count leadZero telescoping)).prod := by
  have sizes (position : ℕ) : (ranges leadZero telescoping position forms).map Range.size =
      forms.map fun form => checkedSize (form.count leadZero telescoping) := by
    induction read generalizing position with
    | nil => rfl
    | cons reads _ ih =>
        rw [ranges, List.map_cons, List.map_cons, ih, size_range reads]
  have positive : ∀ form ∈ forms, 0 < form.count leadZero telescoping := by
    intro form formMem
    clear sizes
    induction read with
    | nil => cases formMem
    | cons reads _ ih =>
        rcases List.mem_cons.mp formMem with rfl | formMem
        · exact count_pos reads leadZero telescoping
        · exact ih formMem
  have folded := @foldlM_checkedMultiply Form
    (fun form => checkedSize (form.count leadZero telescoping)) (count leadZero telescoping)
    forms (fun _ _ => rfl) positive 1 (by decide) (by decide)
  have overSizes : (ranges leadZero telescoping 0 forms).foldlM
        (fun size range => do checkedMultiply size (← range.size)) 1 =
      ((ranges leadZero telescoping 0 forms).map Range.size).foldlM
        (fun size range => do checkedMultiply size (← range)) 1 := by
    rw [List.foldlM_map]
  rw [one_mul] at folded
  rw [overSizes, sizes 0, List.foldlM_map]
  exact folded

end Form

namespace UriGenerator

theorem getRangeSize_afterCalls {lexicalCast : Text → Option SizeT} {leadZero telescoping : Bool}
    {literals bodies : List Text} {forms : List Form}
    (read : List.Forall₂ (Form.Reads lexicalCast) bodies forms) {calls : ℕ} {later : UriGenerator}
    (called : Generator.afterCalls calls
      ({ literalTokens := literals, ranges := Form.ranges leadZero telescoping 0 forms,
         isComplete := false } : UriGenerator) = .ok later) :
    later.getRangeSize = checkedSize (uris leadZero telescoping literals forms).length := by
  rw [Generator.afterCalls_preserves getRangeSize_of_next called, Form.length_uris]
  exact Form.foldlM_size_ranges leadZero telescoping read

/--
After any number of calls, `get_range_size` is the number of URIs a fresh
generator emits, and overflows exactly when that number is no `size_t`.
-/
theorem getRangeSize_counts_emitted {lexicalCast : Text → Option SizeT}
    {leadZero telescoping : Bool} {input : Text} {generator : UriGenerator}
    (accepted : new lexicalCast leadZero telescoping input = .ok generator) (calls : ℕ) :
    ∃ emitted later, Generator.Emits generator emitted ∧
      Generator.afterCalls calls generator = .ok later ∧
      (∀ size, later.getRangeSize = .ok size ↔ emitted.length = size.toNat) ∧
      (later.getRangeSize = .error (.overflowError overflowMessage) ↔
        2 ^ 64 - 1 < emitted.length) := by
  rcases exists_forms_of_new accepted with ⟨pieces, tail, forms, -, bodies, -, rfl, emits⟩
  rcases emits.exists_afterCalls calls with ⟨later, called⟩
  have counted := getRangeSize_afterCalls bodies called
  refine ⟨_, later, emits, called, fun size => ?_, ?_⟩
  · rw [counted, checkedSize_eq_ok_iff]
  · rw [counted, checkedSize_eq_error_iff]

/-- Two numbers, each repeated by a continuation, before one or two octal digits. -/
def mixedGenerator : UriGenerator where
  literalTokens := ["/".toList, "-".toList, "x".toList, []]
  ranges := [.explicit { start := 9, stop := 10, current := 9 },
    .continuation { target := 0 },
    .telescoping
      { ranges := [{ domains := ["01234567".toList], digits := [0], leadingZeros := false },
          { domains := ["01234567".toList, "01234567".toList], digits := [0, 0]
            leadingZeros := false }]
        index := 0 }]
  isComplete := false

/-- The product of the sizes, asked for after nine of the URIs have been emitted. -/
theorem getRangeSize_counts_emitted_of_example :
    ∃ emitted later, Generator.Emits mixedGenerator emitted ∧
      Generator.afterCalls 9 mixedGenerator = .ok later ∧
      later.getRangeSize = .ok 144 ∧ emitted.length = 144 := by
  have accepted : new lexicalCastSize false true "/\x7b9:10\x7d-\x7b\x7dx\x7boo\x7d".toList =
      .ok mixedGenerator := by decide
  rcases getRangeSize_counts_emitted accepted 9 with ⟨emitted, later, emits, called, counts, -⟩
  have size : later.getRangeSize = .ok 144 :=
    (Generator.afterCalls_preserves getRangeSize_of_next called).trans (by decide)
  exact ⟨emitted, later, emits, called, size, (counts 144).mp size⟩

end UriGenerator

end Abrade
