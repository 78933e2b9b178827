import Abrade.Generator.Sweeps

/-!
# What increments keep

An increment moves the counters of a range and nothing else.  What it is built
from stays the same, and digits stay inside their domains.
-/

namespace Abrade

namespace Form

theorem Valid.set {domains : List Text} {digits : List ℕ} (valid : Valid domains digits)
    {pivot digit : ℕ} {domain : Text} (domainAt : domains[pivot]? = some domain)
    (inside : digit < domain.length) : Valid domains (digits.set pivot digit) := by
  induction valid generalizing pivot with
  | nil => exact .nil
  | @cons _ first _ _ firstInside valid ih =>
      cases pivot with
      | zero =>
          have same : first = domain := by simpa using domainAt
          exact .cons (same ▸ inside) valid
      | succ pivot => exact .cons firstInside (ih (by simpa using domainAt))

theorem valid_zeros {symbols : Text}
    (known : ∀ symbol ∈ symbols, ∃ domain, getDomain symbol = .ok domain) :
    Valid (symbols.map domain) (symbols.map fun _ => 0) := by
  rw [Valid, List.forall₂_map_left_iff, List.forall₂_map_right_iff, List.forall₂_same]
  intro symbol symbolMem
  rw [List.length_pos_iff]
  exact domains_ne_nil known _ (List.mem_map_of_mem symbolMem)

theorem Valid.positive_of_getElem? {domains : List Text} {digits : List ℕ}
    (valid : Valid domains digits) {pivot : ℕ} {domain : Text}
    (domainAt : domains[pivot]? = some domain) : 0 < domain.length := by
  induction valid generalizing pivot with
  | nil => simp at domainAt
  | @cons digit first _ _ firstInside _ ih =>
      cases pivot with
      | zero =>
          have same : first = domain := by simpa using domainAt
          exact same ▸ Nat.zero_lt_of_lt firstInside
      | succ pivot => exact ih (by simpa using domainAt)

end Form

namespace ImplicitRange

/-- What an increment keeps: the domains, the flag, and that every digit lies in its domain. -/
structure Keeps (range next : ImplicitRange) : Prop where
  domains : next.domains = range.domains
  leadingZeros : next.leadingZeros = range.leadingZeros
  valid : Form.Valid range.domains range.digits → Form.Valid next.domains next.digits

theorem Keeps.refl (range : ImplicitRange) : Keeps range range where
  domains := rfl
  leadingZeros := rfl
  valid := id

theorem Keeps.trans {range between next : ImplicitRange} (first : Keeps range between)
    (second : Keeps between next) : Keeps range next where
  domains := second.domains.trans first.domains
  leadingZeros := second.leadingZeros.trans first.leadingZeros
  valid valid := second.valid (first.valid valid)

theorem keeps_of_incrementAt {range next : ImplicitRange} {pivot : ℕ} {carry : Bool}
    (moves : range.incrementAt pivot = .ok (carry, next)) : Keeps range next := by
  rcases Except.bind_eq_ok_iff.mp moves with ⟨digit, digitAt, moves⟩
  rcases Except.bind_eq_ok_iff.mp moves with ⟨domain, domainAt, moves⟩
  rw [checkedAt_eq_ok_iff] at domainAt
  split at moves
  · next inside =>
      cases moves
      exact ⟨rfl, rfl, fun valid => valid.set domainAt inside⟩
  · cases moves
    exact ⟨rfl, rfl, fun valid => valid.set domainAt (valid.positive_of_getElem? domainAt)⟩

theorem keeps_of_incrementFrom {range next : ImplicitRange} {pivot : ℕ} {carry : Bool}
    (moves : range.incrementFrom pivot = .ok (carry, next)) : Keeps range next := by
  induction pivot generalizing range with
  | zero => exact keeps_of_incrementAt moves
  | succ pivot ih =>
      rw [incrementFrom, Except.bind_eq_ok_iff] at moves
      rcases moves with ⟨⟨carried, between⟩, first, moves⟩
      have kept := keeps_of_incrementAt first
      cases carried with
      | true => exact kept.trans (ih moves)
      | false =>
          cases moves
          exact kept

end ImplicitRange

namespace Range

/-- What increments and resets keep of a range. -/
inductive Kept : Range → Range → Prop where
  | explicit {start stop current current' : SizeT} :
      Kept (.explicit { start, stop, current }) (.explicit { start, stop, current := current' })
  | implicit {range range' : ImplicitRange} (keeps : range.Keeps range') :
      Kept (.implicit range) (.implicit range')
  | telescoping {ranges ranges' : List ImplicitRange} {index index' : ℕ}
      (keeps : List.Forall₂ ImplicitRange.Keeps ranges ranges') :
      Kept (.telescoping { ranges, index }) (.telescoping { ranges := ranges', index := index' })
  | continuation {range : ContinuationRange} : Kept (.continuation range) (.continuation range)

end Range

theorem forall₂_set {α β : Type} {related : α → β → Prop} {entries : List α} {images : List β}
    (matched : List.Forall₂ related entries images) {index : ℕ} {image image' : β}
    (found : images[index]? = some image)
    (replaced : ∀ {entry}, related entry image → related entry image') :
    List.Forall₂ related entries (images.set index image') := by
  induction matched generalizing index with
  | nil => exact .nil
  | @cons _ first _ _ head _ ih =>
      cases index with
      | zero =>
          have same : first = image := by simpa using found
          exact .cons (replaced (same ▸ head)) ‹_›
      | succ index => exact .cons head (ih (by simpa using found))

namespace Range

section Kept

variable {fresh range moved : Range} {carry : Bool}

theorem Kept.refl (range : Range) : Kept range range := by
  cases range with
  | explicit => exact .explicit
  | implicit => exact .implicit (.refl _)
  | telescoping => exact .telescoping (List.forall₂_same.mpr fun range _ => .refl range)
  | continuation => exact .continuation

theorem Kept.reset (kept : Kept fresh range) : Kept fresh range.reset := by
  cases kept with
  | explicit => exact .explicit
  | implicit keeps => exact .implicit keeps
  | telescoping keeps =>
      rw [Range.reset, TelescopingRange.reset_eq]
      exact .telescoping keeps
  | continuation => exact .continuation

theorem Kept.increment (kept : Kept fresh range)
    (moves : range.incrementReturnCarry = .ok (carry, moved)) : Kept fresh moved := by
  cases kept with
  | explicit =>
      cases moves
      exact .explicit
  | implicit keeps =>
      rcases Except.map_eq_ok_iff.mp moves with ⟨⟨_, inner⟩, innerMoves, same⟩
      cases same
      exact .implicit (keeps.trans (ImplicitRange.keeps_of_incrementFrom innerMoves))
  | telescoping keeps =>
      rcases Except.map_eq_ok_iff.mp moves with ⟨⟨_, inner⟩, innerMoves, same⟩
      cases same
      rcases Except.bind_eq_ok_iff.mp innerMoves with ⟨state, found, innerMoves⟩
      rcases Except.bind_eq_ok_iff.mp innerMoves with ⟨⟨innerCarry, next⟩, stateMoves, innerMoves⟩
      have kept := forall₂_set keeps (checkedAt_eq_ok_iff.mp found)
        fun keeps => keeps.trans (ImplicitRange.keeps_of_incrementFrom stateMoves)
      cases innerCarry with
      | true =>
          cases innerMoves
          exact .telescoping kept
      | false =>
          cases innerMoves
          exact .telescoping kept
  | continuation =>
      cases moves
      exact .continuation

end Kept

end Range

end Abrade
