import Abrade.Generator.Enumeration
import Abrade.Generator.Rendering

/-!
# Resetting a range

`reset` is said to return a range to its first value.  An implicit range leaves
this to its last carry, and a telescoping range to those of its suffix ranges,
so that both return to it only from states with every digit at zero.
-/

namespace Abrade

open Odometer (Sweep)

namespace Range

/-- A range as one of the constructors leaves it. -/
inductive Built : Range → Prop where
  | explicit {first last : SizeT} {range : ExplicitRange}
      (accepted : ExplicitRange.new first last = .ok range) : Built (.explicit range)
  | implicit {symbols : Text} {leadZero : Bool} {range : ImplicitRange}
      (accepted : ImplicitRange.new symbols leadZero = .ok range) : Built (.implicit range)
  | telescoping {symbols : Text} {leadZero : Bool} {range : TelescopingRange}
      (accepted : TelescopingRange.new symbols leadZero = .ok range) : Built (.telescoping range)

/-- No digit has moved; the other ranges have none. -/
def DigitsZero : Range → Prop
  | explicit _ => True
  | implicit range => ∀ digit ∈ range.digits, digit = 0
  | telescoping range => ∀ inner ∈ range.ranges, ∀ digit ∈ inner.digits, digit = 0
  | continuation _ => True

/-- A range and continuations behind it, each of which refers to the range before it. -/
def row (range : Range) (continuations : ℕ) : List Range :=
  range :: (List.range continuations).map fun target => .continuation { target }

end Range

namespace Row

/-- `increment_return_carry()` of the range at `position`, and its `reset()` after a carry. -/
def incrementAt (ranges : List Range) (position : ℕ) : Except Exception (Bool × List Range) := do
  let (carry, range) ← (← checkedAt ranges position).incrementReturnCarry
  return (carry, ranges.set position (if carry then range.reset else range))

def afterIncrements : List ℕ → List Range → Except Exception (List Range)
  | [], ranges => .ok ranges
  | position :: positions, ranges => do
      let (_, ranges) ← incrementAt ranges position
      afterIncrements positions ranges

/-- `get_current()` of the last range. -/
def current (ranges : List Range) : Except Exception Text :=
  UriGenerator.currentAt ranges (ranges.length - 1)

/-- The carry of the increment at `position` that follows others, and the value behind it. -/
def observe (positions : List ℕ) (position : ℕ) (ranges : List Range) :
    Except Exception (Bool × Text) := do
  let ranges ← afterIncrements positions ranges
  let (carry, ranges) ← incrementAt ranges position
  return (carry, ← current ranges)

/-- The states of a row after any increments, each range being reset after its carries. -/
inductive Reachable (fresh : List Range) : List Range → Prop where
  | built : Reachable fresh fresh
  | moved {ranges next : List Range} {position : ℕ} {carry : Bool}
      (reachable : Reachable fresh ranges)
      (moves : incrementAt ranges position = .ok (carry, next)) :
      Reachable fresh next

/-- Reset, the row shows its first value, and then the values and carries of the fresh row. -/
structure HonoursReset (fresh ranges : List Range) : Prop where
  first : current (ranges.map Range.reset) = current fresh
  following : ∀ positions position,
    observe positions position (ranges.map Range.reset) = observe positions position fresh

end Row

namespace Row

section Rows

variable {fresh range : Range} {ranges : List Range} {continuations : ℕ}

theorem length_row (range : Range) (continuations : ℕ) :
    (range.row continuations).length = continuations + 1 := by
  simp [Range.row]

theorem checkedAt_row_succ {target : ℕ} (inside : target < continuations) (range : Range) :
    checkedAt (range.row continuations) (target + 1) = .ok (.continuation { target }) := by
  rw [checkedAt_eq_ok_iff]
  simp [Range.row, inside]

theorem map_reset_row (range : Range) (continuations : ℕ) :
    (range.row continuations).map Range.reset = range.reset.row continuations := by
  rw [Range.row, List.map_cons, List.map_map]
  rfl

/-- Every continuation of a row shows what the range in front shows. -/
theorem current_row {value : Text} (shown : Form.ShowsValue range value) (continuations : ℕ) :
    current (range.row continuations) = .ok value := by
  have follows (position hops : ℕ) (inside : position ≤ continuations) (enough : position ≤ hops) :
      (do Range.getCurrent (range.row continuations) hops
            (← checkedAt (range.row continuations) position)) = .ok value := by
    induction position generalizing hops with
    | zero => exact shown _ _
    | succ target ih =>
        cases hops with
        | zero => omega
        | succ hops =>
            rw [checkedAt_row_succ inside, Except.ok_bind, Range.getCurrent]
            exact ih hops (by omega) (by omega)
  rw [current, UriGenerator.currentAt, length_row]
  exact follows continuations _ le_rfl (Nat.le_succ _)

theorem incrementAt_row_zero (range : Range) (continuations : ℕ) :
    incrementAt (range.row continuations) 0 = (do
      let (carry, moved) ← range.incrementReturnCarry
      return (carry, (if carry then moved.reset else moved).row continuations)) :=
  rfl

/-- An increment moves the range in front or changes nothing. -/
theorem row_of_incrementAt {next : List Range} {position : ℕ} {carry : Bool}
    (moves : incrementAt (range.row continuations) position = .ok (carry, next)) :
    (∃ moved, range.incrementReturnCarry = .ok (carry, moved) ∧
        next = (if carry then moved.reset else moved).row continuations) ∨
      next = range.row continuations := by
  cases position with
  | zero =>
      rw [incrementAt_row_zero, Except.bind_eq_ok_iff] at moves
      rcases moves with ⟨⟨_, moved⟩, rangeMoves, same⟩
      cases same
      exact .inl ⟨moved, rangeMoves, rfl⟩
  | succ target =>
      right
      rcases Except.bind_eq_ok_iff.mp moves with ⟨atPosition, found, moves⟩
      have foundAt := checkedAt_eq_ok_iff.mp found
      have inside : target < continuations := by
        have bound := (List.getElem?_eq_some_iff.mp foundAt).1
        rw [length_row] at bound
        omega
      rw [checkedAt_row_succ inside] at found
      cases found
      cases moves
      have unchanged : (range.row continuations).set (target + 1) (.continuation { target }) =
          range.row continuations := by
        rcases List.getElem?_eq_some_iff.mp foundAt with ⟨bound, here⟩
        rw [← here, List.set_getElem_self]
      exact unchanged

/-- The rows that increments reach hold what is kept of the range in front. -/
theorem Reachable.exists_kept
    (reachable : Reachable (fresh.row continuations) ranges) :
    ∃ range, ranges = range.row continuations ∧ Range.Kept fresh range := by
  induction reachable with
  | built => exact ⟨fresh, rfl, Range.Kept.refl fresh⟩
  | @moved _ _ _ carry _ moves ih =>
      rcases ih with ⟨range, rfl, kept⟩
      rcases row_of_incrementAt moves with ⟨moved, rangeMoves, rfl⟩ | rfl
      · have keptMoved := kept.increment rangeMoves
        refine ⟨_, rfl, ?_⟩
        cases carry with
        | true => exact keptMoved.reset
        | false => exact keptMoved
      · exact ⟨range, rfl, kept⟩

theorem afterIncrements_append (earlier later : List ℕ) (ranges : List Range) :
    afterIncrements (earlier ++ later) ranges =
      afterIncrements earlier ranges >>= afterIncrements later := by
  induction earlier generalizing ranges with
  | nil => rfl
  | cons position earlier ih =>
      rw [List.cons_append, afterIncrements, afterIncrements]
      rcases incrementAt ranges position with failure | ⟨carry, next⟩
      · rfl
      · exact ih next

/-- A row that honours its reset shows what the fresh row shows after the same increments. -/
theorem HonoursReset.shown_eq {row : List Range} (honours : HonoursReset row ranges)
    {positions : List ℕ} {after freshAfter : List Range} {value freshValue : Text}
    (incremented : afterIncrements positions (ranges.map Range.reset) = .ok after)
    (freshIncremented : afterIncrements positions row = .ok freshAfter)
    (shown : current after = .ok value) (freshShown : current freshAfter = .ok freshValue) :
    value = freshValue := by
  induction positions using List.reverseRecOn with
  | nil =>
      cases incremented
      cases freshIncremented
      rw [honours.first, freshShown] at shown
      exact (Except.ok.inj shown).symm
  | append_singleton positions position _ =>
      have following := honours.following positions position
      rw [afterIncrements_append, Except.bind_eq_ok_iff] at incremented freshIncremented
      rcases incremented with ⟨between, reached, last⟩
      rcases freshIncremented with ⟨freshBetween, freshReached, freshLast⟩
      rcases Except.bind_eq_ok_iff.mp last with ⟨⟨carry, next⟩, moves, same⟩
      rcases Except.bind_eq_ok_iff.mp freshLast with
        ⟨⟨freshCarry, freshNext⟩, freshMoves, freshSame⟩
      cases same
      cases freshSame
      simp only [observe, reached, freshReached, moves, freshMoves, shown, freshShown,
        Except.ok_bind] at following
      exact congrArg Prod.snd (Except.ok.inj following)

end Rows

end Row

namespace Form

section Digits

variable {symbols : Text} {leadZero : Bool} {range : ImplicitRange}

/-- A range whose digits are all zero is the fresh one. -/
theorem eq_implicitRange_of_keeps
    (known : ∀ symbol ∈ symbols, ∃ domain, getDomain symbol = .ok domain)
    (keeps : (implicitRange leadZero symbols).Keeps range)
    (zero : ∀ digit ∈ range.digits, digit = 0) : range = implicitRange leadZero symbols := by
  have valid := keeps.valid (valid_zeros known)
  have length : range.digits.length = symbols.length := by
    rw [valid.length_eq, keeps.domains, implicitRange, List.length_map]
  have digits : range.digits = symbols.map fun _ => 0 := by
    rw [List.map_const', List.eq_replicate_iff]
    exact ⟨length, zero⟩
  rcases range with ⟨domains, digits, leadingZeros⟩
  rw [implicitRange, ImplicitRange.mk.injEq]
  exact ⟨keeps.domains, digits, keeps.leadingZeros⟩

theorem getCurrent_of_keeps
    (known : ∀ symbol ∈ symbols, ∃ domain, getDomain symbol = .ok domain)
    (keeps : (implicitRange leadZero symbols).Keeps range) :
    range.getCurrent = .ok (render leadZero (symbols.map domain) range.digits) := by
  have shown : range.getCurrent =
      .ok (render range.leadingZeros range.domains range.digits) :=
    ImplicitRange.getCurrent_eq_render (keeps.valid (valid_zeros known))
  rw [keeps.domains, keeps.leadingZeros] at shown
  exact shown

/-- Only the fresh range shows the first value. -/
theorem digits_zero_of_shown
    (known : ∀ symbol ∈ symbols, ∃ domain, getDomain symbol = .ok domain)
    (keeps : (implicitRange leadZero symbols).Keeps range)
    (same : render leadZero (symbols.map domain) range.digits =
      render leadZero (symbols.map domain) (symbols.map fun _ => 0)) :
    ∀ digit ∈ range.digits, digit = 0 := by
  have valid := keeps.valid (valid_zeros known)
  rw [keeps.domains] at valid
  rw [render_injective (domains_nodup symbols) valid (valid_zeros known) same]
  simp

theorem exists_sweep_of_mem_suffixRanges
    (known : ∀ symbol ∈ symbols, ∃ domain, getDomain symbol = .ok domain) :
    ∀ inner ∈ suffixRanges leadZero symbols, ∃ visited,
      Sweep ImplicitRange.incrementReturnCarry ImplicitRange.reset inner visited inner := by
  intro inner innerMem
  rcases List.mem_map.mp innerMem with ⟨length, lengthMem, rfl⟩
  exact ⟨_, sweep_suffix known leadZero lengthMem⟩

theorem exists_symbols_of_mem_suffixRanges
    (known : ∀ symbol ∈ symbols, ∃ domain, getDomain symbol = .ok domain) :
    ∀ inner ∈ suffixRanges leadZero symbols, ∃ innerSymbols,
      (∀ symbol ∈ innerSymbols, ∃ domain, getDomain symbol = .ok domain) ∧
        inner = implicitRange leadZero innerSymbols := by
  intro inner innerMem
  rcases List.mem_map.mp innerMem with ⟨length, -, rfl⟩
  exact ⟨_, known_suffix known length, rfl⟩

theorem eq_of_forall₂_keeps {freshRanges inners : List ImplicitRange}
    (built : ∀ fresh ∈ freshRanges, ∃ innerSymbols,
      (∀ symbol ∈ innerSymbols, ∃ domain, getDomain symbol = .ok domain) ∧
        fresh = implicitRange leadZero innerSymbols)
    (keeps : List.Forall₂ ImplicitRange.Keeps freshRanges inners)
    (zero : ∀ inner ∈ inners, ∀ digit ∈ inner.digits, digit = 0) : inners = freshRanges := by
  induction keeps with
  | nil => rfl
  | cons head _ ih =>
      rw [List.forall_mem_cons] at built zero
      rcases built.1 with ⟨innerSymbols, known, rfl⟩
      rw [eq_implicitRange_of_keeps known head zero.1, ih built.2 zero.2]

end Digits

end Form

namespace Row

section Telescoping

open TelescopingRange (incrementReturnCarry_inner)

variable {done rest : List ImplicitRange} {state inner moved : ImplicitRange} {carry : Bool}

/-- While more inner ranges follow, an increment moves the one at the index, and the row with it. -/
theorem afterIncrements_telescoping (more : rest ≠ [])
    (moves : state.incrementReturnCarry = .ok (carry, moved)) (continuations : ℕ) :
    afterIncrements [0]
        ((Range.telescoping { ranges := done ++ state :: rest, index := done.length }).row
          continuations) =
      .ok ((Range.telescoping
          { ranges := done ++ moved :: rest
            index := if carry then done.length + 1 else done.length }).row continuations) := by
  have step := @incrementReturnCarry_inner done rest _ _ _ moves
  rw [afterIncrements, incrementAt_row_zero, Range.incrementReturnCarry, step]
  cases carry with
  | true =>
      simp only [List.isEmpty_eq_false_iff.mpr more, if_true]
      rfl
  | false => rfl

/-- The sweep of an inner range brings the row to the next one. -/
theorem afterIncrements_sweep (more : rest ≠ []) {visited : List ImplicitRange}
    (sweep : Sweep ImplicitRange.incrementReturnCarry ImplicitRange.reset state visited inner)
    (continuations : ℕ) :
    afterIncrements (List.replicate visited.length 0)
        ((Range.telescoping { ranges := done ++ state :: rest, index := done.length }).row
          continuations) =
      .ok ((Range.telescoping
          { ranges := done ++ inner :: rest, index := done.length + 1 }).row continuations) := by
  induction sweep with
  | last carries => exact afterIncrements_telescoping more carries continuations
  | more moves _ ih =>
      rw [List.length_cons, List.replicate_succ, ← List.singleton_append, afterIncrements_append,
        afterIncrements_telescoping more moves, Except.ok_bind]
      exact ih

/-- Behind the sweeps of the first inner ranges the next one is at the index, as it was. -/
theorem exists_afterIncrements_sweeps {inners : List ImplicitRange}
    (sweeps : ∀ inner ∈ inners, ∃ visited,
      Sweep ImplicitRange.incrementReturnCarry ImplicitRange.reset inner visited inner)
    (done : List ImplicitRange) :
    ∃ positions, ∀ rest, rest ≠ [] → ∀ continuations,
      afterIncrements positions
          ((Range.telescoping { ranges := done ++ (inners ++ rest), index := done.length }).row
            continuations) =
        .ok ((Range.telescoping
            { ranges := done ++ (inners ++ rest), index := done.length + inners.length }).row
              continuations) := by
  induction inners generalizing done with
  | nil => exact ⟨[], fun rest _ continuations => rfl⟩
  | cons inner inners ih =>
      rw [List.forall_mem_cons] at sweeps
      rcases sweeps.1 with ⟨visited, sweep⟩
      rcases ih sweeps.2 (done ++ [inner]) with ⟨positions, behind⟩
      refine ⟨List.replicate visited.length 0 ++ positions, ?_⟩
      intro rest more continuations
      have moreBehind : inners ++ rest ≠ [] := by simp [more]
      rw [afterIncrements_append, List.cons_append, afterIncrements_sweep moreBehind sweep,
        Except.ok_bind]
      have reached := behind rest more continuations
      rw [List.length_append, List.length_singleton, List.append_assoc, List.singleton_append,
        Nat.add_right_comm] at reached
      exact reached

end Telescoping

section Contract

variable {fresh range : Range} {ranges : List Range} {continuations : ℕ}

theorem HonoursReset.of_reset_eq (same : range.reset = fresh) :
    HonoursReset (fresh.row continuations) (range.row continuations) := by
  have resets : (range.row continuations).map Range.reset = fresh.row continuations := by
    rw [map_reset_row, same]
  exact ⟨by rw [resets], fun positions position => by rw [resets]⟩

theorem showsValue_implicit {range : ImplicitRange} {value : Text}
    (shown : range.getCurrent = .ok value) : Form.ShowsValue (.implicit range) value := by
  intro ranges hops
  cases hops <;> simpa [Range.getCurrent] using shown

theorem showsValue_telescoping {done rest : List ImplicitRange} {inner : ImplicitRange}
    {value : Text} (shown : inner.getCurrent = .ok value) :
    Form.ShowsValue (.telescoping { ranges := done ++ inner :: rest, index := done.length })
      value := by
  intro ranges hops
  have shownAt : TelescopingRange.getCurrent
      { ranges := done ++ inner :: rest, index := done.length } = .ok value := by
    simpa [TelescopingRange.getCurrent] using shown
  cases hops <;> simpa [Range.getCurrent] using shownAt

theorem implicit_honoursReset_iff {symbols : Text} {leadZero : Bool} {range : ImplicitRange}
    (known : ∀ symbol ∈ symbols, ∃ domain, getDomain symbol = .ok domain)
    (keeps : (Form.implicitRange leadZero symbols).Keeps range) :
    HonoursReset ((Range.implicit (Form.implicitRange leadZero symbols)).row continuations)
        ((Range.implicit range).row continuations) ↔ ∀ digit ∈ range.digits, digit = 0 := by
  constructor
  · intro honours
    have shown := Form.getCurrent_of_keeps known keeps
    have freshShown := Form.getCurrent_of_keeps known
      (ImplicitRange.Keeps.refl (Form.implicitRange leadZero symbols))
    apply Form.digits_zero_of_shown known keeps
    apply @honours.shown_eq _ _ [] _ _ _ _ rfl rfl
    · rw [map_reset_row]
      exact current_row (showsValue_implicit shown) continuations
    · exact current_row (showsValue_implicit freshShown) continuations
  · intro zero
    rw [Form.eq_implicitRange_of_keeps known keeps zero]
    exact .of_reset_eq rfl

/-- Where the first inner ranges are fresh, the next one gets its turn and shows its digits. -/
theorem inner_eq_of_honours {innerSymbols : Text} {leadZero : Bool}
    {done rest freshRest : List ImplicitRange} {inner : ImplicitRange} {index : ℕ}
    (sweeps : ∀ inner ∈ done, ∃ visited,
      Sweep ImplicitRange.incrementReturnCarry ImplicitRange.reset inner visited inner)
    (known : ∀ symbol ∈ innerSymbols, ∃ domain, getDomain symbol = .ok domain)
    (keeps : (Form.implicitRange leadZero innerSymbols).Keeps inner)
    (honours : HonoursReset
      ((Range.telescoping
        { ranges := done ++ Form.implicitRange leadZero innerSymbols :: freshRest
          index := 0 }).row continuations)
      ((Range.telescoping { ranges := done ++ inner :: rest, index }).row continuations)) :
    inner = Form.implicitRange leadZero innerSymbols := by
  rcases exists_afterIncrements_sweeps sweeps [] with ⟨positions, reaches⟩
  have resets : (Range.telescoping { ranges := done ++ inner :: rest, index }).reset =
      .telescoping { ranges := done ++ inner :: rest, index := 0 } := by
    rw [Range.reset, TelescopingRange.reset_eq]
  have reached := reaches (inner :: rest) (by simp) continuations
  have freshReached := reaches (Form.implicitRange leadZero innerSymbols :: freshRest) (by simp)
    continuations
  simp only [List.nil_append, List.length_nil, Nat.zero_add] at reached freshReached
  rw [← resets, ← map_reset_row] at reached
  have shown := Form.getCurrent_of_keeps known keeps
  have freshShown := Form.getCurrent_of_keeps known
    (ImplicitRange.Keeps.refl (Form.implicitRange leadZero innerSymbols))
  apply Form.eq_implicitRange_of_keeps known keeps
  apply Form.digits_zero_of_shown known keeps
  exact honours.shown_eq reached freshReached
    (current_row (showsValue_telescoping shown) continuations)
    (current_row (showsValue_telescoping freshShown) continuations)

theorem rest_eq_of_honours {symbols : Text} {leadZero : Bool}
    {done rest freshRest : List ImplicitRange} {index : ℕ}
    (known : ∀ symbol ∈ symbols, ∃ domain, getDomain symbol = .ok domain)
    (split : Form.suffixRanges leadZero symbols = done ++ freshRest)
    (keeps : List.Forall₂ ImplicitRange.Keeps freshRest rest)
    (honours : HonoursReset
      ((Range.telescoping { ranges := done ++ freshRest, index := 0 }).row continuations)
      ((Range.telescoping { ranges := done ++ rest, index }).row continuations)) :
    rest = freshRest := by
  have sweeps := @Form.exists_sweep_of_mem_suffixRanges _ leadZero known
  have suffixes := @Form.exists_symbols_of_mem_suffixRanges _ leadZero known
  rw [split] at sweeps suffixes
  induction keeps generalizing done with
  | nil => rfl
  | @cons fresh inner freshRest rest head _ ih =>
      rcases suffixes fresh (by simp) with ⟨innerSymbols, innerKnown, rfl⟩
      have same := inner_eq_of_honours (fun inner innerMem => sweeps inner (by simp [innerMem]))
        innerKnown head honours
      subst inner
      have behind := @ih (done ++ [Form.implicitRange leadZero innerSymbols]) (by simpa using split)
        (by simpa using honours) (by simpa using sweeps) (by simpa using suffixes)
      rw [behind]

theorem telescoping_honoursReset_iff {symbols : Text} {leadZero : Bool}
    {inners : List ImplicitRange} {index : ℕ}
    (known : ∀ symbol ∈ symbols, ∃ domain, getDomain symbol = .ok domain)
    (keeps : List.Forall₂ ImplicitRange.Keeps (Form.suffixRanges leadZero symbols) inners) :
    HonoursReset
        ((Range.telescoping { ranges := Form.suffixRanges leadZero symbols, index := 0 }).row
          continuations)
        ((Range.telescoping { ranges := inners, index }).row continuations) ↔
      ∀ inner ∈ inners, ∀ digit ∈ inner.digits, digit = 0 := by
  have suffixes := @Form.exists_symbols_of_mem_suffixRanges _ leadZero known
  constructor
  · intro honours
    have same := @rest_eq_of_honours _ _ leadZero [] _ _ _ known rfl keeps honours
    subst inners
    intro inner innerMem
    rcases suffixes inner innerMem with ⟨innerSymbols, -, rfl⟩
    simp [Form.implicitRange]
  · intro zero
    have same := Form.eq_of_forall₂_keeps suffixes keeps zero
    apply HonoursReset.of_reset_eq
    rw [same, Range.reset, TelescopingRange.reset_eq]

/--
In every state a row of freshly built ranges reaches, resetting it returns it
to its first value and to the values and carries that follow, exactly when
every digit is zero.
-/
theorem honoursReset_iff (built : fresh.Built)
    (reachable : Reachable (fresh.row continuations) ranges) :
    HonoursReset (fresh.row continuations) ranges ↔ ∀ range ∈ ranges, range.DigitsZero := by
  rcases reachable.exists_kept with ⟨range, rfl, kept⟩
  have onlyFirst : (∀ state ∈ range.row continuations, state.DigitsZero) ↔ range.DigitsZero := by
    simp [Range.row, Range.DigitsZero]
  rw [onlyFirst]
  cases built with
  | explicit accepted =>
      rcases ExplicitRange.new_eq_ok_iff.mp accepted with ⟨-, rfl⟩
      cases kept
      exact iff_of_true (.of_reset_eq rfl) trivial
  | implicit accepted =>
      rcases ImplicitRange.new_eq_ok_iff.mp accepted with ⟨known, rfl⟩
      cases kept with
      | implicit keeps => exact implicit_honoursReset_iff known keeps
  | telescoping accepted =>
      rcases TelescopingRange.new_eq_ok_iff.mp accepted with ⟨known, rfl⟩
      cases kept with
      | telescoping keeps => exact telescoping_honoursReset_iff known keeps

theorem Reachable.afterIncrements {later : List Range} {positions : List ℕ}
    (reachable : Reachable ranges later) {finish : List Range}
    (moved : Row.afterIncrements positions later = .ok finish) : Reachable ranges finish := by
  induction positions generalizing later with
  | nil =>
      cases moved
      exact reachable
  | cons position positions ih =>
      rcases Except.bind_eq_ok_iff.mp moved with ⟨⟨carry, next⟩, moves, onward⟩
      exact ih (.moved reachable moves) onward

/-- One or two octal digits, where the first of the suffix ranges shows `digit`. -/
def octals (digit index : ℕ) : Range :=
  .telescoping
    { ranges := [{ domains := ["01234567".toList], digits := [digit], leadingZeros := false },
        { domains := ["01234567".toList, "01234567".toList], digits := [0, 0]
          leadingZeros := false }]
      index }

/-- Octal digits and a continuation, reset after one increment, and where one suffix is done. -/
theorem honoursReset_iff_of_example :
    ¬ HonoursReset ((octals 0 0).row 1) ((octals 1 0).row 1) ∧
      HonoursReset ((octals 0 0).row 1) ((octals 0 1).row 1) := by
  have built : (octals 0 0).Built := @Range.Built.telescoping "oo".toList false _ (by decide)
  have once : Reachable ((octals 0 0).row 1) ((octals 1 0).row 1) :=
    @Reachable.afterIncrements _ _ [0] .built _ (by decide)
  have eighth : Reachable ((octals 0 0).row 1) ((octals 0 1).row 1) :=
    @Reachable.afterIncrements _ _ [0, 0, 0, 1, 0, 0, 0, 0, 0] .built _ (by decide)
  constructor
  · intro honours
    have zero := (honoursReset_iff built once).mp honours (octals 1 0) List.mem_cons_self
    exact absurd (zero _ List.mem_cons_self 1 List.mem_cons_self) (by decide)
  · apply (honoursReset_iff built eighth).mpr
    simp [octals, Range.row, Range.DigitsZero]

/-- One increment into a decimal digit, `reset` leaves the digit where it is. -/
theorem digit_not_reset :
    ¬ ∀ (fresh : Range) (continuations : ℕ) (ranges : List Range), fresh.Built →
      Reachable (fresh.row continuations) ranges →
        HonoursReset (fresh.row continuations) ranges := by
  intro claimed
  let digit (current : ℕ) : Range :=
    .implicit { domains := ["0123456789".toList], digits := [current], leadingZeros := false }
  have built : (digit 0).Built := @Range.Built.implicit ['d'] false _ rfl
  have moved : incrementAt ((digit 0).row 0) 0 = .ok (false, (digit 1).row 0) := by decide
  have first := (claimed (digit 0) 0 _ built (.moved .built moved)).first
  exact absurd first (by decide)

end Contract

end Row

end Abrade
