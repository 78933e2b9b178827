import Abrade.Generator.Construction

/-!
# What each range runs through

Every freshly built range sweeps the states that show exactly the values of its
form and is fresh again after its carry and reset.  The digit loop of an
implicit range is an odometer whose wheels are its digits; a telescoping range
runs its suffix ranges one after another.
-/

namespace Abrade

open Odometer (Sweep advance advanceFrom cartesian)

namespace Form

def Valid (domains : List Text) (digits : List ℕ) : Prop :=
  List.Forall₂ (fun digit domain => digit < domain.length) digits domains

theorem valid_of_mem_digitVectors {domains : List Text} {digits : List ℕ}
    (digitsMem : digits ∈ digitVectors domains) : Valid domains digits := by
  have chosen := Odometer.mem_cartesian_iff.mp digitsMem
  rw [List.forall₂_map_right_iff] at chosen
  exact chosen.imp fun _ _ digitMem => List.mem_range.mp digitMem

@[simp]
theorem leadingZeroCount_singleton (digit : ℕ) : leadingZeroCount [digit] = 0 :=
  rfl

theorem leadingZeroCount_cons_cons (digit next : ℕ) (digits : List ℕ) :
    leadingZeroCount (digit :: next :: digits) =
      if digit = 0 then leadingZeroCount (next :: digits) + 1 else 0 := by
  by_cases zero : digit = 0 <;> simp [leadingZeroCount, zero]

end Form

namespace ImplicitRange

/-- Whether the loop of `get_current` drops a digit. -/
def suppresses (range : ImplicitRange) (i : ℕ) (isLeadingZero : Bool) (digit : ℕ) : Bool :=
  isLeadingZero && (!range.leadingZeros && digit == 0 && i != range.digits.length - 1)

theorem getCurrentFrom_suppressed {range : ImplicitRange} {i digit : ℕ} {isLeadingZero : Bool}
    (digits : List ℕ) (dropped : range.suppresses i isLeadingZero digit = true) :
    range.getCurrentFrom i isLeadingZero (digit :: digits) =
      range.getCurrentFrom (i + 1) true digits := by
  unfold suppresses at dropped
  simp only [getCurrentFrom, dropped, if_true]

theorem getCurrentFrom_shown {range : ImplicitRange} {i digit : ℕ} {isLeadingZero : Bool}
    {domain : Text} (digits : List ℕ) (kept : range.suppresses i isLeadingZero digit = false)
    (domainAt : checkedAt range.domains i = .ok domain) (inside : digit < domain.length) :
    range.getCurrentFrom i isLeadingZero (digit :: digits) =
      (range.getCurrentFrom (i + 1) false digits).map (domain.getD digit '0' :: ·) := by
  have elementAt : checkedAt domain digit = .ok (domain.getD digit '0') := by
    simp [checkedAt, inside]
  unfold suppresses at kept
  simp only [getCurrentFrom, kept, domainAt, elementAt, Except.ok_bind]
  rcases range.getCurrentFrom (i + 1) false digits with _ | result <;> rfl

/-- The rendering loop, once a suffix of the digits is left. -/
theorem getCurrentFrom_eq {range : ImplicitRange} {before domains : List Text} {digits : List ℕ}
    (splitDomains : range.domains = before ++ domains)
    (lengths : range.digits.length = before.length + digits.length)
    (valid : Form.Valid domains digits) (isLeadingZero : Bool) :
    range.getCurrentFrom before.length isLeadingZero digits =
      .ok (if isLeadingZero && !range.leadingZeros then
        (Form.fullWidth domains digits).drop (Form.leadingZeroCount digits)
      else Form.fullWidth domains digits) := by
  induction valid generalizing before isLeadingZero with
  | nil => simp [getCurrentFrom, Form.fullWidth]
  | @cons digit domain digits domains inside valid ih =>
      have domainAt : checkedAt range.domains before.length = .ok domain := by
        rw [splitDomains, checkedAt_append_length]
      have rest := ih (show range.domains = (before ++ [domain]) ++ domains by simp [splitDomains])
        (by simp only [List.length_cons, List.length_append, List.length_nil] at lengths ⊢; omega)
      rw [List.length_append, List.length_singleton] at rest
      have width : Form.fullWidth (domain :: domains) (digit :: digits) =
          domain.getD digit '0' :: Form.fullWidth domains digits := rfl
      -- The last digit is always shown; before it a zero is dropped while the flag is up.
      cases valid with
      | nil =>
          have kept : range.suppresses before.length isLeadingZero digit = false := by
            simp [suppresses, lengths]
          rw [getCurrentFrom_shown _ kept domainAt inside, rest, width]
          simp [Except.map]
      | @cons next nextDomain digits domains =>
          have notLast : (before.length != range.digits.length - 1) = true := by
            simp only [List.length_cons] at lengths
            simp
            omega
          rw [Form.leadingZeroCount_cons_cons, width]
          by_cases dropped : range.suppresses before.length isLeadingZero digit = true
          · rw [getCurrentFrom_suppressed _ dropped, rest]
            simp only [suppresses, notLast, Bool.and_true, Bool.and_eq_true, beq_iff_eq] at dropped
            rcases dropped with ⟨rfl, suppressing, rfl⟩
            simp [suppressing]
          · rw [Bool.not_eq_true] at dropped
            rw [getCurrentFrom_shown _ dropped domainAt inside, rest]
            simp only [suppresses, notLast, Bool.and_true] at dropped
            by_cases zero : digit = 0
            · subst digit
              have noDrop : (isLeadingZero && !range.leadingZeros) = false := by
                simpa using dropped
              simp [Except.map, noDrop]
            · simp [Except.map, zero]

theorem getCurrent_eq_render {domains : List Text} {digits : List ℕ} {leadZero : Bool}
    (valid : Form.Valid domains digits) :
    getCurrent { domains, digits, leadingZeros := leadZero } =
      .ok (Form.render leadZero domains digits) := by
  have rendered := @getCurrentFrom_eq { domains, digits, leadingZeros := leadZero } [] domains
    digits rfl (by simp) valid true
  rw [List.length_nil] at rendered
  unfold getCurrent Form.render
  rw [rendered]
  cases leadZero <;> rfl

/-- A range whose positions are given one by one, each a domain with its digit. -/
def ofCells (leadZero : Bool) (cells : List (Text × ℕ)) : ImplicitRange :=
  { domains := cells.map Prod.fst, digits := cells.map Prod.snd, leadingZeros := leadZero }

def cellStep (cell : Text × ℕ) : Except Exception (Bool × Text × ℕ) :=
  .ok (if cell.2 + 1 < cell.1.length then (false, cell.1, cell.2 + 1) else (true, cell.1, 0))

theorem incrementAt_ofCells (leadZero : Bool) (cells : List (Text × ℕ)) (pivot : ℕ) :
    (ofCells leadZero cells).incrementAt pivot =
      cells[pivot]?.elim (.error .outOfRange) fun cell =>
        (cellStep cell).map fun moved =>
          (moved.1, ofCells leadZero (cells.set pivot moved.2)) := by
  unfold incrementAt cellStep ofCells checkedAt
  simp only [List.getElem?_map]
  rcases found : cells[pivot]? with _ | ⟨domain, digit⟩
  · rfl
  · have domainsSame : (cells.map Prod.fst).set pivot domain = cells.map Prod.fst := by
      have domainFound : (cells.map Prod.fst)[pivot]? = some domain := by
        simp [found]
      rcases List.getElem?_eq_some_iff.mp domainFound with ⟨inside, atPivot⟩
      rw [← atPivot, List.set_getElem_self]
    by_cases inDomain : digit + 1 < domain.length
    · simp [inDomain, domainsSame, Except.map, pure, Except.pure]
    · simp [inDomain, domainsSame, Except.map, pure, Except.pure]

theorem incrementFrom_ofCells (leadZero : Bool) (cells : List (Text × ℕ)) (pivot : ℕ) :
    (ofCells leadZero cells).incrementFrom pivot =
      (advanceFrom cellStep id .outOfRange pivot cells).map fun moved =>
        (moved.1, ofCells leadZero moved.2) := by
  induction pivot generalizing cells with
  | zero =>
      rw [incrementFrom, incrementAt_ofCells, advanceFrom]
      rcases cells[0]? with _ | cell
      · rfl
      · by_cases inDomain : cell.2 + 1 < cell.1.length <;>
          simp [cellStep, inDomain, Except.map]
  | succ pivot ih =>
      rw [incrementFrom, incrementAt_ofCells, advanceFrom]
      rcases cells[pivot + 1]? with _ | cell
      · rfl
      · by_cases inDomain : cell.2 + 1 < cell.1.length
        · simp [cellStep, inDomain, Except.map, pure, Except.pure]
        · simp [cellStep, inDomain, Except.map, ih]

theorem incrementReturnCarry_ofCells (leadZero : Bool) {cells : List (Text × ℕ)}
    (nonempty : cells ≠ []) :
    (ofCells leadZero cells).incrementReturnCarry =
      (advance cellStep id cells).map fun moved => (moved.1, ofCells leadZero moved.2) := by
  have positive : 0 < (ofCells leadZero cells).digits.length := by
    simpa [ofCells, List.length_pos_iff] using nonempty
  rw [incrementReturnCarry, sizeMinusOne_of_pos positive, incrementFrom_ofCells]
  rw [show (ofCells leadZero cells).digits.length = cells.length by simp [ofCells],
    Odometer.advanceFrom_eq_advance _ nonempty]

theorem sweep_cell {domain : Text} {digit : ℕ} (inside : digit < domain.length) :
    Sweep cellStep id (domain, digit)
      ((List.range' digit (domain.length - digit)).map (domain, ·)) (domain, 0) := by
  rcases Nat.exists_eq_add_of_lt inside with ⟨left, split⟩
  have width : domain.length - digit = left + 1 := by omega
  rw [width]
  clear width
  induction left generalizing digit with
  | zero =>
      have carries : cellStep (domain, digit) = .ok (true, domain, 0) := by
        simp [cellStep, split]
      exact .last carries
  | succ left ih =>
      have moves : cellStep (domain, digit) = .ok (false, domain, digit + 1) := by
        simp [cellStep, split]
      have splitNext : domain.length = digit + 1 + left + 1 := by omega
      exact .more moves (ih (by omega) splitNext)

theorem map_fst_of_chosen {domains : List Text} {choice : List (Text × ℕ)}
    (chosen : List.Forall₂ (fun cell domain => cell ∈ (List.range domain.length).map (domain, ·))
      choice domains) : choice.map Prod.fst = domains := by
  induction chosen with
  | nil => rfl
  | cons cellMem _ ih =>
      rcases List.mem_map.mp cellMem with ⟨digit, -, rfl⟩
      rw [List.map_cons, ih]

/-- The rows of cells a range shows are its digit vectors. -/
theorem map_ofCells_cartesian (leadZero : Bool) (domains : List Text) :
    (cartesian (domains.map fun domain => (List.range domain.length).map (domain, ·))).map
        (ofCells leadZero) =
      (Form.digitVectors domains).map fun digits =>
        { domains, digits, leadingZeros := leadZero } := by
  have vectors : Form.digitVectors domains = (cartesian
      (domains.map fun domain => (List.range domain.length).map (domain, ·))).map
      (List.map Prod.snd) := by
    rw [Odometer.map_cartesian]
    simp [Form.digitVectors, Function.comp_def]
  rw [vectors, List.map_map]
  apply List.map_congr_left
  intro choice choiceMem
  have chosen := Odometer.mem_cartesian_iff.mp choiceMem
  rw [List.forall₂_map_right_iff] at chosen
  simp [ofCells, map_fst_of_chosen chosen]

theorem ofCells_fresh (leadZero : Bool) (domains : List Text) :
    ofCells leadZero (domains.map fun domain => (domain, 0)) =
      { domains, digits := domains.map fun _ => 0, leadingZeros := leadZero } := by
  simp [ofCells, Function.comp_def]

theorem sweep_ofCells {cells finish : List (Text × ℕ)} {visited : List (List (Text × ℕ))}
    (leadZero : Bool) (nonempty : cells ≠ [])
    (sweep : Sweep (advance cellStep id) id cells visited finish) :
    Sweep incrementReturnCarry reset (ofCells leadZero cells) (visited.map (ofCells leadZero))
      (ofCells leadZero finish) := by
  apply sweep.map (ofCells leadZero) (· ≠ []) _ _ nonempty
  · intro cells carry next good moves
    constructor
    · have kept := Odometer.length_of_advance moves
      rw [← List.length_pos_iff, kept]
      exact List.length_pos_iff.mpr good
    · rw [incrementReturnCarry_ofCells leadZero good, moves]
      rfl
  · intro cells good
    rfl

/-- An implicit range runs through the digit vectors in order and is fresh again. -/
theorem sweep {domains : List Text} (nonempty : domains ≠ []) (leadZero : Bool)
    (inhabited : ∀ domain ∈ domains, domain ≠ []) :
    Sweep incrementReturnCarry reset
      { domains, digits := domains.map fun _ => 0, leadingZeros := leadZero }
      ((Form.digitVectors domains).map fun digits => { domains, digits, leadingZeros := leadZero })
      { domains, digits := domains.map fun _ => 0, leadingZeros := leadZero } := by
  have wheels : List.Forall₂ (fun cell visited => Sweep cellStep id cell visited cell)
      (domains.map fun domain => (domain, 0))
      (domains.map fun domain => (List.range domain.length).map (domain, ·)) := by
    rw [List.forall₂_map_left_iff, List.forall₂_map_right_iff, List.forall₂_same]
    intro domain domainMem
    rw [List.range_eq_range']
    exact sweep_cell (List.length_pos_iff.mpr (inhabited domain domainMem))
  have cells := sweep_ofCells leadZero (by simpa using nonempty) (Sweep.advance wheels)
  rw [ofCells_fresh, map_ofCells_cartesian] at cells
  exact cells

end ImplicitRange

namespace Range

theorem sweep_explicit {start stop current : SizeT} (inside : current ≤ stop) :
    Sweep incrementReturnCarry reset (explicit { start, stop, current })
      ((List.range' current.toNat (stop.toNat + 1 - current.toNat)).map fun number =>
        explicit { start, stop, current := .ofNat number })
      (explicit { start, stop, current := start }) := by
  rcases Nat.exists_eq_add_of_le (UInt64.le_iff_toNat_le.mp inside) with ⟨left, split⟩
  have width : stop.toNat + 1 - current.toNat = left + 1 := by omega
  rw [width]
  clear width
  induction left generalizing current with
  | zero =>
      have atEnd : current = stop := UInt64.toNat_inj.mp (by omega)
      have carries : incrementReturnCarry (explicit { start, stop, current }) =
          .ok (true, explicit { start, stop, current := current + 1 }) := by
        simp [incrementReturnCarry, ExplicitRange.incrementReturnCarry, atEnd]
      have last : Sweep incrementReturnCarry reset (explicit { start, stop, current })
          [explicit { start, stop, current }] (explicit { start, stop, current := start }) :=
        .last carries
      simpa using last
  | succ left ih =>
      have notEnd : (current == stop) = false := by
        rw [beq_eq_false_iff_ne]
        rintro rfl
        omega
      have next : (current + 1).toNat = current.toNat + 1 :=
        @SizeT.toNat_add_one current stop (by omega)
      have moves : incrementReturnCarry (explicit { start, stop, current }) =
          .ok (false, explicit { start, stop, current := current + 1 }) := by
        simp [incrementReturnCarry, ExplicitRange.incrementReturnCarry, notEnd]
      have insideNext : current + 1 ≤ stop := UInt64.le_iff_toNat_le.mpr (by omega)
      have rest := ih insideNext (by omega)
      rw [next] at rest
      simpa [List.range'_succ] using Sweep.more moves rest

end Range

namespace TelescopingRange

/-- The states of a telescoping range whose inner ranges from `done.length` on are still to run. -/
def telescoped : List ImplicitRange → List ImplicitRange → List (List ImplicitRange) →
    List TelescopingRange
  | done, inner :: rest, visited :: visiteds =>
      (visited.map fun state => { ranges := done ++ state :: rest, index := done.length }) ++
        telescoped (done ++ [inner]) rest visiteds
  | _, _, _ => []

/-- The range at the index moves; behind its carry the index does, and carries past the end. -/
theorem incrementReturnCarry_eq {range : TelescopingRange} {state moved : ImplicitRange}
    {carry : Bool} (found : range.ranges[range.index]? = some state)
    (moves : state.incrementReturnCarry = .ok (carry, moved)) :
    range.incrementReturnCarry =
      .ok (if carry then
        (range.ranges.length == range.index + 1,
          { ranges := range.ranges.set range.index moved, index := range.index + 1 })
      else (false, { range with ranges := range.ranges.set range.index moved })) := by
  rw [incrementReturnCarry, checkedAt_eq_ok_iff.mpr found, Except.ok_bind, moves, Except.ok_bind]
  cases carry with
  | false => rfl
  | true => simp only [if_true, List.length_set, pure, Except.pure]

theorem incrementReturnCarry_inner {done rest : List ImplicitRange} {state moved : ImplicitRange}
    {carry : Bool} (moves : state.incrementReturnCarry = .ok (carry, moved)) :
    incrementReturnCarry { ranges := done ++ state :: rest, index := done.length } =
      .ok (if carry then
        (rest.isEmpty, { ranges := done ++ moved :: rest, index := done.length + 1 })
      else (false, { ranges := done ++ moved :: rest, index := done.length })) := by
  have found : (done ++ state :: rest)[done.length]? = some state := by simp
  have replaced : (done ++ state :: rest).set done.length moved = done ++ moved :: rest := by simp
  have atEnd : ((done ++ state :: rest).length == done.length + 1) = rest.isEmpty := by
    cases rest <;> simp
  rw [incrementReturnCarry_eq found moves]
  simp only [replaced, atEnd]

/-- One inner range runs, and then either the whole range carries or the next one starts. -/
private theorem sweepInner {done rest : List ImplicitRange} {state inner : ImplicitRange}
    {visited : List ImplicitRange}
    (sweep : Sweep ImplicitRange.incrementReturnCarry ImplicitRange.reset state visited inner) :
    (rest = [] →
      Sweep incrementReturnCarry reset { ranges := done ++ state :: rest, index := done.length }
        (visited.map fun state => { ranges := done ++ state :: rest, index := done.length })
        { ranges := done ++ inner :: rest, index := 0 }) ∧
    (rest ≠ [] → ∀ {after finish},
      Sweep incrementReturnCarry reset
        { ranges := done ++ inner :: rest, index := done.length + 1 } after finish →
      Sweep incrementReturnCarry reset { ranges := done ++ state :: rest, index := done.length }
        ((visited.map fun state => { ranges := done ++ state :: rest, index := done.length }) ++
          after) finish) := by
  induction sweep with
  | @last state moved carries =>
      have step := @incrementReturnCarry_inner done rest _ _ _ carries
      constructor
      · rintro rfl
        have resets : reset { ranges := done ++ [moved], index := done.length + 1 } =
            { ranges := done ++ [moved.reset], index := 0 } :=
          reset_eq _
        rw [← resets]
        exact .last step
      · intro more after finish behind
        rw [if_pos rfl, List.isEmpty_eq_false_iff.mpr more] at step
        exact .more step behind
  | more moves sweep ih =>
      have step := @incrementReturnCarry_inner done rest _ _ _ moves
      rw [if_neg (by simp)] at step
      constructor
      · intro last
        exact .more step (ih.1 last)
      · intro more after finish behind
        exact .more step (ih.2 more behind)

theorem sweepFrom {done rest : List ImplicitRange} {visiteds : List (List ImplicitRange)}
    (nonempty : rest ≠ [])
    (sweeps : List.Forall₂ (fun inner visited => Sweep ImplicitRange.incrementReturnCarry
      ImplicitRange.reset inner visited inner) rest visiteds) :
    Sweep incrementReturnCarry reset { ranges := done ++ rest, index := done.length }
      (telescoped done rest visiteds) { ranges := done ++ rest, index := 0 } := by
  induction sweeps generalizing done with
  | nil => exact absurd rfl nonempty
  | @cons inner visited rest visiteds sweep sweeps ih =>
      cases rest with
      | nil =>
          cases sweeps
          simpa [telescoped] using (sweepInner sweep).1 rfl
      | cons next rest =>
          have behind := @ih (done ++ [inner]) (by simp)
          rw [List.length_append, List.length_singleton, List.append_assoc,
            List.singleton_append] at behind
          exact (sweepInner sweep).2 (by simp) behind

/-- A telescoping range runs its inner ranges from the first to the last. -/
theorem sweep {ranges : List ImplicitRange} {visiteds : List (List ImplicitRange)}
    (nonempty : ranges ≠ [])
    (sweeps : List.Forall₂ (fun inner visited => Sweep ImplicitRange.incrementReturnCarry
      ImplicitRange.reset inner visited inner) ranges visiteds) :
    Sweep incrementReturnCarry reset { ranges, index := 0 } (telescoped [] ranges visiteds)
      { ranges, index := 0 } := by
  simpa using @sweepFrom [] ranges visiteds nonempty sweeps

theorem getCurrent_telescoped {done rest : List ImplicitRange}
    {visiteds : List (List ImplicitRange)} {values : List (List Text)}
    (shows : List.Forall₂ (List.Forall₂ fun state value => state.getCurrent = .ok value)
      visiteds values) (lengths : rest.length = visiteds.length) :
    List.Forall₂ (fun state value => getCurrent state = .ok value)
      (telescoped done rest visiteds) values.flatten := by
  induction shows generalizing done rest with
  | nil =>
      rw [List.length_nil, List.length_eq_zero_iff] at lengths
      subst rest
      exact .nil
  | @cons visited value visiteds values first shows ih =>
      cases rest with
      | nil => simp at lengths
      | cons inner rest =>
          apply List.rel_append _ (ih (by simpa using lengths))
          rw [List.forall₂_map_left_iff]
          exact first.imp fun state value shown => by simp [getCurrent, shown]

end TelescopingRange

theorem exists_definition {symbol : Char} {domain : Text} (found : getDomain symbol = .ok domain) :
    ∃ definition ∈ domainDefinitions, definition.symbol = symbol ∧ definition.values = domain := by
  unfold getDomain at found
  rcases matched : domainDefinitions.find? (fun definition => definition.symbol == symbol)
    with _ | definition
  · simp [matched] at found
  · simp only [matched, Except.ok.injEq] at found
    have named : definition.symbol = symbol := by
      simpa using List.find?_some matched
    exact ⟨definition, List.mem_of_find?_eq_some matched, named, found⟩

/-- Values in ascending order are distinct; the character `0` can only be the first of them. -/
theorem domainDefinitions_wellFormed :
    ∀ definition ∈ domainDefinitions,
      definition.values ≠ [] ∧ definition.values.length < 100 ∧
        (definition.values.map Char.toNat).IsChain (· < ·) ∧
        definition.values.all Char.isAlphanum = true ∧
        '0' ∉ definition.values.tail ∧
        (definition.values.head? = some '0' ↔
          definition.symbol ≠ 'a' ∧ definition.symbol ≠ 'A') := by
  decide +kernel

theorem domain_ne_nil {symbol : Char} {domain : Text} (found : getDomain symbol = .ok domain) :
    domain ≠ [] := by
  rcases exists_definition found with ⟨definition, definitionMem, -, rfl⟩
  exact (domainDefinitions_wellFormed definition definitionMem).1

theorem domains_ne_nil {symbols : Text}
    (known : ∀ symbol ∈ symbols, ∃ domain, getDomain symbol = .ok domain) :
    ∀ domain ∈ symbols.map Form.domain, domain ≠ [] := by
  intro domain domainMem
  rcases List.mem_map.mp domainMem with ⟨symbol, symbolMem, rfl⟩
  rcases known symbol symbolMem with ⟨values, found⟩
  rw [domain_of_getDomain found]
  exact domain_ne_nil found

namespace Form

def implicitStates (leadZero : Bool) (symbols : Text) : List ImplicitRange :=
  (digitVectors (symbols.map domain)).map fun digits =>
    { domains := symbols.map domain, digits, leadingZeros := leadZero }

theorem sweep_implicitRange {symbols : Text} (nonempty : symbols ≠ [])
    (known : ∀ symbol ∈ symbols, ∃ domain, getDomain symbol = .ok domain) (leadZero : Bool) :
    Sweep ImplicitRange.incrementReturnCarry ImplicitRange.reset (implicitRange leadZero symbols)
      (implicitStates leadZero symbols) (implicitRange leadZero symbols) := by
  have domainsNonempty : symbols.map domain ≠ [] := by simpa using nonempty
  have runs := ImplicitRange.sweep domainsNonempty leadZero (domains_ne_nil known)
  rw [List.map_map] at runs
  exact runs

theorem implicitStates_show (leadZero : Bool) (symbols : Text) :
    List.Forall₂ (fun state value => state.getCurrent = .ok value)
      (implicitStates leadZero symbols) (implicitValues leadZero symbols) := by
  unfold implicitStates implicitValues
  rw [List.forall₂_map_left_iff, List.forall₂_map_right_iff, List.forall₂_same]
  intro digits digitsMem
  exact ImplicitRange.getCurrent_eq_render (valid_of_mem_digitVectors digitsMem)

theorem sweep_suffix {symbols : Text}
    (known : ∀ symbol ∈ symbols, ∃ domain, getDomain symbol = .ok domain) (leadZero : Bool)
    {length : ℕ} (lengthMem : length ∈ List.range' 1 symbols.length) :
    Sweep ImplicitRange.incrementReturnCarry ImplicitRange.reset
      (implicitRange leadZero (suffix symbols length))
      (implicitStates leadZero (suffix symbols length))
      (implicitRange leadZero (suffix symbols length)) := by
  rw [List.mem_range'_1] at lengthMem
  apply sweep_implicitRange
  · exact suffix_ne_nil lengthMem.1 (by omega)
  · exact known_suffix known length

theorem sweep_suffixRanges {symbols : Text}
    (known : ∀ symbol ∈ symbols, ∃ domain, getDomain symbol = .ok domain) (leadZero : Bool) :
    List.Forall₂ (fun inner visited => Sweep ImplicitRange.incrementReturnCarry
        ImplicitRange.reset inner visited inner) (suffixRanges leadZero symbols)
      ((List.range' 1 symbols.length).map fun length =>
        implicitStates leadZero (suffix symbols length)) := by
  unfold suffixRanges
  rw [List.forall₂_map_left_iff, List.forall₂_map_right_iff, List.forall₂_same]
  exact fun length lengthMem => sweep_suffix known leadZero lengthMem

theorem telescopedStates_show (leadZero : Bool) (symbols : Text) :
    List.Forall₂ (fun state value => TelescopingRange.getCurrent state = .ok value)
      (TelescopingRange.telescoped [] (suffixRanges leadZero symbols)
        ((List.range' 1 symbols.length).map fun length =>
          implicitStates leadZero (suffix symbols length)))
      ((List.range' 1 symbols.length).flatMap fun length =>
        implicitValues leadZero (suffix symbols length)) := by
  rw [List.flatMap_def]
  apply TelescopingRange.getCurrent_telescoped _ (by simp [suffixRanges])
  rw [List.forall₂_map_left_iff, List.forall₂_map_right_iff, List.forall₂_same]
  intro length _
  exact implicitStates_show leadZero (suffix symbols length)

theorem suffixRanges_ne_nil {symbols : Text} (nonempty : symbols ≠ []) (leadZero : Bool) :
    suffixRanges leadZero symbols ≠ [] := by
  simpa [suffixRanges] using nonempty

/-- A state that shows a value whatever the other ranges are. -/
def ShowsValue (state : Range) (value : Text) : Prop :=
  ∀ ranges hops, state.getCurrent ranges hops = .ok value

theorem showsValue_explicit (start stop : SizeT) :
    List.Forall₂ ShowsValue
      ((List.range' start.toNat (stop.toNat + 1 - start.toNat)).map fun number =>
        Range.explicit { start, stop, current := .ofNat number })
      ((List.range' start.toNat (stop.toNat + 1 - start.toNat)).map (Nat.toDigits 10)) := by
  rw [List.forall₂_map_left_iff, List.forall₂_map_right_iff, List.forall₂_same]
  intro number numberMem ranges hops
  have bound := stop.toNat_lt
  have small : number < 2 ^ 64 := by
    rw [List.mem_range'_1] at numberMem
    omega
  simp [Range.getCurrent, ExplicitRange.getCurrent, SizeT.toString,
    UInt64.toNat_ofNat_of_lt' small]

/-- The fresh range of a form with values runs through states that show exactly these. -/
theorem sweep_range {lexicalCast : Text → Option SizeT} {body : Text} {form : Form}
    {leadZero telescoping : Bool} {own : List Text} (reads : Reads lexicalCast body form)
    (hasValues : form.values leadZero telescoping = some own) (position : ℕ) :
    ∃ visited, Sweep Range.incrementReturnCarry Range.reset
        (form.range leadZero telescoping position) visited
        (form.range leadZero telescoping position) ∧
      List.Forall₂ ShowsValue visited own := by
  cases reads with
  | continuation => simp [values] at hasValues
  | @explicit _ _ first last _ _ _ ordered =>
      cases hasValues
      exact ⟨_, Range.sweep_explicit ordered, showsValue_explicit first last⟩
  | implicit nonempty noColon known =>
      cases telescoping with
      | false =>
          cases hasValues
          have runs := sweep_implicitRange nonempty known leadZero
          refine ⟨_, runs.map Range.implicit (fun _ => True) ?_ ?_ trivial, ?_⟩
          · intro state carry next _ moves
            simp [Range.incrementReturnCarry, moves, Except.map]
          · intro state _
            rfl
          · rw [List.forall₂_map_left_iff]
            apply (implicitStates_show leadZero body).imp
            intro state value shown ranges hops
            cases hops <;> simpa [Range.getCurrent] using shown
      | true =>
          cases hasValues
          have runs := TelescopingRange.sweep (suffixRanges_ne_nil nonempty leadZero)
            (sweep_suffixRanges known leadZero)
          refine ⟨_, runs.map Range.telescoping (fun _ => True) ?_ ?_ trivial, ?_⟩
          · intro state carry next _ moves
            simp [Range.incrementReturnCarry, moves, Except.map]
          · intro state _
            rfl
          · rw [List.forall₂_map_left_iff, if_pos rfl]
            apply (telescopedStates_show leadZero body).imp
            intro state value shown ranges hops
            cases hops <;> simpa [Range.getCurrent] using shown

end Form

end Abrade
