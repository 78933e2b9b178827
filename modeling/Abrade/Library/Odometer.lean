import Mathlib.Algebra.BigOperators.Group.List.Basic
import Mathlib.Algebra.Order.Ring.Nat
import Mathlib.Data.List.Forall2
import Mathlib.Data.List.Induction
import Mathlib.Data.List.Nodup

/-!
# Odometers

A wheel is a state with a fallible step that says whether it passed its last
position.  A row of wheels advances like an odometer: the last wheel moves
first, and a wheel that carries is reset and moves the wheel before it.

`Sweep` records the positions a wheel visits up to and including the one it
carries from, together with the state it is left in once it has been reset.
The main result, `Sweep.advance`, says that a row of wheels, each of which
returns to its own start, visits exactly the Cartesian product of the wheels'
positions, the last wheel fastest, and returns to its own start.
-/

namespace Odometer

universe u v w

/-- All ways to choose one entry of each list, the choice from the last list changing fastest. -/
def cartesian {α : Type u} : List (List α) → List (List α)
  | [] => [[]]
  | entries :: rest => entries.flatMap fun entry => (cartesian rest).map (entry :: ·)

section Cartesian

variable {α : Type u} {β : Type v}

@[simp]
theorem cartesian_nil : cartesian ([] : List (List α)) = [[]] :=
  rfl

@[simp]
theorem cartesian_cons (entries : List α) (rest : List (List α)) :
    cartesian (entries :: rest) =
      entries.flatMap fun entry => (cartesian rest).map (entry :: ·) :=
  rfl

theorem length_cartesian (lists : List (List α)) :
    (cartesian lists).length = (lists.map List.length).prod := by
  induction lists with
  | nil => rfl
  | cons entries rest ih =>
      simp only [cartesian_cons, List.length_flatMap, List.length_map, List.map_cons,
        List.prod_cons, ih]
      simp

theorem map_cartesian (f : α → β) (lists : List (List α)) :
    (cartesian lists).map (List.map f) = cartesian (lists.map (List.map f)) := by
  induction lists with
  | nil => rfl
  | cons entries rest ih =>
      simp only [cartesian_cons, List.map_cons, List.map_flatMap, List.map_map, ← ih,
        List.flatMap_map]
      rfl

theorem mem_cartesian_iff {lists : List (List α)} {choice : List α} :
    choice ∈ cartesian lists ↔ List.Forall₂ (· ∈ ·) choice lists := by
  induction lists generalizing choice with
  | nil => simp [List.forall₂_nil_right_iff]
  | cons entries rest ih =>
      simp only [cartesian_cons, List.mem_flatMap, List.mem_map, ih]
      constructor
      · rintro ⟨entry, entryMem, tail, tailMem, rfl⟩
        exact List.Forall₂.cons entryMem tailMem
      · intro matched
        cases matched with
        | cons entryMem tailMem => exact ⟨_, entryMem, _, tailMem, rfl⟩

theorem nodup_cartesian {lists : List (List α)} (nodups : ∀ entries ∈ lists, entries.Nodup) :
    (cartesian lists).Nodup := by
  induction lists with
  | nil => simp
  | cons entries rest ih =>
      rw [List.forall_mem_cons] at nodups
      rcases nodups with ⟨first, others⟩
      rw [cartesian_cons, List.nodup_flatMap]
      constructor
      · intro entry _
        apply List.Nodup.map _ (ih others)
        intro choice choice' same
        exact (List.cons.inj same).2
      · apply List.Pairwise.imp _ first
        intro entry entry' different choice choiceMem choiceMem'
        rcases List.mem_map.mp choiceMem with ⟨tail, -, rfl⟩
        rcases List.mem_map.mp choiceMem' with ⟨tail', -, same⟩
        exact different (List.cons.inj same).1.symm

end Cartesian

section Wheels

variable {σ : Type u} {τ : Type v} {ε : Type w}

/-- Move the last wheel; each wheel that carries is reset and moves the wheel before it. -/
def advance (step : σ → Except ε (Bool × σ)) (reset : σ → σ) :
    List σ → Except ε (Bool × List σ)
  | [] => .ok (true, [])
  | wheel :: wheels => do
      let (tailCarry, wheels) ← advance step reset wheels
      if tailCarry then
        let (carry, wheel) ← step wheel
        if carry then .ok (true, reset wheel :: wheels) else .ok (false, wheel :: wheels)
      else .ok (false, wheel :: wheels)

/-- The same motion written as a loop over an index that counts down from `pivot`. -/
def advanceFrom (step : σ → Except ε (Bool × σ)) (reset : σ → σ) (missing : ε) :
    ℕ → List σ → Except ε (Bool × List σ)
  | pivot, wheels => do
      let wheel ← wheels[pivot]?.elim (.error missing) .ok
      let (carry, wheel) ← step wheel
      if carry then
        match pivot with
        | 0 => .ok (true, wheels.set 0 (reset wheel))
        | previous + 1 => advanceFrom step reset missing previous (wheels.set pivot (reset wheel))
      else .ok (false, wheels.set pivot wheel)

variable {step : σ → Except ε (Bool × σ)} {reset : σ → σ}

theorem map_of_advance {view : σ → τ}
    (kept : ∀ {wheel carry moved}, step wheel = .ok (carry, moved) → view moved = view wheel)
    (keptByReset : ∀ wheel, view (reset wheel) = view wheel) {wheels moved : List σ}
    {carry : Bool} (moves : advance step reset wheels = .ok (carry, moved)) :
    moved.map view = wheels.map view := by
  induction wheels generalizing moved carry with
  | nil =>
      cases moves
      rfl
  | cons wheel wheels ih =>
      rw [advance] at moves
      rcases tail : advance step reset wheels with _ | ⟨_ | _, movedTail⟩
      · rw [tail] at moves
        cases moves
      · rw [tail] at moves
        cases moves
        simp [ih tail]
      · rw [tail] at moves
        rcases head : step wheel with _ | ⟨_ | _, movedHead⟩
        all_goals
          simp only [bind, Except.bind, if_true, head] at moves
          cases moves
          try simp [ih tail, kept head, keptByReset]

theorem length_of_advance {wheels moved : List σ} {carry : Bool}
    (moves : advance step reset wheels = .ok (carry, moved)) : moved.length = wheels.length := by
  have kept : moved.map (fun _ => ()) = wheels.map fun _ => () :=
    map_of_advance (by simp) (by simp) moves
  simpa using congrArg List.length kept

/--
When every wheel that is good for its position moves, and is good again behind
the reset of a carry, a row of good wheels moves to a row of good wheels.
-/
theorem exists_advance {Good : ℕ → σ → Prop}
    (moves : ∀ {position wheel}, Good position wheel → ∃ carry moved,
      step wheel = .ok (carry, moved) ∧ Good position (if carry then reset moved else moved))
    {wheels : List σ} (good : ∀ position wheel, wheels[position]? = some wheel → Good position wheel) :
    ∃ carry moved, advance step reset wheels = .ok (carry, moved) ∧
      ∀ position wheel, moved[position]? = some wheel → Good position wheel := by
  induction wheels generalizing Good with
  | nil => exact ⟨true, [], rfl, good⟩
  | cons first wheels ih =>
      have firstGood : Good 0 first := good 0 first rfl
      have behind (position : ℕ) (wheel : σ) (found : wheels[position]? = some wheel) :
          Good (position + 1) wheel := good (position + 1) wheel found
      rcases @ih (fun position => Good (position + 1)) moves behind with
        ⟨tailCarry, movedTail, tailMoves, tailGood⟩
      have row {wheel : σ} (wheelGood : Good 0 wheel) (position : ℕ) (other : σ)
          (found : (wheel :: movedTail)[position]? = some other) : Good position other := by
        cases position with
        | zero => exact Option.some.inj found ▸ wheelGood
        | succ position => exact tailGood position other found
      cases tailCarry with
      | false =>
          refine ⟨false, _, ?_, row firstGood⟩
          simp [advance, tailMoves, bind, Except.bind]
      | true =>
          rcases moves firstGood with ⟨carry, moved, firstMoves, movedGood⟩
          refine ⟨carry, _, ?_, row movedGood⟩
          cases carry <;> simp [advance, tailMoves, firstMoves, bind, Except.bind]

theorem advance_concat (wheels : List σ) (wheel : σ) :
    advance step reset (wheels ++ [wheel]) = (do
      let (carry, moved) ← step wheel
      if carry then
        let (carry, wheels) ← advance step reset wheels
        .ok (carry, wheels ++ [reset moved])
      else .ok (false, wheels ++ [moved])) := by
  induction wheels with
  | nil =>
      rcases moved : step wheel with _ | ⟨_ | _, _⟩ <;>
        simp [advance, moved, bind, Except.bind]
  | cons first wheels ih =>
      simp only [List.cons_append, advance, ih]
      rcases step wheel with _ | ⟨_ | _, last⟩
      · rfl
      · rfl
      · rcases advance step reset wheels with _ | ⟨_ | _, wheels⟩
        · rfl
        · rfl
        · simp only [bind, Except.bind, if_true]
          rcases step first with _ | ⟨_ | _, _⟩ <;> rfl

/-- The index loop, started at the last wheel, moves the row and leaves what follows it alone. -/
theorem advanceFrom_append (missing : ε) {wheels : List σ} (nonempty : wheels ≠ [])
    (suffix : List σ) :
    advanceFrom step reset missing (wheels.length - 1) (wheels ++ suffix) =
      (advance step reset wheels).map fun moved => (moved.1, moved.2 ++ suffix) := by
  induction wheels using List.reverseRecOn generalizing suffix with
  | nil => exact absurd rfl nonempty
  | append_singleton wheels wheel ih =>
      rw [advance_concat]
      have found : (wheels ++ [wheel] ++ suffix)[wheels.length]? = some wheel := by simp
      have replaced (other : σ) :
          (wheels ++ [wheel] ++ suffix).set wheels.length other = wheels ++ other :: suffix := by
        simp
      simp only [List.length_append, List.length_singleton, Nat.add_sub_cancel]
      unfold advanceFrom
      simp only [found, Option.elim_some, bind, Except.bind]
      rcases step wheel with _ | ⟨_ | _, moved⟩
      · rfl
      · simp [Except.map]
      · simp only [if_true]
        cases wheels with
        | nil => simp [advance, Except.map]
        | cons first wheels =>
            have rest := ih (by simp) (reset moved :: suffix)
            simp only [List.length_cons, Nat.add_sub_cancel] at rest ⊢
            rw [show wheels.length + 1 = (first :: wheels).length from rfl, replaced, rest]
            rcases advance step reset (first :: wheels) with _ | ⟨_, _⟩ <;>
              simp [Except.map]

theorem advanceFrom_eq_advance (missing : ε) {wheels : List σ} (nonempty : wheels ≠ []) :
    advanceFrom step reset missing (wheels.length - 1) wheels = advance step reset wheels := by
  have appended : advanceFrom step reset missing (wheels.length - 1) (wheels ++ []) =
      (advance step reset wheels).map fun moved => (moved.1, moved.2 ++ []) :=
    advanceFrom_append missing nonempty []
  rw [List.append_nil] at appended
  rw [appended]
  rcases advance step reset wheels with _ | ⟨_, _⟩ <;> simp [Except.map]

/--
`Sweep step reset start visited finish`: from `start` the wheel stands in the
`visited` states one after another, carries out of the last of them, and is in
state `finish` once it has been reset.
-/
inductive Sweep (step : σ → Except ε (Bool × σ)) (reset : σ → σ) : σ → List σ → σ → Prop where
  | last {start moved : σ} (carries : step start = .ok (true, moved)) :
      Sweep step reset start [start] (reset moved)
  | more {start next finish : σ} {visited : List σ} (moves : step start = .ok (false, next))
      (rest : Sweep step reset next visited finish) :
      Sweep step reset start (start :: visited) finish

namespace Sweep

/-- A sweep carries over to another wheel that moves alike through `view`. -/
theorem map {step' : τ → Except ε (Bool × τ)} {reset' : τ → τ} (view : σ → τ)
    (Good : σ → Prop)
    (moves : ∀ {wheel carry next}, Good wheel → step wheel = .ok (carry, next) →
      Good next ∧ step' (view wheel) = .ok (carry, view next))
    (resets : ∀ wheel, Good wheel → reset' (view wheel) = view (reset wheel))
    {start finish : σ} {visited : List σ} (sweep : Sweep step reset start visited finish)
    (good : Good start) :
    Sweep step' reset' (view start) (visited.map view) (view finish) := by
  induction sweep with
  | last carries =>
      rcases moves good carries with ⟨goodMoved, carries'⟩
      rw [← resets _ goodMoved]
      exact .last carries'
  | more step rest ih =>
      rcases moves good step with ⟨goodNext, moves'⟩
      exact .more moves' (ih goodNext)

theorem unique {start finish finish' : σ} {visited visited' : List σ}
    (sweep : Sweep step reset start visited finish)
    (sweep' : Sweep step reset start visited' finish') : visited = visited' ∧ finish = finish' := by
  induction sweep generalizing visited' finish' with
  | last carries =>
      cases sweep' with
      | last carries' =>
          rw [carries] at carries'
          cases carries'
          exact ⟨rfl, rfl⟩
      | more moves' => simp [carries] at moves'
  | more moves _ ih =>
      cases sweep' with
      | last carries' => simp [moves] at carries'
      | more moves' rest' =>
          rw [moves] at moves'
          cases moves'
          rcases ih rest' with ⟨rfl, rfl⟩
          exact ⟨rfl, rfl⟩

/-- While the wheels behind it sweep, the first wheel stands still; then it moves once. -/
private theorem behind {wheel : σ} {tail tailFinish : List σ} {tails : List (List σ)}
    (sweep : Sweep (Odometer.advance step reset) id tail tails tailFinish) :
    (∀ {moved}, step wheel = .ok (true, moved) →
      Sweep (Odometer.advance step reset) id (wheel :: tail) (tails.map (wheel :: ·))
        (reset moved :: tailFinish)) ∧
    (∀ {next visited finish}, step wheel = .ok (false, next) →
      Sweep (Odometer.advance step reset) id (next :: tailFinish) visited finish →
      Sweep (Odometer.advance step reset) id (wheel :: tail)
        (tails.map (wheel :: ·) ++ visited) finish) := by
  induction sweep with
  | last carries =>
      constructor
      · intro moved wheelCarries
        exact .last (by
          simp [Odometer.advance, carries, wheelCarries, bind, Except.bind])
      · intro next visited finish wheelMoves rest
        exact .more (by
          simp [Odometer.advance, carries, wheelMoves, bind, Except.bind]) rest
  | @more tail tailNext _ _ moves rest ih =>
      have still :
          Odometer.advance step reset (wheel :: tail) = .ok (false, wheel :: tailNext) := by
        simp [Odometer.advance, moves, bind, Except.bind]
      constructor
      · intro moved wheelCarries
        exact .more still (ih.1 wheelCarries)
      · intro next visited finish wheelMoves after
        exact .more still (ih.2 wheelMoves after)

/-- A first wheel sweeping in front of a row that returns to its start. -/
private theorem cons {wheel finish : σ} {visited : List σ} {tail : List σ}
    {tails : List (List σ)} (sweep : Sweep step reset wheel visited finish)
    (tailSweep : Sweep (Odometer.advance step reset) id tail tails tail) :
    Sweep (Odometer.advance step reset) id (wheel :: tail)
      (visited.flatMap fun first => tails.map (first :: ·)) (finish :: tail) := by
  induction sweep with
  | last carries =>
      simpa using (behind tailSweep).1 carries
  | more moves rest ih =>
      simpa using (behind tailSweep).2 moves ih

/-- A row of wheels that return to their starts visits the product of their positions. -/
theorem advance {wheels : List σ} {positions : List (List σ)}
    (sweeps : List.Forall₂ (fun wheel visited => Sweep step reset wheel visited wheel)
      wheels positions) :
    Sweep (Odometer.advance step reset) id wheels (cartesian positions) wheels := by
  induction sweeps with
  | nil =>
      have carries : Odometer.advance step reset [] = .ok (true, []) := rfl
      exact .last carries
  | cons sweep rest ih => exact cons sweep ih

end Sweep

/-- What a wheel reads at the positions of its sweep, in order. -/
def Produces (step : σ → Except ε (Bool × σ)) (reset : σ → σ) (read : σ → Except ε τ) (start : σ)
    (values : List τ) : Prop :=
  ∃ visited finish, Sweep step reset start visited finish ∧
    List.Forall₂ (fun state value => read state = .ok value) visited values

theorem Produces.unique {read : σ → Except ε τ} {start : σ} {values values' : List τ}
    (produces : Produces step reset read start values)
    (produces' : Produces step reset read start values') : values = values' := by
  rcases produces with ⟨visited, finish, sweep, reads⟩
  rcases produces' with ⟨visited', finish', sweep', reads'⟩
  rcases sweep.unique sweep' with ⟨rfl, -⟩
  clear sweep sweep'
  induction reads generalizing values' with
  | nil =>
      cases reads'
      rfl
  | cons head _ ih =>
      cases reads' with
      | cons head' tail' =>
          rw [head] at head'
          rw [Except.ok.inj head', ih tail']

end Wheels

end Odometer
