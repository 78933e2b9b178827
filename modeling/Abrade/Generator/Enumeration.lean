import Abrade.Generator.Basic
import Abrade.Generator.Sweeps

/-!
# What a generator emits

The ranges of a generator move like an odometer, so a fresh generator visits
every choice of the ranges' states once, the rightmost range fastest, and shows
exactly the URIs of its pattern.
-/

namespace Abrade

open Odometer (Sweep advance advanceFrom cartesian)

instance : Generator UriGenerator where
  next := UriGenerator.next

namespace UriGenerator

def withMoved (generator : UriGenerator) (moved : Bool × List Range) : UriGenerator :=
  { generator with ranges := moved.2, isComplete := moved.1 || generator.isComplete }

theorem incrementRangesFrom_eq (generator : UriGenerator) (pivot : ℕ) :
    generator.incrementRangesFrom pivot =
      (advanceFrom Range.incrementReturnCarry Range.reset .outOfRange pivot
        generator.ranges).map generator.withMoved := by
  induction pivot generalizing generator with
  | zero =>
      unfold incrementRangesFrom advanceFrom incrementRangeAt checkedAt
      rcases generator.ranges[0]? with _ | range
      · rfl
      · simp only [Except.ok_bind, Option.elim_some]
        rcases range.incrementReturnCarry with _ | ⟨_ | _, moved⟩ <;> rfl
  | succ pivot ih =>
      unfold incrementRangesFrom advanceFrom incrementRangeAt checkedAt
      rcases generator.ranges[pivot + 1]? with _ | range
      · rfl
      · simp only [Except.ok_bind, Option.elim_some]
        rcases range.incrementReturnCarry with _ | ⟨_ | _, moved⟩
        · rfl
        · rfl
        · exact ih { generator with ranges := generator.ranges.set (pivot + 1) moved.reset }

theorem incrementRanges_eq (generator : UriGenerator) :
    generator.incrementRanges =
      (advance Range.incrementReturnCarry Range.reset generator.ranges).map
        generator.withMoved := by
  unfold incrementRanges
  by_cases empty : generator.ranges = []
  · simp [empty, advance, Except.map, withMoved]
  · rw [if_neg (by simpa using empty), incrementRangesFrom_eq,
      Odometer.advanceFrom_eq_advance _ empty]

theorem emits_of_isComplete {generator : UriGenerator} (complete : generator.isComplete = true) :
    Generator.Emits generator [] := by
  apply Generator.emits_nil
  simp [Generator.next, next, complete]

/-- A generator whose ranges sweep shows what each visited state shows, then nothing. -/
theorem emits_of_sweep {literals : List Text} {ranges finish : List Range}
    {visited : List (List Range)} {uris : List Text}
    (sweep : Sweep (advance Range.incrementReturnCarry Range.reset) id ranges visited finish)
    (shows : List.Forall₂ (fun state uri =>
      current { literalTokens := literals, ranges := state, isComplete := false } = .ok uri)
      visited uris) :
    Generator.Emits
      ({ literalTokens := literals, ranges, isComplete := false } : UriGenerator) uris := by
  induction sweep generalizing uris with
  | @last start moved carries =>
      cases shows with
      | cons shown rest =>
          cases rest
          have complete : Generator.Emits
              ({ literalTokens := literals, ranges := moved, isComplete := true } :
                UriGenerator) [] :=
            emits_of_isComplete rfl
          refine Generator.emits_cons ?_ complete
          simp only [Generator.next, next, shown, incrementRanges_eq, carries, Except.map,
            Except.ok_bind]
          rfl
  | more moves _ ih =>
      cases shows with
      | cons shown rest =>
          refine Generator.emits_cons ?_ (ih rest)
          simp only [Generator.next, next, shown, incrementRanges_eq, moves, Except.map,
            Except.ok_bind]
          rfl

end UriGenerator

namespace Form

/--
`Shows position forms states chosen`: the states of the
ranges from `position` on, one for each form, show the chosen values; a
continuation refers to the range before it and takes no choice.
-/
inductive Shows : ℕ → List Form → List Range → List Text → Prop where
  | nil {position : ℕ} : Shows position [] [] []
  | own {position : ℕ} {form : Form} {forms : List Form} {state : Range} {states : List Range}
      {value : Text} {chosen : List Text} (hasValues : form ≠ continuation)
      (shown : ShowsValue state value)
      (rest : Shows (position + 1) forms states chosen) :
      Shows position (form :: forms) (state :: states) (value :: chosen)
  | repeated {position : ℕ} {forms : List Form} {states : List Range} {chosen : List Text}
      (rest : Shows (position + 1) forms states chosen) :
      Shows position (continuation :: forms)
        (.continuation { target := position - 1 } :: states) chosen

theorem sweep_continuation (target : ℕ) :
    Sweep Range.incrementReturnCarry Range.reset (.continuation { target })
      [.continuation { target }] (.continuation { target }) := by
  have carries : Range.incrementReturnCarry (.continuation { target }) =
      .ok (true, .continuation { target }) :=
    rfl
  exact @Sweep.last _ _ _ Range.reset _ _ carries

theorem exists_values {form : Form} (leadZero telescoping : Bool)
    (hasValues : form ≠ continuation) : ∃ own, form.values leadZero telescoping = some own := by
  cases form with
  | explicit => exact ⟨_, rfl⟩
  | implicit => exact ⟨_, rfl⟩
  | continuation => exact absurd rfl hasValues

theorem shown_continuation (forms : List Form) (chosen : List Text) (previous : Text) :
    shown (continuation :: forms) chosen previous = previous :: shown forms chosen previous := by
  cases chosen <;> rfl

theorem shown_own {form : Form} (hasValues : form ≠ continuation) (forms : List Form)
    (value : Text) (chosen : List Text) (previous : Text) :
    shown (form :: forms) (value :: chosen) previous = value :: shown forms chosen value := by
  cases form with
  | explicit => rfl
  | implicit => rfl
  | continuation => exact absurd rfl hasValues

/-- The fresh ranges sweep states that, taken together, show exactly the choices of values. -/
theorem sweep_ranges {lexicalCast : Text → Option SizeT} {bodies : List Text} {forms : List Form}
    (leadZero telescoping : Bool) (read : List.Forall₂ (Reads lexicalCast) bodies forms)
    (position : ℕ) :
    ∃ visited,
      List.Forall₂ (fun range states =>
          Sweep Range.incrementReturnCarry Range.reset range states range)
        (ranges leadZero telescoping position forms) visited ∧
      List.Forall₂ (Shows position forms) (cartesian visited)
        (cartesian (forms.filterMap (values leadZero telescoping))) := by
  induction read generalizing position with
  | nil => exact ⟨[], .nil, .cons .nil .nil⟩
  | @cons _ form _ forms reads _ ih =>
      rcases ih (position + 1) with ⟨visited, sweeps, shows⟩
      by_cases repeats : form = continuation
      · subst form
        refine ⟨[.continuation { target := position - 1 }] :: visited,
          .cons (sweep_continuation _) sweeps, ?_⟩
        rw [List.filterMap_cons_none rfl, Odometer.cartesian_cons, List.flatMap_singleton,
          List.forall₂_map_left_iff]
        exact shows.imp fun _ _ => .repeated
      · rcases exists_values leadZero telescoping repeats with ⟨own, hasOwn⟩
        rcases sweep_range reads hasOwn position with ⟨states, sweep, shown⟩
        refine ⟨states :: visited, .cons sweep sweeps, ?_⟩
        rw [List.filterMap_cons_some hasOwn, Odometer.cartesian_cons, Odometer.cartesian_cons]
        refine List.rel_flatMap shown fun state value shown => ?_
        rw [List.forall₂_map_left_iff, List.forall₂_map_right_iff]
        exact shows.imp fun _ _ => .own repeats shown

theorem Shows.length_eq {position : ℕ} {forms : List Form} {states : List Range}
    {chosen : List Text} (shows : Shows position forms states chosen) :
    states.length = forms.length := by
  induction shows with
  | nil => rfl
  | own _ _ _ ih => simp [ih]
  | repeated _ ih => simp [ih]

/--
Read from left to right, every range shows its own value or the one before it.
A reference to `position - 1` needs at most `position` hops.
-/
theorem Shows.currentAt {position : ℕ} {forms : List Form} {states : List Range}
    {chosen : List Text} (shows : Shows position forms states chosen) {before : List Range}
    (behind : before.length = position) {previous : Text}
    (follows : forms.head? = some continuation → ∃ last, before.getLast? = some last ∧
      ∀ hops, position ≤ hops + 1 →
        Range.getCurrent (before ++ states) hops last = .ok previous) :
    List.Forall₂ (fun i value => UriGenerator.currentAt (before ++ states) i = .ok value)
      (List.range' position states.length) (shown forms chosen previous) := by
  induction shows generalizing before previous with
  | nil => exact .nil
  | @own position form forms state states value chosen hasValues shown _ ih =>
      have rest := @ih (before ++ [state]) (by simp [behind]) value fun _ =>
        ⟨state, by simp, fun hops _ => shown _ hops⟩
      rw [List.append_assoc, List.singleton_append] at rest
      rw [shown_own hasValues, List.length_cons, List.range'_succ]
      refine .cons ?_ rest
      subst behind
      simp [UriGenerator.currentAt, shown _ _]
  | @repeated position forms states chosen _ ih =>
      rcases follows rfl with ⟨last, lastOf, shown⟩
      rcases List.getLast?_eq_some_iff.mp lastOf with ⟨earlier, rfl⟩
      rw [List.length_append, List.length_singleton] at behind
      subst behind
      have target : checkedAt ((earlier ++ [last]) ++
          Range.continuation { target := earlier.length } :: states) earlier.length = .ok last := by
        rw [List.append_assoc, List.singleton_append, checkedAt_append_length]
      have showsLast (hops : ℕ) (enough : earlier.length + 1 ≤ hops) :
          Range.getCurrent ((earlier ++ [last]) ++
            Range.continuation { target := earlier.length } :: states) hops
            (.continuation { target := earlier.length }) = .ok previous := by
        cases hops with
        | zero => omega
        | succ hops => simpa [Range.getCurrent, target] using shown hops enough
      have rest := @ih (earlier ++ [last] ++ [.continuation { target := earlier.length }])
        (by simp) previous fun _ =>
          ⟨.continuation { target := earlier.length }, by simp, fun hops enough => by
            simpa using showsLast hops (by omega)⟩
      rw [List.append_assoc _ [Range.continuation _], List.singleton_append] at rest
      rw [Nat.add_sub_cancel, List.length_cons, List.range'_succ]
      refine .cons ?_ rest
      have here : checkedAt ((earlier ++ [last]) ++
          Range.continuation { target := earlier.length } :: states) (earlier.length + 1) =
            .ok (.continuation { target := earlier.length }) := by
        have positioned := checkedAt_append_length (earlier ++ [last]) states
          (Range.continuation { target := earlier.length })
        rwa [List.length_append, List.length_singleton] at positioned
      unfold UriGenerator.currentAt
      rw [here, Except.ok_bind]
      exact showsLast _ (by simp)

end Form

namespace UriGenerator

theorem currentLoop_eq {literals : List Text} {ranges : List Range} (count position : ℕ)
    (values : List Text) (result : Text) (inside : literals.length = position + count + 1)
    (shown : List.Forall₂ (fun i value => currentAt ranges i = .ok value)
      (List.range' position count) values) :
    (do
      let result ← (List.range' position count).foldlM (fun (result : Text) i => do
        let literal ← checkedAt literals i
        let value ← currentAt ranges i
        return result ++ literal ++ value) result
      let last ← checkedAt literals (literals.length - 1)
      return result ++ last) = .ok (result ++ interleave (literals.drop position) values) := by
  induction count generalizing position values result with
  | zero =>
      cases shown
      have last : literals.drop position = [literals[position]] := by
        rw [List.drop_eq_getElem_cons (by omega), List.drop_of_length_le (by omega)]
      rw [last]
      simp [checkedAt, inside, interleave, pure, Except.pure]
  | succ count ih =>
      rw [List.range'_succ] at shown ⊢
      cases shown with
      | @cons _ value _ values head rest =>
          have literal : literals.drop position =
              literals[position] :: literals.drop (position + 1) :=
            List.drop_eq_getElem_cons (by omega)
          have literalAt : checkedAt literals position = .ok literals[position] := by
            rw [checkedAt_eq_ok_iff, List.getElem?_eq_getElem]
          have behind := ih (position + 1) values (result ++ literals[position] ++ value)
            (by omega) rest
          rw [literal, interleave, List.foldlM_cons, literalAt, head]
          simpa using behind

theorem current_eq {literals : List Text} {ranges : List Range} {values : List Text}
    (lengths : literals.length = ranges.length + 1)
    (shown : List.Forall₂ (fun i value => currentAt ranges i = .ok value)
      (List.range ranges.length) values) :
    current { literalTokens := literals, ranges, isComplete := false } =
      .ok (interleave literals values) := by
  unfold current
  rw [List.range_eq_range'] at shown ⊢
  simpa using currentLoop_eq ranges.length 0 values [] (by omega) shown

theorem emits_forms {lexicalCast : Text → Option SizeT} {leadZero telescoping : Bool}
    {literals bodies : List Text} {forms : List Form}
    (read : List.Forall₂ (Form.Reads lexicalCast) bodies forms)
    (first : forms.head? ≠ some .continuation) (lengths : literals.length = forms.length + 1) :
    Generator.Emits
      ({ literalTokens := literals, ranges := Form.ranges leadZero telescoping 0 forms,
         isComplete := false } : UriGenerator)
      (uris leadZero telescoping literals forms) := by
  rcases Form.sweep_ranges leadZero telescoping read 0 with ⟨visited, sweeps, shows⟩
  apply emits_of_sweep (Sweep.advance sweeps)
  unfold uris
  rw [List.forall₂_map_right_iff]
  refine shows.imp fun states chosen shown => ?_
  have values := @Form.Shows.currentAt _ _ _ _ shown [] rfl [] fun starts => absurd starts first
  rw [List.nil_append, ← List.range_eq_range'] at values
  refine current_eq ?_ values
  rw [lengths, shown.length_eq]

/-- An accepted input splits into readable forms, and its generator emits their URIs. -/
theorem exists_forms_of_new {lexicalCast : Text → Option SizeT} {leadZero telescoping : Bool}
    {input : Text} {generator : UriGenerator}
    (accepted : new lexicalCast leadZero telescoping input = .ok generator) :
    ∃ pieces tail forms, Splits input pieces tail ∧
      List.Forall₂ (Form.Reads lexicalCast) (pieces.map Prod.snd) forms ∧
      (pieces.map Prod.fst ++ [tail]).length = forms.length + 1 ∧
      generator = { literalTokens := pieces.map Prod.fst ++ [tail]
                    ranges := Form.ranges leadZero telescoping 0 forms, isComplete := false } ∧
      Generator.Emits generator
        (uris leadZero telescoping (pieces.map Prod.fst ++ [tail]) forms) := by
  rcases new_eq_ok_iff.mp accepted with ⟨pieces, tail, forms, split, read, first, rfl⟩
  have bodies : List.Forall₂ (Form.Reads lexicalCast) (pieces.map Prod.snd) forms := by
    rwa [List.forall₂_map_left_iff]
  have lengths : (pieces.map Prod.fst ++ [tail]).length = forms.length + 1 := by
    simp [read.length_eq]
  exact ⟨pieces, tail, forms, split, bodies, lengths, rfl, emits_forms bodies first lengths⟩

/--
Successive calls of `next` on a fresh generator return the URIs of the accepted
pattern, one for each choice of values with the rightmost range fastest, and
then nothing.
-/
theorem next_enumerates_uris {lexicalCast : Text → Option SizeT} {leadZero telescoping : Bool}
    {input : Text} {generator : UriGenerator}
    (accepted : new lexicalCast leadZero telescoping input = .ok generator) :
    ∃ pieces tail forms, Splits input pieces tail ∧
      List.Forall₂ (fun piece form => Form.Reads lexicalCast piece.2 form) pieces forms ∧
      Generator.Emits generator
        (uris leadZero telescoping (pieces.map Prod.fst ++ [tail]) forms) := by
  rcases exists_forms_of_new accepted with ⟨pieces, tail, forms, split, bodies, -, -, emits⟩
  exact ⟨pieces, tail, forms, split, List.forall₂_map_left_iff.mp bodies, emits⟩

/-- A range, its continuation and an implicit range, with a literal before, between and behind. -/
theorem next_enumerates_uris_of_example :
    ∃ pieces tail forms, Splits "/\x7b9:10\x7d-\x7b\x7dx\x7bo\x7d".toList pieces tail ∧
      List.Forall₂ (fun piece form => Form.Reads lexicalCastSize piece.2 form) pieces forms ∧
      Generator.Emits
        ({ literalTokens := ["/".toList, "-".toList, "x".toList, []]
           ranges := [.explicit { start := 9, stop := 10, current := 9 },
             .continuation { target := 0 },
             .implicit { domains := ["01234567".toList], digits := [0], leadingZeros := false }]
           isComplete := false } : UriGenerator)
        (uris false false (pieces.map Prod.fst ++ [tail]) forms) :=
  next_enumerates_uris (by decide)

end UriGenerator

end Abrade
