import Mathlib.Data.List.Basic

/-!
# Searching a sequence

Positions of the first or last element of a list that satisfies a test, and of
the first occurrence of a given infix, counted from the left.  No position is
`none`.  The lemmas relate a position to the split of the list around it.
-/

namespace Search

universe u

variable {α : Type u}

/-- The first position, not before `start`, whose element satisfies the test. -/
def findFrom (test : α → Bool) (start : ℕ) (text : List α) : Option ℕ :=
  ((text.drop start).findIdx? test).map (· + start)

/-- The last position whose element satisfies the test. -/
def findLast (test : α → Bool) (text : List α) : Option ℕ :=
  (text.reverse.findIdx? test).map fun fromEnd => text.length - 1 - fromEnd

/-- The first position at which `needle` occurs. -/
def findInfix [BEq α] (needle : List α) : List α → Option ℕ
  | [] => if needle.isEmpty then some 0 else none
  | first :: rest =>
      if needle.isPrefixOf (first :: rest) then some 0
      else (findInfix needle rest).map (· + 1)

theorem forall_beq_eq_false_iff [BEq α] [LawfulBEq α] {element : α} {text : List α} :
    (∀ other ∈ text, (other == element) = false) ↔ element ∉ text := by
  simp only [beq_eq_false_iff_ne]
  exact ⟨fun absent elementMem => absent element elementMem rfl,
    fun absent other otherMem same => absent (same ▸ otherMem)⟩

section FindFrom

variable {test : α → Bool}

theorem findFrom_eq_none {start : ℕ} {text before rest : List α} (split : text = before ++ rest)
    (position : start = before.length) (absent : ∀ element ∈ rest, test element = false) :
    findFrom test start text = none := by
  subst split position
  simpa [findFrom] using absent

theorem findFrom_eq_some {start : ℕ} {text before skipped after : List α} {found : α}
    (split : text = before ++ (skipped ++ found :: after)) (position : start = before.length)
    (absent : ∀ element ∈ skipped, test element = false) (present : test found = true) :
    findFrom test start text = some (start + skipped.length) := by
  subst split position
  have index : (skipped ++ found :: after).findIdx? test = some skipped.length := by
    rw [List.findIdx?_append, List.findIdx?_eq_none_iff.mpr absent]
    simp [List.findIdx?_cons, present]
  simp [findFrom, index, Nat.add_comm]

theorem findFrom_zero_eq_some {text before after : List α} {found : α}
    (split : text = before ++ found :: after) (present : test found = true)
    (absent : ∀ element ∈ before, test element = false) :
    findFrom test 0 text = some before.length := by
  have position := @findFrom_eq_some _ _ 0 _ [] before after found split rfl absent present
  rwa [Nat.zero_add] at position

theorem exists_split_of_findFrom {text : List α} {position : ℕ}
    (found : findFrom test 0 text = some position) :
    ∃ before element after, text = before ++ element :: after ∧ position = before.length ∧
      test element = true ∧ ∀ other ∈ before, test other = false := by
  simp only [findFrom, List.drop_zero, Nat.add_zero, Option.map_id'] at found
  rw [List.findIdx?_eq_some_iff_getElem] at found
  rcases found with ⟨inside, holds, fails⟩
  refine ⟨text.take position, text[position], text.drop (position + 1), ?_, ?_, holds, ?_⟩
  · rw [← List.drop_eq_getElem_cons inside, List.take_append_drop]
  · rw [List.length_take, Nat.min_eq_left (Nat.le_of_lt inside)]
  · intro other otherMem
    rcases List.getElem_of_mem otherMem with ⟨index, indexInside, rfl⟩
    rw [List.length_take, Nat.min_eq_left (Nat.le_of_lt inside)] at indexInside
    rw [List.getElem_take]
    simpa using fails index indexInside

theorem forall_of_findFrom {text : List α} (absent : findFrom test 0 text = none) :
    ∀ element ∈ text, test element = false := by
  simpa [findFrom] using absent

theorem exists_split_of_findLast {text : List α} {position : ℕ}
    (found : findLast test text = some position) :
    ∃ before element after, text = before ++ element :: after ∧ position = before.length ∧
      test element = true ∧ ∀ other ∈ after, test other = false := by
  rcases Option.map_eq_some_iff.mp found with ⟨fromEnd, foundEnd, rfl⟩
  have foundFrom : findFrom test 0 text.reverse = some fromEnd := by
    simp [findFrom, foundEnd]
  rcases exists_split_of_findFrom foundFrom with
    ⟨behind, element, ahead, split, rfl, holds, fails⟩
  have forward : text = ahead.reverse ++ element :: behind.reverse := by
    rw [← List.reverse_reverse text, split]
    simp
  refine ⟨ahead.reverse, element, behind.reverse, forward, ?_, holds, ?_⟩
  · rw [forward]
    simp
  · intro other otherMem
    exact fails other (List.mem_reverse.mp otherMem)

theorem findLast_eq_some {text before after : List α} {found : α}
    (split : text = before ++ found :: after) (present : test found = true)
    (absent : ∀ element ∈ after, test element = false) :
    findLast test text = some before.length := by
  subst split
  have index : (before ++ found :: after).reverse.findIdx? test = some after.length := by
    rw [List.reverse_append, List.reverse_cons, List.append_assoc, List.findIdx?_append,
      List.findIdx?_eq_none_iff.mpr (by simpa using absent)]
    simp [List.findIdx?_cons, present]
  rw [findLast, index, Option.map_some, List.length_append, List.length_cons]
  congr 1
  omega

theorem forall_of_findLast {text : List α} (absent : findLast test text = none) :
    ∀ element ∈ text, test element = false := by
  simpa [findLast] using absent

theorem split_unique {element : α} {before after before' after' : List α}
    (first : element ∉ before) (first' : element ∉ before')
    (same : before ++ element :: after = before' ++ element :: after') :
    before = before' ∧ after = after' := by
  induction before generalizing before' with
  | nil =>
      cases before' with
      | nil => exact ⟨rfl, (List.cons.inj same).2⟩
      | cons head before' =>
          have headSame := (List.cons.inj same).1
          simp [headSame] at first'
  | cons head before ih =>
      cases before' with
      | nil =>
          have headSame := (List.cons.inj same).1
          simp [← headSame] at first
      | cons head' before' =>
          rcases List.cons.inj same with ⟨rfl, tailSame⟩
          simp only [List.mem_cons, not_or] at first first'
          rcases ih first.2 first'.2 tailSame with ⟨rfl, rfl⟩
          exact ⟨rfl, rfl⟩

end FindFrom

section FindInfix

variable [BEq α] [LawfulBEq α] {needle : List α}

theorem exists_split_of_findInfix {text : List α} {position : ℕ}
    (found : findInfix needle text = some position) :
    ∃ before after, text = before ++ (needle ++ after) ∧ position = before.length := by
  induction text generalizing position with
  | nil =>
      simp only [findInfix, List.isEmpty_iff] at found
      split at found
      · next empty =>
          cases found
          exact ⟨[], [], by simp [empty], rfl⟩
      · cases found
  | cons first rest ih =>
      simp only [findInfix] at found
      split at found
      · next starts =>
          cases found
          rcases List.isPrefixOf_iff_prefix.mp starts with ⟨after, split⟩
          exact ⟨[], after, split.symm, rfl⟩
      · rcases Option.map_eq_some_iff.mp found with ⟨behind, foundBehind, rfl⟩
        rcases ih foundBehind with ⟨before, after, rfl, rfl⟩
        exact ⟨first :: before, after, rfl, rfl⟩

theorem findInfix_eq_none_iff {text : List α} :
    findInfix needle text = none ↔ ¬ needle <:+: text := by
  induction text with
  | nil => simp [findInfix]
  | cons first rest ih =>
      rw [List.infix_cons_iff, not_or, ← ih, ← List.isPrefixOf_iff_prefix]
      by_cases starts : needle.isPrefixOf (first :: rest) = true
      · simp [findInfix, starts]
      · simp [findInfix, starts]

end FindInfix

end Search
