import Mathlib.Data.List.Basic
import Mathlib.Order.Lattice.Nat

/-!
# Programs that await operations

A program waits for one operation after the other and goes on with the result of
each.  Which results an operation allows is up to whoever answers it.  What a
program has performed when it reaches a point is the list of its operations so
far with their results.
-/

namespace Awaiting

variable {Op : Type} {Result : Op → Type} {ε α β ι : Type}

/-- A program that ends with a value or a failure, or waits under the name `action`. -/
inductive Program (Result : Op → Type) (ε α : Type) where
  | done (value : α)
  | fail (failure : ε)
  | await (action : String) (operation : Op) (resume : Result operation → Program Result ε α)

namespace Program

def bind : Program Result ε α → (α → Program Result ε β) → Program Result ε β
  | done value, next => next value
  | fail failure, _ => fail failure
  | await action operation resume, next =>
      await action operation fun result => (resume result).bind next

instance : Monad (Program Result ε) where
  pure := done
  bind := bind

/-- Waits for one operation. -/
def wait (action : String) (operation : Op) : Program Result ε (Result operation) :=
  await action operation done

/-- Does not wait at all. -/
def ofExcept : Except ε α → Program Result ε α
  | .error failure => fail failure
  | .ok value => done value

@[simp]
theorem done_bind {next : α → Program Result ε β} (value : α) :
    (done value : Program Result ε α) >>= next = next value :=
  rfl

/-- The program gets from one point to another by performing operations with these results. -/
inductive Reaches (Allows : ∀ operation : Op, Result operation → Prop) :
    Program Result ε α → List (Sigma Result) → Program Result ε α → Prop where
  | refl {program : Program Result ε α} : Reaches Allows program [] program
  | step {action : String} {operation : Op} {resume : Result operation → Program Result ε α}
      {result : Result operation} {performed : List (Sigma Result)}
      {rest : Program Result ε α} (allowed : Allows operation result)
      (reaches : Reaches Allows (resume result) performed rest) :
      Reaches Allows (await action operation resume) (⟨operation, result⟩ :: performed) rest

namespace Reaches

variable {Allows : ∀ operation : Op, Result operation → Prop} {program rest : Program Result ε α}
  {performed : List (Sigma Result)}

/-- One more operation is performed. -/
theorem snoc {action : String} {operation : Op} {resume : Result operation → Program Result ε α}
    {result : Result operation}
    (reaches : Reaches Allows program performed (await action operation resume))
    (allowed : Allows operation result) :
    Reaches Allows program (performed ++ [⟨operation, result⟩]) (resume result) := by
  generalize waitsEq : await action operation resume = waits at reaches
  induction reaches with
  | refl =>
      subst waitsEq
      exact .step allowed .refl
  | step allowedFirst _ ih => exact .step allowedFirst (ih waitsEq)

theorem of_done {value : α} (reaches : Reaches Allows (done value) performed rest) :
    performed = [] ∧ rest = done value := by
  cases reaches
  exact ⟨rfl, rfl⟩

theorem of_fail {failure : ε} (reaches : Reaches Allows (fail failure) performed rest) :
    performed = [] ∧ rest = fail failure := by
  cases reaches
  exact ⟨rfl, rfl⟩

/-- A program that waits is still there, or has performed the operation. -/
theorem of_await {action : String} {operation : Op}
    {resume : Result operation → Program Result ε α}
    (reaches : Reaches Allows (await action operation resume) performed rest) :
    (performed = [] ∧ rest = await action operation resume) ∨
      ∃ result later, Allows operation result ∧ performed = ⟨operation, result⟩ :: later ∧
        Reaches Allows (resume result) later rest := by
  cases reaches with
  | refl => exact .inl ⟨rfl, rfl⟩
  | step allowed reaches => exact .inr ⟨_, _, allowed, rfl, reaches⟩

/-- In a sequence, the first program is on its way, or it is done and the second one is. -/
theorem of_bind {first : Program Result ε β} {next : β → Program Result ε α}
    (reaches : Reaches Allows (first >>= next) performed rest) :
    (∃ middle, Reaches Allows first performed middle ∧ rest = middle >>= next) ∨
      ∃ before value later, performed = before ++ later ∧
        Reaches Allows first before (done value) ∧ Reaches Allows (next value) later rest := by
  induction first generalizing performed with
  | done value => exact .inr ⟨[], value, performed, rfl, .refl, reaches⟩
  | fail failure => exact .inl ⟨fail failure, by rw [(of_fail reaches).1]; exact .refl,
      (of_fail reaches).2⟩
  | await action operation resume ih =>
      rcases of_await reaches with ⟨rfl, rfl⟩ | ⟨result, later, allowed, rfl, onward⟩
      · exact .inl ⟨_, .refl, rfl⟩
      · rcases ih result onward with ⟨middle, reached, rfl⟩ |
          ⟨before, value, after, rfl, reached, behind⟩
        · exact .inl ⟨middle, .step allowed reached, rfl⟩
        · exact .inr ⟨_ :: before, value, after, rfl, .step allowed reached, behind⟩

/-- The second program of a sequence goes on where the first is done. -/
theorem bind {first : Program Result ε β} {next : β → Program Result ε α} {value : β}
    {before later : List (Sigma Result)} (done : Reaches Allows first before (done value))
    (reaches : Reaches Allows (next value) later rest) :
    Reaches Allows (first >>= next) (before ++ later) rest := by
  generalize doneEq : Program.done value = final at done
  induction done with
  | refl =>
      subst doneEq
      exact reaches
  | step allowed _ ih => exact .step allowed (ih doneEq)

end Reaches

/-- The program performs these operations and returns a value. -/
def Returns (Allows : ∀ operation : Op, Result operation → Prop) (program : Program Result ε α)
    (performed : List (Sigma Result)) (value : α) : Prop :=
  Reaches Allows program performed (done value)

/-- The program performs these operations and then fails by itself. -/
def Fails (Allows : ∀ operation : Op, Result operation → Prop) (program : Program Result ε α)
    (performed : List (Sigma Result)) (failure : ε) : Prop :=
  Reaches Allows program performed (fail failure)

section Ends

variable {Allows : ∀ operation : Op, Result operation → Prop} {performed : List (Sigma Result)}
  {first : Program Result ε β} {next : β → Program Result ε α} {action : String} {operation : Op}

theorem returns_await_iff {resume : Result operation → Program Result ε α} {value : α} :
    Returns Allows (await action operation resume) performed value ↔
      ∃ result later, performed = ⟨operation, result⟩ :: later ∧ Allows operation result ∧
        Returns Allows (resume result) later value := by
  constructor
  · intro returns
    rcases Reaches.of_await returns with ⟨-, absurd⟩ | ⟨result, later, allowed, split, ends⟩
    · cases absurd
    · exact ⟨result, later, split, allowed, ends⟩
  · rintro ⟨result, later, rfl, allowed, returns⟩
    exact .step allowed returns

theorem returns_done_iff {value found : α} :
    Returns Allows (done found : Program Result ε α) performed value ↔
      performed = [] ∧ found = value := by
  constructor
  · intro returns
    rcases Reaches.of_done returns with ⟨rfl, same⟩
    cases same
    exact ⟨rfl, rfl⟩
  · rintro ⟨rfl, rfl⟩
    exact .refl

theorem returns_ofExcept_iff {outcome : Except ε α} {value : α} :
    Returns Allows (ofExcept outcome : Program Result ε α) performed value ↔
      performed = [] ∧ outcome = .ok value := by
  cases outcome with
  | error failure =>
      constructor
      · intro returns
        cases (Reaches.of_fail returns).2
      · rintro ⟨-, absurd⟩
        cases absurd
  | ok found =>
      constructor
      · intro returns
        rcases Reaches.of_done returns with ⟨rfl, same⟩
        cases same
        exact ⟨rfl, rfl⟩
      · rintro ⟨rfl, same⟩
        cases same
        exact .refl

theorem returns_ofExcept_bind_iff {outcome : Except ε β} {value : α} :
    Returns Allows (ofExcept outcome >>= next) performed value ↔
      ∃ found, outcome = .ok found ∧ Returns Allows (next found) performed value := by
  cases outcome with
  | error failure =>
      constructor
      · intro returns
        cases (Reaches.of_fail returns).2
      · rintro ⟨found, absurd, -⟩
        cases absurd
  | ok found =>
      constructor
      · intro returns
        exact ⟨found, rfl, returns⟩
      · rintro ⟨found, same, returns⟩
        cases same
        exact returns

theorem returns_bind_iff {value : α} :
    Returns Allows (first >>= next) performed value ↔
      ∃ before found later, performed = before ++ later ∧ Returns Allows first before found ∧
        Returns Allows (next found) later value := by
  constructor
  · intro returns
    rcases Reaches.of_bind returns with ⟨middle, reached, final⟩ | split
    · cases middle with
      | done found =>
          rw [done_bind] at final
          refine ⟨performed, found, [], by simp, reached, ?_⟩
          rw [Returns, final]
          exact .refl
      | fail failure => cases final
      | await => cases final
    · exact split
  · rintro ⟨before, found, later, rfl, done, returns⟩
    exact Reaches.bind done returns

theorem fails_await_iff {resume : Result operation → Program Result ε α} {failure : ε} :
    Fails Allows (await action operation resume) performed failure ↔
      ∃ result later, performed = ⟨operation, result⟩ :: later ∧ Allows operation result ∧
        Fails Allows (resume result) later failure := by
  constructor
  · intro fails
    rcases Reaches.of_await fails with ⟨-, absurd⟩ | ⟨result, later, allowed, split, ends⟩
    · cases absurd
    · exact ⟨result, later, split, allowed, ends⟩
  · rintro ⟨result, later, rfl, allowed, fails⟩
    exact .step allowed fails

theorem fails_ofExcept_iff {outcome : Except ε α} {failure : ε} :
    Fails Allows (ofExcept outcome : Program Result ε α) performed failure ↔
      performed = [] ∧ outcome = .error failure := by
  cases outcome with
  | error found =>
      constructor
      · intro fails
        rcases Reaches.of_fail fails with ⟨rfl, same⟩
        cases same
        exact ⟨rfl, rfl⟩
      · rintro ⟨rfl, same⟩
        cases same
        exact .refl
  | ok value =>
      constructor
      · intro fails
        cases (Reaches.of_done fails).2
      · rintro ⟨-, absurd⟩
        cases absurd

theorem fails_ofExcept_bind {outcome : Except ε β} {failure : ε}
    (fails : Fails Allows (ofExcept outcome >>= next) performed failure) :
    outcome = .error failure ∨
      ∃ found, outcome = .ok found ∧ Fails Allows (next found) performed failure := by
  cases outcome with
  | error thrown =>
      cases (Reaches.of_fail fails).2
      exact .inl rfl
  | ok found => exact .inr ⟨found, rfl, fails⟩

/-- A sequence fails in the first program, or in the second one when the first is done. -/
theorem fails_bind {failure : ε} (fails : Fails Allows (first >>= next) performed failure) :
    Fails Allows first performed failure ∨
      ∃ before found later, performed = before ++ later ∧ Returns Allows first before found ∧
        Fails Allows (next found) later failure := by
  rcases Reaches.of_bind fails with ⟨middle, reached, final⟩ | split
  · cases middle with
    | done found =>
        rw [done_bind] at final
        refine .inr ⟨performed, found, [], by simp, reached, ?_⟩
        rw [Fails, final]
        exact .refl
    | fail found =>
        cases final
        exact .inl reached
    | await => cases final
  · exact .inr split

end Ends

/-- The operations a program waits for carry these labels, in this order, unless it fails. -/
inductive Script (Allows : ∀ operation : Op, Result operation → Prop)
    (label : String → Op → ι) : Program Result ε α → List ι → Prop where
  | done (value : α) : Script Allows label (done value) []
  | fail (failure : ε) (labels : List ι) : Script Allows label (fail failure) labels
  | await {action : String} {operation : Op} {resume : Result operation → Program Result ε α}
      {labels : List ι}
      (rest : ∀ result, Allows operation result → Script Allows label (resume result) labels) :
      Script Allows label (await action operation resume) (label action operation :: labels)

namespace Script

variable {Allows : ∀ operation : Op, Result operation → Prop} {label : String → Op → ι}
  {program : Program Result ε α} {labels behind : List ι}

theorem bind {next : α → Program Result ε β} (script : Script Allows label program labels)
    (rest : ∀ value, Script Allows label (next value) behind) :
    Script Allows label (program >>= next) (labels ++ behind) := by
  induction script with
  | done value => exact rest value
  | fail failure labels => exact .fail failure _
  | await _ ih => exact .await ih

theorem wait (action : String) (operation : Op) :
    Script Allows label (Program.wait action operation : Program Result ε (Result operation))
      [label action operation] :=
  .await fun result _ => .done result

theorem ofExcept (outcome : Except ε α) :
    Script Allows label (Program.ofExcept outcome : Program Result ε α) [] := by
  cases outcome with
  | error failure => exact .fail failure []
  | ok value => exact .done value

/-- What is left of the script at a point that has been reached. -/
theorem of_reaches {rest : Program Result ε α} {performed : List (Sigma Result)}
    (script : Script Allows label program labels) (reaches : Reaches Allows program performed rest) :
    ∃ before left, labels = before ++ left ∧ before.length = performed.length ∧
      Script Allows label rest left := by
  induction reaches generalizing labels with
  | refl => exact ⟨[], labels, rfl, rfl, script⟩
  | step allowed _ ih =>
      cases script with
      | await next =>
          rcases ih (next _ allowed) with ⟨before, left, rfl, counted, scriptLeft⟩
          exact ⟨_ :: before, left, rfl, by simp [counted], scriptLeft⟩

/-- The operation that a program waits for carries the label the script says. -/
theorem of_reaches_await {action : String} {operation : Op}
    {resume : Result operation → Program Result ε α} {performed : List (Sigma Result)}
    (script : Script Allows label program labels)
    (reaches : Reaches Allows program performed (.await action operation resume)) :
    labels[performed.length]? = some (label action operation) := by
  rcases script.of_reaches reaches with ⟨before, left, rfl, counted, scriptLeft⟩
  cases scriptLeft
  rw [← counted]
  simp

/-- As many operations as a program still waits for at most, by some script. -/
noncomputable def left (Allows : ∀ operation : Op, Result operation → Prop)
    (label : String → Op → ι) (program : Program Result ε α) : ℕ :=
  sInf {count | ∃ labels, Script Allows label program labels ∧ labels.length = count}

theorem left_le (script : Script Allows label program labels) :
    left Allows label program ≤ labels.length :=
  Nat.sInf_le ⟨labels, script, rfl⟩

/-- An operation that has been performed is no longer left. -/
theorem left_lt {action : String} {operation : Op}
    {resume : Result operation → Program Result ε α}
    (script : Script Allows label (.await action operation resume) labels)
    {result : Result operation} (allowed : Allows operation result) :
    left Allows label (resume result) < left Allows label (.await action operation resume) := by
  rcases Nat.sInf_mem
    (⟨_, labels, script, rfl⟩ : {count | ∃ labels, Script Allows label
      (.await action operation resume) labels ∧ labels.length = count}.Nonempty) with
    ⟨fewest, fewestScript, counted⟩
  cases fewestScript with
  | @await _ _ _ later rest =>
      have shorter := left_le (rest result allowed)
      rw [left, left, ← counted, List.length_cons]
      exact Nat.lt_succ_of_le shorter

end Script

end Program

end Awaiting
