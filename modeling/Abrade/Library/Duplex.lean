import Abrade.Library.Awaiting
import Abrade.Library.Termination

/-!
# Two programs that talk

Two programs run over one stream of items in each direction.  Neither sees
what the other one does but for the items it gets, so that whatever the order of
their operations, a session ends in the same state after the same number of
steps.
-/

namespace Transition

universe u v

variable {σ : Type u} {ε : Type v}

/-- Different steps from one state can be undone by one more step each. -/
def Diamond (step : σ → List ε → σ → Prop) : Prop :=
  ∀ {state events next events' next'}, step state events next → step state events' next' →
    next = next' ∨ ∃ joined, step next events' joined ∧ step next' events joined

/-- A state without a step. -/
def Stuck (step : σ → List ε → σ → Prop) (state : σ) : Prop :=
  ∀ events next, ¬ step state events next

section Diamond

variable {step : σ → List ε → σ → Prop} {start next finish : σ} {count total : ℕ}
  {events trace : List ε}

theorem Steps.append {middle : σ} {before later : List ε} {more : ℕ}
    (steps : Steps step start count before middle) (rest : Steps step middle more later finish) :
    Steps step start (count + more) (before ++ later) finish := by
  induction rest with
  | refl => rwa [List.append_nil]
  | step _ moves ih =>
      rw [← List.append_assoc]
      exact .step ih moves

theorem Steps.cons (moves : step start events next)
    (rest : ∃ later, Steps step next count later finish) :
    ∃ later, Steps step start (count + 1) later finish := by
  rcases rest with ⟨later, rest⟩
  rw [Nat.add_comm]
  exact ⟨_, Steps.append (.step .refl moves) rest⟩

/-- A step beside some steps is one of them, or can still be taken behind them. -/
theorem Steps.strip (diamond : Diamond step) (moves : step start events next)
    (steps : Steps step start count trace finish) :
    (∃ fewer later, count = fewer + 1 ∧ Steps step next fewer later finish) ∨
      ∃ later joined, Steps step next count later joined ∧ step finish events joined := by
  induction steps with
  | refl => exact .inr ⟨[], next, .refl, moves⟩
  | step _ last ih =>
      rcases ih with ⟨fewer, later, rfl, rest⟩ | ⟨later, joined, rest, beside⟩
      · exact .inl ⟨fewer + 1, _, rfl, .step rest last⟩
      · rcases diamond beside last with rfl | ⟨bottom, onward, behind⟩
        · exact .inl ⟨_, later, rfl, rest⟩
        · exact .inr ⟨_, bottom, .step rest onward, behind⟩

/-- When some steps end in a stuck state, every run is on the way there. -/
theorem Steps.completes (diamond : Diamond step) (stuck : Stuck step finish)
    (ends : Steps step start total trace finish) {taken : List ε} {state : σ}
    (steps : Steps step start count taken state) :
    ∃ left later, count + left = total ∧ Steps step state left later finish := by
  induction steps with
  | refl => exact ⟨total, trace, by omega, ends⟩
  | step _ moves ih =>
      rcases ih with ⟨left, later, counted, rest⟩
      rcases rest.strip diamond moves with ⟨fewer, after, rfl, onward⟩ | ⟨_, joined, -, more⟩
      · exact ⟨fewer, after, by omega, onward⟩
      · exact absurd more (stuck _ joined)

theorem Steps.eq_of_stuck (stuck : Stuck step start)
    (steps : Steps step start count trace finish) : start = finish := by
  induction steps with
  | refl => rfl
  | step _ moves ih =>
      subst ih
      exact absurd moves (stuck _ _)

/-- All runs that can not be continued end in the same state. -/
theorem Steps.unique (diamond : Diamond step) (stuck : Stuck step finish)
    (ends : Steps step start total trace finish) {taken : List ε} {state : σ}
    (steps : Steps step start count taken state) (stuckToo : Stuck step state) :
    state = finish := by
  rcases ends.completes diamond stuck steps with ⟨left, later, -, rest⟩
  exact rest.eq_of_stuck stuckToo

end Diamond

end Transition

namespace Duplex

open Awaiting (Program)
open Awaiting.Program (Reaches)
open Transition (Diamond Run Stuck)

variable {β : Type} {Op Op' : Type} {Result : Op → Type} {Result' : Op' → Type} {ε ε' α α' : Type}

/--
How one side performs its operations: what has come in decides whether an
operation can be done, what it results in, what it leaves and what it sends.
More to come changes nothing about that.
-/
structure Party (β : Type) (Allows : ∀ operation : Op, Result operation → Prop) where
  perform : (operation : Op) → List β → Option (Result operation × List β × List β)
  perform_append : ∀ {operation incoming result rest outgoing} (more : List β),
    perform operation incoming = some (result, rest, outgoing) →
      perform operation (incoming ++ more) = some (result, rest ++ more, outgoing)
  allowed : ∀ {operation incoming result rest outgoing},
    perform operation incoming = some (result, rest, outgoing) → Allows operation result

/-- Waits for as many items as are asked for. -/
def receive (count : ℕ) (incoming : List β) : Option (List β × List β × List β) :=
  if incoming.length < count then none else some (incoming.take count, incoming.drop count, [])

section Receive

variable {count : ℕ} {incoming result rest outgoing : List β}

theorem receive_eq_some_iff :
    receive count incoming = some (result, rest, outgoing) ↔
      incoming = result ++ rest ∧ result.length = count ∧ outgoing = [] := by
  unfold receive
  constructor
  · intro receives
    split_ifs at receives with short
    cases receives
    refine ⟨(List.take_append_drop _ _).symm, ?_, rfl⟩
    rw [List.length_take]
    omega
  · rintro ⟨rfl, rfl, rfl⟩
    rw [if_neg (by simp), List.take_left', List.drop_left'] <;> rfl

theorem receive_append (more : List β)
    (receives : receive count incoming = some (result, rest, outgoing)) :
    receive count (incoming ++ more) = some (result, rest ++ more, outgoing) := by
  rw [receive_eq_some_iff] at receives ⊢
  rcases receives with ⟨rfl, counted, sends⟩
  exact ⟨List.append_assoc _ _ _, counted, sends⟩

end Receive

/-- Where both programs are and what is under way between them. -/
structure State (β : Type) (Result : Op → Type) (Result' : Op' → Type) (ε ε' α α' : Type) where
  left : Program Result ε α
  right : Program Result' ε' α'
  toRight : List β
  toLeft : List β

/-- An operation of one of the two sides, with its result. -/
abbrev Event (Result : Op → Type) (Result' : Op' → Type) :=
  Sigma Result ⊕ Sigma Result'

section Step

variable {Allows : ∀ operation : Op, Result operation → Prop}
  {Allows' : ∀ operation : Op', Result' operation → Prop}

inductive Step (first : Party β Allows) (second : Party β Allows') :
    State β Result Result' ε ε' α α' → List (Event Result Result') →
      State β Result Result' ε ε' α α' → Prop where
  | left {action : String} {operation : Op} {resume : Result operation → Program Result ε α}
      {right : Program Result' ε' α'} {toRight toLeft rest outgoing : List β}
      {result : Result operation}
      (performs : first.perform operation toLeft = some (result, rest, outgoing)) :
      Step first second { left := .await action operation resume, right, toRight, toLeft }
        [.inl ⟨operation, result⟩]
        { left := resume result, right, toRight := toRight ++ outgoing, toLeft := rest }
  | right {action : String} {operation : Op'}
      {resume : Result' operation → Program Result' ε' α'} {left : Program Result ε α}
      {toRight toLeft rest outgoing : List β} {result : Result' operation}
      (performs : second.perform operation toRight = some (result, rest, outgoing)) :
      Step first second { left, right := .await action operation resume, toRight, toLeft }
        [.inr ⟨operation, result⟩]
        { left, right := resume result, toRight := rest, toLeft := toLeft ++ outgoing }

/-- The operations of one side, in order. -/
def lefts (trace : List (Event Result Result')) : List (Sigma Result) :=
  trace.filterMap Sum.getLeft?

def rights (trace : List (Event Result Result')) : List (Sigma Result') :=
  trace.filterMap Sum.getRight?

theorem lefts_concat_inl (trace : List (Event Result Result')) (performed : Sigma Result) :
    lefts (trace ++ [.inl performed]) = lefts trace ++ [performed] :=
  List.filterMap_append

theorem lefts_concat_inr (trace : List (Event Result Result')) (performed : Sigma Result') :
    lefts (trace ++ [.inr performed]) = lefts trace :=
  List.filterMap_append.trans (List.append_nil _)

theorem rights_concat_inl (trace : List (Event Result Result')) (performed : Sigma Result) :
    rights (trace ++ [.inl performed]) = rights trace :=
  List.filterMap_append.trans (List.append_nil _)

theorem rights_concat_inr (trace : List (Event Result Result')) (performed : Sigma Result') :
    rights (trace ++ [.inr performed]) = rights trace ++ [performed] :=
  List.filterMap_append

variable {first : Party β Allows} {second : Party β Allows'}
  {start state : State β Result Result' ε ε' α α'} {trace : List (Event Result Result')}

/-- The two sides do not get in each other's way. -/
theorem diamond_step :
    Diamond (Step first second : State β Result Result' ε ε' α α' → _ → _ → Prop) := by
  intro state events next events' next' step step'
  cases step with
  | left performs =>
      cases step' with
      | left performs' =>
          rw [performs] at performs'
          cases performs'
          exact .inl rfl
      | right performs' =>
          exact .inr ⟨_, .right (second.perform_append _ performs'),
            .left (first.perform_append _ performs)⟩
  | right performs =>
      cases step' with
      | left performs' =>
          exact .inr ⟨_, .left (first.perform_append _ performs'),
            .right (second.perform_append _ performs)⟩
      | right performs' =>
          rw [performs] at performs'
          cases performs'
          exact .inl rfl

/-- A side that is owed what a side that has failed did not send waits for ever. -/
theorem stuck_of_starved {action : String} {operation : Op}
    {resume : Result operation → Program Result ε α} {failure : ε'} {toRight toLeft : List β}
    (starved : first.perform operation toLeft = none) :
    Stuck (Step first second)
      ({ left := .await action operation resume, right := .fail failure, toRight, toLeft } :
        State β Result Result' ε ε' α α') := by
  intro events next step
  cases step with
  | left performs =>
      rw [starved] at performs
      cases performs

theorem stuck_of_done {value : α} {value' : α'} {toRight toLeft : List β} :
    Stuck (Step first second)
      ({ left := .done value, right := .done value', toRight, toLeft } :
        State β Result Result' ε ε' α α') := by
  intro events next step
  cases step

/-- In a session both programs get where they are with allowed results. -/
theorem reaches_of_run (run : Run (Step first second) start trace state) :
    Reaches Allows start.left (lefts trace) state.left ∧
      Reaches Allows' start.right (rights trace) state.right := by
  induction run with
  | refl => exact ⟨.refl, .refl⟩
  | step _ moves ih =>
      cases moves with
      | left performs =>
          rw [lefts_concat_inl, rights_concat_inl]
          exact ⟨ih.1.snoc (first.allowed performs), ih.2⟩
      | right performs =>
          rw [lefts_concat_inr, rights_concat_inr]
          exact ⟨ih.1, ih.2.snoc (second.allowed performs)⟩

end Step

end Duplex
