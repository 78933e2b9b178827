import Abrade.Basic
import Abrade.Library.Fallible

/-!
# Generators

The interface through which the scraper and the `--test` loop read candidates,
and the sequence of candidates a generator emits.  `StdinGenerator` is its
simpler implementation; `UriGenerator` has modules of its own.
-/

namespace Abrade

/-- `Generator::next`: the next URI target, or nothing after the input is exhausted. -/
class Generator (G : Type) where
  next : G → Except Exception (Option Text × G)

namespace Generator

variable {G : Type} [Generator G]

/-- The result of call number `n`, counted from zero. -/
def nth : G → ℕ → Except Exception (Option Text)
  | generator, 0 => (next generator).map Prod.fst
  | generator, n + 1 => do
      let (_, generator) ← next generator
      nth generator n

def afterCalls : ℕ → G → Except Exception G
  | 0, generator => .ok generator
  | calls + 1, generator => do
      let (_, generator) ← next generator
      afterCalls calls generator

/-- The calls return exactly these targets, in order, and nothing ever after. -/
def Emits (generator : G) (uris : List Text) : Prop :=
  ∀ n, nth generator n = .ok uris[n]?

theorem emits_cons {generator rest : G} {uri : Text} {uris : List Text}
    (first : next generator = .ok (some uri, rest)) (emits : Emits rest uris) :
    Emits generator (uri :: uris) := by
  intro n
  cases n with
  | zero => simp [nth, first, Except.map]
  | succ n => simpa [nth, first] using emits n

theorem emits_nil {generator : G} (stays : next generator = .ok (none, generator)) :
    Emits generator [] := by
  intro n
  induction n with
  | zero => simp [nth, stays, Except.map]
  | succ n ih => simpa [nth, stays] using ih

theorem emits_of_none {generator later : G} (called : next generator = .ok (none, later))
    (emits : Emits later []) : Emits generator [] := by
  intro n
  cases n with
  | zero => simp [nth, called, Except.map]
  | succ n => simpa [nth, called] using emits n

/-- The first call returns the first target, and the later ones return the others. -/
theorem Emits.exists_next {generator : G} {uris : List Text} (emits : Emits generator uris) :
    ∃ rest, next generator = .ok (uris.head?, rest) ∧ Emits rest uris.tail := by
  have first := emits 0
  rcases called : next generator with _ | ⟨result, rest⟩
  · simp [nth, called, Except.map] at first
  · refine ⟨rest, ?_, ?_⟩
    · rw [List.head?_eq_getElem?]
      simpa [nth, called, Except.map] using first
    · intro n
      simpa [nth, called] using emits (n + 1)

theorem Emits.next_cons {generator : G} {uri : Text} {uris : List Text}
    (emits : Emits generator (uri :: uris)) :
    ∃ rest, next generator = .ok (some uri, rest) ∧ Emits rest uris :=
  emits.exists_next

theorem Emits.next_nil {generator : G} (emits : Emits generator []) :
    ∃ rest, next generator = .ok (none, rest) ∧ Emits rest [] :=
  emits.exists_next

theorem Emits.of_next_some {generator later : G} {uri : Text} {uris : List Text}
    (emits : Emits generator uris) (called : next generator = .ok (some uri, later)) :
    ∃ rest, uris = uri :: rest ∧ Emits later rest := by
  cases uris with
  | nil =>
      rcases emits.next_nil with ⟨rest, nothing, -⟩
      simp [called] at nothing
  | cons first uris =>
      rcases emits.next_cons with ⟨rest, something, emitsRest⟩
      rw [called, Except.ok.injEq, Prod.mk.injEq, Option.some.injEq] at something
      rcases something with ⟨rfl, rfl⟩
      exact ⟨uris, rfl, emitsRest⟩

/-- A call that returns nothing shows that everything has been emitted. -/
theorem Emits.of_next_none {generator later : G} {uris : List Text}
    (emits : Emits generator uris) (called : next generator = .ok (none, later)) :
    uris = [] ∧ Emits later [] := by
  cases uris with
  | nil =>
      rcases emits.next_nil with ⟨rest, nothing, emitsRest⟩
      rw [called, Except.ok.injEq, Prod.mk.injEq] at nothing
      rcases nothing with ⟨-, rfl⟩
      exact ⟨rfl, emitsRest⟩
  | cons first uris =>
      rcases emits.next_cons with ⟨rest, something, -⟩
      simp [called] at something

theorem Emits.next_ne_error {generator : G} {uris : List Text} (emits : Emits generator uris)
    {failure : Exception} : next generator ≠ .error failure := by
  intro failed
  have first := emits 0
  simp [nth, failed, Except.map] at first

/-- What a call needs and gives back holds after any number of calls, none of which fails. -/
theorem exists_afterCalls {Holds : G → Prop}
    (keeps : ∀ {generator}, Holds generator →
      ∃ result later, next generator = .ok (result, later) ∧ Holds later)
    {generator : G} (holds : Holds generator) (calls : ℕ) :
    ∃ later, afterCalls calls generator = .ok later ∧ Holds later := by
  induction calls generalizing generator with
  | zero => exact ⟨generator, rfl, holds⟩
  | succ calls ih =>
      rcases keeps holds with ⟨result, between, called, holdsBetween⟩
      rcases ih holdsBetween with ⟨later, rest, holdsLater⟩
      refine ⟨later, ?_, holdsLater⟩
      rw [afterCalls, called, Except.ok_bind]
      exact rest

theorem Emits.exists_afterCalls {generator : G} {uris : List Text} (emits : Emits generator uris)
    (calls : ℕ) : ∃ later, afterCalls calls generator = .ok later := by
  have keeps {generator : G} (emitting : ∃ uris, Emits generator uris) :
      ∃ result later, next generator = .ok (result, later) ∧ ∃ uris, Emits later uris := by
    rcases emitting with ⟨uris, emits⟩
    rcases emits.exists_next with ⟨rest, called, emitsRest⟩
    exact ⟨_, rest, called, _, emitsRest⟩
  rcases Generator.exists_afterCalls keeps ⟨uris, emits⟩ calls with ⟨later, called, -⟩
  exact ⟨later, called⟩

theorem afterCalls_preserves {β : Type} {view : G → β}
    (kept : ∀ {generator result later}, next generator = .ok (result, later) →
      view later = view generator) {generator later : G} {calls : ℕ}
    (called : afterCalls calls generator = .ok later) : view later = view generator := by
  induction calls generalizing generator with
  | zero =>
      cases called
      rfl
  | succ calls ih =>
      rcases Except.bind_eq_ok_iff.mp called with ⟨⟨result, between⟩, first, rest⟩
      rw [ih rest, kept first]

theorem Emits.unique {generator : G} {uris uris' : List Text} (emits : Emits generator uris)
    (emits' : Emits generator uris') : uris = uris' := by
  apply List.ext_getElem?
  intro n
  exact Except.ok.inj ((emits n).symm.trans (emits' n))

/-- A generator around another one emits what that one does. -/
theorem Emits.wrap {H : Type} [Generator H] {f : G → H}
    (wraps : ∀ generator, next (f generator) =
      next generator >>= fun (result, later) => .ok (result, f later))
    {generator : G} {uris : List Text} (emits : Emits generator uris) :
    Emits (f generator) uris := by
  have same (n : ℕ) : nth (f generator) n = nth generator n := by
    induction n generalizing generator uris with
    | zero => cases called : next generator <;> simp [nth, wraps, called, Except.map]
    | succ n ih =>
        rcases emits.exists_next with ⟨rest, called, emitsRest⟩
        simp [nth, wraps, called, ih emitsRest]
  intro n
  rw [same, emits n]

end Generator

/-- Reads one candidate per line of standard input. -/
structure StdinGenerator where
  stdin : Text
  isComplete : Bool := false

namespace StdinGenerator

/-- `std::getline`: the text before the next newline, which is dropped; none at the end. -/
def getline (stdin : Text) : Option (Text × Text) :=
  if stdin = [] then none
  else some (stdin.takeWhile (· != '\n'), (stdin.dropWhile (· != '\n')).drop 1)

def next (generator : StdinGenerator) : Option Text × StdinGenerator :=
  if generator.isComplete then (none, generator)
  else
    match getline generator.stdin with
    | some (nextLine, stdin) => (some nextLine, { generator with stdin })
    | none => (none, { generator with isComplete := true })

instance : Generator StdinGenerator where
  next generator := .ok generator.next

theorem length_of_getline {stdin line rest : Text} (read : getline stdin = some (line, rest)) :
    rest.length < stdin.length := by
  unfold getline at read
  split at read
  · cases read
  · next nonempty =>
      cases read
      have shorter := (@List.dropWhile_suffix _ stdin (· != '\n')).length_le
      have positive := List.length_pos_iff.mpr nonempty
      rw [List.length_drop]
      omega

theorem emits_of_isComplete (stdin : Text) :
    Generator.Emits ({ stdin, isComplete := true } : StdinGenerator) [] :=
  Generator.emits_nil rfl

/-- Standard input is a finite sequence of candidates. -/
theorem exists_emits (generator : StdinGenerator) : ∃ uris, Generator.Emits generator uris := by
  rcases generator with ⟨stdin, isComplete⟩
  cases isComplete with
  | true => exact ⟨[], emits_of_isComplete stdin⟩
  | false =>
      induction lengthEq : stdin.length using Nat.strongRecOn generalizing stdin with
      | ind length ih =>
          rcases read : getline stdin with _ | ⟨line, rest⟩
          · have called : Generator.next ({ stdin } : StdinGenerator) =
                .ok (none, { stdin, isComplete := true }) := by
              simp [Generator.next, next, read]
            exact ⟨[], Generator.emits_of_none called (emits_of_isComplete stdin)⟩
          · rcases ih rest.length (lengthEq ▸ length_of_getline read) rest rfl with ⟨uris, emits⟩
            refine ⟨line :: uris, Generator.emits_cons ?_ emits⟩
            simp [Generator.next, next, read]

end StdinGenerator

end Abrade
