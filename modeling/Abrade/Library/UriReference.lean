import Abrade.Library.Decoding
import Mathlib.Data.List.DropRight
import Mathlib.Data.List.TakeWhile

/-!
# URI references

The scheme and the authority of a reference by the generic syntax of RFC 3986,
and the target a relative reference without an authority leads to, dot segments
left as they are.
-/

namespace UriReference

def isSchemeCharacter (element : Char) : Bool :=
  element.isAlphanum || element == '+' || element == '-' || element == '.'

/-- A letter, and letters, digits, plus signs, hyphens and dots behind it. -/
def IsScheme (scheme : List Char) : Prop :=
  (∃ first, scheme.head? = some first ∧ first.isAlpha = true) ∧
    ∀ element ∈ scheme, isSchemeCharacter element = true

/-- The scheme of a reference that begins with one and a colon. -/
def scheme (reference : List Char) : Option (List Char) :=
  let candidate := reference.takeWhile isSchemeCharacter
  if candidate.head?.any Char.isAlpha ∧ (reference.dropWhile isSchemeCharacter).head? = some ':' then
    some candidate
  else none

/-- What stands behind the scheme and its colon. -/
def hierarchicalPart (reference : List Char) : List Char :=
  match scheme reference with
  | none => reference
  | some scheme => reference.drop (scheme.length + 1)

def endsAuthority (element : Char) : Bool :=
  element == '/' || element == '?' || element == '#'

/-- What stands between two slashes and the next slash, question mark or number sign. -/
def authority (reference : List Char) : Option (List Char) :=
  if ['/', '/'] <+: hierarchicalPart reference then
    some (((hierarchicalPart reference).drop 2).takeWhile (!endsAuthority ·))
  else none

/-- The path of a target, without its query. -/
def path (target : List Char) : List Char :=
  target.takeWhile (· != '?')

/-- The path up to its last slash, or the root when it has none. -/
def directory (path : List Char) : List Char :=
  if '/' ∈ path then path.rdropWhile (· != '/') else ['/']

/-- The target of a relative reference without an authority, from the current target. -/
def resolve (reference current : List Char) : List Char :=
  match reference.head? with
  | some '/' => reference
  | some '?' => path current ++ reference
  | _ => directory (path current) ++ reference

theorem scheme_eq_some_iff {reference name : List Char} :
    scheme reference = some name ↔ IsScheme name ∧ ∃ rest, reference = name ++ ':' :: rest := by
  constructor
  · intro found
    simp only [scheme] at found
    split at found
    · next isScheme =>
        rcases isScheme with ⟨starts, colon⟩
        rw [Option.some.injEq] at found
        rw [found] at starts
        constructor
        · constructor
          · rcases first : name.head? with _ | element
            · simp [first] at starts
            · exact ⟨element, rfl, by simpa [first] using starts⟩
          · intro element elementMem
            rw [← found] at elementMem
            exact List.mem_takeWhile_imp elementMem
        · rcases List.head?_eq_some_iff.mp colon with ⟨rest, behind⟩
          exact ⟨rest, by rw [← behind, ← found, List.takeWhile_append_dropWhile]⟩
    · cases found
  · rintro ⟨⟨⟨first, starts, alphabetic⟩, characters⟩, rest, rfl⟩
    have candidate : (name ++ ':' :: rest).takeWhile isSchemeCharacter = name := by
      apply Decoding.takeWhile_append characters
      rintro element starts
      rw [← Option.some.inj starts]
      rfl
    have behind : (name ++ ':' :: rest).dropWhile isSchemeCharacter = ':' :: rest := by
      rw [List.dropWhile_append_of_pos characters]
      rfl
    simp [scheme, candidate, behind, starts, alphabetic]

/-- A letter comes first, so no reference that starts with something else has a scheme. -/
theorem scheme_eq_none {reference : List Char}
    (noLetter : ∀ first, reference.head? = some first → first.isAlpha = false) :
    scheme reference = none := by
  rw [Option.eq_none_iff_forall_not_mem]
  intro name found
  rcases scheme_eq_some_iff.mp found with ⟨⟨⟨first, starts, alphabetic⟩, -⟩, rest, rfl⟩
  have notEmpty : name ≠ [] := by
    rintro rfl
    cases starts
  have fails := noLetter first (by rw [List.head?_append_of_ne_nil _ notEmpty, starts])
  rw [alphabetic] at fails
  cases fails

section Fragment

variable {reference fragment : List Char}

theorem scheme_append_fragment
    (cut : ∀ first, fragment.head? = some first → first = '#') :
    scheme (reference ++ fragment) = scheme reference := by
  apply Option.ext
  intro name
  rw [scheme_eq_some_iff, scheme_eq_some_iff]
  apply and_congr_right
  intro isScheme
  constructor
  · rintro ⟨rest, split⟩
    rcases List.append_eq_append_iff.mp split with ⟨more, rfl, behind⟩ | ⟨more, rfl, behind⟩
    · -- The name would reach into the fragment, whose number sign no scheme contains.
      cases more with
      | nil => exact absurd (cut ':' (by rw [behind]; rfl)) (by decide)
      | cons first more =>
          have isCut := cut first (by rw [behind]; rfl)
          subst isCut
          exact absurd (isScheme.2 '#' (by simp)) (by decide)
    · cases more with
      | nil => exact absurd (cut ':' (by rw [← List.nil_append fragment, ← behind]; rfl)) (by decide)
      | cons first more =>
          rw [List.cons_append, List.cons.injEq] at behind
          exact ⟨more, by rw [← behind.1]⟩
  · rintro ⟨rest, rfl⟩
    exact ⟨rest ++ fragment, by simp⟩

theorem hierarchicalPart_append_fragment
    (cut : ∀ first, fragment.head? = some first → first = '#') :
    hierarchicalPart (reference ++ fragment) = hierarchicalPart reference ++ fragment := by
  unfold hierarchicalPart
  rw [scheme_append_fragment cut]
  split
  · rfl
  · next name found =>
      rcases scheme_eq_some_iff.mp found with ⟨-, rest, rfl⟩
      simp [List.drop_append]

theorem authority_append_fragment
    (cut : ∀ first, fragment.head? = some first → first = '#') :
    authority (reference ++ fragment) = authority reference := by
  have stops : ∀ first, fragment.head? = some first → (!endsAuthority first) = false := by
    intro first starts
    rw [cut first starts]
    rfl
  have slashes (text : List Char) : ['/', '/'] <+: text ++ fragment ↔ ['/', '/'] <+: text := by
    constructor
    · intro starts
      rcases text with _ | ⟨first, _ | ⟨second, text⟩⟩
      · rcases starts with ⟨rest, split⟩
        have behind : fragment = '/' :: '/' :: rest := split.symm
        exact absurd (cut '/' (by rw [behind]; rfl)) (by decide)
      · rcases starts with ⟨rest, split⟩
        simp only [List.cons_append, List.nil_append, List.cons.injEq] at split
        exact absurd (cut '/' (by rw [← split.2]; rfl)) (by decide)
      · simpa using starts
    · exact fun starts => starts.trans (List.prefix_append text fragment)
  unfold authority
  rw [hierarchicalPart_append_fragment cut]
  by_cases starts : ['/', '/'] <+: hierarchicalPart reference
  · rcases id starts with ⟨rest, split⟩
    rw [if_pos starts, if_pos ((slashes _).mpr starts), ← split]
    simp [Decoding.takeWhile_append_of_stops stops]
  · rw [if_neg starts, if_neg fun starts' => starts ((slashes _).mp starts')]

end Fragment

section Forms

variable {reference name rest : List Char}

theorem of_scheme_slashes (isScheme : IsScheme name) :
    scheme (name ++ ':' :: '/' :: '/' :: rest) = some name ∧
      authority (name ++ ':' :: '/' :: '/' :: rest) = some (rest.takeWhile (!endsAuthority ·)) := by
  have found : scheme (name ++ ':' :: '/' :: '/' :: rest) = some name :=
    scheme_eq_some_iff.mpr ⟨isScheme, _, rfl⟩
  have behind : hierarchicalPart (name ++ ':' :: '/' :: '/' :: rest) = '/' :: '/' :: rest := by
    simp [hierarchicalPart, found]
  refine ⟨found, ?_⟩
  rw [authority, behind, if_pos ⟨rest, rfl⟩]
  rfl

theorem of_slashes :
    scheme ('/' :: '/' :: rest) = none ∧
      authority ('/' :: '/' :: rest) = some (rest.takeWhile (!endsAuthority ·)) := by
  have none : scheme ('/' :: '/' :: rest) = none :=
    scheme_eq_none fun first starts => by
      rw [← Option.some.inj starts]
      rfl
  refine ⟨none, ?_⟩
  rw [authority, hierarchicalPart, none, if_pos ⟨rest, rfl⟩]
  rfl

/-- An authority stands behind two slashes, at the front or behind a colon. -/
theorem authority_eq_none (noSlashes : ¬ ['/', '/'] <+: reference)
    (noSeparator : ¬ [':', '/', '/'] <:+: reference) : authority reference = none := by
  unfold authority hierarchicalPart
  split
  · rw [if_neg noSlashes]
  · next name found =>
      rcases scheme_eq_some_iff.mp found with ⟨-, rest, rfl⟩
      apply if_neg
      intro starts
      apply noSeparator
      have behind : (name ++ ':' :: rest).drop (name.length + 1) = rest := by
        simp
      rw [behind] at starts
      rcases starts with ⟨after, rfl⟩
      exact ⟨name, after, by simp⟩

end Forms

end UriReference
