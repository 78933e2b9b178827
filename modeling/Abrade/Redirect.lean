import Abrade.Basic
import Abrade.Library.Search

/-!
# Redirects

`RedirectPolicy`: which responses are followed, and how a `Location` value is
resolved against the current request target.
-/

namespace Abrade

/-- Opt-in policy for same-origin redirects. -/
structure RedirectPolicy where
  follow : Bool
  maxRedirects : ℕ
  scheme : Text
  authority : Text

namespace RedirectPolicy

def isRedirectStatus (statusCode : ℕ) : Bool :=
  statusCode == 301 || statusCode == 302 || statusCode == 303 || statusCode == 307 ||
    statusCode == 308

def withoutFragment (location : Text) : Text :=
  match Search.findFrom (· == '#') 0 location with
  | none => location
  | some fragment => location.take fragment

/-- The part of a target before its query. -/
def withoutQuery (currentTarget : Text) : Text :=
  match Search.findFrom (· == '?') 0 currentTarget with
  | none => currentTarget
  | some query => currentTarget.take query

/-- The path up to and including its last slash. -/
def directory (path : Text) : Text :=
  match Search.findLast (· == '/') path with
  | none => ['/']
  | some lastSlash => path.take (lastSlash + 1)

def resolveRelative (location currentTarget : Text) : Text :=
  if ['/'].isPrefixOf location then location
  else if ['?'].isPrefixOf location then withoutQuery currentTarget ++ location
  else directory (withoutQuery currentTarget) ++ location

def normalizeAbsolute (policy : RedirectPolicy) (authorityAndPath : Text) : Option Text :=
  match Search.findFrom (fun element => element == '/' || element == '?') 0 authorityAndPath with
  | none => if authorityAndPath ≠ policy.authority then none else some ['/']
  | some pathBegin =>
      if authorityAndPath.take pathBegin ≠ policy.authority then none
      else if authorityAndPath[pathBegin]? = some '?' then
        some ('/' :: authorityAndPath.drop pathBegin)
      else some (authorityAndPath.drop pathBegin)

def normalizeLocation (policy : RedirectPolicy) (rawLocation currentTarget : Text) : Option Text :=
  let location := withoutFragment rawLocation
  if location.isEmpty || ['#'].isPrefixOf location then none
  else
    match Search.findInfix "://".toList location with
    | some schemeSeparator =>
        if location.take schemeSeparator ≠ policy.scheme then none
        else policy.normalizeAbsolute (location.drop (schemeSeparator + 3))
    | none =>
        if "//".toList.isPrefixOf location then policy.normalizeAbsolute (location.drop 2)
        else some (resolveRelative location currentTarget)

/-- The target to request next; a response without a `Location` field has an empty one. -/
def redirectTarget (policy : RedirectPolicy) (statusCode : ℕ) (location currentTarget : Text) :
    Option Text :=
  if !policy.follow || !isRedirectStatus statusCode then none
  else if location.isEmpty then none
  else policy.normalizeLocation location currentTarget

end RedirectPolicy

/-- What a request line may carry: an absolute path, and no fragment. -/
def IsTarget (target : Text) : Prop :=
  target.head? = some '/' ∧ '#' ∉ target

instance (target : Text) : Decidable (IsTarget target) :=
  inferInstanceAs (Decidable (_ ∧ _))

namespace RedirectPolicy

theorem not_mem_withoutFragment (location : Text) : '#' ∉ withoutFragment location := by
  unfold withoutFragment
  split
  · next absent =>
      intro fragmentMem
      simpa using Search.forall_of_findFrom absent '#' fragmentMem
  · next fragment found =>
      rcases Search.exists_split_of_findFrom found with
        ⟨before, element, after, rfl, rfl, -, absent⟩
      rw [List.take_left]
      intro fragmentMem
      simpa using absent '#' fragmentMem

theorem isTarget_withoutQuery {target : Text} (isTarget : IsTarget target) :
    IsTarget (withoutQuery target) := by
  rcases isTarget with ⟨slash, noFragment⟩
  unfold withoutQuery
  split
  · exact ⟨slash, noFragment⟩
  · next query found =>
      rcases Search.exists_split_of_findFrom found with
        ⟨before, element, after, rfl, rfl, isQuery, -⟩
      rw [List.take_left]
      constructor
      · cases before with
        | nil =>
            simp only [List.nil_append, List.head?_cons, Option.some.injEq] at slash
            simp [slash] at isQuery
        | cons first before => simpa using slash
      · intro fragmentMem
        exact noFragment (by simp [fragmentMem])

theorem isTarget_directory {path : Text} (isTarget : IsTarget path) :
    IsTarget (directory path) := by
  rcases isTarget with ⟨slash, noFragment⟩
  unfold directory
  split
  · simp [IsTarget]
  · next lastSlash found =>
      constructor
      · cases path with
        | nil => simp at slash
        | cons first path => simpa using slash
      · intro fragmentMem
        exact noFragment (List.mem_of_mem_take fragmentMem)

theorem isTarget_append {target text : Text} (isTarget : IsTarget target)
    (noFragment : '#' ∉ text) : IsTarget (target ++ text) := by
  rcases isTarget with ⟨slash, noFragmentBefore⟩
  constructor
  · cases target with
    | nil => simp at slash
    | cons first target => simpa using slash
  · simp [noFragment, noFragmentBefore]

theorem isTarget_resolveRelative {location currentTarget : Text} (noFragment : '#' ∉ location)
    (isTarget : IsTarget currentTarget) : IsTarget (resolveRelative location currentTarget) := by
  unfold resolveRelative
  split
  · next absolute =>
      rw [List.isPrefixOf_iff_prefix] at absolute
      rcases absolute with ⟨rest, rfl⟩
      exact ⟨by simp, noFragment⟩
  · split
    · exact isTarget_append (isTarget_withoutQuery isTarget) noFragment
    · exact isTarget_append (isTarget_directory (isTarget_withoutQuery isTarget)) noFragment

/-- What is followed is the authority of the policy, and at most a path or a query behind it. -/
theorem normalizeAbsolute_cases {policy : RedirectPolicy} {authorityAndPath target : Text}
    (normalized : policy.normalizeAbsolute authorityAndPath = some target) :
    ∃ behind, authorityAndPath = policy.authority ++ behind ∧
      (∀ element ∈ policy.authority, element ≠ '/' ∧ element ≠ '?') ∧
      ((behind = [] ∧ target = ['/']) ∨ (behind.head? = some '/' ∧ target = behind) ∨
        (behind.head? = some '?' ∧ target = '/' :: behind)) := by
  simp only [normalizeAbsolute] at normalized
  split at normalized
  · next absent =>
      split at normalized
      · cases normalized
      · next same =>
          cases normalized
          rw [ne_eq, not_not] at same
          refine ⟨[], by simp [same], ?_, .inl ⟨rfl, rfl⟩⟩
          intro element elementMem
          simpa using Search.forall_of_findFrom absent element (same ▸ elementMem)
  · next pathBegin found =>
      rcases Search.exists_split_of_findFrom found with
        ⟨before, element, after, rfl, rfl, begins, absent⟩
      rw [List.take_left, List.drop_left] at normalized
      split at normalized
      · cases normalized
      · next same =>
          rw [ne_eq, not_not] at same
          subst same
          refine ⟨element :: after, rfl, fun other otherMem => by simpa using absent other otherMem, ?_⟩
          split at normalized
          · next query =>
              cases normalized
              exact .inr (.inr ⟨by simpa using query, rfl⟩)
          · next noQuery =>
              cases normalized
              have noQueryHere : element ≠ '?' := by simpa using noQuery
              exact .inr (.inl ⟨by simpa [noQueryHere] using begins, rfl⟩)

theorem isTarget_normalizeAbsolute {policy : RedirectPolicy} {authorityAndPath target : Text}
    (noFragment : '#' ∉ authorityAndPath)
    (normalized : policy.normalizeAbsolute authorityAndPath = some target) : IsTarget target := by
  rcases normalizeAbsolute_cases normalized with
    ⟨behind, rfl, -, ⟨rfl, rfl⟩ | ⟨slash, rfl⟩ | ⟨-, rfl⟩⟩
  · simp [IsTarget]
  · exact ⟨slash, fun fragmentMem => noFragment (List.mem_append_right _ fragmentMem)⟩
  · refine ⟨rfl, ?_⟩
    intro fragmentMem
    exact noFragment (List.mem_append_right _ (by simpa using fragmentMem))

theorem isTarget_redirectTarget {policy : RedirectPolicy} {statusCode : ℕ}
    {location currentTarget target : Text}
    (redirects : policy.redirectTarget statusCode location currentTarget = some target)
    (isTarget : IsTarget currentTarget) : IsTarget target := by
  unfold redirectTarget at redirects
  split at redirects
  · cases redirects
  · split at redirects
    · cases redirects
    · unfold normalizeLocation at redirects
      have noFragment := not_mem_withoutFragment location
      simp only at redirects
      split at redirects
      · cases redirects
      · split at redirects
        · split at redirects
          · cases redirects
          · refine isTarget_normalizeAbsolute ?_ redirects
            intro fragmentMem
            exact noFragment (List.mem_of_mem_drop fragmentMem)
        · split at redirects
          · refine isTarget_normalizeAbsolute ?_ redirects
            intro fragmentMem
            exact noFragment (List.mem_of_mem_drop fragmentMem)
          · cases redirects
            exact isTarget_resolveRelative noFragment isTarget

/-- Only the five redirect statuses are followed, and only when asked to. -/
theorem of_redirectTarget {policy : RedirectPolicy} {statusCode : ℕ}
    {location currentTarget target : Text}
    (redirects : policy.redirectTarget statusCode location currentTarget = some target) :
    policy.follow = true ∧ isRedirectStatus statusCode = true := by
  unfold redirectTarget at redirects
  split at redirects
  · cases redirects
  · next followed => simpa using followed

end RedirectPolicy

end Abrade
