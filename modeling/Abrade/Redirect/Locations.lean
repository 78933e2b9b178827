import Abrade.Library.UriReference
import Abrade.Redirect

/-!
# Which locations are followed

`normalize_location` tells absolute, scheme-relative and relative locations
apart by searching for `://` anywhere and for `//` at the front.  Against the
generic syntax of URI references this misreads a relative location with a URL in
its path or query, and an absolute location without slashes.
-/

namespace Abrade

namespace RedirectPolicy

theorem exists_fragment (location : Text) :
    ∃ fragment, location = withoutFragment location ++ fragment ∧
      ∀ first, fragment.head? = some first → first = '#' := by
  unfold withoutFragment
  split
  · exact ⟨[], by simp, by simp⟩
  · next position found =>
      rcases Search.exists_split_of_findFrom found with
        ⟨before, element, after, rfl, rfl, isFragment, -⟩
      refine ⟨element :: after, by rw [List.take_left], ?_⟩
      intro first starts
      rw [← Option.some.inj starts]
      simpa using isFragment

theorem scheme_withoutFragment (location : Text) :
    UriReference.scheme location = UriReference.scheme (withoutFragment location) := by
  rcases exists_fragment location with ⟨fragment, split, cut⟩
  calc UriReference.scheme location
      = UriReference.scheme (withoutFragment location ++ fragment) := by rw [← split]
    _ = UriReference.scheme (withoutFragment location) := UriReference.scheme_append_fragment cut

theorem authority_withoutFragment (location : Text) :
    UriReference.authority location = UriReference.authority (withoutFragment location) := by
  rcases exists_fragment location with ⟨fragment, split, cut⟩
  calc UriReference.authority location
      = UriReference.authority (withoutFragment location ++ fragment) := by rw [← split]
    _ = UriReference.authority (withoutFragment location) :=
        UriReference.authority_append_fragment cut

section Resolution

theorem withoutQuery_eq_path (target : Text) : withoutQuery target = UriReference.path target := by
  unfold withoutQuery UriReference.path
  split
  · next absent =>
      symm
      rw [List.takeWhile_eq_self_iff]
      intro element elementMem
      have noQuery := Search.forall_of_findFrom absent element elementMem
      simpa using noQuery
  · next position found =>
      rcases Search.exists_split_of_findFrom found with
        ⟨before, element, after, rfl, rfl, isQuery, absent⟩
      rw [List.take_left]
      symm
      apply Decoding.takeWhile_append
      · intro other otherMem
        simpa using absent other otherMem
      · intro first starts
        rw [← Option.some.inj starts]
        simpa using isQuery

theorem directory_eq (path : Text) : directory path = UriReference.directory path := by
  unfold directory UriReference.directory
  split
  · next absent =>
      rw [if_neg]
      intro slash
      simpa using Search.forall_of_findLast absent '/' slash
  · next position found =>
      rcases Search.exists_split_of_findLast found with
        ⟨before, element, after, rfl, rfl, isSlash, absent⟩
      have slash : element = '/' := by simpa using isSlash
      subst slash
      have noSlash : ∀ other ∈ after.reverse, (other != '/') = true := by
        intro other otherMem
        simpa using absent other (List.mem_reverse.mp otherMem)
      rw [if_pos (by simp), List.rdropWhile]
      simp [List.take_append, List.dropWhile_append_of_pos noSlash,
        List.take_of_length_le (Nat.le_succ before.length)]

theorem resolveRelative_eq_resolve (location currentTarget : Text) :
    resolveRelative location currentTarget = UriReference.resolve location currentTarget := by
  unfold resolveRelative UriReference.resolve
  rw [withoutQuery_eq_path, directory_eq]
  cases location with
  | nil => rfl
  | cons first rest =>
      by_cases slash : first = '/'
      · subst slash
        rfl
      · by_cases query : first = '?'
        · subst query
          rfl
        · simp [slash, query, Ne.symm slash, Ne.symm query]

theorem length_le_resolve (reference current : Text) :
    reference.length ≤ (UriReference.resolve reference current).length := by
  unfold UriReference.resolve
  split
  · exact le_rfl
  · rw [List.length_append]
    omega
  · rw [List.length_append]
    omega

theorem length_normalizeAbsolute_le {policy : RedirectPolicy} {authorityAndPath target : Text}
    (normalized : policy.normalizeAbsolute authorityAndPath = some target) :
    target.length ≤ authorityAndPath.length + 1 := by
  rcases normalizeAbsolute_cases normalized with
    ⟨behind, rfl, -, ⟨rfl, rfl⟩ | ⟨-, rfl⟩ | ⟨-, rfl⟩⟩
  · simp
  · rw [List.length_append]
    omega
  · rw [List.length_append, List.length_cons]
    omega

end Resolution

section Cases

variable {policy : RedirectPolicy} {statusCode : ℕ} {location currentTarget : Text}

theorem redirectTarget_eq (follow : policy.follow = true)
    (redirects : isRedirectStatus statusCode = true) (nonempty : withoutFragment location ≠ []) :
    policy.redirectTarget statusCode location currentTarget =
      policy.normalizeLocation location currentTarget := by
  have someLocation : location ≠ [] := by
    rintro rfl
    exact nonempty rfl
  simp [redirectTarget, follow, redirects, someLocation]

theorem normalizeLocation_eq (nonempty : withoutFragment location ≠ []) :
    policy.normalizeLocation location currentTarget =
      match Search.findInfix [':', '/', '/'] (withoutFragment location) with
      | some schemeSeparator =>
          if (withoutFragment location).take schemeSeparator ≠ policy.scheme then none
          else policy.normalizeAbsolute ((withoutFragment location).drop (schemeSeparator + 3))
      | none =>
          if ['/', '/'].isPrefixOf (withoutFragment location) then
            policy.normalizeAbsolute ((withoutFragment location).drop 2)
          else some (resolveRelative (withoutFragment location) currentTarget) := by
  have noFragment : (['#'].isPrefixOf (withoutFragment location)) = false := by
    rw [Bool.eq_false_iff]
    intro starts
    rcases List.isPrefixOf_iff_prefix.mp starts with ⟨rest, split⟩
    apply not_mem_withoutFragment location
    rw [← split]
    simp
  have isLocation : ((withoutFragment location).isEmpty ||
      ['#'].isPrefixOf (withoutFragment location)) = false := by
    simpa [noFragment] using nonempty
  simp only [normalizeLocation, isLocation, Bool.false_eq_true, if_false]
  rfl

/-- A location with `://` is taken to be absolute. -/
theorem normalizeLocation_of_separator {before after : Text} (nonempty : withoutFragment location ≠ [])
    (found : Search.findInfix [':', '/', '/'] (withoutFragment location) = some before.length)
    (split : withoutFragment location = before ++ ([':', '/', '/'] ++ after)) :
    policy.normalizeLocation location currentTarget =
      if before ≠ policy.scheme then none else policy.normalizeAbsolute after := by
  have behind : (withoutFragment location).drop (before.length + 3) = after := by
    rw [split, ← List.append_assoc]
    exact List.drop_left' (by simp)
  rw [normalizeLocation_eq nonempty, found]
  simp only [behind]
  rw [split, List.take_left]

theorem normalizeLocation_of_slashes {rest : Text}
    (noSeparator : ¬ [':', '/', '/'] <:+: withoutFragment location)
    (split : withoutFragment location = '/' :: '/' :: rest) :
    policy.normalizeLocation location currentTarget = policy.normalizeAbsolute rest := by
  rw [normalizeLocation_eq (by simp [split]), Search.findInfix_eq_none_iff.mpr noSeparator]
  simp [split]

theorem normalizeLocation_of_relative (nonempty : withoutFragment location ≠ [])
    (noSeparator : ¬ [':', '/', '/'] <:+: withoutFragment location)
    (noSlashes : ¬ ['/', '/'] <+: withoutFragment location) :
    policy.normalizeLocation location currentTarget =
      some (UriReference.resolve (withoutFragment location) currentTarget) := by
  rw [normalizeLocation_eq nonempty, Search.findInfix_eq_none_iff.mpr noSeparator]
  simp only
  rw [if_neg (by rwa [List.isPrefixOf_iff_prefix]), resolveRelative_eq_resolve]

end Cases

section Relative

variable {policy : RedirectPolicy} {statusCode : ℕ} {location currentTarget : Text}

/--
A location that does not begin with two slashes is followed to the target it
has as a relative reference, exactly when it does not contain `://`.
-/
theorem follows_relative_iff (follow : policy.follow = true)
    (redirects : isRedirectStatus statusCode = true) (nonempty : withoutFragment location ≠ [])
    (noSlashes : ¬ ['/', '/'] <+: withoutFragment location) :
    policy.redirectTarget statusCode location currentTarget =
        some (UriReference.resolve (withoutFragment location) currentTarget) ↔
      ¬ [':', '/', '/'] <:+: withoutFragment location := by
  rw [redirectTarget_eq follow redirects nonempty]
  constructor
  · rw [← Search.findInfix_eq_none_iff, Option.eq_none_iff_forall_ne_some]
    intro same position found
    rcases Search.exists_split_of_findInfix found with ⟨before, after, split, rfl⟩
    rw [normalizeLocation_of_separator nonempty found split] at same
    split at same
    · cases same
    · -- What is left of the location is too short to be the target it refers to.
      have long := length_le_resolve (withoutFragment location) currentTarget
      have short := length_normalizeAbsolute_le same
      have total := congrArg List.length split
      simp only [List.length_append, List.length_cons, List.length_nil] at total
      omega
  · intro noSeparator
    exact normalizeLocation_of_relative nonempty noSeparator noSlashes

/-- A relative path below the current one. -/
theorem follows_relative_iff_of_example :
    (⟨true, 5, "http".toList, "h".toList⟩ : RedirectPolicy).redirectTarget 302 "c#d".toList
        "/a/b?q".toList = some (UriReference.resolve (withoutFragment "c#d".toList) "/a/b?q".toList) ↔
      ¬ [':', '/', '/'] <:+: withoutFragment "c#d".toList :=
  follows_relative_iff rfl rfl (by decide) (by decide)

/-- A path with a URL in its query is not followed. -/
theorem url_in_query_not_followed :
    ¬ ∀ (policy : RedirectPolicy) (statusCode : ℕ) (location currentTarget : Text),
      policy.follow = true → isRedirectStatus statusCode = true → withoutFragment location ≠ [] →
      UriReference.scheme (withoutFragment location) = none →
      ¬ ['/', '/'] <+: withoutFragment location →
      policy.redirectTarget statusCode location currentTarget =
        some (UriReference.resolve (withoutFragment location) currentTarget) := by
  intro claimed
  have followed := claimed ⟨true, 5, "http".toList, "h".toList⟩ 302 "/login?next=http://h/".toList
    "/a".toList rfl rfl (by decide) (by decide) (by decide)
  exact absurd followed (by decide)

end Relative

section SameOrigin

variable {policy : RedirectPolicy} {statusCode : ℕ} {location currentTarget : Text}

/-- What the location says of a scheme and an authority agrees with the policy. -/
def IsSameOrigin (policy : RedirectPolicy) (location : Text) : Prop :=
  (∀ scheme, UriReference.scheme location = some scheme → scheme = policy.scheme) ∧
    ∀ authority, UriReference.authority location = some authority → authority = policy.authority

theorem authority_of_normalizeAbsolute {authorityAndPath target : Text}
    (noFragment : '#' ∉ authorityAndPath)
    (normalized : policy.normalizeAbsolute authorityAndPath = some target) :
    authorityAndPath.takeWhile (!UriReference.endsAuthority ·) = policy.authority := by
  rcases normalizeAbsolute_cases normalized with ⟨behind, rfl, inAuthority, resolved⟩
  apply Decoding.takeWhile_append
  · intro element elementMem
    have noNumber : element ≠ '#' := by
      rintro rfl
      exact noFragment (List.mem_append_left _ elementMem)
    simp [UriReference.endsAuthority, inAuthority element elementMem, noNumber]
  · intro first starts
    rcases resolved with ⟨rfl, -⟩ | ⟨slash, -⟩ | ⟨query, -⟩
    · cases starts
    · rw [← Option.some.inj (slash.symm.trans starts)]
      rfl
    · rw [← Option.some.inj (query.symm.trans starts)]
      rfl

theorem isSameOrigin_iff_withoutFragment :
    policy.IsSameOrigin location ↔ policy.IsSameOrigin (withoutFragment location) := by
  rw [IsSameOrigin, scheme_withoutFragment, authority_withoutFragment]
  rfl

theorem nonempty_of_redirectTarget {target : Text}
    (followed : policy.redirectTarget statusCode location currentTarget = some target) :
    withoutFragment location ≠ [] := by
  intro empty
  simp [redirectTarget, normalizeLocation, empty] at followed

theorem isSameOrigin_of_authority {rest : Text} {name : Option Text}
    (schemes : UriReference.scheme location = name)
    (isPolicyScheme : ∀ scheme, name = some scheme → scheme = policy.scheme)
    (authorities : UriReference.authority location =
      some (rest.takeWhile (!UriReference.endsAuthority ·)))
    (same : rest.takeWhile (!UriReference.endsAuthority ·) = policy.authority) :
    policy.IsSameOrigin location := by
  constructor
  · intro scheme found
    exact isPolicyScheme scheme (schemes.symm.trans found)
  · intro authority found
    rw [authorities, same] at found
    exact (Option.some.inj found).symm

theorem isSameOrigin_of_separator {target : Text} (isScheme : UriReference.IsScheme policy.scheme)
    (nonempty : withoutFragment location ≠ [])
    (separator : [':', '/', '/'] <:+: withoutFragment location)
    (followed : policy.normalizeLocation location currentTarget = some target) :
    policy.IsSameOrigin (withoutFragment location) := by
  rcases found : Search.findInfix [':', '/', '/'] (withoutFragment location) with _ | position
  · exact absurd separator (Search.findInfix_eq_none_iff.mp found)
  · rcases Search.exists_split_of_findInfix found with ⟨before, after, split, rfl⟩
    rw [normalizeLocation_of_separator nonempty found split] at followed
    split at followed
    · cases followed
    · next same =>
        rw [ne_eq, not_not] at same
        subst same
        have noFragment : '#' ∉ after := by
          intro fragmentMem
          apply not_mem_withoutFragment location
          rw [split]
          simp [fragmentMem]
        rw [split]
        rcases @UriReference.of_scheme_slashes _ after isScheme with ⟨schemes, authorities⟩
        exact isSameOrigin_of_authority schemes (fun _ found => (Option.some.inj found).symm)
          authorities (authority_of_normalizeAbsolute noFragment followed)

theorem isSameOrigin_of_slashes {target : Text}
    (noSeparator : ¬ [':', '/', '/'] <:+: withoutFragment location)
    (slashes : ['/', '/'] <+: withoutFragment location)
    (followed : policy.normalizeLocation location currentTarget = some target) :
    policy.IsSameOrigin (withoutFragment location) := by
  rcases slashes with ⟨rest, split⟩
  rw [normalizeLocation_of_slashes noSeparator split.symm] at followed
  have noFragment : '#' ∉ rest := by
    intro fragmentMem
    apply not_mem_withoutFragment location
    rw [← split]
    simp [fragmentMem]
  rw [← split]
  rcases @UriReference.of_slashes rest with ⟨schemes, authorities⟩
  exact isSameOrigin_of_authority schemes (fun _ found => by cases found) authorities
    (authority_of_normalizeAbsolute noFragment followed)

theorem isScheme_of_web (web : policy.scheme = "http".toList ∨ policy.scheme = "https".toList) :
    UriReference.IsScheme policy.scheme := by
  rcases web with http | https
  · rw [http]
    exact ⟨⟨'h', rfl, rfl⟩, List.all_eq_true.mp (by decide)⟩
  · rw [https]
    exact ⟨⟨'h', rfl, rfl⟩, List.all_eq_true.mp (by decide)⟩

/--
A location that is followed has no scheme or authority other than the policy's,
unless it begins with another scheme and does not contain `://`.
-/
theorem follows_same_origin_iff
    (web : policy.scheme = "http".toList ∨ policy.scheme = "https".toList) :
    (∀ target, policy.redirectTarget statusCode location currentTarget = some target →
        policy.IsSameOrigin location) ↔
      ¬ (policy.follow = true ∧ isRedirectStatus statusCode = true ∧
        (∃ scheme, UriReference.scheme location = some scheme ∧ scheme ≠ policy.scheme) ∧
        ¬ [':', '/', '/'] <:+: withoutFragment location) := by
  constructor
  · rintro safe ⟨follow, redirects, ⟨scheme, found, other⟩, noSeparator⟩
    have foundBefore := found
    rw [scheme_withoutFragment, UriReference.scheme_eq_some_iff] at foundBefore
    rcases foundBefore with ⟨isScheme, rest, split⟩
    have nonempty : withoutFragment location ≠ [] := by simp [split]
    have noSlashes : ¬ ['/', '/'] <+: withoutFragment location := by
      rintro ⟨behind, slashes⟩
      rw [scheme_withoutFragment, ← slashes] at found
      cases (@UriReference.of_slashes behind).1.symm.trans found
    have followed := (@redirectTarget_eq _ _ _ currentTarget follow redirects nonempty).trans
      (normalizeLocation_of_relative nonempty noSeparator noSlashes)
    exact other ((safe _ followed).1 scheme found)
  · intro careful target followed
    rcases of_redirectTarget followed with ⟨follow, redirects⟩
    have nonempty := nonempty_of_redirectTarget followed
    rw [redirectTarget_eq follow redirects nonempty] at followed
    by_cases separator : [':', '/', '/'] <:+: withoutFragment location
    · rw [isSameOrigin_iff_withoutFragment]
      exact isSameOrigin_of_separator (isScheme_of_web web) nonempty separator followed
    · by_cases slashes : ['/', '/'] <+: withoutFragment location
      · rw [isSameOrigin_iff_withoutFragment]
        exact isSameOrigin_of_slashes separator slashes followed
      · constructor
        · intro scheme found
          by_contra other
          exact careful ⟨follow, redirects, ⟨scheme, found, other⟩, separator⟩
        · intro authority found
          rw [authority_withoutFragment,
            UriReference.authority_eq_none slashes separator] at found
          cases found

theorem follows_same_origin_iff_of_example :
    (∀ target, (⟨true, 5, "http".toList, "h".toList⟩ : RedirectPolicy).redirectTarget 302
          "http://h/c".toList "/a".toList = some target →
        (⟨true, 5, "http".toList, "h".toList⟩ : RedirectPolicy).IsSameOrigin "http://h/c".toList) ↔
      ¬ (true = true ∧ isRedirectStatus 302 = true ∧
        (∃ scheme, UriReference.scheme "http://h/c".toList = some scheme ∧
          scheme ≠ "http".toList) ∧
        ¬ [':', '/', '/'] <:+: withoutFragment "http://h/c".toList) :=
  @follows_same_origin_iff ⟨true, 5, "http".toList, "h".toList⟩ 302 _ _ (.inl rfl)

/-- Another scheme without slashes is followed as a path below the current one. -/
theorem other_scheme_followed :
    ¬ ∀ (policy : RedirectPolicy) (statusCode : ℕ) (location currentTarget target : Text),
      policy.scheme = "http".toList ∨ policy.scheme = "https".toList →
      policy.redirectTarget statusCode location currentTarget = some target →
      policy.IsSameOrigin location := by
  intro claimed
  have sameOrigin := claimed ⟨true, 5, "http".toList, "h".toList⟩ 302 "https:/found".toList
    "/a".toList "/https:/found".toList (.inl rfl) (by decide)
  exact absurd (sameOrigin.1 "https".toList (by decide)) (by decide)

end SameOrigin

end RedirectPolicy

end Abrade
