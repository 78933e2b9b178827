import Abrade.Library.Fallible
import Abrade.Scraper.Query
import Mathlib.Data.List.Chain

/-!
# One candidate

The loop of `Scraper::coroutine`: one request, then one more for every redirect
that is followed.  The answers are arbitrary; the loop ends by itself.
-/

namespace Abrade

/-- The variables of the loop. -/
structure Fetch where
  current : Text
  redirectsFollowed : ℕ
  deriving DecidableEq

/-- How one request ended. -/
inductive Answer where
  /-- Connecting, writing, reading or processing threw. -/
  | threw
  | response (response : Response)
  deriving DecidableEq

structure Request where
  target : Text
  answer : Answer
  deriving DecidableEq

namespace Fetch

def start (candidate : Text) : Fetch :=
  { current := candidate, redirectsFollowed := 0 }

/-- The end of the loop body: nothing to follow, or the next request. -/
def afterRedirect (fetch : Fetch) (maxRedirects : ℕ) : Option Text → Option Fetch
  | none => none
  | some redirect =>
      if fetch.redirectsFollowed = maxRedirects then none
      else some { current := redirect, redirectsFollowed := fetch.redirectsFollowed + 1 }

/-- The loop body behind a response. -/
def afterResponse (policy : RedirectPolicy) (fetch : Fetch) (response : Response) : Option Fetch :=
  fetch.afterRedirect policy.maxRedirects
    (policy.redirectTarget response.statusCode response.location fetch.current)

/-- One turn of the loop: request number `sent`, and what to fetch next. -/
def turn (policy : RedirectPolicy) (answers : ℕ → Text → Answer) (sent : ℕ) (fetch : Fetch) :
    Request × Option Fetch :=
  match answers sent fetch.current with
  | .threw => ({ target := fetch.current, answer := .threw }, none)
  | .response response =>
      ({ target := fetch.current, answer := .response response },
        fetch.afterResponse policy response)

/-- The loop; `answers` says how the request number `sent` for a target ends. -/
def requestsFrom (policy : RedirectPolicy) (answers : ℕ → Text → Answer) :
    ℕ → ℕ → Fetch → Except Exception (List Request)
  | 0, _, _ => .error .outOfFuel
  | fuel + 1, sent, fetch =>
      match fetch.turn policy answers sent with
      | (request, none) => .ok [request]
      | (request, some next) =>
          (request :: ·) <$> requestsFrom policy answers fuel (sent + 1) next

def requests (policy : RedirectPolicy) (answers : ℕ → Text → Answer) (fuel : ℕ)
    (candidate : Text) : Except Exception (List Request) :=
  requestsFrom policy answers fuel 0 (start candidate)

section Step

variable {policy : RedirectPolicy} {fetch next : Fetch} {response : Response}

/-- What the loop body can do: it follows a redirect while any are left. -/
theorem of_afterResponse (follows : fetch.afterResponse policy response = some next) :
    policy.follow = true ∧ RedirectPolicy.isRedirectStatus response.statusCode = true ∧
      fetch.redirectsFollowed ≠ policy.maxRedirects ∧
      next.redirectsFollowed = fetch.redirectsFollowed + 1 ∧
      (IsTarget fetch.current → IsTarget next.current) := by
  unfold afterResponse afterRedirect at follows
  split at follows
  · cases follows
  · next redirect redirects =>
      split at follows
      · cases follows
      · next hopsLeft =>
          cases follows
          rcases RedirectPolicy.of_redirectTarget redirects with ⟨followed, status⟩
          exact ⟨followed, status, hopsLeft, rfl,
            RedirectPolicy.isTarget_redirectTarget redirects⟩

end Step

section Requests

variable {policy : RedirectPolicy} {answers : ℕ → Text → Answer}

theorem of_turn {sent : ℕ} {fetch next : Fetch} {request : Request}
    (turns : fetch.turn policy answers sent = (request, some next)) :
    ∃ response, request = { target := fetch.current, answer := .response response } ∧
      fetch.afterResponse policy response = some next := by
  unfold turn at turns
  split at turns
  · simp at turns
  · next response answered =>
      simp only [Prod.mk.injEq] at turns
      exact ⟨response, turns.1.symm, turns.2⟩

theorem turn_target (sent : ℕ) (fetch : Fetch) :
    (fetch.turn policy answers sent).1.target = fetch.current := by
  unfold turn
  split <;> rfl

/-- The requests of a candidate, as far as the loop's own checks promise. -/
structure Proper (policy : RedirectPolicy) (hops : ℕ) (requests : List Request) : Prop where
  bounded : requests.length ≤ hops + 1
  nonempty : requests ≠ []
  single : policy.follow = false → requests.length = 1
  chained : requests.IsChain fun request _ => ∃ response, request.answer = .response response ∧
    response.statusCode ∈ [301, 302, 303, 307, 308]
  targets : ∀ request ∈ requests, IsTarget request.target

theorem proper_singleton {hops : ℕ} {request : Request} (isTarget : IsTarget request.target) :
    Proper policy hops [request] where
  bounded := by simp
  nonempty := by simp
  single _ := rfl
  chained := .singleton _
  targets := by simpa using isTarget

theorem Proper.cons {hops : ℕ} {response : Response} {target : Text} {requests : List Request}
    (proper : Proper policy hops requests) (followed : policy.follow = true)
    (status : RedirectPolicy.isRedirectStatus response.statusCode = true)
    (isTarget : IsTarget target) :
    Proper policy (hops + 1) ({ target, answer := .response response } :: requests) where
  bounded := by
    have := proper.bounded
    simp
    omega
  nonempty := by simp
  single notFollowed := by simp [notFollowed] at followed
  chained := by
    rw [List.isChain_cons]
    refine ⟨fun next _ => ⟨response, rfl, ?_⟩, proper.chained⟩
    simpa [RedirectPolicy.isRedirectStatus, or_assoc] using status
  targets := by
    rw [List.forall_mem_cons]
    exact ⟨isTarget, proper.targets⟩

theorem requestsFrom_of_last {sent fuel : ℕ} {fetch : Fetch} {request : Request}
    (turns : fetch.turn policy answers sent = (request, none)) (positive : 0 < fuel) :
    requestsFrom policy answers fuel sent fetch = .ok [request] := by
  cases fuel with
  | zero => omega
  | succ fuel => rw [requestsFrom, turns]

theorem requestsFrom_of_next {sent fuel : ℕ} {fetch next : Fetch} {request : Request}
    {rest : List Request} (turns : fetch.turn policy answers sent = (request, some next))
    (follows : requestsFrom policy answers fuel (sent + 1) next = .ok rest) :
    requestsFrom policy answers (fuel + 1) sent fetch = .ok (request :: rest) := by
  rw [requestsFrom, turns]
  simp only [follows]
  rfl

/-- With a turn for every redirect that is left, the loop ends by itself. -/
theorem exists_requestsFrom (hops : ℕ) (fetch : Fetch)
    (budget : fetch.redirectsFollowed + hops = policy.maxRedirects)
    (isTarget : IsTarget fetch.current) (sent : ℕ) :
    ∃ requests, Proper policy hops requests ∧
      ∀ fuel, hops < fuel → requestsFrom policy answers fuel sent fetch = .ok requests := by
  induction hops generalizing fetch sent with
  | zero =>
      rcases turns : fetch.turn policy answers sent with ⟨request, _ | next⟩
      · refine ⟨[request], proper_singleton ?_, fun fuel => requestsFrom_of_last turns⟩
        rwa [← @turn_target policy answers sent, turns] at isTarget
      · rcases of_turn turns with ⟨response, -, follows⟩
        rcases of_afterResponse follows with ⟨-, -, hopsLeft, -⟩
        exact absurd budget hopsLeft
  | succ hops ih =>
      rcases turns : fetch.turn policy answers sent with ⟨request, _ | next⟩
      · refine ⟨[request], proper_singleton ?_, ?_⟩
        · rwa [← @turn_target policy answers sent, turns] at isTarget
        · exact fun fuel enough => requestsFrom_of_last turns (Nat.zero_lt_of_lt enough)
      · rcases of_turn turns with ⟨response, rfl, follows⟩
        rcases of_afterResponse follows with ⟨followed, status, -, counted, targets⟩
        rcases ih next (by omega) (targets isTarget) (sent + 1) with ⟨rest, proper, ends⟩
        refine ⟨_, proper.cons followed status isTarget, ?_⟩
        intro fuel enough
        rcases Nat.exists_eq_add_one_of_ne_zero (Nat.ne_zero_of_lt enough) with ⟨fuel, rfl⟩
        exact requestsFrom_of_next turns (ends fuel (by omega))

/--
The loop for a candidate ends after at most `max_redirects + 1` requests (one
when redirects are not followed), goes on only after a redirect status, and
requests absolute paths without a fragment only.
-/
theorem requests_bounded {candidate : Text} (isTarget : IsTarget candidate) :
    ∃ requests, (∀ fuel, policy.maxRedirects < fuel →
        Fetch.requests policy answers fuel candidate = .ok requests) ∧
      requests.length ≤ policy.maxRedirects + 1 ∧
      (policy.follow = false → requests.length = 1) ∧
      requests.IsChain (fun request _ => ∃ response, request.answer = .response response ∧
        response.statusCode ∈ [301, 302, 303, 307, 308]) ∧
      ∀ request ∈ requests, IsTarget request.target := by
  rcases @exists_requestsFrom policy answers policy.maxRedirects (start candidate)
    (Nat.zero_add _) isTarget 0 with ⟨requests, proper, ends⟩
  exact ⟨requests, ends, proper.bounded, proper.single, proper.chained, proper.targets⟩

/-- A server that redirects a target to itself is asked three times when two hops are allowed. -/
theorem requests_bounded_of_cycle :
    ∃ requests, (∀ fuel, 2 < fuel →
        Fetch.requests { follow := true, maxRedirects := 2, scheme := [], authority := [] }
          (fun _ target => .response { statusCode := 302, location := target, body := [] }) fuel
          ['/'] = .ok requests) ∧
      requests.length ≤ 2 + 1 ∧
      (true = false → requests.length = 1) ∧
      requests.IsChain (fun request _ => ∃ response, request.answer = .response response ∧
        response.statusCode ∈ [301, 302, 303, 307, 308]) ∧
      ∀ request ∈ requests, IsTarget request.target :=
  @requests_bounded { follow := true, maxRedirects := 2, scheme := [], authority := [] }
    (fun _ target => .response { statusCode := 302, location := target, body := [] }) ['/']
    (by decide)

end Requests

end Fetch

end Abrade
