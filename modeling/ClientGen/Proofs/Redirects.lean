/-
# Redirects are bounded, and the first other outcome decides

A chain of requests is given here by a relation of its own: which URL request `k`
goes to, if it comes to that.  The first goes to the given URL, and each further one
to the place that the response before refers to, joined to the URL of that response.

Following a chain is compared with it.  The requests are those of the chain, in order,
and never more than one beyond the limit.  What comes of them is decided by the first
request that is not referred on; if there is none up to the limit, the redirects are too
many.  A place that cannot be joined to a URL ends the chain as well.  Nothing is
assumed about the client, so the chains include endless and cyclic ones.
-/
import ClientGen.Fetch

namespace ClientGen.Fetch

variable {client : HttpClient} {limit : Int} {url : Text}

/-! ## Chains of requests -/

/-- The outcome is a response that refers to a place: its status is one of redirects,
and the place is not empty. -/
def RefersTo (outcome : Outcome) (r : Response) (place : Text) : Prop :=
  outcome = .response r ∧ 300 ≤ r.status ∧ r.status < 400 ∧ r.location = some place ∧ place ≠ []

/-- Request `k` of the chain that begins at a URL goes to the last argument. -/
inductive Reaches (client : HttpClient) (url : Text) : Nat → Text → Prop
  | start : Reaches client url 0 url
  | next {k : Nat} {u place following : Text} {r : Response} (before : Reaches client url k u)
      (refers : RefersTo (client k u).outcome r place)
      (joined : Reference.join r.url place = .ok following) :
      Reaches client url (k + 1) following

/-- Request `k` of the chain is made and is referred on. -/
def Redirected (client : HttpClient) (url : Text) (k : Nat) : Prop :=
  ∃ u r place, Reaches client url k u ∧ RefersTo (client k u).outcome r place

/-- A referral is a response that refers to a place. -/
theorem referral?_eq_some_iff {outcome : Outcome} {r : Response} {place : Text} :
    referral? outcome = some (r, place) ↔ RefersTo outcome r place := by
  cases outcome with
  | failed _ | broke _ => simp [referral?, RefersTo]
  | response r' =>
      constructor
      · intro h
        obtain ⟨found, given, same⟩ := Option.map_eq_some_iff.mp h
        obtain ⟨rfl, rfl⟩ := Prod.mk.inj same
        rw [redirects] at given
        split at given
        · rename_i status
          obtain ⟨location, nonempty⟩ := Option.filter_eq_some_iff.mp given
          exact ⟨rfl, status.1, status.2, location, by simpa using nonempty⟩
        · cases given
      · rintro ⟨same, low, high, location, nonempty⟩
        obtain rfl := Outcome.response.inj same
        simp [referral?, redirects, low, high, location, nonempty]

/-- An outcome that refers to no place is no referral. -/
theorem referral?_eq_none {outcome : Outcome} (h : ∀ r place, ¬ RefersTo outcome r place) :
    referral? outcome = none := by
  cases referral : referral? outcome with
  | none => rfl
  | some found => exact absurd (referral?_eq_some_iff.mp referral) (h found.1 found.2)

/-- An outcome refers to one place at most. -/
theorem RefersTo.unique {outcome : Outcome} {r r' : Response} {place place' : Text}
    (h : RefersTo outcome r place) (h' : RefersTo outcome r' place') : r = r' ∧ place = place' := by
  have same := (referral?_eq_some_iff.mpr h).symm.trans (referral?_eq_some_iff.mpr h')
  exact Prod.mk.inj (Option.some.inj same)

/-- A request goes to one URL at most. -/
theorem Reaches.unique {k : Nat} {u u' : Text} (h : Reaches client url k u)
    (h' : Reaches client url k u') : u = u' := by
  induction h generalizing u' with
  | start => cases h' with | start => rfl
  | next before refers joined ih =>
      cases h' with
      | next before' refers' joined' =>
          obtain rfl := ih before'
          obtain ⟨rfl, rfl⟩ := refers.unique refers'
          exact Except.ok.inj (joined.symm.trans joined')

/-- A chain goes on up to a request and beyond, stops at the first request that is not
referred on, or stops at one whose place cannot be joined. -/
theorem chain_cases (client : HttpClient) (url : Text) (last : Nat) :
    Redirected client url last ∨
      (∃ k ≤ last, ∃ u, Reaches client url k u ∧ ¬ Redirected client url k) ∨
      ∃ k < last, ∃ u r place fault, Reaches client url k u ∧
        RefersTo (client k u).outcome r place ∧ Reference.join r.url place = .error fault := by
  have stops : ∀ k u, Reaches client url k u →
      Redirected client url k ∨
        ∃ k' ≤ k, ∃ u, Reaches client url k' u ∧ ¬ Redirected client url k' := by
    intro k u here
    by_cases on : Redirected client url k
    · exact Or.inl on
    · exact Or.inr ⟨k, Nat.le_refl k, u, here, on⟩
  induction last with
  | zero => exact (stops 0 url .start).imp_right Or.inl
  | succ last ih =>
      rcases ih with ⟨u, r, place, here, refers⟩ | ⟨k, low, stopped⟩ | ⟨k, low, astray⟩
      · cases joined : Reference.join r.url place with
        | error fault =>
            refine Or.inr (Or.inr ⟨last, Nat.lt_succ_self last, u, r, place, fault, ?_⟩)
            exact ⟨here, refers, joined⟩
        | ok following =>
            exact (stops (last + 1) following (here.next refers joined)).imp_right Or.inl
      · exact Or.inr (Or.inl ⟨k, Nat.le_succ_of_le low, stopped⟩)
      · exact Or.inr (Or.inr ⟨k, Nat.lt_succ_of_lt low, astray⟩)

/-! ## Following a chain -/

/-- A request that is not referred on is the last, and its outcome decides. -/
theorem follow_stop (limit : Int) (left : Nat) {k : Nat} {u : Text}
    (stop : ∀ r place, ¬ RefersTo (client k u).outcome r place) :
    (follow client limit left k u).result = decide u (client k u).outcome ∧
      (follow client limit left k u).asked = [u] := by
  rw [follow.eq_def]
  simp [referral?_eq_none stop]

/-- A request that is referred on where no redirect is left is one too many. -/
theorem follow_limit (limit : Int) {k : Nat} {u place : Text} {r : Response}
    (refers : RefersTo (client k u).outcome r place) :
    (follow client limit 0 k u).result = .error (.failure (.tooManyRedirects u limit)) ∧
      (follow client limit 0 k u).asked = [u] := by
  rw [follow.eq_def]
  simp [referral?_eq_some_iff.mpr refers]

/-- A request that is referred to a place that cannot be joined is the last. -/
theorem follow_astray (limit : Int) (left : Nat) {k : Nat} {u place : Text} {r : Response}
    {fault : ReferenceFault} (refers : RefersTo (client k u).outcome r place)
    (astray : Reference.join r.url place = .error fault) :
    (follow client limit (left + 1) k u).result =
        .error (.breakdown (.badValue fault.message)) ∧
      (follow client limit (left + 1) k u).asked = [u] := by
  rw [follow.eq_def]
  simp [referral?_eq_some_iff.mpr refers, astray]

/-- A request that is referred on is followed by the next, with one redirect less left. -/
theorem follow_next (limit : Int) (left : Nat) {k : Nat} {u place following : Text} {r : Response}
    (refers : RefersTo (client k u).outcome r place)
    (joined : Reference.join r.url place = .ok following) :
    (follow client limit (left + 1) k u).result =
        (follow client limit left (k + 1) following).result ∧
      (follow client limit (left + 1) k u).asked =
        u :: (follow client limit left (k + 1) following).asked := by
  rw [follow.eq_def]
  simp [referral?_eq_some_iff.mpr refers, joined]

/-- The URLs are those of the first requests of the chain, in order; `count` says how
many. -/
def Asks (client : HttpClient) (url : Text) (count : Nat) (asked : List Text) : Prop :=
  asked.length = count ∧ ∀ i u, asked[i]? = some u → Reaches client url i u

/-- One more request may be asked for behind the first ones. -/
theorem Asks.concat {k : Nat} {u : Text} {asked : List Text} (h : Asks client url k asked)
    (here : Reaches client url k u) : Asks client url (k + 1) (asked ++ [u]) := by
  obtain ⟨length, reached⟩ := h
  refine ⟨by simp [length], ?_⟩
  intro i v at_i
  rcases Nat.lt_or_ge i asked.length with inside | behind
  · rw [List.getElem?_append_left inside] at at_i
    exact reached i v at_i
  · rw [List.getElem?_append_right behind] at at_i
    obtain ⟨first, rfl⟩ : i - asked.length = 0 ∧ u = v := by
      simpa [List.getElem?_singleton] using at_i
    have isLast : i = k := by omega
    rw [isLast]
    exact here

/-- Where a chain reaches a request, following it from the start is following it from
there, with as many redirects less left as there were requests before. -/
theorem follow_reaches (limit : Int) {k : Nat} {u : Text} (here : Reaches client url k u)
    (left : Nat) :
    (follow client limit (left + k) 0 url).result = (follow client limit left k u).result ∧
      ∃ front, Asks client url k front ∧ (follow client limit (left + k) 0 url).asked =
        front ++ (follow client limit left k u).asked := by
  induction here generalizing left with
  | start => exact ⟨rfl, [], ⟨rfl, by simp⟩, rfl⟩
  | @next k u place following r before refers joined ih =>
      obtain ⟨result, front, asks, asked⟩ := ih (left + 1)
      obtain ⟨nextResult, nextAsked⟩ := follow_next limit left refers joined
      have total : left + (k + 1) = left + 1 + k := by omega
      refine ⟨?_, front ++ [u], asks.concat before, ?_⟩
      · rw [total, result, nextResult]
      · rw [total, asked, nextAsked]
        simp

/-- Where a request of the chain is the last, fetching ends with it. -/
theorem fromNetwork_of_last {k : Nat} {u : Text} {result : Except GenError Fields}
    (within : k ≤ limit.toNat) (here : Reaches client url k u)
    (last : (follow client limit (limit.toNat - k) k u).result = result ∧
      (follow client limit (limit.toNat - k) k u).asked = [u]) :
    (fromNetwork client limit url).result = result ∧
      Asks client url (k + 1) (fromNetwork client limit url).asked := by
  obtain ⟨same, front, asks, asked⟩ := follow_reaches limit here (limit.toNat - k)
  rw [Nat.sub_add_cancel within] at same asked
  obtain ⟨lastResult, lastAsked⟩ := last
  rw [fromNetwork, same, asked, lastAsked]
  exact ⟨lastResult, asks.concat here⟩

/-! ## What comes of fetching -/

/-- If all requests up to the limit are referred on, the redirects are too many. -/
theorem fromNetwork_limit (on : Redirected client url limit.toNat) :
    ∃ u, Reaches client url limit.toNat u ∧
      (fromNetwork client limit url).result = .error (.failure (.tooManyRedirects u limit)) ∧
      Asks client url (limit.toNat + 1) (fromNetwork client limit url).asked := by
  obtain ⟨u, r, place, here, refers⟩ := on
  have last := follow_limit limit refers
  rw [← Nat.sub_self limit.toNat] at last
  exact ⟨u, here, fromNetwork_of_last (Nat.le_refl _) here last⟩

/-- The first request that is not referred on decides. -/
theorem fromNetwork_stop {k : Nat} {u : Text} (within : k ≤ limit.toNat)
    (here : Reaches client url k u) (stop : ¬ Redirected client url k) :
    (fromNetwork client limit url).result = decide u (client k u).outcome ∧
      Asks client url (k + 1) (fromNetwork client limit url).asked := by
  apply fromNetwork_of_last within here
  apply follow_stop
  intro r place refers
  exact stop ⟨u, r, place, here, refers⟩

/-- A place that cannot be joined to the URL of its response breaks the chain off. -/
theorem fromNetwork_astray {k : Nat} {u place : Text} {r : Response} {fault : ReferenceFault}
    (within : k < limit.toNat) (here : Reaches client url k u)
    (refers : RefersTo (client k u).outcome r place)
    (astray : Reference.join r.url place = .error fault) :
    (fromNetwork client limit url).result = .error (.breakdown (.badValue fault.message)) ∧
      Asks client url (k + 1) (fromNetwork client limit url).asked := by
  apply fromNetwork_of_last (Nat.le_of_lt within) here
  obtain ⟨left, more⟩ := Nat.exists_eq_add_of_lt within
  have some : limit.toNat - k = left + 1 := by omega
  rw [some]
  exact follow_astray limit left refers astray

end ClientGen.Fetch
