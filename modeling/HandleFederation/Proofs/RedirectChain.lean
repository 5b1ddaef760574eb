/-
This file says what a chain of redirects can be, without the loop that follows
it. A trail is a list of URLs in which every URL but the first is where the
answer to the one before it leads. Following redirects requests exactly the
longest trail the rules let it: it never leaves the trail, it holds every URL
to the rules before it is requested, and the sixth redirect ends it wherever it
leads. The content is one invariant of the loop, read twice: a run requests a
permitted trail, and it walks along any permitted trail that starts where it
does.
-/

import HandleFederation.Redirect

namespace HandleFederation.Redirect

/-- What requests give, after the requests before them, the latest first. -/
abbrev Fetch := List Url → Url → Except TransportFault Hop

/-- A URL that passes the rules on targets. -/
def IsPermitted (blocked : List String) (url : Url) : Prop :=
  checkTarget blocked url = .ok ()

/-! ### Trails -/

/-- An answer that sends on from a URL to another one. -/
def SendsOn (current next : Url) (answer : Except TransportFault Hop) : Prop :=
  ∃ location, answer = .ok (.redirect (some location)) ∧ current.join location = .ok next

/-- A list of URLs, requested after other ones, in which the answer to each URL sends on to the
next. -/
def IsTrail (fetch : Fetch) (before trail : List Url) : Prop :=
  ∀ front current next rest, trail = front ++ current :: next :: rest →
    SendsOn current next (fetch (front.reverse ++ before) current)

/-- An answer after which nothing more may be requested: a fault, a final response, a redirect
without a location, or with one that is no URL or leads to a target that is refused. -/
inductive Stops (blocked : List String) (current : Url) : Except TransportFault Hop → Prop
  | fault (fault : TransportFault) : Stops blocked current (.error fault)
  | final (response : Response) : Stops blocked current (.ok (.final response))
  | noLocation : Stops blocked current (.ok (.redirect none))
  | unreadable (location : String) (fault : UrlFault)
      (unread : current.join location = .error fault) :
      Stops blocked current (.ok (.redirect (some location)))
  | refused (location : String) (next : Url) (fault : TransportFault)
      (joined : current.join location = .ok next) (refusal : checkTarget blocked next = .error fault) :
      Stops blocked current (.ok (.redirect (some location)))

theorem isTrail_singleton (fetch : Fetch) (before : List Url) (current : Url) :
    IsTrail fetch before [current] := by
  intro front earlier next rest split
  have lengths := congrArg List.length split
  simp only [List.length_append, List.length_cons, List.length_nil] at lengths
  omega

/-- A trail is a first step and a trail from where that leads. -/
theorem isTrail_cons_cons (fetch : Fetch) (before : List Url) (current next : Url)
    (rest : List Url) :
    IsTrail fetch before (current :: next :: rest) ↔
      SendsOn current next (fetch before current) ∧ IsTrail fetch (current :: before) (next :: rest) := by
  constructor
  · intro trail
    refine ⟨trail [] current next rest rfl, fun front earlier later others split => ?_⟩
    have further := trail (current :: front) earlier later others (by rw [split, List.cons_append])
    rwa [List.reverse_cons, List.append_assoc, List.singleton_append] at further
  · rintro ⟨first, further⟩ front earlier later others split
    cases front with
    | nil =>
      simp only [List.nil_append, List.cons.injEq] at split
      obtain ⟨rfl, rfl, -⟩ := split
      exact first
    | cons head front =>
      simp only [List.cons_append, List.cons.injEq] at split
      obtain ⟨rfl, split⟩ := split
      have later := further front earlier later others split
      rwa [List.reverse_cons, List.append_assoc, List.singleton_append]

/-- An answer that stops a chain does not send on to a permitted target. -/
theorem not_stops_of_sendsOn {blocked : List String} {current next : Url}
    {answer : Except TransportFault Hop} (sends : SendsOn current next answer)
    (permitted : IsPermitted blocked next) : ¬ Stops blocked current answer := by
  obtain ⟨location, rfl, joined⟩ := sends
  rintro (_ | _ | _ | ⟨_, fault, unread⟩ | ⟨_, other, fault, read, refusal⟩)
  · rw [joined] at unread
    cases unread
  · rw [joined] at read
    cases read
    rw [IsPermitted, refusal] at permitted
    cases permitted

/-! ### One step -/

/-- A next step is given exactly below the limit, to a permitted target. -/
theorem nextHop_eq_ok_iff {blocked : List String} {followed : Nat} {current next : Url}
    {location : String} :
    nextHop blocked followed current location = .ok next ↔
      followed < limit ∧ current.join location = .ok next ∧ IsPermitted blocked next := by
  unfold nextHop IsPermitted
  split
  case isTrue reached =>
    simp only [reduceCtorEq, false_iff, not_and]
    omega
  case isFalse below =>
    have under : followed < limit := Nat.lt_of_not_le below
    cases joined : current.join location with
    | error fault => simp
    | ok target =>
      cases checked : checkTarget blocked target with
      | error fault =>
        simp only [checked, reduceCtorEq, Except.ok.injEq, false_iff, not_and]
        rintro - rfl
        simp [checked]
      | ok _ =>
        simp only [checked, under, Except.ok.injEq, true_and]
        exact ⟨fun same => ⟨same, same ▸ checked⟩, fun both => both.1⟩

/-- No next step is given where the answer stops a chain, or at the limit. -/
theorem stops_of_nextHop_eq_error {blocked : List String} {followed : Nat} {current : Url}
    {location : String} {fault : TransportFault} (within : followed ≤ limit)
    (refused : nextHop blocked followed current location = .error fault) :
    Stops blocked current (.ok (.redirect (some location))) ∨ followed = limit := by
  unfold nextHop at refused
  split at refused
  · exact Or.inr (by omega)
  · split at refused
    · rename_i unread
      exact Or.inl (.unreadable location _ unread)
    · rename_i next joined
      split at refused
      · rename_i refusal
        exact Or.inl (.refused location next _ joined refusal)
      · cases refused

/-- At the limit a redirect is one too many, wherever it leads. -/
theorem nextHop_at_limit (blocked : List String) (current : Url) (location : String) :
    nextHop blocked limit current location = .error (.tooManyRedirects limit) := by
  simp [nextHop]

variable (blocked : List String) (fetch : Fetch)

/-- The walk from a URL whose answer is a redirect with a location. -/
theorem walk_of_redirect {followed : Nat} {before : List Url} {current : Url} {location : String}
    (answer : fetch before current = .ok (.redirect (some location))) :
    walk blocked fetch followed before current =
      match nextHop blocked followed current location with
      | .error fault => ⟨[current], .error fault⟩
      | .ok next =>
        let rest := walk blocked fetch (followed + 1) (current :: before) next
        ⟨current :: rest.requested, rest.result⟩ := by
  rw [walk]
  simp only [answer]
  split <;> simp_all

/-- The walk from a URL whose answer sends on to a permitted target, below the limit. -/
theorem walk_of_sendsOn {followed : Nat} {before : List Url} {current next : Url}
    (below : followed < limit) (sends : SendsOn current next (fetch before current))
    (permitted : IsPermitted blocked next) :
    walk blocked fetch followed before current =
      let rest := walk blocked fetch (followed + 1) (current :: before) next
      ⟨current :: rest.requested, rest.result⟩ := by
  obtain ⟨location, answer, joined⟩ := sends
  rw [walk_of_redirect blocked fetch answer, nextHop_eq_ok_iff.mpr ⟨below, joined, permitted⟩]

/-- The walk from a URL whose answer is a final response. -/
theorem walk_of_final {followed : Nat} {before : List Url} {current : Url} {response : Response}
    (answer : fetch before current = .ok (.final response)) :
    walk blocked fetch followed before current = ⟨[current], .ok response⟩ := by
  rw [walk, answer]

/-- The walk from a URL whose answer is one redirect too many. -/
theorem walk_of_excess {before : List Url} {current : Url} {location : String}
    (answer : fetch before current = .ok (.redirect (some location))) :
    walk blocked fetch limit before current = ⟨[current], .error (.tooManyRedirects limit)⟩ := by
  rw [walk_of_redirect blocked fetch answer, nextHop_at_limit]

/-! ### What a run requests -/

/-- What holds of a walk from a URL after some redirects: it requests that URL and then a permitted
trail, it goes on until an answer stops it or the limit is reached, and a response is that of the last
request. -/
structure Chain.IsSound (followed : Nat) (before : List Url) (current : Url) (chain : Chain) :
    Prop where
  startsAt : ∃ later, chain.requested = current :: later ∧ ∀ url ∈ later, IsPermitted blocked url
  isTrail : IsTrail fetch before chain.requested
  withinLimit : followed + chain.requested.length ≤ limit + 1
  goesOn : ∀ front last, chain.requested = front ++ [last] →
    Stops blocked last (fetch (front.reverse ++ before) last) ∨ followed + front.length = limit
  responds : ∀ response, chain.result = .ok response → ∃ front last,
    chain.requested = front ++ [last] ∧ fetch (front.reverse ++ before) last = .ok (.final response)

/-- A chain that ends with its first request is sound when that was to be its end, and it gave no
response, or this one. -/
theorem Chain.isSound_singleton {followed : Nat} {before : List Url} {current : Url}
    {result : Exchange} (within : followed ≤ limit)
    (ends : Stops blocked current (fetch before current) ∨ followed = limit)
    (responds : ∀ response, result = .ok response → fetch before current = .ok (.final response)) :
    Chain.IsSound blocked fetch followed before current ⟨[current], result⟩ where
  startsAt := ⟨[], rfl, by simp⟩
  isTrail := isTrail_singleton fetch before current
  withinLimit := Nat.add_le_add_right within 1
  goesOn := by
    intro front last split
    cases front with
    | nil =>
      rw [List.nil_append, List.singleton_inj] at split
      rw [← split]
      exact ends
    | cons head front => simp at split
  responds response given := ⟨[], current, rfl, responds response given⟩

theorem isSound_walk {followed : Nat} (before : List Url) (current : Url)
    (within : followed ≤ limit) :
    Chain.IsSound blocked fetch followed before current (walk blocked fetch followed before current) := by
  induction followed, before, current using walk.induct blocked fetch with
  | case1 followed before current fault answer =>
    rw [walk, answer]
    exact Chain.isSound_singleton blocked fetch within (Or.inl (answer ▸ .fault fault)) (by simp)
  | case2 followed before current response answer =>
    rw [walk_of_final blocked fetch answer]
    refine Chain.isSound_singleton blocked fetch within (Or.inl (answer ▸ .final response)) ?_
    intro given same
    cases same
    exact answer
  | case3 followed before current answer =>
    rw [walk, answer]
    exact Chain.isSound_singleton blocked fetch within (Or.inl (answer ▸ .noLocation)) (by simp)
  | case4 followed before current location answer fault refused =>
    rw [walk_of_redirect blocked fetch answer, refused]
    refine Chain.isSound_singleton blocked fetch within ?_ (by simp)
    rw [answer]
    exact stops_of_nextHop_eq_error within refused
  | case5 followed before current location answer next given inductionHypothesis =>
    obtain ⟨below, joined, permitted⟩ := nextHop_eq_ok_iff.mp given
    have sends : SendsOn current next (fetch before current) := ⟨location, answer, joined⟩
    rw [walk_of_sendsOn blocked fetch below sends permitted]
    obtain ⟨⟨later, requested, allowed⟩, trail, bound, goesOn, responds⟩ := inductionHypothesis below
    refine ⟨⟨_, rfl, ?_⟩, ?_, ?_, ?_, ?_⟩
    · rw [requested]
      exact List.forall_mem_cons.mpr ⟨permitted, allowed⟩
    · dsimp only
      rw [requested] at trail ⊢
      exact (isTrail_cons_cons fetch before current next later).mpr ⟨sends, trail⟩
    · simp only [List.length_cons]
      omega
    · intro front last split
      cases front with
      | nil => simp [requested] at split
      | cons head front =>
        simp only [List.cons_append, List.cons.injEq] at split
        obtain ⟨rfl, split⟩ := split
        rw [List.reverse_cons, List.append_assoc, List.singleton_append, List.length_cons]
        refine (goesOn front last split).imp_right fun atLimit => ?_
        omega
    · intro response same
      obtain ⟨front, last, split, final⟩ := responds response same
      refine ⟨current :: front, last, congrArg (List.cons current) split, ?_⟩
      rwa [List.reverse_cons, List.append_assoc, List.singleton_append]

/-! ### A run walks along every permitted trail -/

/-- The walk from the first URL of a permitted trail comes to its last URL. -/
theorem walk_along (front : List Url) {followed : Nat} {before : List Url} {first last : Url}
    {later : List Url} (split : first :: later = front ++ [last])
    (within : followed + front.length ≤ limit) (trail : IsTrail fetch before (first :: later))
    (permitted : ∀ url ∈ later, IsPermitted blocked url) :
    (walk blocked fetch followed before first).result =
      (walk blocked fetch (followed + front.length) (front.reverse ++ before) last).result := by
  induction front generalizing followed before first later with
  | nil =>
    simp only [List.nil_append, List.cons.injEq] at split
    rw [split.1]
    rfl
  | cons head front inductionHypothesis =>
    simp only [List.cons_append, List.cons.injEq] at split
    obtain ⟨rfl, rfl⟩ := split
    obtain ⟨next, rest, onward⟩ : ∃ next rest, front ++ [last] = next :: rest :=
      List.exists_cons_of_ne_nil (by simp)
    rw [onward] at trail permitted
    obtain ⟨sends, further⟩ := (isTrail_cons_cons fetch before first next rest).mp trail
    simp only [List.length_cons] at within
    rw [walk_of_sendsOn blocked fetch (by omega) sends (permitted next List.mem_cons_self),
      inductionHypothesis onward.symm (by omega) further
        fun url member => permitted url (List.mem_cons_of_mem next member),
      List.length_cons, List.reverse_cons, List.append_assoc, List.singleton_append,
      Nat.add_right_comm, Nat.add_assoc]

/-- Following redirects from a permitted URL is walking from it. -/
theorem follow_of_permitted {url : Url} (permitted : IsPermitted blocked url) :
    follow blocked fetch url = walk blocked fetch 0 [] url := by
  rw [follow, permitted]

/-- Nothing is requested when the first URL is refused. -/
theorem follow_of_refused {url : Url} {fault : TransportFault}
    (refusal : checkTarget blocked url = .error fault) :
    follow blocked fetch url = ⟨[], .error fault⟩ := by
  rw [follow, refusal]

/-- A response is given by a permitted trail within the limit that ends in it. -/
theorem follow_result_eq_ok_iff (url : Url) (response : Response) :
    (follow blocked fetch url).result = .ok response ↔
      ∃ front last later, front ++ [last] = url :: later ∧ front.length ≤ limit ∧
        IsTrail fetch [] (url :: later) ∧ (∀ target ∈ url :: later, IsPermitted blocked target) ∧
        fetch front.reverse last = .ok (.final response) := by
  constructor
  · intro given
    cases checked : checkTarget blocked url with
    | error fault =>
      rw [follow_of_refused blocked fetch checked] at given
      cases given
    | ok _ =>
      rw [follow_of_permitted blocked fetch checked] at given
      obtain ⟨⟨later, requested, allowed⟩, trail, bound, -, responds⟩ :=
        isSound_walk blocked fetch [] url (Nat.zero_le limit)
      obtain ⟨front, last, split, final⟩ := responds response given
      rw [requested] at trail split bound
      rw [split, List.length_append, List.length_singleton] at bound
      rw [List.append_nil] at final
      exact ⟨front, last, later, split.symm, by omega, trail,
        List.forall_mem_cons.mpr ⟨checked, allowed⟩, final⟩
  · rintro ⟨front, last, later, split, within, trail, permitted, final⟩
    obtain ⟨start, allowed⟩ := List.forall_mem_cons.mp permitted
    rw [follow_of_permitted blocked fetch start,
      walk_along blocked fetch front split.symm (by omega) trail allowed, List.append_nil,
      walk_of_final blocked fetch final]

/-- One redirect more than the limit ends a chain, wherever it leads. -/
theorem follow_result_of_excess (url : Url) (front : List Url) (last : Url) (later : List Url)
    (location : String) (split : front ++ [last] = url :: later) (length : front.length = limit)
    (trail : IsTrail fetch [] (url :: later))
    (permitted : ∀ target ∈ url :: later, IsPermitted blocked target)
    (excess : fetch front.reverse last = .ok (.redirect (some location))) :
    (follow blocked fetch url).result = .error (.tooManyRedirects limit) := by
  obtain ⟨start, allowed⟩ := List.forall_mem_cons.mp permitted
  rw [follow_of_permitted blocked fetch start,
    walk_along blocked fetch front split.symm (by omega) trail allowed, List.append_nil, length,
    Nat.zero_add, walk_of_excess blocked fetch excess]

/-- Following redirects makes at most six requests. The URLs requested are a permitted trail from
the first one, which goes on until an answer stops it or five redirects were followed, and nothing is
requested after an answer that stops it. A response is given exactly when a permitted trail of at most
five redirects ends in it, and a sixth redirect with a location is one too many, wherever it leads. -/
theorem follow_requests_permitted_trail (url : Url) :
    let chain := follow blocked fetch url
    chain.requested.length ≤ 6 ∧
    (∀ first ∈ chain.requested.head?, first = url) ∧
    IsTrail fetch [] chain.requested ∧
    (∀ target ∈ chain.requested, IsPermitted blocked target) ∧
    (chain.requested = [] ↔ ¬ IsPermitted blocked url) ∧
    (∀ front last, chain.requested = front ++ [last] →
      Stops blocked last (fetch front.reverse last) ∨ front.length = 5) ∧
    (∀ front current rest, chain.requested = front ++ current :: rest →
      Stops blocked current (fetch front.reverse current) → rest = []) ∧
    (∀ response, chain.result = .ok response ↔
      ∃ front last later, front ++ [last] = url :: later ∧ front.length ≤ 5 ∧
        IsTrail fetch [] (url :: later) ∧ (∀ target ∈ url :: later, IsPermitted blocked target) ∧
        fetch front.reverse last = .ok (.final response)) ∧
    (∀ front last later location, front ++ [last] = url :: later → front.length = 5 →
      IsTrail fetch [] (url :: later) → (∀ target ∈ url :: later, IsPermitted blocked target) →
      fetch front.reverse last = .ok (.redirect (some location)) →
      chain.result = .error (.tooManyRedirects 5)) := by
  have responses := follow_result_eq_ok_iff blocked fetch url
  have excess := follow_result_of_excess blocked fetch url
  cases checked : checkTarget blocked url with
  | error fault =>
    have nothing := follow_of_refused blocked fetch checked
    have requested : (follow blocked fetch url).requested = [] := by rw [nothing]
    have refused : ¬ IsPermitted blocked url := by simp [IsPermitted, checked]
    refine ⟨by simp [requested], by simp [requested], ?_, by simp [requested],
      iff_of_true requested refused, by simp [requested], by simp [requested], responses, excess⟩
    intro front current next rest split
    simp [requested] at split
  | ok _ =>
    have walked := follow_of_permitted blocked fetch checked
    obtain ⟨⟨later, requested, allowed⟩, trail, bound, goesOn, -⟩ :=
      isSound_walk blocked fetch [] url (Nat.zero_le limit)
    rw [← walked] at requested trail bound goesOn
    simp only [List.append_nil, Nat.zero_add] at goesOn
    have permitted : ∀ target ∈ (follow blocked fetch url).requested, IsPermitted blocked target := by
      rw [requested]
      exact List.forall_mem_cons.mpr ⟨checked, allowed⟩
    refine ⟨by simpa [limit] using bound, by simp [requested], trail, permitted,
      iff_of_false (by simp [requested]) (not_not_intro checked), goesOn, ?_, responses, excess⟩
    intro front current rest split stops
    cases rest with
    | nil => rfl
    | cons next rest =>
      have sends := trail front current next rest split
      rw [List.append_nil] at sends
      refine absurd stops (not_stops_of_sendsOn sends (permitted next ?_))
      simp [split]

end HandleFederation.Redirect
