import Courier.Http.Exchange
import Courier.Proofs.Http.Form
import Courier.Proofs.Url.Written

/-!
# What is sent

A request leaves if its method and its headers can be sent, its URL is a web URL that can be the
target of a request, and the network takes the message. The URL of the message is the one that was
read, without credentials and fragment, and with the pairs of the query behind its own query. Path
and query can be read off it. A request for a tunnel names host and port alone.
-/

namespace Courier.Http

/-- The URL that a request is aimed at: credentials that go into a header are taken from it, and the
pairs of the query are added. -/
def aimed (u : Url) (pairs : List (String × String)) : Url :=
  withPairs (if (credentials? u).isSome then { u with username := [], password := none } else u)
    pairs

/-- The URL of a message, unless it asks for a tunnel. -/
def sent (u : Url) (pairs : List (String × String)) : Url :=
  { withPairs u pairs with fragment := none, username := [], password := none }

theorem target_of_parse {url : String} {u : Url} (h : Url.parse url = .ok u)
    (pairs : List (String × String)) :
    target url pairs =
      if !u.hasHost then refuseUrl .scheme u
      else if !canSend (aimed u pairs) then refuseUrl .scheme (aimed u pairs)
      else if !isTarget (aimed u pairs) then refuseUrl .hostText (aimed u pairs)
      else .ok ⟨aimed u pairs, credentials? u⟩ := by
  unfold target
  rw [h]
  rfl

theorem target_eq_ok_iff {url : String} {pairs : List (String × String)} {t : Target} :
    target url pairs = .ok t ↔ ∃ u, Url.parse url = .ok u ∧ u.hasHost = true ∧
      canSend (aimed u pairs) = true ∧ isTarget (aimed u pairs) = true ∧
      t = ⟨aimed u pairs, credentials? u⟩ := by
  cases hparse : Url.parse url with
  | error e => simp [target, hparse]
  | ok u =>
    rw [target_of_parse hparse]
    simp only [Except.ok.injEq, exists_eq_left']
    cases u.hasHost with
    | false => simp [refuseUrl]
    | true =>
      cases canSend (aimed u pairs) with
      | false => simp [refuseUrl]
      | true =>
        cases isTarget (aimed u pairs) with
        | false => simp [refuseUrl]
        | true =>
          simp only [Bool.not_true, Bool.false_eq_true, if_false, Except.ok.injEq, true_and]
          exact eq_comm

/-- The URL of a request, seen from the base. -/
def resolvedUrl (settings : Settings) (request : Request) : String :=
  Url.resolve (request.baseUrl.or settings.baseUrl) request.url

theorem check_eq_ok_iff {settings : Settings} {request : Request} {t : Target} :
    check settings request = .ok t ↔ isToken request.method.token = true ∧
      badHeader? (givenHeaders settings request) = none ∧
      target (resolvedUrl settings request) (queryOf request) = .ok t := by
  unfold check
  cases isToken request.method.token with
  | false => simp
  | true =>
    cases badHeader? (givenHeaders settings request) with
    | some name => simp
    | none => simp [resolvedUrl]

/-- **A message leaves** if all checks pass and the network takes it. -/
theorem sends_iff {settings : Settings} {network : Network} {request : Request}
    {wire : WireRequest} :
    (exchange settings network request).1 = some wire ↔
      ∃ t, check settings request = .ok t ∧ message settings request t = wire ∧
        (network wire (patience settings request)).leaves = true := by
  unfold exchange
  cases check settings request with
  | error e => simp
  | ok t =>
    simp only [Option.ite_none_right_eq_some, Option.some.injEq, Except.ok.injEq, exists_eq_left']
    constructor
    · rintro ⟨hleaves, rfl⟩
      exact ⟨rfl, hleaves⟩
    · rintro ⟨rfl, hleaves⟩
      exact ⟨hleaves, rfl⟩

theorem canSend_iff {u : Url} :
    canSend u = true ↔ u.scheme = "http".toList ∨ u.scheme = "https".toList := by
  rw [canSend, Bool.or_eq_true, decide_eq_true_iff, decide_eq_true_iff]

theorem schemeKind_of_canSend {u : Url} (h : canSend u = true) :
    Url.schemeKind u.scheme = .web := by
  rcases canSend_iff.mp h with h | h
  · rw [h]
    rfl
  · rw [h]
    rfl

theorem scheme_aimed (u : Url) (pairs : List (String × String)) :
    (aimed u pairs).scheme = u.scheme := by
  unfold aimed withPairs
  split <;> split <;> rfl

theorem sent_aimed (u : Url) (pairs : List (String × String)) :
    { aimed u pairs with fragment := none, username := [], password := none } = sent u pairs := by
  unfold aimed sent withPairs
  split <;> split <;> rfl

theorem canSend_aimed (u : Url) (pairs : List (String × String)) :
    canSend (aimed u pairs) = canSend u := by
  rw [canSend, canSend, scheme_aimed]

theorem hostAndPort_aimed (u : Url) (pairs : List (String × String)) :
    (aimed u pairs).hostAndPort = u.hostAndPort := by
  unfold aimed withPairs
  split <;> split <;> rfl

/-- The authority of a URL as a tunnel to it is asked for: credentials are in it if they could not
be read. -/
def authority (u : Url) : List Char :=
  if (credentials? u).isSome then u.hostAndPort else u.credentialsText ++ u.hostAndPort

theorem authority_aimed (u : Url) (pairs : List (String × String)) :
    (aimed u pairs).credentialsText ++ (aimed u pairs).hostAndPort = authority u := by
  rw [hostAndPort_aimed]
  unfold authority aimed withPairs
  split <;> split <;> rfl

/-- What a message says of a URL: its authority if a tunnel is asked for, and else what is sent of
it. -/
def saidUrl (method : String) (u : Url) (pairs : List (String × String)) : String :=
  if method = "CONNECT" then String.ofList (authority u) else (sent u pairs).text

theorem wireUrl_aimed (method : String) (u : Url) (pairs : List (String × String)) :
    wireUrl method (aimed u pairs) = saidUrl method u pairs := by
  rw [wireUrl, saidUrl, authority_aimed, sent_aimed]

/-- **The URL of a message** is that of the request. -/
theorem saidUrl_of_sends {settings : Settings} {network : Network} {request : Request}
    {wire : WireRequest} (h : (exchange settings network request).1 = some wire) :
    ∃ u, Url.parse (resolvedUrl settings request) = .ok u ∧ Url.schemeKind u.scheme = .web ∧
      wire.url = saidUrl request.method.token u (queryOf request) := by
  obtain ⟨t, hcheck, rfl, -⟩ := sends_iff.mp h
  obtain ⟨-, -, htarget⟩ := check_eq_ok_iff.mp hcheck
  obtain ⟨u, hparse, -, hsend, -, rfl⟩ := target_eq_ok_iff.mp htarget
  rw [canSend_aimed] at hsend
  refine ⟨u, hparse, schemeKind_of_canSend hsend, ?_⟩
  rw [← wireUrl_aimed]
  rfl

/-- A message that asks for no tunnel has path and query of its URL. -/
theorem url_of_sends {settings : Settings} {network : Network} {request : Request}
    {wire : WireRequest} (hmethod : request.method.token ≠ "CONNECT")
    (h : (exchange settings network request).1 = some wire) :
    ∃ u, Url.parse (resolvedUrl settings request) = .ok u ∧
      Url.schemeKind u.scheme = .web ∧ wire.url = (sent u (queryOf request)).text := by
  obtain ⟨u, hparse, hweb, hurl⟩ := saidUrl_of_sends h
  rw [saidUrl, if_neg hmethod] at hurl
  exact ⟨u, hparse, hweb, hurl⟩

/-- A request with a web URL leaves, if its URL can be a target and the rest can be sent. -/
theorem sends_of_parse {settings : Settings} {network : Network} {request : Request}
    (hmethod : isToken request.method.token = true)
    (hheaders : badHeader? (givenHeaders settings request) = none)
    (hnetwork : ∀ wire time, (network wire time).leaves = true) {u : Url}
    (hparse : Url.parse (resolvedUrl settings request) = .ok u) (hhost : u.hasHost = true)
    (hsend : canSend u = true) (htarget : isTarget (aimed u (queryOf request)) = true) :
    ∃ wire, (exchange settings network request).1 = some wire := by
  rw [← canSend_aimed u (queryOf request)] at hsend
  have ht : target (resolvedUrl settings request) (queryOf request)
      = .ok ⟨aimed u (queryOf request), credentials? u⟩ :=
    target_eq_ok_iff.mpr ⟨u, hparse, hhost, hsend, htarget, rfl⟩
  have hcheck := check_eq_ok_iff.mpr ⟨hmethod, hheaders, ht⟩
  exact ⟨_, sends_iff.mpr ⟨_, hcheck, rfl, hnetwork _ _⟩⟩

/-! ## Path and query of a message -/

theorem query_sent (u : Url) (pairs : List (String × String)) :
    (sent u pairs).query
      = if pairs.isEmpty then u.query else some (Form.append (u.query.getD []) pairs) := by
  unfold sent withPairs
  split <;> rfl

theorem path_sent (u : Url) (pairs : List (String × String)) : (sent u pairs).path = u.path := by
  unfold sent withPairs
  split <;> rfl

theorem isReadable_sent {u : Url} (h : Url.IsReadable u) (pairs : List (String × String)) :
    Url.IsReadable (sent u pairs) := by
  have hsame : (sent u pairs).scheme = u.scheme ∧ (sent u pairs).host = u.host := by
    unfold sent withPairs
    split <;> exact ⟨rfl, rfl⟩
  refine ⟨?_, ?_, ?_, ?_, ?_⟩
  · rw [Url.hasHost, hsame.2]
    exact h.hasHost
  · rw [hsame.1]
    exact h.scheme
  · rw [hsame.2]
    exact h.host
  · rw [path_sent]
    exact h.path
  · intro q hq
    rw [query_sent] at hq
    split at hq
    · exact h.query q hq
    · obtain rfl := Option.some.inj hq
      refine Form.numberSign_not_mem_append ?_ pairs
      cases hown : u.query with
      | none => simp
      | some own => exact h.query own hown

/-- The query of a message. -/
theorem queryIn_sent {u : Url} (h : Url.IsReadable u) (pairs : List (String × String)) :
    Url.queryIn (sent u pairs).text
      = if pairs.isEmpty then u.query else some (Form.append (u.query.getD []) pairs) := by
  rw [Url.queryIn_text (isReadable_sent h pairs) rfl rfl rfl, query_sent]

/-- The path of a message. -/
theorem pathIn_sent {u : Url} (h : Url.IsReadable u) (pairs : List (String × String))
    {names : List (List Char)} (hnames : u.path = .segments names) (hne : names ≠ [])
    (hpath : ∀ n ∈ names, Url.Unmarked n) : Url.pathIn (sent u pairs).text = names := by
  refine Url.pathIn_text (isReadable_sent h pairs) rfl rfl rfl ?_ hne hpath
  rw [path_sent, hnames]

end Courier.Http
