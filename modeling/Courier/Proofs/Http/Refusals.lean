import Courier.Proofs.Http.StatusTests
import Courier.Proofs.Url.Resolving

/-!
# Requests that are refused

Before anything is sent, a request is checked for three things: its method, its headers and its URL.
The first fault is reported, and nothing of the request leaves. A request without fault is one
message, and no other is put to the network. What the URL of a request stands for, and the time that
it may take, are said by cases of what request and settings give.
-/

namespace Courier.Http

/-! ## Headers -/

/-- A header that can be sent. -/
def IsSound (header : String × String) : Prop :=
  isHeaderName header.1 = true ∧ isHeaderValue header.2 = true

/-- What is reported of a header that cannot be sent: its name, as it is written if the fault lies
there, and in lower case if only the value is wrong. -/
inductive HeaderFault : String × String → String → Prop
  | name {name value : String} (bad : isHeaderName name = false) :
      HeaderFault (name, value) name
  | value {name value : String} (good : isHeaderName name = true)
      (bad : isHeaderValue value = false) : HeaderFault (name, value) (lowerName name)

/-- What is reported of the first header that cannot be sent. -/
def FirstHeaderFault (headers : Headers) (reported : String) : Prop :=
  ∃ before header after, headers = before ++ header :: after ∧ (∀ h ∈ before, IsSound h) ∧
    HeaderFault header reported

theorem isSound_or_fault (header : String × String) :
    IsSound header ∨ ∃ reported, HeaderFault header reported := by
  obtain ⟨name, value⟩ := header
  cases hname : isHeaderName name with
  | false => exact .inr ⟨name, .name hname⟩
  | true =>
    cases hvalue : isHeaderValue value with
    | false => exact .inr ⟨lowerName name, .value hname hvalue⟩
    | true => exact .inl ⟨hname, hvalue⟩

theorem badHeader?_cons_of_isSound {header : String × String} (h : IsSound header)
    (rest : Headers) : badHeader? (header :: rest) = badHeader? rest := by
  obtain ⟨name, value⟩ := header
  obtain ⟨hname, hvalue⟩ := h
  simp [badHeader?, hname, hvalue]

theorem badHeader?_cons_of_fault {header : String × String} {reported : String}
    (h : HeaderFault header reported) (rest : Headers) :
    badHeader? (header :: rest) = some reported := by
  cases h with
  | name bad => simp [badHeader?, bad]
  | value good bad => simp [badHeader?, good, bad]

/-- Nothing is reported of headers that can all be sent. -/
theorem badHeader?_of_isSound {headers : Headers} (h : ∀ x ∈ headers, IsSound x) :
    badHeader? headers = none := by
  induction headers with
  | nil => rfl
  | cons header rest ih =>
    rw [badHeader?_cons_of_isSound (h header List.mem_cons_self)]
    exact ih fun x hx => h x (List.mem_cons_of_mem _ hx)

theorem badHeader?_of_firstHeaderFault {headers : Headers} {reported : String}
    (h : FirstHeaderFault headers reported) : badHeader? headers = some reported := by
  obtain ⟨before, header, after, rfl, hbefore, hfault⟩ := h
  -- sound headers are passed over one by one
  induction before with
  | nil => exact badHeader?_cons_of_fault hfault after
  | cons first before ih =>
    rw [List.cons_append, badHeader?_cons_of_isSound (hbefore first List.mem_cons_self)]
    exact ih fun x hx => hbefore x (List.mem_cons_of_mem _ hx)

/-- Headers can all be sent, or one of them is the first that cannot. -/
theorem sound_or_firstHeaderFault (headers : Headers) :
    (∀ h ∈ headers, IsSound h) ∨ ∃ reported, FirstHeaderFault headers reported := by
  induction headers with
  | nil => exact .inl fun h hh => absurd hh List.not_mem_nil
  | cons header rest ih =>
    rcases isSound_or_fault header with hsound | ⟨reported, hfault⟩
    · rcases ih with hrest | ⟨reported, before, bad, after, rfl, hbefore, hfault⟩
      · exact .inl (List.forall_mem_cons.mpr ⟨hsound, hrest⟩)
      · refine .inr ⟨reported, header :: before, bad, after, rfl, ?_, hfault⟩
        exact List.forall_mem_cons.mpr ⟨hsound, hbefore⟩
    · exact .inr ⟨reported, [], header, rest, rfl, fun h hh => absurd hh List.not_mem_nil, hfault⟩

/-! ## URLs -/

/-- Why no request can be built for a URL and the pairs of a query, and the text of the URL that is
reported, if it is one. The text has the pairs once the URL is known to have a host. -/
inductive Rejects (url : String) (pairs : List (String × String)) :
    BuildProblem → Option String → Prop
  | unreadable {e : Url.ParseError} (parse : Url.parse url = .error e) :
      Rejects url pairs (.url e) none
  | hostless {u : Url} (parse : Url.parse url = .ok u) (host : u.hasHost = false) :
      Rejects url pairs .scheme (some u.text)
  | scheme {u : Url} (parse : Url.parse url = .ok u) (host : u.hasHost = true)
      (bad : u.scheme ≠ "http".toList ∧ u.scheme ≠ "https".toList) :
      Rejects url pairs .scheme (some (aimed u pairs).text)
  | target {u : Url} (parse : Url.parse url = .ok u) (host : u.hasHost = true)
      (web : u.scheme = "http".toList ∨ u.scheme = "https".toList)
      (bad : isTarget (aimed u pairs) = false) :
      Rejects url pairs .hostText (some (aimed u pairs).text)

theorem canSend_eq_false_iff {u : Url} :
    canSend u = false ↔ u.scheme ≠ "http".toList ∧ u.scheme ≠ "https".toList := by
  rw [← Bool.not_eq_true, canSend_iff, not_or]

theorem target_of_rejects {url : String} {pairs : List (String × String)}
    {problem : BuildProblem} {text : Option String} (h : Rejects url pairs problem text) :
    target url pairs = .error (.request (.builder problem) text) := by
  cases h with
  | unreadable parse => simp [target, parse]
  | hostless parse host => simp [target_of_parse parse, host, refuseUrl]
  | scheme parse host bad =>
    simp [target_of_parse parse, host, canSend_aimed, canSend_eq_false_iff.mpr bad, refuseUrl]
  | target parse host web bad =>
    simp [target_of_parse parse, host, canSend_aimed, canSend_iff.mpr web, bad, refuseUrl]

/-- A URL is rejected, or it is the target of a request. -/
theorem rejects_or_target (url : String) (pairs : List (String × String)) :
    (∃ problem text, Rejects url pairs problem text) ∨ ∃ t, target url pairs = .ok t := by
  cases hparse : Url.parse url with
  | error e => exact .inl ⟨_, _, .unreadable hparse⟩
  | ok u =>
    cases hhost : u.hasHost with
    | false => exact .inl ⟨_, _, .hostless hparse hhost⟩
    | true =>
      cases hsend : canSend u with
      | false => exact .inl ⟨_, _, .scheme hparse hhost (canSend_eq_false_iff.mp hsend)⟩
      | true =>
        cases htarget : isTarget (aimed u pairs) with
        | false => exact .inl ⟨_, _, .target hparse hhost (canSend_iff.mp hsend) htarget⟩
        | true =>
          rw [← canSend_aimed u pairs] at hsend
          exact .inr ⟨_, target_eq_ok_iff.mpr ⟨u, hparse, hhost, hsend, htarget, rfl⟩⟩

/-- A text without a scheme is relative, and rejected. -/
theorem rejects_of_relative {url : String} (h : Url.readScheme (Url.mainOf url) = none)
    (pairs : List (String × String)) : Rejects url pairs (.url .relativeWithoutBase) none := by
  refine .unreadable ?_
  rw [Url.mainOf] at h
  rw [Url.parse, Url.parseChars]
  simp only [h]

/-! ## The first fault of a request -/

/-- What the URL of a request stands for, behind the base that the request gives, else behind that of
the settings. -/
def StandsFor (settings : Settings) (request : Request) (whole : String) : Prop :=
  Url.Behind (Client.firstGiven [request.baseUrl, settings.baseUrl]) request.url whole

theorem standsFor_iff {settings : Settings} {request : Request} {whole : String} :
    StandsFor settings request whole ↔ whole = resolvedUrl settings request := by
  rw [StandsFor, Client.firstGiven_pair, resolvedUrl]
  constructor
  · exact Url.Behind.eq_resolve
  · rintro rfl
    exact Url.behind_resolve _ _

/-- The first fault of a request, and the error that it is. The headers of the settings come before
those of the request, in the order of their names. -/
inductive Refusal (settings : Settings) (request : Request) : SendError → Prop
  | method (bad : isToken request.method.token = false) :
      Refusal settings request (.method request.method.token)
  | header {reported : String} (method : isToken request.method.token = true)
      (fault : FirstHeaderFault (settings.headers ++ request.headers) reported) :
      Refusal settings request (.header reported)
  | url {whole : String} {problem : BuildProblem} {text : Option String}
      (method : isToken request.method.token = true)
      (headers : ∀ h ∈ settings.headers ++ request.headers, IsSound h)
      (stands : StandsFor settings request whole)
      (rejects : Rejects whole (queryOf request) problem text) :
      Refusal settings request (.request (.builder problem) text)

theorem check_of_refusal {settings : Settings} {request : Request} {e : SendError}
    (h : Refusal settings request e) : check settings request = .error e := by
  cases h with
  | method bad => simp [check, bad]
  | header method fault =>
    simp [check, method, givenHeaders, badHeader?_of_firstHeaderFault fault]
  | url method headers stands rejects =>
    have htarget := target_of_rejects rejects
    rw [standsFor_iff.mp stands, resolvedUrl] at htarget
    simp [check, method, givenHeaders, badHeader?_of_isSound headers, htarget]

/-- A request is refused by its first fault, or it has a target. -/
theorem refusal_or_target (settings : Settings) (request : Request) :
    (∃ e, Refusal settings request e) ∨ ∃ t, check settings request = .ok t := by
  cases hmethod : isToken request.method.token with
  | false => exact .inl ⟨_, .method hmethod⟩
  | true =>
    rcases sound_or_firstHeaderFault (settings.headers ++ request.headers) with
      hsound | ⟨reported, hfault⟩
    · rcases rejects_or_target (resolvedUrl settings request) (queryOf request) with
        ⟨problem, text, hrejects⟩ | ⟨t, ht⟩
      · exact .inl ⟨_, .url hmethod hsound (standsFor_iff.mpr rfl) hrejects⟩
      · exact .inr ⟨t, check_eq_ok_iff.mpr ⟨hmethod, badHeader?_of_isSound hsound, ht⟩⟩
    · exact .inl ⟨_, .header hmethod hfault⟩

/-- A refused request reaches no network. -/
theorem exchange_of_refusal {settings : Settings} {request : Request} {e : SendError}
    (h : Refusal settings request e) (network : Network) :
    exchange settings network request = (none, .error e) := by
  rw [exchange, check_of_refusal h]

/-! ## Refusals that nothing else changes -/

theorem length_marked_append (mark : Char) (query : Option (List Char))
    (pairs : List (String × String)) :
    (Url.marked mark query).length
      ≤ (Url.marked mark (some (Form.append (query.getD []) pairs))).length := by
  cases query with
  | none => exact Nat.zero_le _
  | some text => exact Nat.succ_le_succ (Form.prefix_append text pairs).length_le

/-- Pairs make a URL longer. -/
theorem length_chars_withPairs (u : Url) (pairs : List (String × String)) :
    u.chars.length ≤ (withPairs u pairs).chars.length := by
  unfold withPairs
  split
  · exact Nat.le_refl _
  · have hquery := length_marked_append '?' u.query pairs
    have hauthority : ∀ q, ({ u with query := q } : Url).authorityText = u.authorityText :=
      fun _ => rfl
    simp only [Url.chars, hauthority, List.length_append, List.length_cons]
    omega

/-- A URL that cannot be a target cannot be one with the pairs of a query. -/
theorem isTarget_aimed_eq_false {u : Url} (h : isTarget (aimed u []) = false)
    (pairs : List (String × String)) : isTarget (aimed u pairs) = false := by
  have hlength : (aimed u []).chars.length ≤ (aimed u pairs).chars.length :=
    length_chars_withPairs _ pairs
  have hhost : (aimed u pairs).host = (aimed u []).host := by
    unfold aimed withPairs
    split <;> split <;> rfl
  rw [isTarget, Bool.and_eq_false_iff, decide_eq_false_iff_not] at h ⊢
  rw [hhost]
  exact h.imp_left fun hlong hshort => hlong (hlength.trans hshort)

/-- A URL that is rejected as it is, is rejected with the pairs of any query. -/
theorem Rejects.withPairs {url : String} {problem : BuildProblem} {text : Option String}
    (h : Rejects url [] problem text) (pairs : List (String × String)) :
    ∃ text, Rejects url pairs problem text := by
  cases h with
  | unreadable parse => exact ⟨_, .unreadable parse⟩
  | hostless parse host => exact ⟨_, .hostless parse host⟩
  | scheme parse host bad => exact ⟨_, .scheme parse host bad⟩
  | target parse host web bad =>
    exact ⟨_, .target parse host web (isTarget_aimed_eq_false bad pairs)⟩

/-- The request with other contents: another body, another query and another timeout. -/
def withContents (body query : Option Json) (timeout : Option Duration) (request : Request) :
    Request :=
  { request with body := body, query := query, timeout := timeout }

/-- The error with another URL, if it names one. -/
def SendError.withUrl (url : Option String) : SendError → SendError
  | .request cause _ => .request cause url
  | e => e

/-- What is refused without a query is refused with any contents. Only the URL that is reported may
show the query. -/
theorem Refusal.withContents {settings : Settings} {request : Request} {e : SendError}
    (h : Refusal settings { request with query := none } e) (body query : Option Json)
    (timeout : Option Duration) :
    ∃ url, Refusal settings (Http.withContents body query timeout request) (e.withUrl url) := by
  cases h with
  | method bad => exact ⟨none, .method bad⟩
  | header method fault => exact ⟨none, .header method fault⟩
  | url method headers stands rejects =>
    obtain ⟨text, hrejects⟩ := Rejects.withPairs rejects
      (queryOf (Http.withContents body query timeout request))
    exact ⟨text, .url method headers stands hrejects⟩

/-! ## Requests that are sent -/

/-- The message of a request: its method is the token of the request as it is, and its URL is the one
that the URL of the request stands for. A request for a tunnel names the authority of it, and any
other all that is sent of it, with the pairs of the query. -/
structure IsMessageOf (settings : Settings) (request : Request) (wire : WireRequest) : Prop where
  method : wire.method = request.method.token
  url : ∃ whole u, StandsFor settings request whole ∧ Url.parse whole = .ok u ∧
    (request.method.token = "CONNECT" → wire.url = String.ofList (authority u)) ∧
    (request.method.token ≠ "CONNECT" → wire.url = (sent u (queryOf request)).text)

/-- The time that a request may take: its own, if it gives one, else the milliseconds of the settings,
if they give any. -/
structure MayTake (settings : Settings) (request : Request) (time : Option Duration) : Prop where
  own : ∀ d, request.timeout = some d → time = some d
  inherited : request.timeout = none →
    time.map Duration.inNanoseconds = settings.timeout.map fun n => n.toNat * 1000000

/-- A message is all that an exchange puts to the network: it leaves once, unless no connection is
made, and what the network does with other messages, or within another time, changes nothing. -/
structure PutsOnly (settings : Settings) (request : Request) (wire : WireRequest)
    (time : Option Duration) : Prop where
  leaves : ∀ network : Network, (network wire time).leaves = true →
    (exchange settings network request).1 = some wire
  stays : ∀ network : Network, (network wire time).leaves = false →
    (exchange settings network request).1 = none
  only : ∀ network other : Network, network wire time = other wire time →
    exchange settings network request = exchange settings other request

theorem isMessageOf_message {settings : Settings} {request : Request} {t : Target}
    (h : check settings request = .ok t) :
    IsMessageOf settings request (message settings request t) where
  method := rfl
  url := by
    obtain ⟨-, -, htarget⟩ := check_eq_ok_iff.mp h
    obtain ⟨u, hparse, -, -, -, rfl⟩ := target_eq_ok_iff.mp htarget
    have hurl := wireUrl_aimed request.method.token u (queryOf request)
    refine ⟨_, u, standsFor_iff.mpr rfl, hparse, ?_, ?_⟩
    · intro hmethod
      rwa [saidUrl, if_pos hmethod] at hurl
    · intro hmethod
      rwa [saidUrl, if_neg hmethod] at hurl

theorem mayTake_patience (settings : Settings) (request : Request) :
    MayTake settings request (patience settings request) where
  own d h := by rw [patience, h, Option.some_or]
  inherited h := by
    have hspan : Duration.inNanoseconds ∘ Duration.ofMilliseconds = fun n => n.toNat * 1000000 := by
      funext n
      rw [Function.comp_apply, Duration.inNanoseconds_ofMilliseconds]
    rw [patience, h, Option.none_or, Settings.duration, Option.map_map, hspan]

theorem putsOnly_message {settings : Settings} {request : Request} {t : Target}
    (h : check settings request = .ok t) :
    PutsOnly settings request (message settings request t) (patience settings request) := by
  refine ⟨?_, ?_, ?_⟩
  · intro network htaken
    exact sends_iff.mpr ⟨t, h, rfl, htaken⟩
  · intro network hlost
    simp [exchange, h, hlost]
  · intro network other hsame
    simp only [exchange, h, hsame]

/-- **Checks come before sending**: a request with a fault is refused by the first, over any network
and with nothing sent; a request without one is a single message. A fault is not mended by another
body, query or timeout, and a relative URL is one. -/
theorem checked_before_sent (settings : Settings) (request : Request) :
    (∀ e, Refusal settings request e →
      ∀ network, exchange settings network request = (none, .error e)) ∧
    ((∀ e, ¬ Refusal settings request e) → ∃ wire time, IsMessageOf settings request wire ∧
      MayTake settings request time ∧ PutsOnly settings request wire time) ∧
    (∀ e body query timeout, Refusal settings { request with query := none } e →
      ∃ url, Refusal settings (withContents body query timeout request) (e.withUrl url)) ∧
    (∀ url pairs, Url.readScheme (Url.mainOf url) = none →
      Rejects url pairs (.url .relativeWithoutBase) none) := by
  refine ⟨fun e => exchange_of_refusal, ?_, ?_, fun url pairs h => rejects_of_relative h pairs⟩
  · intro hsound
    rcases refusal_or_target settings request with ⟨e, hrefusal⟩ | ⟨t, ht⟩
    · exact absurd hrefusal (hsound e)
    · exact ⟨_, _, isMessageOf_message ht, mayTake_patience settings request,
        putsOnly_message ht⟩
  · intro e body query timeout h
    exact h.withContents body query timeout

/-- A request with three faults: the value of one header, the name of the next, and no host. -/
def strayRequest : Request :=
  { Request.bare .get "/notes" with
    headers := [("Accept", "*/*"), ("X-Trace", "a\nb"), ("x y", "")] }

theorem stray_request_refused :
    Refusal .default strayRequest (.header "x-trace") ∧
      (exchange .default (fun _ _ => .closed) strayRequest) = (none, .error (.header "x-trace")) ∧
      (∀ e, ¬ Refusal .default pageRequest e) ∧
      ∃ wire, (exchange .default (fun _ _ => .closed) pageRequest).1 = some wire ∧
        wire.method = "GET" := by
  have hstray : Refusal .default strayRequest (.header "x-trace") := by
    refine .header rfl ⟨[("Accept", "*/*")], ("X-Trace", "a\nb"), [("x y", "")], rfl, ?_, ?_⟩
    · exact List.forall_mem_cons.mpr ⟨⟨rfl, rfl⟩, fun h hh => absurd hh List.not_mem_nil⟩
    · exact .value rfl rfl
  obtain ⟨hrefused, -⟩ := checked_before_sent .default strayRequest
  have hpage : ∀ e, ¬ Refusal .default pageRequest e := by
    intro e he
    obtain ⟨wire, hwire⟩ := @sends_pageRequest (fun _ _ => .closed) fun _ _ => rfl
    rw [exchange_of_refusal he] at hwire
    cases hwire
  obtain ⟨-, hsent, -⟩ := checked_before_sent .default pageRequest
  obtain ⟨wire, time, hmessage, -, hputs⟩ := hsent hpage
  exact ⟨hstray, hrefused _ hstray _, hpage, wire,
    hputs.leaves _ rfl, hmessage.method⟩

end Courier.Http
