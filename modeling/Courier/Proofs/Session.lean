import Mathlib.Data.List.Forall2
import Courier.Proofs.Calls

/-!
# A client's whole log

What a call adds to the requests handed over is said without describing it: the conditions under
which it is sent, the request then, part by part, and otherwise the first of its failures. A single
call adds exactly that, and a run of calls adds what its calls add, in order, whatever the transport
answers.
-/

namespace Courier.Client

variable {ε : Type}

/-! ## What one call contributes -/

/-- A call of an endpoint. -/
structure EndpointCall where
  endpoint : Endpoint
  options : Options
  mode : Mode

/-- The first value that is given. -/
def firstGiven {α : Type} : List (Option α) → Option α
  | [] => none
  | some v :: _ => some v
  | none :: rest => firstGiven rest

theorem firstGiven_pair {α : Type} (a b : Option α) : firstGiven [a, b] = a.or b := by
  cases a <;> cases b <;> rfl

theorem firstGiven_triple {α : Type} (a b c : Option α) :
    firstGiven [a, b, c] = (a.or b).or c := by
  cases a <;> cases b <;> cases c <;> rfl

theorem firstGiven_default {α : Type} (a b : Option α) (c : α) :
    firstGiven [a, b, some c] = some ((a.or b).getD c) := by
  cases a <;> cases b <;> rfl

/-- The options of a call can be sent: all of them are encoded, and the first of the three values
holds path parameters. -/
structure Sendable (options : Options) (p b q : Json) : Prop
    extends options.EncodesTo p b q where
  holds : PathParams.Holds p

/-- The request that a call stands for, part by part: what the caller's layer gives, else what the
endpoint's layer gives, else what the call itself says. Headers are kept from both layers. -/
structure IsDescriptor (call : EndpointCall) (p b q : Json) (r : Request) : Prop where
  method : some r.method = firstGiven
    [call.options.layer.method, call.endpoint.layer.method, some call.endpoint.method]
  url : ∃ values, PathParams.ofJson p = .ok values ∧ some r.url = firstGiven
    [call.options.layer.url, call.endpoint.layer.url,
      some (Template.fill call.endpoint.path values)]
  body : r.body = firstGiven
    [call.options.layer.body, call.endpoint.layer.body, sentBody b]
  query : r.query = firstGiven
    [call.options.layer.query, call.endpoint.layer.query, sentQuery q]
  timeout : r.timeout = firstGiven [call.options.layer.timeout, call.endpoint.layer.timeout]
  baseUrl : r.baseUrl = firstGiven [call.options.layer.baseUrl, call.endpoint.layer.baseUrl]
  accepts : r.accepts = firstGiven [call.options.layer.accepts, call.endpoint.layer.accepts]
  headers : r.headers = call.endpoint.layer.headers ++ call.options.layer.headers

/-- The failures of options that cannot be sent. Each comes with the success of what is tried before
it: encoding the parameters, their shape, encoding the body, encoding the query. -/
inductive FirstFailure (options : Options) : Failure ε → Prop
  | params {problem : Problem} (failed : options.params.encode = .error problem) :
      FirstFailure options (.encode .params problem)
  | shape {p : Json} {e : ParamsError} (params : options.params.encode = .ok p)
      (fault : PathParams.Fault p e) : FirstFailure options (.pathParams e)
  | body {p : Json} {problem : Problem} (params : options.params.encode = .ok p)
      (holds : PathParams.Holds p) (failed : options.body.encode = .error problem) :
      FirstFailure options (.encode .body problem)
  | query {p b : Json} {problem : Problem} (params : options.params.encode = .ok p)
      (holds : PathParams.Holds p) (body : options.body.encode = .ok b)
      (failed : options.query.encode = .error problem) :
      FirstFailure options (.encode .query problem)

/-- What a call with this result adds to the log: its descriptor if it can be sent, and else
nothing, the result being its first failure. -/
def Contribution (call : EndpointCall) (result : Except (Failure ε) Reply)
    (sent : List Request) : Prop :=
  (∀ p b q, Sendable call.options p b q → ∃ r, IsDescriptor call p b q r ∧ sent = [r]) ∧
  ((¬ ∃ p b q, Sendable call.options p b q) →
    sent = [] ∧ ∃ failure, FirstFailure call.options failure ∧ result = .error failure)

/-! ## Descriptions meet their specification -/

theorem isDescriptor_apply {call : EndpointCall} {p b q : Json} {values : List (String × String)}
    (h : PathParams.ofJson p = .ok values) :
    IsDescriptor call p b q ((call.endpoint.layer.merge call.options.layer).apply
      (draft call.endpoint.method (Template.fill call.endpoint.path values)
        (sentBody b) (sentQuery q))) where
  method := (firstGiven_default _ _ _).symm
  url := ⟨values, h, (firstGiven_default _ _ _).symm⟩
  body := (firstGiven_triple _ _ _).symm
  query := (firstGiven_triple _ _ _).symm
  timeout := by rw [firstGiven_pair]; exact Option.or_none
  baseUrl := by rw [firstGiven_pair]; exact Option.or_none
  accepts := by rw [firstGiven_pair]; exact Option.or_none
  headers := List.nil_append _

/-- Nothing of a request is left open by its description. -/
theorem IsDescriptor.eq {call : EndpointCall} {p b q : Json} {r s : Request}
    (hr : IsDescriptor call p b q r) (hs : IsDescriptor call p b q s) : r = s := by
  obtain ⟨values, hvalues, hurl⟩ := hr.url
  obtain ⟨values', hvalues', hurl'⟩ := hs.url
  obtain rfl := Except.ok.inj (hvalues.symm.trans hvalues')
  have hmethod : r.method = s.method := Option.some.inj (hr.method.trans hs.method.symm)
  have hsame : r.url = s.url := Option.some.inj (hurl.trans hurl'.symm)
  cases r
  cases s
  simp only [Request.mk.injEq]
  exact ⟨hmethod, hsame, hr.body.trans hs.body.symm, hr.query.trans hs.query.symm,
    hr.headers.trans hs.headers.symm, hr.timeout.trans hs.timeout.symm,
    hr.baseUrl.trans hs.baseUrl.symm, hr.accepts.trans hs.accepts.symm⟩

theorem describe_of_sendable (ε : Type) {call : EndpointCall} {p b q : Json}
    (h : Sendable call.options p b q) :
    ∃ r, (describe call.endpoint call.options : Except (Failure ε) Request) = .ok r ∧
      IsDescriptor call p b q r := by
  obtain ⟨values, hvalues⟩ := PathParams.ofJson_of_holds h.holds
  refine ⟨_, ?_, isDescriptor_apply hvalues⟩
  rw [describe_of_encodesTo h.toEncodesTo, fillPath, hvalues]
  rfl

theorem describe_of_firstFailure (endpoint : Endpoint) {options : Options}
    {failure : Failure ε} (h : FirstFailure options failure) :
    describe endpoint options = .error failure := by
  cases h with
  | params failed => rw [describe, encodePart_of_error failed]; rfl
  | shape params fault =>
    rw [describe, encodePart_of_ok params]
    simp only [bind, Except.bind, getD_sentBody, fillPath, PathParams.ofJson_of_fault fault]
  | body params holds failed =>
    obtain ⟨values, hvalues⟩ := PathParams.ofJson_of_holds holds
    rw [describe, encodePart_of_ok params, encodePart_of_error failed]
    simp only [bind, Except.bind, getD_sentBody, fillPath, hvalues]
  | query params holds body failed =>
    obtain ⟨values, hvalues⟩ := PathParams.ofJson_of_holds holds
    rw [describe, encodePart_of_ok params, encodePart_of_ok body, encodePart_of_error failed]
    simp only [bind, Except.bind, getD_sentBody, fillPath, hvalues]

/-- Options can be sent, or one of their failures is the first. -/
theorem sendable_or_firstFailure (ε : Type) (options : Options) :
    (∃ p b q, Sendable options p b q) ∨ ∃ failure : Failure ε, FirstFailure options failure := by
  cases hp : options.params.encode with
  | error problem => exact .inr ⟨_, .params hp⟩
  | ok p =>
    rcases PathParams.holds_or_fault p with hholds | ⟨e, hfault⟩
    · cases hb : options.body.encode with
      | error problem => exact .inr ⟨_, .body hp hholds hb⟩
      | ok b =>
        cases hq : options.query.encode with
        | error problem => exact .inr ⟨_, .query hp hholds hb hq⟩
        | ok q => exact .inl ⟨p, b, q, ⟨hp, hb, hq⟩, hholds⟩
    · exact .inr ⟨_, .shape hp hfault⟩

/-! ## Runs of calls -/

/-- Makes calls one after the other: their results, and all requests handed over so far. -/
def runAll (transport : Transport ε) :
    List EndpointCall → List Request → List (Except (Failure ε) Reply) × List Request
  | [], before => ([], before)
  | call :: rest, before =>
    let (result, after) :=
      runCall (request transport call.endpoint call.options call.mode) before
    let (results, log) := runAll transport rest after
    (result :: results, log)

/-- **One call**: what it adds to the log is its contribution. -/
theorem runCall_contribution (transport : Transport ε) (call : EndpointCall)
    (before : List Request) :
    ∃ result sent, Contribution call result sent ∧
      runCall (request transport call.endpoint call.options call.mode) before
        = (result, before ++ sent) := by
  rw [request_eq_exchange]
  rcases sendable_or_firstFailure ε call.options with ⟨p, b, q, h⟩ | ⟨failure, h⟩
  · obtain ⟨r, hr, -⟩ := describe_of_sendable ε h
    refine ⟨_, [r], ⟨?_, ?_⟩, by rw [hr, runCall_exchange_ok]⟩
    · intro p' b' q' h'
      -- the values are encoded in one way only, so this is the request described above
      obtain ⟨r', hr', hdescriptor⟩ := describe_of_sendable ε h'
      rw [hr] at hr'
      cases hr'
      exact ⟨r, hdescriptor, rfl⟩
    · intro hnone
      exact absurd ⟨p, b, q, h⟩ hnone
  · have hdescribe := describe_of_firstFailure call.endpoint h
    refine ⟨.error failure, [], ⟨?_, ?_⟩, ?_⟩
    · intro p b q hsend
      obtain ⟨r, hr, -⟩ := describe_of_sendable ε hsend
      rw [hdescribe] at hr
      cases hr
    · intro _
      exact ⟨rfl, failure, h, rfl⟩
    · rw [hdescribe, runCall_exchange_error, List.append_nil]

/-- **A run of calls**: every call adds its contribution and nothing else, so the log is what was
there before, followed by the contributions in the order of the calls. -/
theorem runAll_log (transport : Transport ε) (calls : List EndpointCall)
    (before : List Request) :
    ∃ entries : List (Except (Failure ε) Reply × List Request),
      List.Forall₂ (fun call entry => Contribution call entry.1 entry.2) calls entries ∧
      runAll transport calls before
        = (entries.map Prod.fst, before ++ entries.flatMap Prod.snd) := by
  -- for every log to start from, since each call leaves another one to the next
  induction calls generalizing before with
  | nil => exact ⟨[], .nil, by simp [runAll]⟩
  | cons call rest ih =>
    obtain ⟨result, sent, hcall, hrun⟩ := runCall_contribution transport call before
    obtain ⟨entries, hrest, hruns⟩ := ih (before ++ sent)
    refine ⟨(result, sent) :: entries, .cons hcall hrest, ?_⟩
    simp only [runAll, hrun, hruns, List.map_cons, List.flatMap_cons, List.append_assoc]

end Courier.Client
