import Courier.Proofs.Http.Sending
import Courier.Proofs.Query

/-!
# Queries arrive

The query of a message, read as a form, has the pairs of the URL's own query and behind them exactly
those of the request's query, whatever texts and names these hold and whatever the URL's own query
looks like. Where there are no pairs, the URL's own query is sent as it is. Only a request for a
tunnel has no place for a query.
-/

namespace Courier.Http

/-- The pairs of a request: there are none if it has no query or one without leaves. -/
theorem queryOf_eq_nil_iff (request : Request) :
    queryOf request = [] ↔ ∀ members, request.query = some (.object members) →
      ∀ m ∈ members, Query.Leafless m.2 := by
  rw [queryOf]
  cases request.query with
  | none => simp
  | some query =>
    simp only [Option.map_some, Option.getD_some, Option.some.injEq]
    exact Query.pairs_eq_nil_iff query

/-- **Queries arrive**: for every request that asks for no tunnel, whose URL is accepted and which
the network takes, the query of the message stands for the pairs of the URL's own query and then
those of the request. It is the URL's own query, or none as there, where the request has no pairs:
nothing but `null` and empty containers, or no object at all. -/
theorem query_arrives {settings : Settings} {network : Network} {request : Request}
    {target : Target} (hmethod : request.method.token ≠ "CONNECT")
    (haccepted : check settings request = .ok target)
    (htaken : (network (message settings request target) (patience settings request)).leaves
      = true) :
    ∃ wire u, (exchange settings network request).1 = some wire ∧
      Url.parse (resolvedUrl settings request) = .ok u ∧
      Form.decode ((Url.queryIn wire.url).getD [])
        = Form.decode (u.query.getD []) ++ queryOf request ∧
      (queryOf request = [] → Url.queryIn wire.url = u.query) ∧
      (queryOf request = [] ↔ ∀ members, request.query = some (.object members) →
        ∀ m ∈ members, Query.Leafless m.2) := by
  have hsends := sends_iff.mpr ⟨target, haccepted, rfl, htaken⟩
  obtain ⟨u, hparse, hweb, hurl⟩ := url_of_sends hmethod hsends
  have hquery := queryIn_sent (Url.isReadable_of_parse hparse hweb) (queryOf request)
  rw [← hurl] at hquery
  refine ⟨_, u, hsends, hparse, ?_, ?_, queryOf_eq_nil_iff request⟩
  · rw [hquery]
    cases hpairs : queryOf request with
    | nil => exact (List.append_nil _).symm
    | cons pair pairs => exact Form.decode_append _ _
  · intro hnone
    rw [hquery, hnone]
    rfl

/-- A request with a name that has to be escaped, behind a query that the URL has. -/
def taggedFiles : Request where
  __ := Request.bare .get "http://files.test/find?q=a+b&"
  query := some (.object [("tags", .array [.string "x&y", .null, .string ""])])

theorem tags_arrive :
    ∃ wire u t, check .default taggedFiles = .ok t ∧
      (exchange .default (fun _ _ => .closed) taggedFiles).1 = some wire ∧
      Url.parse (resolvedUrl .default taggedFiles) = .ok u ∧
      Form.decode ((Url.queryIn wire.url).getD [])
        = Form.decode (u.query.getD []) ++ [("tags[]", "x&y"), ("tags[]", "")] := by
  obtain ⟨t, ht⟩ : ∃ t, target (resolvedUrl .default taggedFiles) (queryOf taggedFiles) = .ok t :=
    ⟨_, target_eq_ok_iff.mpr ⟨_, rfl, rfl, rfl, rfl, rfl⟩⟩
  have haccepted : check .default taggedFiles = .ok t := check_eq_ok_iff.mpr ⟨rfl, rfl, ht⟩
  let network : Network := fun _ _ => .closed
  have htaken : (network (message .default taggedFiles t) (patience .default taggedFiles)).leaves
      = true := rfl
  have hmethod : taggedFiles.method.token ≠ "CONNECT" := by decide
  obtain ⟨wire, u, hwire, hu, hquery, -⟩ := query_arrives hmethod haccepted htaken
  exact ⟨wire, u, t, haccepted, hwire, hu, hquery⟩

/-- A request for a tunnel, with a query. -/
def tunnelRequest : Request where
  __ := Request.bare (.custom "CONNECT") "http://files.test/find"
  query := some (.object [("tags", .string "x&y")])

/-- The query of a request for a tunnel is accepted, but not sent. -/
theorem not_query_arrives_of_connect :
    ∃ wire u t, check .default tunnelRequest = .ok t ∧
      (exchange .default (fun _ _ => .closed) tunnelRequest).1 = some wire ∧
      Url.parse (resolvedUrl .default tunnelRequest) = .ok u ∧
      Form.decode ((Url.queryIn wire.url).getD [])
        ≠ Form.decode (u.query.getD []) ++ queryOf tunnelRequest := by
  refine ⟨_, _, _, rfl, rfl, rfl, ?_⟩
  -- the message has no query at all, and the request has one pair
  intro harrived
  exact absurd (congrArg List.length harrived) (by decide)

end Courier.Http
