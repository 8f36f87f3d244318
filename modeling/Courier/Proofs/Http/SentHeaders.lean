import Courier.Proofs.Http.HeaderValues
import Courier.Proofs.Http.Sending
import Courier.Proofs.Session
import Courier.Proofs.Text.ByteOrder

/-!
# Headers arrive

Headers are given by the settings, by the layer of an endpoint and by the layer of a call. A message
has all of them: names lose their case, and the message is sorted by name, but the values of one
name stay in order. What a message needs is added where it is missing, and takes nothing away; what
frames it only touches the two names that are there for that.
-/

namespace Courier.Http

/-! ## Framing -/

/-- The names of headers that say where a message ends. They belong to the message. -/
def IsFraming (name : String) : Prop :=
  lowerName name = "content-length" ∨ lowerName name = "transfer-encoding"

theorem names_nameChunks (headers : Headers) :
    (nameChunks headers).map Prod.fst = headers.map Prod.fst := by
  induction headers with
  | nil => rfl
  | cons header rest ih =>
    rw [nameChunks]
    split
    · rfl
    · rw [List.map_cons, List.map_cons, ih]

/-- Headers of other names stay as they are where chunks are named. -/
theorem filter_nameChunks {p : String → Bool} (hp : p "transfer-encoding" = false)
    (headers : Headers) :
    (nameChunks headers).filter (fun h => p h.1) = headers.filter fun h => p h.1 := by
  induction headers with
  | nil => rfl
  | cons header rest ih =>
    obtain ⟨n, value⟩ := header
    rw [nameChunks]
    split
    next hlast =>
      obtain ⟨hn, -⟩ := Bool.and_eq_true_iff.mp hlast
      obtain rfl := of_decide_eq_true hn
      simp [hp]
    next => rw [List.filter_cons, List.filter_cons, ih]

/-! ## Steps to a message -/

/-- All names are in lower case, and the name has these values. -/
structure HasValues (headers : Headers) (name : String) (values : List String) : Prop where
  lower : ∀ h ∈ headers, lowerName h.1 = h.1
  values_eq : valuesOf name headers = values

namespace HasValues

variable {headers : Headers} {name : String} {values : List String}

/-- The test for a missing header tells whether it has a value. -/
theorem any_iff (h : HasValues headers name values) {n : String} (hn : lowerName n = n) :
    headers.any (·.1 = n) = true ↔ valuesOf n headers ≠ [] := by
  rw [valuesOf, ne_eq, List.map_eq_nil_iff, List.filter_eq_nil_iff, List.any_eq_true]
  simp only [decide_eq_true_eq, not_forall, not_not]
  constructor
  · rintro ⟨x, hx, rfl⟩
    exact ⟨x, hx, rfl⟩
  · rintro ⟨x, hx, hsame⟩
    rw [h.lower x hx, hn] at hsame
    exact ⟨x, hx, hsame⟩

/-- A header at the end gives its value to its own name. -/
theorem concat (h : HasValues headers name values) {n : String} (hn : lowerName n = n)
    (v : String) : HasValues (headers ++ [(n, v)]) name (values ++ valuesOf name [(n, v)]) := by
  refine ⟨?_, by rw [valuesOf_append, h.values_eq]⟩
  intro x hx
  rcases List.mem_append.mp hx with hx | hx
  · exact h.lower x hx
  · rw [List.mem_singleton.mp hx]
    exact hn

theorem addMissing (h : HasValues headers name values) {n : String} (hn : lowerName n = n)
    (v : String) :
    HasValues (addMissing n v headers) name
      (values ++ if valuesOf n headers = [] then valuesOf name [(n, v)] else []) := by
  unfold Http.addMissing
  by_cases hmissing : valuesOf n headers = []
  · have hany : headers.any (·.1 = n) ≠ true := fun hany => (h.any_iff hn).mp hany hmissing
    rw [if_neg hany, if_pos hmissing]
    exact h.concat hn v
  · rw [if_pos ((h.any_iff hn).mpr hmissing), if_neg hmissing, List.append_nil]
    exact h

/-- Nothing is added to another name. -/
theorem addMissing_of_ne (h : HasValues headers name values) {n : String} (hn : lowerName n = n)
    (hne : lowerName n ≠ lowerName name) (v : String) :
    HasValues (Http.addMissing n v headers) name values := by
  have hadded := h.addMissing hn v
  rwa [valuesOf_singleton, if_neg hne, ite_self, List.append_nil] at hadded

/-- Nothing is added to a name that has a value. -/
theorem addMissing_of_given (h : HasValues headers name values) (hgiven : values ≠ [])
    {n : String} (hn : lowerName n = n) (v : String) :
    HasValues (Http.addMissing n v headers) name values := by
  by_cases hsame : lowerName n = lowerName name
  · have hpresent : valuesOf n headers ≠ [] := by
      rw [valuesOf_congr hsame, h.values_eq]
      exact hgiven
    have hadded := h.addMissing hn v
    rwa [if_neg hpresent, List.append_nil] at hadded
  · exact h.addMissing_of_ne hn hsame v

/-- A name without a value gets the one that is added. -/
theorem addMissing_self (h : HasValues headers name values) (hn : lowerName name = name)
    (v : String) :
    HasValues (Http.addMissing name v headers) name (if values = [] then [v] else values) := by
  have hadded := h.addMissing hn v
  rw [h.values_eq, valuesOf_singleton, if_pos rfl] at hadded
  by_cases hnone : values = []
  · rw [if_pos hnone, hnone, List.nil_append] at hadded
    rwa [if_pos hnone]
  · rw [if_neg hnone, List.append_nil] at hadded
    rwa [if_neg hnone]

/-- Headers of one name are in order, whatever their values. -/
theorem pairwise_filter (h : HasValues headers name values) :
    (headers.filter fun x => lowerName x.1 = lowerName name).Pairwise
      fun a b => decide (a.1 ≤ b.1) = true := by
  have hname : ∀ x ∈ headers.filter fun x => lowerName x.1 = lowerName name,
      x.1 = lowerName name := by
    intro x hx
    obtain ⟨hx, hsame⟩ := List.mem_filter.mp hx
    rw [← h.lower x hx]
    exact of_decide_eq_true hsame
  refine List.pairwise_of_forall_mem_list ?_
  intro a ha b hb
  rw [hname a ha, hname b hb]
  exact decide_eq_true (String.le_refl _)

/-- Sorting is stable: headers of one name are a sorted part of all headers, so they are a part of
what is sorted, and as many as there. -/
theorem sort (h : HasValues headers name values) : HasValues (sortHeaders headers) name values := by
  have hperm : (sortHeaders headers).Perm headers := List.mergeSort_perm _ _
  have hsub : (headers.filter fun x => lowerName x.1 = lowerName name).Sublist
      (sortHeaders headers) := by
    refine List.sublist_mergeSort ?_ ?_ h.pairwise_filter List.filter_sublist
    · intro a b c hab hbc
      exact decide_eq_true (String.le_trans (of_decide_eq_true hab) (of_decide_eq_true hbc))
    · intro a b
      simpa using String.le_total a.1 b.1
  have hpart := hsub.filter fun x => lowerName x.1 = lowerName name
  rw [List.filter_filter] at hpart
  simp only [Bool.and_self] at hpart
  refine ⟨fun x hx => h.lower x (hperm.mem_iff.mp hx), ?_⟩
  rw [← h.values_eq, valuesOf, valuesOf, hpart.eq_of_length (hperm.filter _).length_eq.symm]

/-- Nothing is taken from another name. -/
theorem dropName (h : HasValues headers name values) {n : String} (hne : lowerName name ≠ n) :
    HasValues (Http.dropName n headers) name values := by
  refine ⟨fun x hx => h.lower x (List.mem_filter.mp hx).1, ?_⟩
  rw [← h.values_eq, valuesOf, valuesOf, Http.dropName, List.filter_filter]
  refine congrArg _ (List.filter_congr fun x hx => ?_)
  by_cases hname : lowerName x.1 = lowerName name
  · have hkept : x.1 ≠ n := by
      rw [← h.lower x hx, hname]
      exact hne
    simp [hkept]
  · simp [hname]

/-- Naming chunks touches no other name. -/
theorem nameChunks (h : HasValues headers name values)
    (hne : lowerName name ≠ "transfer-encoding") :
    HasValues (Http.nameChunks headers) name values := by
  refine ⟨?_, ?_⟩
  · intro x hx
    have hmem : x.1 ∈ headers.map Prod.fst := names_nameChunks headers ▸ List.mem_map_of_mem hx
    obtain ⟨y, hy, hsame⟩ := List.mem_map.mp hmem
    rw [← hsame]
    exact h.lower y hy
  · rw [← h.values_eq, valuesOf, valuesOf]
    exact congrArg _ (filter_nameChunks (p := fun n => lowerName n = lowerName name)
      (decide_eq_false (Ne.symm hne)) headers)

/-- Framing only touches the names that are there for it. -/
theorem frame (h : HasValues headers name values) (hname : ¬ IsFraming name)
    (body : Option (List UInt8)) : HasValues (Http.frame headers body).1 name values := by
  obtain ⟨hlength, hcoding⟩ := not_or.mp hname
  cases body with
  | none => exact h.dropName hcoding
  | some bytes =>
    simp only [Http.frame]
    split
    · split
      · exact (h.dropName hlength).nameChunks hcoding
      · exact h.nameChunks hcoding
    · split
      · exact h
      · have hadded := (h.dropName hlength).concat (n := "content-length") rfl
          (toString bytes.length)
        have hother : lowerName "content-length" ≠ lowerName name := Ne.symm hlength
        rwa [valuesOf_singleton, if_neg hother, List.append_nil] at hadded

end HasValues

/-- The header that is made of the credentials in a URL. -/
def credentialHeaders (credentials : Option (String × Option String)) : Headers :=
  (credentials.map authorization).toList

theorem lowerName_authorization (credentials : String × Option String) :
    lowerName (authorization credentials).1 = "authorization" := by
  have hname : (authorization credentials).1 = "authorization" := rfl
  rw [hname]
  rfl

theorem valuesOf_credentialHeaders {name : String} (h : lowerName name ≠ "authorization")
    (credentials : Option (String × Option String)) :
    valuesOf name (credentialHeaders credentials) = [] := by
  cases credentials with
  | none => rfl
  | some credentials =>
    rw [credentialHeaders, Option.map_some, Option.toList_some, valuesOf_singleton,
      lowerName_authorization, if_neg (Ne.symm h)]

/-- Headers as they are written, behind those for the credentials. -/
def written (target : Target) (given : Headers) : Headers :=
  credentialHeaders target.credentials ++ given.map fun (name, value) => (lowerName name, value)

theorem hasValues_written (target : Target) (given : Headers) (name : String) :
    HasValues (written target given) name
      (valuesOf name (credentialHeaders target.credentials) ++ valuesOf name given) := by
  have hgiven : valuesOf name (given.map fun (name, value) => (lowerName name, value))
      = valuesOf name given := by
    simp only [valuesOf, List.filter_map, List.map_map, Function.comp_def, lowerName_lowerName]
  refine ⟨?_, by rw [written, valuesOf_append, hgiven]⟩
  intro h hmem
  rcases List.mem_append.mp hmem with hmem | hmem
  · cases hcredentials : target.credentials with
    | none => simp [hcredentials, credentialHeaders] at hmem
    | some credentials =>
      rw [hcredentials] at hmem
      rw [List.mem_singleton.mp hmem, lowerName_authorization]
      rfl
  · obtain ⟨x, -, rfl⟩ := List.mem_map.mp hmem
    exact lowerName_lowerName x.1

/-- What is added to a message leaves a name that has values alone. -/
theorem hasValues_wireHeaders {target : Target} {given : Headers} {name : String}
    {values : List String} (h : HasValues (written target given) name values) (hne : values ≠ [])
    (hasBody : Bool) : HasValues (wireHeaders target given hasBody) name values := by
  cases hasBody with
  | false => exact (h.addMissing_of_given hne rfl _).addMissing_of_given hne rfl _
  | true =>
    have htyped := h.addMissing_of_given hne (n := "content-type") rfl "application/json"
    exact (htyped.addMissing_of_given hne rfl _).addMissing_of_given hne rfl _

/-- Only the type of the body matters to a name that not every message has. -/
theorem hasValues_wireHeaders_of_typed {target : Target} {given : Headers} {name : String}
    {values : List String} {hasBody : Bool} (haccept : lowerName "accept" ≠ lowerName name)
    (hhost : lowerName "host" ≠ lowerName name)
    (h : HasValues (if hasBody then addMissing "content-type" "application/json"
      (written target given) else written target given) name values) :
    HasValues (wireHeaders target given hasBody) name values :=
  (h.addMissing_of_ne rfl haccept _).addMissing_of_ne rfl hhost _

/-- The type of a body is added to a message with a body, unless it is given. -/
theorem hasValues_wireHeaders_contentType {target : Target} {given : Headers} {values : List String}
    (h : HasValues (written target given) "content-type" values) (hasBody : Bool) :
    HasValues (wireHeaders target given hasBody) "content-type"
      (if hasBody ∧ values = [] then ["application/json"] else values) := by
  refine hasValues_wireHeaders_of_typed (by decide) (by decide) ?_
  cases hasBody with
  | false =>
    rw [if_neg (by simp)]
    exact h
  | true =>
    simp only [true_and]
    exact h.addMissing_self rfl "application/json"

/-- The headers of a message are those that it has before it is framed, but for those that frame
it. -/
theorem hasValues_message {settings : Settings} {request : Request} {target : Target}
    {name : String} {values : List String} (hname : ¬ IsFraming name)
    (h : HasValues (wireHeaders target (givenHeaders settings request) request.body.isSome) name
      values) : HasValues (message settings request target).headers name values := by
  rw [← Option.isSome_map (f := fun value : Json => Utf8.encode value.text)] at h
  exact (h.frame hname _).sort

/-! ## Layers -/

/-- The layers that the headers of a request come from, lowest first. -/
inductive LayeredFrom : List Headers → Request → Prop
  | endpoint {endpoint : Endpoint} {options : Options} {request : Request}
      (described : (Client.describe endpoint options : Except (Failure SendError) Request)
        = .ok request) :
      LayeredFrom [endpoint.layer.headers, options.layer.headers] request
  | raw {raw : RawCall} {request : Request}
      (described : (Client.describeRaw raw : Except (Failure SendError) Request) = .ok request) :
      LayeredFrom [raw.layer.headers] request
  | direct (request : Request) : LayeredFrom [request.headers] request

/-- A request has the headers of its layers in order. -/
theorem LayeredFrom.headers_eq {layers : List Headers} {request : Request}
    (h : LayeredFrom layers request) : request.headers = layers.flatten := by
  cases h with
  | @endpoint endpoint options _ described =>
    rcases Client.sendable_or_firstFailure SendError options
      with ⟨p, b, q, hsend⟩ | ⟨failure, hfail⟩
    · obtain ⟨r, hr, hdescriptor⟩ :=
        @Client.describe_of_sendable SendError ⟨endpoint, options, .full⟩ p b q hsend
      obtain rfl := Except.ok.inj (described.symm.trans hr)
      simpa using hdescriptor.headers
    · simp [Client.describe_of_firstFailure endpoint hfail] at described
  | @raw raw _ described =>
    rw [Client.describeRaw_eq] at described
    cases hurl : (Client.fillPath raw.url (raw.params.getD .null) :
        Except (Failure SendError) String) with
    | error e => simp [hurl, Except.map] at described
    | ok url =>
      rw [hurl] at described
      obtain rfl := Except.ok.inj described
      simp [Layer.apply, Client.draft, Request.bare]
  | direct => simp

/-- The values that layers give for a name, lowest layer first. -/
def givenValues (name : String) (layers : List Headers) : List String :=
  layers.flatMap (valuesOf name)

/-- **How headers arrive**: under every name that is given, the message has the values of all layers
in order, behind the credentials of the URL. The type of the body is added if there is a body
and none of the layers names it. -/
structure Arrive (layers : List Headers) (u : Url) (request : Request) (wire : WireRequest) :
    Prop where
  kept : ∀ name, ¬ IsFraming name → givenValues name layers ≠ [] →
    valuesOf name wire.headers
      = valuesOf name (credentialHeaders (credentials? u)) ++ givenValues name layers
  contentType : valuesOf "content-type" wire.headers
    = if request.body.isSome ∧ givenValues "content-type" layers = [] then ["application/json"]
      else givenValues "content-type" layers

theorem givenValues_layers {layers : List Headers} {request : Request}
    (h : LayeredFrom layers request) (settings : Settings) (name : String) :
    givenValues name (settings.headers :: layers)
      = valuesOf name (givenHeaders settings request) := by
  rw [givenHeaders, h.headers_eq, givenValues, ← valuesOf_flatten, List.flatten_cons]

/-- **No header is lost**: a message has the headers of the settings, in the byte order of their
names, then those of the layers that its request comes from. -/
theorem headers_arrive {settings : Settings} {network : Network} {request : Request}
    {wire : WireRequest} {layers : List Headers} (hlayers : LayeredFrom layers request)
    (hsends : (exchange settings network request).1 = some wire) :
    settings.headers.Pairwise (fun a b => Utf8.encode a.1 < Utf8.encode b.1) ∧
    ∃ u, Url.parse (resolvedUrl settings request) = .ok u ∧
      Arrive (settings.headers :: layers) u request wire := by
  obtain ⟨t, hcheck, rfl, -⟩ := sends_iff.mp hsends
  obtain ⟨-, -, htarget⟩ := check_eq_ok_iff.mp hcheck
  obtain ⟨u, hparse, -, -, -, rfl⟩ := target_eq_ok_iff.mp htarget
  refine ⟨settings.headers_sorted.imp Utf8.encode_lt, u, hparse, ?_, ?_⟩
  · intro name hname hgiven
    rw [givenValues_layers hlayers] at hgiven ⊢
    have hvalues := hasValues_written ⟨aimed u (queryOf request), credentials? u⟩
      (givenHeaders settings request) name
    have harrive := hasValues_wireHeaders hvalues
      (List.append_ne_nil_of_right_ne_nil _ hgiven) request.body.isSome
    exact (hasValues_message hname harrive).values_eq
  · rw [givenValues_layers hlayers]
    have hvalues := hasValues_written ⟨aimed u (queryOf request), credentials? u⟩
      (givenHeaders settings request) "content-type"
    rw [valuesOf_credentialHeaders (by decide), List.nil_append] at hvalues
    have hname : ¬ IsFraming "content-type" := by
      unfold IsFraming
      decide
    exact (hasValues_message hname (hasValues_wireHeaders_contentType hvalues _)).values_eq

/-- Settings with two headers whose names differ in case. -/
def traceSettings : Settings :=
  ⟨some "http://notes.test", none, [("X-Trace", "s1"), ("x-trace", "s2")], by
    unfold Members.IsSorted
    decide⟩

/-- An endpoint with a header of its own. -/
def addNote : Endpoint :=
  ⟨.post, "/notes", Layer.empty.header "X-TRACE" " e ", .json⟩

/-- Options with another value for the same header. -/
def noteOptions : Options :=
  ⟨.json (.string "milk"), .absent, .map [], Layer.empty.header "x-trace" "c"⟩

/-- The request that a call with these options stands for. -/
def noteRequest : Request :=
  { Request.bare .post "/notes" with
    body := some (.string "milk"), headers := [("X-TRACE", " e "), ("x-trace", "c")] }

/-- All four values of a header arrive. -/
theorem traces_arrive : ∃ wire,
    LayeredFrom [addNote.layer.headers, noteOptions.layer.headers] noteRequest ∧
    (exchange traceSettings (fun _ _ => .closed) noteRequest).1 = some wire ∧
    valuesOf "x-Trace" wire.headers = ["s1", "s2", " e ", "c"] ∧
    valuesOf "content-type" wire.headers = ["application/json"] := by
  have hdescribed : (Client.describe addNote noteOptions : Except (Failure SendError) Request)
      = .ok noteRequest := rfl
  have hlayers := LayeredFrom.endpoint hdescribed
  obtain ⟨u, hparse, hhost, hsend, htarget⟩ :
      ∃ u, Url.parse (resolvedUrl traceSettings noteRequest) = .ok u ∧ u.hasHost = true ∧
        canSend u = true ∧ isTarget (aimed u (queryOf noteRequest)) = true :=
    ⟨_, rfl, rfl, rfl, rfl⟩
  obtain ⟨wire, hsent⟩ : ∃ wire,
      (exchange traceSettings (fun _ _ => .closed) noteRequest).1 = some wire :=
    sends_of_parse rfl rfl (fun _ _ => rfl) hparse hhost hsend htarget
  obtain ⟨-, u, -, harrive⟩ := headers_arrive hlayers hsent
  refine ⟨wire, hlayers, hsent, ?_, harrive.contentType⟩
  have hframing : ¬ IsFraming "x-Trace" := by
    unfold IsFraming
    decide
  rw [harrive.kept "x-Trace" hframing (by decide), valuesOf_credentialHeaders (by decide)]
  decide

end Courier.Http
