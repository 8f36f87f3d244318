import Courier.Proofs.Http.SentHeaders
import Courier.Proofs.Json.RoundTrip
import Courier.Proofs.UntypedBody

/-!
# Bodies come back

The body of a message is the compact text of the value that was given for it, unless the caller
announces a length of its own: then it may be the beginning of that text. A response with the text
as its body is decoded to the same value, or to the text itself where too many containers are nested
in the value.
-/

namespace Courier

theorem Json.IsExact.not_isBlank {v : Json} (h : v.IsExact) : ¬ Text.isBlank v.text = true := by
  obtain ⟨c, more, hchars, hblank, -⟩ := h.isStarted
  rw [Text.isBlank, Json.text, String.toList_ofList, hchars, List.all_cons, hblank]
  exact Bool.false_ne_true

/-- A response with a written text as its body. -/
theorem Response.decodeLenient_text {v : Json} (h : v.IsExact) (status : UInt16)
    (headers : Headers) :
    decodeLenient ⟨status, headers, v.text⟩
      = ⟨status, headers, if v.depth ≤ 127 then v else .string v.text⟩ := by
  rw [decodeLenient]
  simp only [if_neg h.not_isBlank, Json.parseOrString_text h]
  rfl

namespace Http

/-! ## Bodies in a frame -/

/-- A frame keeps a beginning of the body. -/
theorem prefix_frame (headers : Headers) (bytes : List UInt8) :
    ∃ sent, (frame headers (some bytes)).2 = some sent ∧ sent <+: bytes := by
  simp only [frame]
  split
  · exact ⟨bytes, rfl, List.prefix_rfl⟩
  · split
    · exact ⟨_, rfl, List.take_prefix _ _⟩
    · exact ⟨bytes, rfl, List.prefix_rfl⟩

/-- A frame without an announced length keeps all of the body. -/
theorem frame_of_unannounced {headers : Headers} (h : valuesAt "content-length" headers = [])
    (bytes : List UInt8) : (frame headers (some bytes)).2 = some bytes := by
  have hnone : announcedLength [] = none := rfl
  simp only [frame, h, hnone]
  split <;> rfl

/-- A name in use has the values of its spelling. -/
theorem HasValues.valuesAt_eq {headers : Headers} {name : String} {values : List String}
    (h : HasValues headers name values) (hn : lowerName name = name) :
    valuesAt name headers = values := by
  rw [← h.values_eq, valuesAt, valuesOf, hn]
  exact congrArg _ (List.filter_congr fun x hx => by rw [h.lower x hx])

/-- No length is added before a message is framed. -/
theorem hasValues_wireHeaders_contentLength {target : Target} {given : Headers}
    {values : List String} (h : HasValues (written target given) "content-length" values)
    (hasBody : Bool) : HasValues (wireHeaders target given hasBody) "content-length" values := by
  refine hasValues_wireHeaders_of_typed (by decide) (by decide) ?_
  cases hasBody with
  | false => exact h
  | true =>
    have htype : lowerName "content-type" ≠ lowerName "content-length" := by decide
    exact h.addMissing_of_ne rfl htype "application/json"

/-- A length that is announced was given by the caller. -/
theorem valuesAt_wireHeaders {target : Target} {given : Headers}
    (h : valuesOf "content-length" given = []) (hasBody : Bool) :
    valuesAt "content-length" (wireHeaders target given hasBody) = [] := by
  have hvalues := hasValues_written target given "content-length"
  rw [valuesOf_credentialHeaders (by decide), h] at hvalues
  exact (hasValues_wireHeaders_contentLength hvalues hasBody).valuesAt_eq rfl

theorem body_of_sends {settings : Settings} {network : Network} {request : Request}
    {wire : WireRequest} {v : Json} (hbody : request.body = some v)
    (h : (exchange settings network request).1 = some wire) :
    ∃ sent, wire.body = some sent ∧ sent <+: Utf8.encode v.text ∧
      (valuesOf "content-length" (givenHeaders settings request) = [] →
        sent = Utf8.encode v.text) := by
  obtain ⟨t, -, rfl, -⟩ := sends_iff.mp h
  have hframed : (message settings request t).body
      = (frame (wireHeaders t (givenHeaders settings request) true)
        (some (Utf8.encode v.text))).2 := by
    rw [message, hbody]
    rfl
  rw [hframed]
  obtain ⟨sent, hsent, hprefix⟩ := prefix_frame
    (wireHeaders t (givenHeaders settings request) true) (Utf8.encode v.text)
  refine ⟨sent, hsent, hprefix, ?_⟩
  intro hlength
  rw [frame_of_unannounced (valuesAt_wireHeaders hlength true)] at hsent
  exact (Option.some.inj hsent).symm

/-- **A body comes back**: the text of a value is sent, all of it if the caller announces no length,
and a response with this text is decoded to the value, with all members in order and all integers as
integers. A value in which more than 127 containers are nested comes back as its text. Status and
headers are those of the response. -/
theorem body_comes_back {v : Json} (hexact : v.IsExact) :
    (∀ settings network request wire, request.body = some v →
      (exchange settings network request).1 = some wire →
      ∃ sent, wire.body = some sent ∧ sent <+: Utf8.encode v.text ∧
        (valuesOf "content-length" (givenHeaders settings request) = [] →
          sent = Utf8.encode v.text)) ∧
    ∀ status headers,
      Response.decodeLenient ⟨status, headers, v.text⟩
        = ⟨status, headers, if v.depth ≤ 127 then v else .string v.text⟩ ∧
      Response.decode .json ⟨status, headers, v.text⟩
        = .ok ⟨status, headers, .json (if v.depth ≤ 127 then v else .string v.text)⟩ := by
  refine ⟨?_, ?_⟩
  · intro settings network request wire hbody hsends
    exact body_of_sends hbody hsends
  · intro status headers
    have hlenient := Response.decodeLenient_text hexact status headers
    refine ⟨hlenient, ?_⟩
    rw [Response.decode_json, hlenient]
    rfl

/-- A value with the least and the greatest integer, and with characters that are escaped. -/
def placedOrder : Json :=
  .object [("lines", .array [.number (.integer ⟨-9223372036854775808, by decide⟩),
    .string "tab\t \"ü\"", .null]), ("id", .number (.integer ⟨18446744073709551615, by decide⟩))]

theorem order_comes_back : placedOrder.IsExact ∧
    Response.decodeLenient ⟨200, [("x-id", "7")], placedOrder.text⟩
      = ⟨200, [("x-id", "7")], placedOrder⟩ := by
  have hexact : placedOrder.IsExact := by
    refine .object (by decide) ?_
    simp only [List.forall_mem_cons, List.not_mem_nil, false_imp_iff, implies_true, and_true]
    refine ⟨.array ?_, .integer _⟩
    simp only [List.forall_mem_cons, List.not_mem_nil, false_imp_iff, implies_true, and_true]
    exact ⟨.integer _, .string _, .null⟩
  obtain ⟨-, hback⟩ := body_comes_back hexact
  exact ⟨hexact, (hback 200 [("x-id", "7")]).1⟩

end Http

end Courier
