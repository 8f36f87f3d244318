import Courier.Response

/-!
# Bodies of any JSON value

Decoding a body as any JSON value never fails, and gives what decoding without a shape gives: the
two are written apart, one reading through a shape and one through `Json.parse`.
-/

namespace Courier

/-- Converting what a reader gives is converting what a whole text gives. -/
theorem Json.readAll_map {α β : Type} (f : α → β) (reader : Reader α)
    (text : List Utf8.Symbol) :
    Json.readAll (fun cs => (reader cs).map fun (v, left) => (f v, left)) text
      = (Json.readAll reader text).map f := by
  cases hread : reader text with
  | error fault => simp only [Json.readAll, hread, Except.map]
  | ok r =>
    obtain ⟨v, left⟩ := r
    simp only [Json.readAll, hread, Except.map]
    cases Json.skipSpace left <;> rfl

namespace Shape

theorem parseSymbols_json (text : List Utf8.Symbol) :
    json.parseSymbols text = (Json.readAll (Json.value Json.depthLimit) text).map .json :=
  Json.readAll_map Datum.json (Json.value Json.depthLimit) text

theorem parse_json (s : String) : json.parse s = (Json.parse s).map .json := by
  unfold parse Json.parse
  simp only [parseSymbols_json]
  cases Json.readAll (Json.value Json.depthLimit) (Utf8.symbolsOf s) <;> rfl

/-- Any body decodes: a text that is no JSON is accepted as a string. -/
theorem decodeBody_json (body : String) :
    json.decodeBody body
      = .ok (.json (if Text.isBlank body then .null else Json.parseOrString body)) := by
  unfold decodeBody
  by_cases hblank : Text.isBlank body = true
  · rw [if_pos hblank, if_pos hblank]
    rfl
  · rw [if_neg hblank, if_neg hblank, parse_json, Json.parseOrString]
    cases Json.parse body <;> rfl

end Shape

namespace Response

/-- **One envelope**: the untyped shape decodes a response to the lenient envelope. -/
theorem decode_json (response : Response) :
    response.decode .json = .ok (response.decodeLenient.map .json) := by
  unfold decode
  rw [Shape.decodeBody_json]
  rfl

end Response

end Courier
