import Courier.Directory.Service
import Courier.Proofs.Json.RoundTrip
import Courier.Proofs.Text.Utf8
import Courier.Proofs.UntypedBody

/-!
# What a reflected request shows of its body

The directory reads the body of a request that it reflects much as a client reads the body of a
response that may be anything: nothing is `null`, JSON is what it says, and all else is a string. The
two differ on white space alone, which is nothing to the client and a string to the directory.
-/

namespace Courier

namespace Json

/-- No value begins with a character that is white space of any kind. -/
theorem valueWith_of_blank_front {list : Reader (List Json)}
    {object : Reader (List (String × Json))} {cs : List Utf8.Symbol}
    (h : ∀ c rest, skipSpace cs = c :: rest → ∃ x, c = some x ∧ Text.isBlankChar x = true) :
    ∃ f, valueWith list object cs = .error f := by
  have hnot : ∀ (x : Char) (rest : List Utf8.Symbol), Text.isBlankChar x = false →
      skipSpace cs ≠ some x :: rest := by
    intro x rest hx hfront
    obtain ⟨y, heq, hy⟩ := h _ _ hfront
    cases heq
    rw [hx] at hy
    cases hy
  unfold valueWith
  split
  · exact ⟨_, rfl⟩
  · next hfront => exact absurd hfront (hnot 'n' _ (by decide))
  · next hfront => exact absurd hfront (hnot 't' _ (by decide))
  · next hfront => exact absurd hfront (hnot 'f' _ (by decide))
  · next hfront => exact absurd hfront (hnot '"' _ (by decide))
  · next hfront => exact absurd hfront (hnot '[' _ (by decide))
  · next hfront => exact absurd hfront (hnot '\x7b' _ (by decide))
  · next c rest _ _ _ _ _ _ hfront =>
    obtain ⟨x, rfl, hx⟩ := h _ _ hfront
    have hnumber : ¬ (some x = some '-' ∨ isDigitSymbol (some x) = true) := by
      rintro (heq | hdigit)
      · cases heq
        exact absurd hx (by decide)
      · rw [isBlankChar_of_isDigit hdigit] at hx
        cases hx
    rw [if_neg hnumber]
    exact ⟨_, rfl⟩

/-- **A blank text** is no JSON, though JSON has less white space. -/
theorem parse_of_isBlank {s : String} (h : Text.isBlank s = true) : ∃ e, parse s = .error e := by
  have hfront : ∀ c rest, skipSpace (Utf8.symbolsOf s) = c :: rest →
      ∃ x, c = some x ∧ Text.isBlankChar x = true := by
    intro c rest heq
    have hmem : c ∈ skipSpace (Utf8.symbolsOf s) := heq ▸ List.mem_cons_self
    obtain ⟨x, hx, rfl⟩ := List.mem_map.mp ((List.dropWhile_sublist isSpace).subset hmem)
    exact ⟨x, rfl, List.all_eq_true.mp h x hx⟩
  obtain ⟨f, hf⟩ : ∃ f, value depthLimit (Utf8.symbolsOf s) = .error f :=
    valueWith_of_blank_front hfront
  refine ⟨f.toError (Utf8.symbolsOf s), ?_⟩
  simp only [parse, readAll, hf]

theorem parseOrString_of_isBlank {s : String} (h : Text.isBlank s = true) :
    parseOrString s = .string s := by
  obtain ⟨e, he⟩ := parse_of_isBlank h
  rw [parseOrString, he]

end Json

namespace Directory

/-- A request with a text as its body, no larger than is accepted, on a path that is reflected. -/
structure Inquiry.Echoes (inquiry : Inquiry) (text : String) : Prop where
  route : Route.ofPath inquiry.path = some .echo
  body : inquiry.body = Utf8.encode text
  size : inquiry.body.length ≤ greatestBody

/-- A request is answered by an object with a value as its body, whoever the users are, and they stay
as they are. As with all answers, none of it is sent to `HEAD`. -/
def Inquiry.Shows (inquiry : Inquiry) (v : Json) : Prop :=
  ∃ members, Members.get? "body" members = some v ∧ ∀ fresh store,
    step fresh inquiry store = (trimAnswer inquiry.method (.json 200 (.object members)), store)

theorem Inquiry.Echoes.shows {inquiry : Inquiry} {text : String} (h : inquiry.Echoes text) :
    inquiry.Shows (reflectBody text) := by
  have hdecode : Utf8.decode inquiry.body = .ok text := by
    rw [h.body, Utf8.encode, Utf8.decode_encodeChars, String.ofList_toList]
  have hreflect : ∃ members, Members.get? "body" members = some (reflectBody text) ∧
      ∀ store, reflect inquiry store = .ok (.json 200 (.object members), store) := by
    simp only [reflect, if_neg (Nat.not_lt.mpr h.size), hdecode]
    exact ⟨_, rfl, fun store => rfl⟩
  obtain ⟨members, hmember, hreflect⟩ := hreflect
  refine ⟨members, hmember, fun fresh store => ?_⟩
  simp only [step, h.route, handle, hreflect, orReject]

/-- What the two make of a body: they part where it is blank without being empty. -/
theorem reflectBody_eq (response : Response) :
    reflectBody response.body
      = if response.body ≠ "" ∧ Text.isBlank response.body = true then .string response.body
        else response.decodeLenient.data := by
  have hdata : response.decodeLenient.data
      = if Text.isBlank response.body = true then .null else Json.parseOrString response.body :=
    rfl
  rw [hdata, reflectBody]
  by_cases hempty : response.body = ""
  · simp [hempty, Text.isBlank]
  · cases hblank : Text.isBlank response.body with
    | true => simp [hempty, Json.parseOrString_of_isBlank hblank]
    | false => simp [hempty]

/-- **Three readers of a body.** As any JSON value, a response is always decoded, to the lenient
envelope. A request with the same body, wherever it is reflected, shows the data of that envelope,
except exactly where the body is white space and not empty: there the directory shows the body
itself, and the client has `null`. -/
theorem untyped_readers_agree (response : Response) :
    response.decode .json = .ok (response.decodeLenient.map .json) ∧
    (∀ inquiry : Inquiry, inquiry.Echoes response.body →
      inquiry.Shows (reflectBody response.body)) ∧
    (reflectBody response.body ≠ response.decodeLenient.data ↔
      response.body ≠ "" ∧ Text.isBlank response.body = true) ∧
    (reflectBody response.body ≠ response.decodeLenient.data →
      reflectBody response.body = .string response.body ∧
        response.decodeLenient.data = .null) := by
  have hparted : response.body ≠ "" ∧ Text.isBlank response.body = true →
      reflectBody response.body = .string response.body ∧ response.decodeLenient.data = .null := by
    intro hcond
    rw [reflectBody_eq, if_pos hcond, Response.decodeLenient, if_pos hcond.2]
    exact ⟨rfl, rfl⟩
  have hiff : reflectBody response.body ≠ response.decodeLenient.data ↔
      response.body ≠ "" ∧ Text.isBlank response.body = true := by
    by_cases hcond : response.body ≠ "" ∧ Text.isBlank response.body = true
    · obtain ⟨hstring, hnull⟩ := hparted hcond
      simp [hstring, hnull, hcond]
    · rw [reflectBody_eq, if_neg hcond]
      exact iff_of_false (fun hne => hne rfl) hcond
  exact ⟨response.decode_json, fun inquiry h => h.shows, hiff, fun hne => hparted (hiff.mp hne)⟩

/-- A note of two blanks, one of which JSON does not know. -/
def blankNote : Inquiry :=
  .ofTarget "PUT" "/echo/notes?draft=1" [("Content-Type", "text/plain")] (Utf8.encode "\u00a0\n")

/-- The directory shows the note, and the client has `null`. -/
theorem blankNote_shows_itself :
    blankNote.Echoes "\u00a0\n" ∧ blankNote.Shows (.string "\u00a0\n") ∧
      (Response.decodeLenient ⟨200, [], "\u00a0\n"⟩).data = .null := by
  have hechoes : blankNote.Echoes "\u00a0\n" := ⟨by decide, rfl, by decide⟩
  obtain ⟨-, hshows, hiff, hparted⟩ := untyped_readers_agree ⟨200, [], "\u00a0\n"⟩
  obtain ⟨hstring, hnull⟩ := hparted (hiff.mpr ⟨by decide, by decide⟩)
  have hnote := hshows blankNote hechoes
  rw [hstring] at hnote
  exact ⟨hechoes, hnote, hnull⟩

end Directory

end Courier
