import Courier.Proofs.Shape.Reading
import Courier.Settings

/-!
# Bodies of data that is no text

Most shapes accept no string, so the last resort of taking a body for a string is none for them: what
their data is read from is JSON text, and where that fails, the fault in the JSON text is what is
reported. It is known by its place in the text, which a string has not.
-/

namespace Courier.Shape

open Json

/-- The shapes that accept no string. What a container or a record has inside does not matter. -/
inductive Textless : Shape → Prop
  | unit : Textless .unit
  | marker (name : String) : Textless (.marker name)
  | bool : Textless .bool
  | integer (kind : IntegerKind) : Textless (.integer kind)
  | float : Textless .float
  | option {inner : Shape} (textless : Textless inner) : Textless (.option inner)
  | list (element : Shape) : Textless (.list element)
  | tuple (items : List Shape) : Textless (.tuple items)
  | map (element : Shape) : Textless (.map element)
  | record (name : String) (strict : Bool) (fields : List Field) :
      Textless (.record name strict fields)

/-! ## Strings are refused -/

theorem Textless.ofText {shape : Shape} (h : Textless shape) (s : String) :
    ∃ m, shape.ofText s = .error m := by
  induction h with
  | option _ ih =>
    obtain ⟨m, hm⟩ := ih
    exact ⟨m, by rw [Shape.ofText, hm]; rfl⟩
  | _ => exact ⟨_, rfl⟩

theorem Textless.read_of_quote_front {shape : Shape} (h : Textless shape) (depth : Nat)
    {cs rest : List Utf8.Symbol} (hfront : skipSpace cs = some '"' :: rest) :
    IsRefused (shape.read depth cs) := by
  have hdigit : ¬ (some '"' = some '-' ∨ isDigitSymbol (some '"') = true) := by decide
  induction h generalizing cs with
  | @option inner _ ih =>
    obtain ⟨f, hread, hf⟩ := ih (skipSpace_cons (by decide) rest)
    rw [read, readOption, hfront]
    show IsRefused ((inner.read depth (some '"' :: rest)).map _)
    rw [hread]
    exact ⟨f, rfl, hf⟩
  | integer | float =>
    simp only [read, readNumber, hfront, if_neg hdigit]
    exact isRefused_refuse _ _
  | _ =>
    simp only [read, readUnit, readBool, readList, readObject, readRecord, hfront]
    exact isRefused_refuse _ _

/-- **No string** is read as data of the shape, from its JSON text. -/
theorem Textless.parse_string {shape : Shape} (h : Textless shape) (s : String) :
    ∃ e, shape.parse (Json.string s).text = .error e := by
  have hfront : ∃ rest, skipSpace (Utf8.symbolsOf (Json.string s).text) = some '"' :: rest := by
    rw [Json.text, chars, stringText, Utf8.symbolsOf, String.toList_ofList, List.map_cons]
    exact ⟨_, skipSpace_cons (by decide) _⟩
  obtain ⟨rest, hfront⟩ := hfront
  obtain ⟨f, hread, -⟩ := h.read_of_quote_front depthLimit hfront
  cases hparse : shape.parse (Json.string s).text with
  | error e => exact ⟨e, rfl⟩
  | ok d =>
    obtain ⟨left, hok, -⟩ := parse_eq_ok_iff.mp hparse
    rw [hread] at hok
    cases hok

/-! ## Faults have places -/

theorem isPlaced_opened {α : Type} {read : Nat → Reader α} (h : ∀ d cs, IsPlaced (read d cs))
    (depth : Nat) (cs : List Utf8.Symbol) : IsPlaced (opened depth read cs) := by
  cases depth with
  | zero => exact isPlaced_ahead _ _
  | succ d => exact h d cs

theorem isPlaced_readUnit (expected : String) (cs : List Utf8.Symbol) :
    IsPlaced (readUnit expected cs) := by
  unfold readUnit
  split
  · exact (isPlaced_word _ _).map _
  · exact (isRefused_refuse _ _).isPlaced

theorem isPlaced_readBool (cs : List Utf8.Symbol) : IsPlaced (readBool cs) := by
  unfold readBool
  split
  · exact (isPlaced_word _ _).map _
  · exact (isPlaced_word _ _).map _
  · exact (isRefused_refuse _ _).isPlaced

theorem isPlaced_readNumber (expected : String) (convert : JsonNumber → Except Mismatch Datum)
    (cs : List Utf8.Symbol) : IsPlaced (readNumber expected convert cs) := by
  unfold readNumber
  split
  · exact isPlaced_ahead _ _
  · split
    · split
      · next hf => exact (isPlaced_numeral _).error hf
      · split
        · exact isPlaced_ok _
        · exact isPlaced_here _ _
    · exact (isRefused_refuse _ _).isPlaced

theorem isPlaced_readList {expected : String} {list : Nat → Reader Datum}
    (h : ∀ d cs, IsPlaced (list d cs)) (depth : Nat) (cs : List Utf8.Symbol) :
    IsPlaced (readList expected depth list cs) := by
  unfold readList
  split
  · exact isPlaced_opened h _ _
  · exact (isRefused_refuse _ _).isPlaced

theorem isPlaced_readObject {expected : String} {object : Nat → Reader Datum}
    (h : ∀ d cs, IsPlaced (object d cs)) (depth : Nat) (cs : List Utf8.Symbol) :
    IsPlaced (readObject expected depth object cs) := by
  unfold readObject
  split
  · exact isPlaced_opened h _ _
  · exact (isRefused_refuse _ _).isPlaced

theorem isPlaced_readRecord (expected : String) (strict : Bool) (parts : List Part) (depth : Nat)
    (cs : List Utf8.Symbol) : IsPlaced (readRecord expected strict parts depth cs) := by
  unfold readRecord
  dsimp only
  split
  · refine (isPlaced_opened ?_ _ _).map _
    exact fun _ _ => isPlaced_close endsPlaced_endList _
  · refine (isPlaced_opened ?_ _ _).map _
    exact fun _ _ => isPlaced_close endsPlaced_endObject _
  · exact (isRefused_refuse _ _).isPlaced

/-- **Reading without strings**: a fault has a place. The parts of a container may have faults without
one, but the container gives it to them. -/
theorem Textless.isPlaced_read {shape : Shape} (h : Textless shape) (depth : Nat)
    (cs : List Utf8.Symbol) : IsPlaced (shape.read depth cs) := by
  induction h generalizing cs with
  | unit => exact isPlaced_readUnit _ cs
  | marker name => exact isPlaced_readUnit _ cs
  | bool => exact isPlaced_readBool cs
  | integer kind => exact isPlaced_readNumber _ _ cs
  | float => exact isPlaced_readNumber _ _ cs
  | option _ ih =>
    rw [read, readOption]
    split
    · exact (isPlaced_word _ _).map _
    · exact (ih _).map _
  | list element =>
    rw [read]
    exact isPlaced_readList (fun _ _ => (isPlaced_close endsPlaced_endList _).map _) depth cs
  | tuple items =>
    rw [read]
    exact isPlaced_readList (fun _ _ => (isPlaced_close endsPlaced_endList _).map _) depth cs
  | map element =>
    rw [read]
    exact isPlaced_readObject (fun _ _ => (isPlaced_close endsPlaced_endObject _).map _) depth cs
  | record name strict fields =>
    rw [read]
    exact isPlaced_readRecord _ _ _ depth cs

theorem Textless.isPlaced_parseSymbols {shape : Shape} (h : Textless shape)
    (cs : List Utf8.Symbol) : IsPlaced (shape.parseSymbols cs) := by
  unfold parseSymbols readAll
  split
  · next hf => exact (h.isPlaced_read _ _).error hf
  · split
    · exact isPlaced_ok _
    · exact isPlaced_ahead _ _

theorem Textless.place_ne_none {shape : Shape} (h : Textless shape) {s : String} {e : ReadError}
    (hparse : shape.parse s = .error e) : e.place ≠ none := by
  unfold parse at hparse
  dsimp only at hparse
  split at hparse
  · cases hparse
  · next f hf =>
    have hsettled : f.settled = true := h.isPlaced_parseSymbols _ f hf
    cases hparse
    rw [Fault.toError, if_pos hsettled]
    exact Option.some_ne_none _

/-! ## Bodies -/

theorem Textless.decodeBody_eq_parse {shape : Shape} (h : Textless shape) {body : String}
    (hblank : Text.isBlank body = false) : shape.decodeBody body = shape.parse body := by
  obtain ⟨m, hm⟩ := h.ofText body
  rw [decodeBody, if_neg (Bool.eq_false_iff.mp hblank), hm]
  cases shape.parse body <;> rfl

end Courier.Shape

namespace Courier

/-- A response is decoded from JSON: data of the shape from the text of the body, or from `null` if
the body is blank. No string gives such data, neither as a value nor as a text; and what is reported
for a body that is not blank is the error of its text and not that of the string. -/
structure IsReadAsJson (shape : Shape) (response : Response) : Prop where
  ok_iff : ∀ envelope, response.decode shape = .ok envelope ↔ ∃ d, envelope = response.withData d ∧
    (Text.isBlank response.body = true ∧ shape.ofNull = .ok d ∨
      Text.isBlank response.body = false ∧ shape.parse response.body = .ok d)
  error_iff : Text.isBlank response.body = false →
    ∀ error, response.decode shape = .error error ↔ shape.parse response.body = .error error
  not_of_string : ∃ m, shape.ofText response.body = .error m ∧
    (Text.isBlank response.body = false → response.decode shape ≠ .error (.unplaced (.mismatch m)))
  null_iff : ∀ d, shape.ofNull = .ok d ↔ shape.parse "null" = .ok d
  string_refused : ∀ s, (∃ m, shape.ofText s = .error m) ∧
    ∃ e, shape.parse (Json.string s).text = .error e

namespace Response

/-- The error of a body that is not blank is that of its JSON text. -/
theorem decode_eq_error_iff {shape : Shape} (h : shape.Textless) {response : Response}
    (hblank : Text.isBlank response.body = false) {error : ReadError} :
    response.decode shape = .error error ↔ shape.parse response.body = .error error := by
  rw [decode, h.decodeBody_eq_parse hblank]
  cases shape.parse response.body <;> simp [Except.map]

/-- **Data that is no text** comes from JSON, and so do the errors. -/
theorem textless_is_read_as_json {shape : Shape} (h : shape.Textless) (response : Response) :
    IsReadAsJson shape response := by
  obtain ⟨m, hm⟩ := h.ofText response.body
  refine ⟨?_, fun hblank _ => decode_eq_error_iff h hblank, ⟨m, hm, ?_⟩, ?_, ?_⟩
  · intro envelope
    simp only [decode_eq_ok_iff, Shape.decodeBody_eq_ok_iff, hm, reduceCtorEq, and_false, or_false]
    exact exists_congr fun d => and_comm
  · intro hblank hdecode
    exact h.place_ne_none ((decode_eq_error_iff h hblank).mp hdecode) rfl
  · exact fun d => (Shape.parse_of_isNull Json.isNull_null).symm
  · exact fun s => ⟨h.ofText s, h.parse_string s⟩

/-- Settings are no text, so a word in place of them is reported as no JSON. -/
theorem settings_are_read_as_json :
    Settings.shape.Textless ∧ IsReadAsJson Settings.shape ⟨200, [], "none"⟩ ∧
    decode Settings.shape ⟨200, [], "none"⟩
      = .error ⟨.breach .expectedIdentifier, some ⟨1, 2⟩⟩ := by
  have h : IsReadAsJson Settings.shape ⟨200, [], "none"⟩ :=
    textless_is_read_as_json (.record _ _ _) _
  refine ⟨.record _ _ _, h, (h.error_iff (by decide) _).mpr ?_⟩
  rfl

end Response

end Courier
