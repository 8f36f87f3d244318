import Courier.Proofs.Shape.Reading

/-!
# Bodies of optional data

Optional data is absent exactly where the body is blank or the text of `null`. Any other body is read
as without the option, whichever route it takes.
-/

namespace Courier

/-- A body without data: white space of any kind, or the text of `null`. -/
def HoldsNothing (body : String) : Prop :=
  Text.isBlank body = true ∨ Json.IsNull body

namespace Shape

open Json

/-- Where the next character does not begin `null`, an optional value is read as the value. -/
theorem read_option_of_front {shape : Shape} {depth : Nat} {cs : List Utf8.Symbol}
    (hfront : ∀ rest, skipSpace cs ≠ some 'n' :: rest) :
    (option shape).read depth cs
      = (shape.read depth cs).map fun (d, left) => (.present d, left) := by
  rw [read, readOption, ← read_skipSpace shape depth cs]
  split
  · next rest h => exact absurd h (hfront rest)
  · rfl

/-- A text other than `null` is read as present data, or not at all, like the data itself. -/
theorem parse_option_eq_ok_iff {shape : Shape} {s : String} {d : Datum} (h : ¬ IsNull s) :
    (option shape).parse s = .ok d ↔ ∃ inner, shape.parse s = .ok inner ∧ d = .present inner := by
  by_cases hfront : ∃ rest, skipSpace (Utf8.symbolsOf s) = some 'n' :: rest
  · obtain ⟨rest, hfront⟩ := hfront
    simp only [parse_of_null_front hfront, h, false_and, exists_false]
  · simp only [parse_eq_ok_iff, read_option_of_front (not_exists.mp hfront)]
    cases shape.read depthLimit (Utf8.symbolsOf s) with
    | error f => simp [Except.map]
    | ok r =>
      obtain ⟨inner, left⟩ := r
      simp only [Except.map, Except.ok.injEq, Prod.mk.injEq]
      constructor
      · rintro ⟨_, ⟨rfl, rfl⟩, hleft⟩
        exact ⟨inner, ⟨left, ⟨rfl, rfl⟩, hleft⟩, rfl⟩
      · rintro ⟨_, ⟨_, ⟨rfl, rfl⟩, hleft⟩, rfl⟩
        exact ⟨left, ⟨rfl, rfl⟩, hleft⟩

theorem ofText_option_eq_ok_iff {shape : Shape} {s : String} {d : Datum} :
    (option shape).ofText s = .ok d ↔
      ∃ inner, shape.ofText s = .ok inner ∧ d = .present inner := by
  rw [ofText]
  cases shape.ofText s <;> simp [Except.map, eq_comm]

theorem decodeBody_option_of_holdsNothing {shape : Shape} {body : String}
    (h : HoldsNothing body) : (option shape).decodeBody body = .ok .absent := by
  rw [decodeBody_eq_ok_iff]
  obtain hblank | hnull := h
  · exact .inl ⟨hblank, rfl⟩
  · exact .inr ⟨hnull.not_isBlank, .inl ((parse_of_isNull hnull).mpr rfl)⟩

/-- A body with data is decoded as present data, by the route that the data itself takes. -/
theorem decodeBody_option_eq_ok_iff {shape : Shape} {body : String} {d : Datum}
    (h : ¬ HoldsNothing body) :
    (option shape).decodeBody body = .ok d ↔
      ∃ inner, shape.decodeBody body = .ok inner ∧ d = .present inner := by
  obtain ⟨hblank, hnull⟩ := not_or.mp h
  have hparse : (∀ other, (option shape).parse body ≠ .ok other) ↔
      ∀ other, shape.parse body ≠ .ok other := by
    simp only [ne_eq, parse_option_eq_ok_iff hnull, not_exists, not_and]
    constructor
    · intro hnone inner hinner
      exact hnone _ inner hinner rfl
    · intro hnone _ inner hinner
      exact absurd hinner (hnone inner)
  simp only [decodeBody_eq_ok_iff, Bool.eq_false_iff.mpr hblank, Bool.false_eq_true, hparse,
    parse_option_eq_ok_iff hnull, ofText_option_eq_ok_iff, false_and, false_or, true_and]
  constructor
  · rintro (⟨inner, hinner, rfl⟩ | ⟨hnone, inner, hinner, rfl⟩)
    · exact ⟨inner, .inl hinner, rfl⟩
    · exact ⟨inner, .inr ⟨hnone, hinner⟩, rfl⟩
  · rintro ⟨inner, hinner | ⟨hnone, hinner⟩, rfl⟩
    · exact .inl ⟨inner, hinner, rfl⟩
    · exact .inr ⟨hnone, inner, hinner, rfl⟩

end Shape

namespace Response

theorem decode_option_eq_ok_iff {shape : Shape} {response : Response}
    {envelope : Envelope Datum} :
    response.decode (.option shape) = .ok envelope ↔
      HoldsNothing response.body ∧ envelope = response.withData .absent ∨
      ¬ HoldsNothing response.body ∧
        ∃ plain, response.decode shape = .ok plain ∧ envelope = plain.map .present := by
  rw [decode_eq_ok_iff]
  by_cases h : HoldsNothing response.body
  · simp [h, Shape.decodeBody_option_of_holdsNothing h]
  · simp only [Shape.decodeBody_option_eq_ok_iff h, decode_eq_ok_iff, h, false_and, false_or,
      not_false_eq_true, true_and]
    constructor
    · rintro ⟨_, ⟨d, hd, rfl⟩, rfl⟩
      exact ⟨response.withData d, ⟨d, hd, rfl⟩, rfl⟩
    · rintro ⟨_, ⟨d, hd, rfl⟩, rfl⟩
      exact ⟨.present d, ⟨d, hd, rfl⟩, rfl⟩

/-- **Optional data in a response** is absent exactly where the body holds nothing; for any other
body, decoding optional data is decoding the data. -/
theorem optional_data_is_data (shape : Shape) (response : Response) :
    (response.decode (.option shape) = .ok (response.withData .absent) ↔
      HoldsNothing response.body) ∧
    (∀ envelope, response.decode (.option shape) = .ok envelope ↔
      HoldsNothing response.body ∧ envelope = response.withData .absent ∨
      ¬ HoldsNothing response.body ∧
        ∃ plain, response.decode shape = .ok plain ∧ envelope = plain.map .present) ∧
    ∀ plain, response.decode shape = .ok plain ↔
      ∃ d, shape.decodeBody response.body = .ok d ∧ plain = response.withData d := by
  refine ⟨?_, fun _ => decode_option_eq_ok_iff, fun _ => decode_eq_ok_iff⟩
  rw [decode_option_eq_ok_iff]
  constructor
  · rintro (⟨h, -⟩ | ⟨-, plain, -, heq⟩)
    · exact h
    · cases congrArg Envelope.data heq
  · intro h
    exact .inl ⟨h, rfl⟩

end Response

end Courier
