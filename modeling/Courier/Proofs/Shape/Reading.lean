import Courier.Proofs.Json.Padding
import Courier.Proofs.Json.Places
import Courier.Response

/-!
# What a shape reads

A shape passes over white space first, and what stands next tells much about the outcome: behind the
first letter of `null` there is either the rest of that word or nothing to read. A body is read as a
text, and in two cases as a value instead: as `null` if it is blank, and as a string if its text is
not read.
-/

namespace Courier.Shape

open Json

section Refusals

variable {α β : Type}

/-- An outcome that is a fault with a place. -/
def IsRefused (outcome : Except Fault α) : Prop :=
  ∃ f, outcome = .error f ∧ f.settled = true

theorem IsRefused.isPlaced {outcome : Except Fault α} (h : IsRefused outcome) :
    IsPlaced outcome := by
  obtain ⟨f, rfl, hf⟩ := h
  rintro g ⟨⟩
  exact hf

theorem isRefused_bind {outcome : Except Fault α} (h : IsPlaced outcome)
    {next : α → Except Fault β} (hnext : ∀ x, IsRefused (next x)) :
    IsRefused (outcome.bind next) := by
  cases outcome with
  | error f => exact ⟨f, rfl, h f rfl⟩
  | ok x => exact hnext x

theorem isRefused_here (problem : Problem) (left : List Utf8.Symbol) :
    IsRefused (.error (.here problem left) : Except Fault α) :=
  ⟨_, rfl, rfl⟩

/-- Whatever a value turns out to be, to refuse it is a fault with a place. -/
theorem isRefused_refuse (expected : String) (cs : List Utf8.Symbol) :
    IsRefused (refuse expected cs : Except Fault (α × List Utf8.Symbol)) := by
  unfold refuse
  dsimp only
  split
  · exact ⟨_, rfl, rfl⟩
  · exact isRefused_bind (isPlaced_word _ _) fun _ => isRefused_here _ _
  · exact isRefused_bind (isPlaced_word _ _) fun _ => isRefused_here _ _
  · exact isRefused_bind (isPlaced_word _ _) fun _ => isRefused_here _ _
  · exact isRefused_bind (isPlaced_literalFrom _ _ _ _) fun _ => isRefused_here _ _
  · exact isRefused_here _ _
  · exact isRefused_here _ _
  · split
    · exact isRefused_bind (isPlaced_numeral _) fun _ => isRefused_here _ _
    · exact ⟨_, rfl, rfl⟩

end Refusals

/-- White space at the front makes no difference. -/
theorem read_skipSpace (shape : Shape) (depth : Nat) (cs : List Utf8.Symbol) :
    shape.read depth (skipSpace cs) = shape.read depth cs := by
  cases shape with
  | json =>
    have hvalue : value depth (skipSpace cs) = value depth cs := by
      cases depth <;> simp only [value, valueWith, skipSpace_skipSpace]
    simp only [read, hvalue]
  | _ =>
    simp only [read, readUnit, readBool, readNumber, readString, readOption, readList, readObject,
      readRecord, readChoice, skipSpace_skipSpace]

/-- **The first letter of `null`**: either the rest of the word is read and stands for what `null`
stands for, or nothing is read. -/
theorem read_of_null_front (shape : Shape) (depth : Nat) {cs rest : List Utf8.Symbol}
    (hfront : skipSpace cs = some 'n' :: rest) :
    (∃ d, shape.ofNull = .ok d ∧ shape.read depth cs = (word nullTail rest).map (d, ·)) ∨
      (∃ m, shape.ofNull = .error m) ∧ IsRefused (shape.read depth cs) := by
  have hdigit : ¬ (some 'n' = some '-' ∨ isDigitSymbol (some 'n') = true) := by decide
  cases shape with
  | unit | marker =>
    refine .inl ⟨_, rfl, ?_⟩
    simp only [read, readUnit, hfront]
  | json =>
    refine .inl ⟨_, rfl, ?_⟩
    have hvalue : value depth cs = (word nullTail rest).map (.null, ·) := by
      cases depth <;> simp only [value, valueWith, hfront]
    simp only [read, hvalue]
    cases word nullTail rest <;> rfl
  | option =>
    refine .inl ⟨_, rfl, ?_⟩
    simp only [read, readOption, hfront]
  | integer | float =>
    refine .inr ⟨⟨_, rfl⟩, ?_⟩
    simp only [read, readNumber, hfront, if_neg hdigit]
    exact isRefused_refuse _ _
  | choice =>
    refine .inr ⟨⟨_, rfl⟩, ?_⟩
    simp only [read, readChoice, hfront]
    exact ⟨_, rfl, rfl⟩
  | _ =>
    refine .inr ⟨⟨_, rfl⟩, ?_⟩
    simp only [read, readBool, readString, readList, readObject, readRecord, hfront]
    exact isRefused_refuse _ _

/-! ## Whole texts -/

theorem parse_eq_ok_iff {shape : Shape} {s : String} {d : Datum} :
    shape.parse s = .ok d ↔
      ∃ left, shape.read depthLimit (Utf8.symbolsOf s) = .ok (d, left) ∧ skipSpace left = [] := by
  rw [← readAll_eq_ok_iff]
  unfold parse parseSymbols
  dsimp only
  cases readAll (shape.read depthLimit) (Utf8.symbolsOf s) <;> simp

/-- A text with the first letter of `null` at its front is read only if it is `null`. -/
theorem parse_of_null_front {shape : Shape} {s : String} {rest : List Utf8.Symbol} {d : Datum}
    (hfront : skipSpace (Utf8.symbolsOf s) = some 'n' :: rest) :
    shape.parse s = .ok d ↔ IsNull s ∧ shape.ofNull = .ok d := by
  have hnull : IsNull s ↔ ∃ left, word nullTail rest = .ok left ∧ skipSpace left = [] := by
    simp only [isNull_iff, hfront, List.cons.injEq, true_and, word_eq_ok_iff]
  rw [parse_eq_ok_iff, hnull]
  obtain ⟨d', hd', hread⟩ | ⟨⟨m, hm⟩, f, hread, -⟩ := read_of_null_front shape depthLimit hfront
  · rw [hread, hd']
    cases word nullTail rest with
    | error f => simp [Except.map]
    | ok left => simp [Except.map, and_comm]
  · simp [hread, hm]

/-- **The text of `null`** is read as what `null` stands for. -/
theorem parse_of_isNull {shape : Shape} {s : String} {d : Datum} (h : IsNull s) :
    shape.parse s = .ok d ↔ shape.ofNull = .ok d := by
  obtain ⟨left, hfront, -⟩ := isNull_iff.mp h
  rw [parse_of_null_front hfront, and_iff_right h]

/-! ## Bodies -/

/-- **The three routes** to the data of a body: `null` for white space, the text itself, and the
string that the text is where nothing is read from it. -/
theorem decodeBody_eq_ok_iff {shape : Shape} {body : String} {d : Datum} :
    shape.decodeBody body = .ok d ↔
      Text.isBlank body = true ∧ shape.ofNull = .ok d ∨
      Text.isBlank body = false ∧ (shape.parse body = .ok d ∨
        (∀ other, shape.parse body ≠ .ok other) ∧ shape.ofText body = .ok d) := by
  unfold decodeBody
  cases hblank : Text.isBlank body with
  | true => cases hnull : shape.ofNull <;> simp
  | false =>
    cases hparse : shape.parse body with
    | ok other => simp
    | error e => cases htext : shape.ofText body <;> simp

end Courier.Shape

namespace Courier.Response

/-- A decoded response keeps its status and its headers. -/
theorem decode_eq_ok_iff {response : Response} {shape : Shape} {envelope : Envelope Datum} :
    response.decode shape = .ok envelope ↔
      ∃ d, shape.decodeBody response.body = .ok d ∧ envelope = response.withData d := by
  unfold decode
  cases shape.decodeBody response.body with
  | error e => simp [Except.map]
  | ok d => simp [Except.map, eq_comm]

end Courier.Response
