import Courier.Proofs.Json.Spelling
import Courier.Proofs.Shape.Reading

/-!
# Bodies of text

A body that is to be text always is one unless it is blank. If it is the text of a JSON string, that
string is meant, and in all other cases the body as it came.
-/

namespace Courier

/-- A text that is one JSON string, with white space around it. -/
def Json.IsLiteral (body s : String) : Prop :=
  ∃ inner, SpellsAll inner s.toList ∧ IsPadded ('"' :: (inner ++ ['"'])) body

/-- The text that a body holds. -/
inductive IsContent (body : String) : String → Prop
  | literal {s : String} (spelled : Json.IsLiteral body s) : IsContent body s
  | verbatim (notSpelled : ∀ s, ¬ Json.IsLiteral body s) : IsContent body body

namespace Shape

open Json

theorem read_text_eq_ok_iff {depth : Nat} {cs left : List Utf8.Symbol} {d : Datum} :
    text.read depth cs = .ok (d, left) ↔
      ∃ rest s, skipSpace cs = some '"' :: rest ∧ literal rest = .ok (s, left) ∧ d = .text s := by
  unfold read readString
  split
  · next rest hfront =>
    rw [hfront]
    split
    · next f hf => simp [hf]
    · next s left' hs => simp [hs, eq_comm, and_comm]
  · next hfront =>
    obtain ⟨f, hf, -⟩ : IsRefused (refuse "a string" (skipSpace cs)) := isRefused_refuse _ _
    rw [hf]
    simp only [reduceCtorEq, false_iff, not_exists, not_and]
    intro rest s h
    exact absurd h (hfront rest)

/-- **A text is read** from the text of a JSON string, and from nothing else. -/
theorem parse_text_eq_ok_iff {body : String} {d : Datum} :
    text.parse body = .ok d ↔ ∃ s, IsLiteral body s ∧ d = .text s := by
  rw [parse_eq_ok_iff]
  constructor
  · rintro ⟨left, hread, hleft⟩
    obtain ⟨rest, s, hfront, hs, rfl⟩ := read_text_eq_ok_iff.mp hread
    obtain ⟨inner, hinner, rfl⟩ := literal_eq_ok_iff.mp hs
    refine ⟨s, ⟨inner, hinner, ?_⟩, rfl⟩
    rw [isPadded_iff (by decide)]
    exact ⟨left, by simp [hfront], hleft⟩
  · rintro ⟨s, ⟨inner, hinner, hbody⟩, rfl⟩
    rw [isPadded_iff (by decide)] at hbody
    obtain ⟨left, hfront, hleft⟩ := hbody
    have hliteral : literal (inner.map some ++ some '"' :: left) = .ok (s, left) :=
      literal_eq_ok_iff.mpr ⟨inner, hinner, rfl⟩
    refine ⟨left, read_text_eq_ok_iff.mpr ⟨_, s, ?_, hliteral, rfl⟩, hleft⟩
    simp [hfront]

theorem decodeBody_text_eq_ok_iff {body : String} {d : Datum} :
    text.decodeBody body = .ok d ↔
      Text.isBlank body = false ∧ ∃ s, IsContent body s ∧ d = .text s := by
  have hnull : ∀ other, text.ofNull ≠ .ok other := by
    rintro other ⟨⟩
  rw [decodeBody_eq_ok_iff]
  simp only [hnull, and_false, false_or]
  refine and_congr_right fun _ => ?_
  constructor
  · rintro (hparse | ⟨hparse, hself⟩)
    · obtain ⟨s, hs, rfl⟩ := parse_text_eq_ok_iff.mp hparse
      exact ⟨s, .literal hs, rfl⟩
    · cases hself
      exact ⟨body, .verbatim fun s hs => hparse _ (parse_text_eq_ok_iff.mpr ⟨s, hs, rfl⟩), rfl⟩
  · rintro ⟨s, hs | hs, rfl⟩
    · exact .inl (parse_text_eq_ok_iff.mpr ⟨s, hs, rfl⟩)
    · refine .inr ⟨?_, rfl⟩
      intro other hother
      obtain ⟨s, hliteral, -⟩ := parse_text_eq_ok_iff.mp hother
      exact hs s hliteral

end Shape

theorem exists_isContent (body : String) : ∃ s, IsContent body s := by
  by_cases h : ∃ s, Json.IsLiteral body s
  · obtain ⟨s, hs⟩ := h
    exact ⟨s, .literal hs⟩
  · exact ⟨body, .verbatim (not_exists.mp h)⟩

namespace Response

theorem decode_text_eq_ok_iff {response : Response} {envelope : Envelope Datum} :
    response.decode .text = .ok envelope ↔ Text.isBlank response.body = false ∧
      ∃ s, IsContent response.body s ∧ envelope = response.withData (.text s) := by
  rw [decode_eq_ok_iff]
  constructor
  · rintro ⟨d, hd, rfl⟩
    obtain ⟨hblank, s, hs, rfl⟩ := Shape.decodeBody_text_eq_ok_iff.mp hd
    exact ⟨hblank, s, hs, rfl⟩
  · rintro ⟨hblank, s, hs, rfl⟩
    exact ⟨_, Shape.decodeBody_text_eq_ok_iff.mpr ⟨hblank, s, hs, rfl⟩, rfl⟩

/-- **Text in a response**: decoding fails on a blank body only, and else gives the string that the
body spells or, where it spells none, the whole body. -/
theorem text_decodes_to_content (response : Response) :
    ((∃ error, response.decode .text = .error error) ↔ Text.isBlank response.body = true) ∧
    ∀ envelope, response.decode .text = .ok envelope ↔ Text.isBlank response.body = false ∧
      ∃ s, IsContent response.body s ∧ envelope = response.withData (.text s) := by
  refine ⟨?_, fun _ => decode_text_eq_ok_iff⟩
  cases hblank : Text.isBlank response.body with
  | true =>
    refine iff_of_true ?_ rfl
    cases h : response.decode .text with
    | error error => exact ⟨error, rfl⟩
    | ok envelope =>
      have hnot := (decode_text_eq_ok_iff.mp h).1
      exact absurd hblank (Bool.eq_false_iff.mp hnot)
  | false =>
    obtain ⟨s, hs⟩ := exists_isContent response.body
    have hdecode := decode_text_eq_ok_iff.mpr ⟨hblank, s, hs, rfl⟩
    simp [hdecode]

end Response

end Courier
