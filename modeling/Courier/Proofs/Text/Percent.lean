import Courier.Proofs.Text.Utf8
import Courier.Text.Percent

/-!
# Percent-encoding there and back

An encoder that does not keep the percent sign can be read back: every sign in its text begins an
escape. All characters of such a text are kept ones, the sign, or upper-case hexadecimal digits, so
that a property of these is one of the text.
-/

namespace Courier.Percent

/-! ## Escapes -/

theorem hexValue_hexDigit : ∀ n < 16, hexValue (hexDigit n) = some n := by
  decide

theorem decodeChars_escape (b : UInt8) (rest : List Char) :
    decodeChars (escape b ++ rest) = b :: decodeChars rest := by
  have hb : b.toNat < 256 := b.toNat_lt
  have hhigh := hexValue_hexDigit (b.toNat / 16) (by omega)
  have hlow := hexValue_hexDigit (b.toNat % 16) (by omega)
  have hwhole : b.toNat / 16 * 16 + b.toNat % 16 = b.toNat := by omega
  show decodeChars ('%' :: hexDigit (b.toNat / 16) :: hexDigit (b.toNat % 16) :: rest) = _
  rw [decodeChars]
  simp only [hhigh, hlow, hwhole, UInt8.ofNat_toNat]

theorem decodeChars_escapes (bytes : List UInt8) (rest : List Char) :
    decodeChars (bytes.flatMap escape ++ rest) = bytes ++ decodeChars rest := by
  induction bytes with
  | nil => rfl
  | cons b bytes ih =>
    rw [List.flatMap_cons, List.append_assoc, decodeChars_escape, ih, List.cons_append]

/-! ## Encoded texts -/

theorem decodeChars_cons {c : Char} (hc : c ≠ '%') (rest : List Char) :
    decodeChars (c :: rest) = String.utf8EncodeChar c ++ decodeChars rest := by
  rw [decodeChars]
  intro a b more h
  exact absurd h hc

theorem decodeChars_encodeChar {keep : Char → Bool} (hkeep : keep '%' = false) (c : Char)
    (rest : List Char) :
    decodeChars (encodeChar keep c ++ rest) = String.utf8EncodeChar c ++ decodeChars rest := by
  rw [encodeChar]
  by_cases hc : keep c = true
  · have hne : c ≠ '%' := by
      rintro rfl
      rw [hkeep] at hc
      cases hc
    rw [if_pos hc, List.singleton_append, decodeChars_cons hne]
  · rw [if_neg hc, decodeChars_escapes]

/-- **What was encoded is read back.** -/
theorem decodeChars_encodeChars {keep : Char → Bool} (hkeep : keep '%' = false) (cs : List Char) :
    decodeChars (encodeChars keep cs) = Utf8.encodeChars cs := by
  rw [encodeChars, Utf8.encodeChars]
  induction cs with
  | nil => rfl
  | cons c cs ih => rw [List.flatMap_cons, List.flatMap_cons, decodeChars_encodeChar hkeep, ih]

/-- Texts that are encoded alike are the same. -/
theorem encodeChars_inj {keep : Char → Bool} (hkeep : keep '%' = false) {cs ds : List Char}
    (h : encodeChars keep cs = encodeChars keep ds) : cs = ds := by
  refine Utf8.encodeChars_inj ?_
  rw [← decodeChars_encodeChars hkeep, h, decodeChars_encodeChars hkeep]

section Written

variable {keep : Char → Bool} {P : Char → Prop} (hsign : P '%') (hdigit : ∀ n < 16, P (hexDigit n))
include hsign hdigit

/-- What holds of a character if it is kept, of the sign and of the digits of escapes holds of all
that is written for the character. -/
theorem forall_mem_encodeChar {d : Char} (hkept : keep d = true → P d) :
    ∀ c ∈ encodeChar keep d, P c := by
  intro c hc
  rw [encodeChar] at hc
  by_cases hk : keep d = true
  · rw [if_pos hk, List.mem_singleton] at hc
    rw [hc]
    exact hkept hk
  · rw [if_neg hk] at hc
    obtain ⟨b, -, hb⟩ := List.mem_flatMap.mp hc
    have hlt : b.toNat < 256 := b.toNat_lt
    simp only [escape, List.mem_cons, List.not_mem_nil, or_false] at hb
    rcases hb with rfl | rfl | rfl
    · exact hsign
    · exact hdigit _ (by omega)
    · exact hdigit _ (by omega)

@[inherit_doc forall_mem_encodeChar]
theorem forall_mem_encodeChars {cs : List Char} (hkept : ∀ c ∈ cs, keep c = true → P c) :
    ∀ c ∈ encodeChars keep cs, P c := by
  intro c hc
  obtain ⟨d, hd, hc⟩ := List.mem_flatMap.mp hc
  exact forall_mem_encodeChar hsign hdigit (hkept d hd) c hc

end Written

theorem encodeChars_eq_self {keep : Char → Bool} {cs : List Char} (h : ∀ c ∈ cs, keep c = true) :
    encodeChars keep cs = cs := by
  rw [encodeChars]
  induction cs with
  | nil => rfl
  | cons c cs ih =>
    have hc : keep c = true := h c (by simp)
    rw [List.flatMap_cons, ih (fun d hd => h d (by simp [hd])), encodeChar, if_pos hc,
      List.singleton_append]

end Courier.Percent
