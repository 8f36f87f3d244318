import Courier.Text.Utf8

/-!
# UTF-8 there and back

The bytes of a text are cut into the characters of the text, whichever they are, so every reader of
bytes gives the text back. The scanner is followed through one character: the first byte begins a
sequence in which the right number of bytes is missing, and every further byte is within its bounds.
-/

namespace Courier.Utf8

/-! ## Bytes behind the first -/

/-- The byte for the last six bits of a number, as it stands behind the first byte of a sequence. -/
def tailByte (n : Nat) : UInt8 :=
  UInt8.ofNat (n % 64 + 128)

theorem toNat_tailByte (n : Nat) : (tailByte n).toNat = n % 64 + 128 := by
  have hsmall : n % 64 + 128 < 256 := by omega
  rw [tailByte, UInt8.toNat_ofNat']
  exact Nat.mod_eq_of_lt hsmall

/-- A byte is within the bounds for the next one. -/
def Pending.Allows (p : Pending) (b : UInt8) : Prop :=
  p.low ≤ b ∧ b ≤ p.high

theorem allows_tailByte_iff {p : Pending} {n : Nat} :
    p.Allows (tailByte n) ↔ p.low.toNat ≤ n % 64 + 128 ∧ n % 64 + 128 ≤ p.high.toNat := by
  rw [Pending.Allows, UInt8.le_iff_toNat_le, UInt8.le_iff_toNat_le, toNat_tailByte]

/-- From the third byte on there are no special bounds. -/
theorem Pending.push_allows (p : Pending) (b : UInt8) (n : Nat) :
    (p.push b).Allows (tailByte n) := by
  refine allows_tailByte_iff.mpr ⟨?_, ?_⟩
  · show 128 ≤ n % 64 + 128
    omega
  · show n % 64 + 128 ≤ 191
    omega

theorem Pending.point_push_tailByte (p : Pending) (n : Nat) :
    (p.push (tailByte n)).point = p.point * 64 + n % 64 := by
  rw [Pending.push, toNat_tailByte, Nat.add_sub_cancel]

theorem scanFrom_more {p : Pending} {b : UInt8} (hb : p.Allows b) (hmore : 1 < p.missing)
    (rest : List UInt8) : scanFrom (some p) (b :: rest) = scanFrom (some (p.push b)) rest := by
  obtain ⟨hlow, hhigh⟩ := hb
  have hmissing : (p.push b).missing ≠ 0 := by
    show p.missing - 1 ≠ 0
    omega
  rw [scanFrom, if_pos ⟨hlow, hhigh⟩]
  simp only [hmissing, if_false]

theorem scanFrom_last {p : Pending} {b : UInt8} (hb : p.Allows b) (hlast : p.missing = 1)
    (rest : List UInt8) :
    scanFrom (some p) (b :: rest) = .char (Char.ofNat (p.push b).point) :: scanFrom none rest := by
  obtain ⟨hlow, hhigh⟩ := hb
  have hmissing : (p.push b).missing = 0 := by
    show p.missing - 1 = 0
    omega
  rw [scanFrom, if_pos ⟨hlow, hhigh⟩]
  simp only [hmissing, if_true]

/-- The last byte of a sequence. -/
theorem scanFrom_tail {p : Pending} {n : Nat} (hmissing : p.missing = 1)
    (hpoint : p.point = n / 64) (hallows : p.Allows (tailByte n)) (rest : List UInt8) :
    scanFrom (some p) (tailByte n :: rest) = .char (Char.ofNat n) :: scanFrom none rest := by
  have hwhole : p.point * 64 + n % 64 = n := by omega
  rw [scanFrom_last hallows hmissing, Pending.point_push_tailByte, hwhole]

/-- The last two bytes of a sequence. -/
theorem scanFrom_tail_tail {p : Pending} {n : Nat} (hmissing : p.missing = 2)
    (hpoint : p.point = n / 4096) (hallows : p.Allows (tailByte (n / 64))) (rest : List UInt8) :
    scanFrom (some p) (tailByte (n / 64) :: tailByte n :: rest)
      = .char (Char.ofNat n) :: scanFrom none rest := by
  have hleft : (p.push (tailByte (n / 64))).missing = 1 := by
    show p.missing - 1 = 1
    omega
  have hpart : (p.push (tailByte (n / 64))).point = n / 64 := by
    rw [Pending.point_push_tailByte]
    omega
  rw [scanFrom_more hallows (by omega), scanFrom_tail hleft hpart (p.push_allows _ n)]

/-- The last three bytes of a sequence. -/
theorem scanFrom_tail_tail_tail {p : Pending} {n : Nat} (hmissing : p.missing = 3)
    (hpoint : p.point = n / 262144) (hallows : p.Allows (tailByte (n / 4096)))
    (rest : List UInt8) :
    scanFrom (some p) (tailByte (n / 4096) :: tailByte (n / 64) :: tailByte n :: rest)
      = .char (Char.ofNat n) :: scanFrom none rest := by
  have hleft : (p.push (tailByte (n / 4096))).missing = 2 := by
    show p.missing - 1 = 2
    omega
  have hpart : (p.push (tailByte (n / 4096))).point = n / 4096 := by
    rw [Pending.point_push_tailByte]
    omega
  rw [scanFrom_more hallows (by omega), scanFrom_tail_tail hleft hpart (p.push_allows _ (n / 64))]

/-! ## First bytes -/

theorem scanFrom_begins {b : UInt8} {p : Pending} (h : lead b = .begins p) (rest : List UInt8) :
    scanFrom none (b :: rest) = scanFrom (some p) rest := by
  rw [scanFrom, h]

theorem lead_one {b : UInt8} (hhigh : b.toNat < 0x80) : lead b = .char (Char.ofNat b.toNat) := by
  simp only [lead, UInt8.lt_iff_toNat_lt, UInt8.reduceToNat]
  rw [if_pos hhigh]

theorem lead_two {b : UInt8} (hlow : 0xC2 ≤ b.toNat) (hhigh : b.toNat < 0xE0) :
    lead b = .begins ⟨1, 0x80, 0xBF, b.toNat - 0xC0, [b]⟩ := by
  simp only [lead, UInt8.lt_iff_toNat_lt, UInt8.reduceToNat]
  rw [if_neg (by omega), if_neg (by omega), if_pos (by omega)]

/-- Of three bytes, the second is bounded where the number would be too small or a surrogate. -/
theorem lead_three {b : UInt8} (hlow : 0xE0 ≤ b.toNat) (hhigh : b.toNat < 0xF0) :
    ∃ low high, lead b = .begins ⟨2, low, high, b.toNat - 0xE0, [b]⟩ ∧
      low.toNat = (if b.toNat = 0xE0 then 0xA0 else 0x80) ∧
      high.toNat = (if b.toNat = 0xED then 0x9F else 0xBF) := by
  simp only [lead, UInt8.lt_iff_toNat_lt, ← UInt8.toNat_inj, UInt8.reduceToNat]
  by_cases hfirst : b.toNat = 0xE0
  · refine ⟨0xA0, 0xBF, ?_⟩
    simp [hfirst]
  · by_cases hsurrogate : b.toNat = 0xED
    · refine ⟨0x80, 0x9F, ?_⟩
      simp [hsurrogate]
    · refine ⟨0x80, 0xBF, ?_⟩
      rw [if_neg (by omega), if_neg (by omega), if_neg (by omega), if_neg hfirst,
        if_neg hsurrogate, if_pos (by omega)]
      simp [hfirst, hsurrogate]

/-- Of four bytes, the second is bounded where the number would be too small or too great. -/
theorem lead_four {b : UInt8} (hlow : 0xF0 ≤ b.toNat) (hhigh : b.toNat < 0xF5) :
    ∃ low high, lead b = .begins ⟨3, low, high, b.toNat - 0xF0, [b]⟩ ∧
      low.toNat = (if b.toNat = 0xF0 then 0x90 else 0x80) ∧
      high.toNat = (if b.toNat = 0xF4 then 0x8F else 0xBF) := by
  simp only [lead, UInt8.lt_iff_toNat_lt, ← UInt8.toNat_inj, UInt8.reduceToNat]
  by_cases hfirst : b.toNat = 0xF0
  · refine ⟨0x90, 0xBF, ?_⟩
    simp [hfirst]
  · by_cases hlast : b.toNat = 0xF4
    · refine ⟨0x80, 0x8F, ?_⟩
      simp [hlast]
    · refine ⟨0x80, 0xBF, ?_⟩
      rw [if_neg (by omega), if_neg (by omega), if_neg (by omega), if_neg (by omega),
        if_neg (by omega), if_neg (by omega), if_neg hfirst, if_pos (by omega)]
      simp [hfirst, hlast]

/-! ## Characters -/

theorem toNat_ofNat_of_lt {n : Nat} (h : n < 256) : (UInt8.ofNat n).toNat = n := by
  rw [UInt8.toNat_ofNat']
  exact Nat.mod_eq_of_lt h

theorem scanFrom_two {n : Nat} (hlow : 0x80 ≤ n) (hhigh : n < 0x800) (rest : List UInt8) :
    scanFrom none (UInt8.ofNat (n / 64 % 32 + 192) :: tailByte n :: rest)
      = .char (Char.ofNat n) :: scanFrom none rest := by
  have hb : (UInt8.ofNat (n / 64 % 32 + 192)).toNat = n / 64 + 192 := by
    rw [toNat_ofNat_of_lt (by omega)]
    omega
  rw [scanFrom_begins (lead_two (by omega) (by omega)), scanFrom_tail rfl ?_ ?_]
  · show _ - 192 = _
    omega
  · refine allows_tailByte_iff.mpr ⟨?_, ?_⟩
    · show 128 ≤ _
      omega
    · show _ ≤ 191
      omega

theorem scanFrom_three {n : Nat} (hlow : 0x800 ≤ n) (hhigh : n < 0x10000)
    (hsurrogate : n < 0xD800 ∨ 0xDFFF < n) (rest : List UInt8) :
    scanFrom none (UInt8.ofNat (n / 4096 % 16 + 224) :: tailByte (n / 64) :: tailByte n :: rest)
      = .char (Char.ofNat n) :: scanFrom none rest := by
  have hb : (UInt8.ofNat (n / 4096 % 16 + 224)).toNat = n / 4096 + 224 := by
    rw [toNat_ofNat_of_lt (by omega)]
    omega
  obtain ⟨low, high, hlead, hlow', hhigh'⟩ := lead_three
    (b := UInt8.ofNat (n / 4096 % 16 + 224)) (by omega) (by omega)
  rw [hb] at hlow' hhigh'
  rw [scanFrom_begins hlead, scanFrom_tail_tail rfl ?_ ?_]
  · show _ - 224 = _
    omega
  · refine allows_tailByte_iff.mpr ⟨?_, ?_⟩
    · show low.toNat ≤ _
      split at hlow' <;> omega
    · show _ ≤ high.toNat
      split at hhigh' <;> omega

theorem scanFrom_four {n : Nat} (hlow : 0x10000 ≤ n) (hhigh : n < 0x110000) (rest : List UInt8) :
    scanFrom none (UInt8.ofNat (n / 262144 % 8 + 240) :: tailByte (n / 4096) ::
        tailByte (n / 64) :: tailByte n :: rest)
      = .char (Char.ofNat n) :: scanFrom none rest := by
  have hb : (UInt8.ofNat (n / 262144 % 8 + 240)).toNat = n / 262144 + 240 := by
    rw [toNat_ofNat_of_lt (by omega)]
    omega
  obtain ⟨low, high, hlead, hlow', hhigh'⟩ := lead_four
    (b := UInt8.ofNat (n / 262144 % 8 + 240)) (by omega) (by omega)
  rw [hb] at hlow' hhigh'
  rw [scanFrom_begins hlead, scanFrom_tail_tail_tail rfl ?_ ?_]
  · show _ - 240 = _
    omega
  · refine allows_tailByte_iff.mpr ⟨?_, ?_⟩
    · show low.toNat ≤ _
      split at hlow' <;> omega
    · show _ ≤ high.toNat
      split at hhigh' <;> omega

/-- A character is no surrogate, and not beyond the last code point. -/
theorem toNat_bounds (c : Char) : (c.toNat < 0xD800 ∨ 0xDFFF < c.toNat) ∧ c.toNat < 0x110000 := by
  rcases c.valid with h | ⟨h, h'⟩
  · have hc : c.toNat < 0xD800 := h
    exact ⟨.inl hc, by omega⟩
  · have hc : 0xDFFF < c.toNat := h
    have hc' : c.toNat < 0x110000 := h'
    exact ⟨.inr hc, hc'⟩

/-- **One character**: its bytes are read as the character, whatever follows them. -/
theorem scanFrom_encodeChar (c : Char) (rest : List UInt8) :
    scanFrom none (String.utf8EncodeChar c ++ rest) = .char c :: scanFrom none rest := by
  obtain ⟨hsurrogate, hgreatest⟩ := toNat_bounds c
  have hval : c.val.toNat = c.toNat := rfl
  have hself : Char.ofNat c.toNat = c := Char.ofNat_toNat c
  simp only [String.utf8EncodeChar, hval]
  by_cases h1 : c.toNat ≤ 0x7F
  · have hb : (UInt8.ofNat c.toNat).toNat = c.toNat := toNat_ofNat_of_lt (by omega)
    rw [if_pos h1, List.singleton_append, scanFrom, lead_one (by omega), hb, hself]
  rw [if_neg h1]
  by_cases h2 : c.toNat ≤ 0x7FF
  · have hread := scanFrom_two (n := c.toNat) (by omega) (by omega) rest
    rw [hself] at hread
    rw [if_pos h2]
    exact hread
  rw [if_neg h2]
  by_cases h3 : c.toNat ≤ 0xFFFF
  · have hread := scanFrom_three (n := c.toNat) (by omega) (by omega) hsurrogate rest
    rw [hself] at hread
    rw [if_pos h3]
    exact hread
  have hread := scanFrom_four (n := c.toNat) (by omega) hgreatest rest
  rw [hself] at hread
  rw [if_neg h3]
  exact hread

/-! ## Texts -/

/-- **No piece is broken**: the bytes of characters are cut into these characters. -/
theorem scan_encodeChars (cs : List Char) : scan (encodeChars cs) = cs.map .char := by
  rw [scan, encodeChars]
  induction cs with
  | nil => rfl
  | cons c cs ih => rw [List.flatMap_cons, scanFrom_encodeChar, ih, List.map_cons]

theorem decodeLossy_encodeChars (cs : List Char) :
    decodeLossy (encodeChars cs) = String.ofList cs := by
  rw [decodeLossy, scan_encodeChars, List.map_map]
  exact congrArg String.ofList (List.map_id cs)

theorem decodePieces_char (cs : List Char) (index : Nat) :
    decodePieces index (cs.map .char) = .ok cs := by
  induction cs generalizing index with
  | nil => rfl
  | cons c cs ih => rw [List.map_cons, decodePieces, ih]

theorem decode_encodeChars (cs : List Char) : decode (encodeChars cs) = .ok (String.ofList cs) := by
  rw [decode, scan_encodeChars, decodePieces_char]
  rfl

/-- Texts with the same bytes are the same. -/
theorem encodeChars_inj {cs ds : List Char} (h : encodeChars cs = encodeChars ds) : cs = ds := by
  have hread := decode_encodeChars cs
  rw [h, decode_encodeChars] at hread
  exact (String.ofList_injective (Except.ok.inj hread)).symm

end Courier.Utf8
