import Courier.Json.Literal
import Courier.Proofs.Text.Utf8

/-!
# How strings are spelled

Inside a string literal a character stands for itself or is written as an escape: of one letter, of
its number in four hexadecimal digits, or of the two halves of a surrogate pair. The reader of
literals accepts exactly what is spelled in this way, up to the closing quote.
-/

namespace Courier.Json

/-! ## Spellings -/

/-- Four hexadecimal digits, and the number that they name. -/
inductive FourDigits : List Char → Nat → Prop
  | intro {a b c d : Char} {w x y z : Nat} (first : Percent.hexValue a = some w)
      (second : Percent.hexValue b = some x) (third : Percent.hexValue c = some y)
      (fourth : Percent.hexValue d = some z) :
      FourDigits [a, b, c, d] (((w * 16 + x) * 16 + y) * 16 + z)

/-- The letters of escapes, with the characters that they stand for. -/
def letterEscapes : List (Char × Char) :=
  [('"', '"'), ('\\', '\\'), ('/', '/'), ('b', '\x08'), ('f', '\x0c'), ('n', '\n'), ('r', '\r'),
    ('t', '\t')]

/-- The number that the two halves of a surrogate pair make. -/
def pairNumber (lead trail : Nat) : Nat :=
  0x10000 + (lead - 0xD800) * 0x400 + (trail - 0xDC00)

/-- The text of one character. A number of four digits cannot name half a surrogate pair, since no
character has such a number. -/
inductive Spells : List Char → Char → Prop
  | self {c : Char} (printable : 0x20 ≤ c.toNat) (notQuote : c ≠ '"') (notBackslash : c ≠ '\\') :
      Spells [c] c
  | letter {l c : Char} (named : (l, c) ∈ letterEscapes) : Spells ['\\', l] c
  | number {digits : List Char} {c : Char} (value : FourDigits digits c.toNat) :
      Spells ('\\' :: 'u' :: digits) c
  | pair {high low : List Char} {m n : Nat} {c : Char} (first : FourDigits high m)
      (second : FourDigits low n) (lead : 0xD800 ≤ m ∧ m ≤ 0xDBFF)
      (trail : 0xDC00 ≤ n ∧ n ≤ 0xDFFF)
      (value : c.toNat = pairNumber m n) :
      Spells ('\\' :: 'u' :: (high ++ '\\' :: 'u' :: low)) c

/-- The text of several characters, one after the other. -/
inductive SpellsAll : List Char → List Char → Prop
  | nil : SpellsAll [] []
  | cons {text more : List Char} {c : Char} {cs : List Char} (head : Spells text c)
      (tail : SpellsAll more cs) : SpellsAll (text ++ more) (c :: cs)

/-! ## Four digits -/

theorem utf8Size_of_hexValue {c : Char} {v : Nat} (h : Percent.hexValue c = some v) :
    c.utf8Size = 1 := by
  have hle : c.toNat ≤ 'f'.toNat := by
    unfold Percent.hexValue at h
    split at h
    · next hc => exact Nat.le_trans hc.2 (by decide)
    split at h
    · next hc => exact hc.2
    split at h
    · next hc => exact Nat.le_trans hc.2 (by decide)
    · cases h
  exact Char.utf8Size_eq_one_iff.mpr (UInt32.le_iff_toNat_le.mpr (Nat.le_trans hle (by decide)))

theorem hex4_cons_eq_some {s : Utf8.Symbol} {cs : List Utf8.Symbol} {n : Nat}
    (h : hex4 (s :: cs) = some n) : ∃ c high low, s = some c ∧ Percent.hexValue c = some high ∧
      hex4 cs = some low ∧ n = high * Nat.pow 16 cs.length + low := by
  cases s with
  | none => cases h
  | some c =>
    simp only [hex4, Option.bind_eq_bind, Option.bind_eq_some_iff, Option.pure_def,
      Option.some.injEq] at h
    obtain ⟨high, hhigh, low, hlow, rfl⟩ := h
    exact ⟨c, high, low, rfl, hhigh, hlow, rfl⟩

theorem sizeOfSymbols_of_hex4 {cs : List Utf8.Symbol} {n : Nat} (h : hex4 cs = some n) :
    sizeOfSymbols cs = cs.length := by
  induction cs generalizing n with
  | nil => rfl
  | cons s cs ih =>
    obtain ⟨c, high, low, rfl, hhigh, hlow, -⟩ := hex4_cons_eq_some h
    have hsize : Utf8.Symbol.size (some c) = 1 := utf8Size_of_hexValue hhigh
    show Utf8.Symbol.size (some c) + sizeOfSymbols cs = _
    rw [hsize, ih hlow, List.length_cons, Nat.add_comm]

theorem fourDigits_of_hex4 {cs : List Utf8.Symbol} {n : Nat} (h : hex4 cs = some n)
    (hlength : cs.length = 4) : ∃ digits, FourDigits digits n ∧ cs = digits.map some := by
  match cs, hlength with
  | [_, _, _, _], _ =>
    obtain ⟨a, w, _, rfl, ha, hthree, rfl⟩ := hex4_cons_eq_some h
    obtain ⟨b, x, _, rfl, hb, htwo, rfl⟩ := hex4_cons_eq_some hthree
    obtain ⟨c, y, _, rfl, hc, hone, rfl⟩ := hex4_cons_eq_some htwo
    obtain ⟨d, z, _, rfl, hd, hnone, rfl⟩ := hex4_cons_eq_some hone
    obtain rfl := Option.some.inj hnone
    have hvalue : ((w * 16 + x) * 16 + y) * 16 + z
        = w * 16 ^ 3 + (x * 16 ^ 2 + (y * 16 ^ 1 + (z * 16 ^ 0 + 0))) := by
      omega
    exact ⟨[a, b, c, d], hvalue ▸ .intro ha hb hc hd, rfl⟩

theorem FourDigits.hex4 {digits : List Char} {n : Nat} (h : FourDigits digits n) :
    Json.hex4 (digits.map some) = some n := by
  obtain ⟨first, second, third, fourth⟩ := h
  simp only [List.map_cons, List.map_nil, Json.hex4, first, second, third, fourth,
    Option.bind_eq_bind, Option.bind_some, Option.pure_def, Option.some.injEq, List.length_cons,
    List.length_nil, Nat.pow_eq]
  omega

theorem FourDigits.length_eq {digits : List Char} {n : Nat} (h : FourDigits digits n) :
    digits.length = 4 := by
  cases h
  rfl

/-- **Four digits** are read if they stand at the front. -/
theorem hexEscape_eq_ok_iff {cs left : List Utf8.Symbol} {n : Nat} :
    hexEscape cs = .ok (n, left) ↔ ∃ digits, FourDigits digits n ∧ cs = digits.map some ++ left := by
  constructor
  · intro h
    unfold hexEscape at h
    split at h
    · cases h
    · next hsize =>
      split at h
      · next value hvalue =>
        cases h
        have hlength : (cs.take 4).length = 4 := by
          rw [sizeOfSymbols_of_hex4 hvalue] at hsize
          have hle := List.length_take_le 4 cs
          omega
        obtain ⟨digits, hdigits, htake⟩ := fourDigits_of_hex4 hvalue hlength
        exact ⟨digits, hdigits, by rw [← htake, List.take_append_drop]⟩
      · cases h
  · rintro ⟨digits, hdigits, rfl⟩
    have hlength : (digits.map some).length = 4 := by
      rw [List.length_map, hdigits.length_eq]
    have htake : (digits.map some ++ left).take 4 = digits.map some := List.take_left' hlength
    have hdrop : (digits.map some ++ left).drop 4 = left := List.drop_left' hlength
    have hsize : sizeOfSymbols (digits.map some) = 4 := by
      rw [sizeOfSymbols_of_hex4 hdigits.hex4, hlength]
    rw [hexEscape, htake, hdrop, hsize]
    simp only [Nat.lt_irrefl, if_false, hdigits.hex4]

theorem hexValue_lt {c : Char} {v : Nat} (h : Percent.hexValue c = some v) : v < 16 := by
  unfold Percent.hexValue at h
  have hnine : '9'.toNat = 0x39 := rfl
  have hf : 'f'.toNat = 0x66 := rfl
  have hF : 'F'.toNat = 0x46 := rfl
  split at h
  · next hc =>
    have hle : c.toNat ≤ '9'.toNat := hc.2
    cases h
    omega
  split at h
  · next hc =>
    have hle : c.toNat ≤ 'f'.toNat := hc.2
    cases h
    omega
  split at h
  · next hc =>
    have hle : c.toNat ≤ 'F'.toNat := hc.2
    cases h
    omega
  · cases h

theorem FourDigits.lt {digits : List Char} {n : Nat} (h : FourDigits digits n) : n < 0x10000 := by
  obtain ⟨first, second, third, fourth⟩ := h
  have hw := hexValue_lt first
  have hx := hexValue_lt second
  have hy := hexValue_lt third
  have hz := hexValue_lt fourth
  omega

/-! ## Escapes -/

theorem toNat_ofNat {n : Nat} (h : n < 0xD800 ∨ 0xDFFF < n ∧ n < 0x110000) :
    (Char.ofNat n).toNat = n := by
  have hvalid : n.isValidChar := h
  rw [Char.ofNat, dif_pos hvalid]
  rfl

theorem isLeadSurrogate_iff {n : Nat} : isLeadSurrogate n = true ↔ 0xD800 ≤ n ∧ n ≤ 0xDBFF := by
  simp [isLeadSurrogate]

theorem isTrailSurrogate_iff {n : Nat} : isTrailSurrogate n = true ↔ 0xDC00 ≤ n ∧ n ≤ 0xDFFF := by
  simp [isTrailSurrogate]

theorem secondHalf_eq_ok {lead : Nat} (hlead : 0xD800 ≤ lead ∧ lead ≤ 0xDBFF)
    {cs left : List Utf8.Symbol} {c : Char} (h : secondHalf lead cs = .ok (c, left)) :
    ∃ low n, FourDigits low n ∧ (0xDC00 ≤ n ∧ n ≤ 0xDFFF) ∧ c.toNat = pairNumber lead n ∧
      cs = some '\\' :: some 'u' :: (low.map some ++ left) := by
  unfold secondHalf at h
  split at h
  · cases h
  · cases h
  · split at h
    · cases h
    · next hhex =>
      split at h
      · next htrail =>
        simp only [Except.ok.injEq, Prod.mk.injEq] at h
        obtain ⟨rfl, rfl⟩ := h
        obtain ⟨low, hlow, rfl⟩ := hexEscape_eq_ok_iff.mp hhex
        rw [isTrailSurrogate_iff] at htrail
        exact ⟨low, _, hlow, htrail, toNat_ofNat (by omega), rfl⟩
      · cases h
  · cases h
  · cases h

theorem spells_of_unicodeEscape {cs left : List Utf8.Symbol} {c : Char}
    (h : unicodeEscape cs = .ok (c, left)) :
    ∃ text, Spells ('\\' :: 'u' :: text) c ∧ cs = text.map some ++ left := by
  unfold unicodeEscape at h
  split at h
  · cases h
  · next n left' hhex =>
    obtain ⟨digits, hdigits, rfl⟩ := hexEscape_eq_ok_iff.mp hhex
    have hlt := hdigits.lt
    split at h
    · cases h
    · next htrail =>
      rw [isTrailSurrogate_iff] at htrail
      split at h
      · next hlead =>
        rw [isLeadSurrogate_iff] at hlead
        obtain ⟨low, m, hlow, hm, hvalue, rfl⟩ := secondHalf_eq_ok hlead h
        exact ⟨_, .pair hdigits hlow hlead hm hvalue, by simp⟩
      · next hlead =>
        rw [isLeadSurrogate_iff] at hlead
        cases h
        have hvalue : (Char.ofNat n).toNat = n := toNat_ofNat (by omega)
        exact ⟨digits, .number (hvalue.symm ▸ hdigits), rfl⟩

theorem shortEscape_eq_some_iff {l c : Char} :
    shortEscape l = some c ↔ (l, c) ∈ letterEscapes := by
  constructor
  · intro h
    unfold shortEscape at h
    split at h <;> cases h <;> decide
  · intro h
    simp only [letterEscapes, List.mem_cons, List.not_mem_nil, or_false, Prod.mk.injEq] at h
    rcases h with ⟨rfl, rfl⟩ | ⟨rfl, rfl⟩ | ⟨rfl, rfl⟩ | ⟨rfl, rfl⟩ | ⟨rfl, rfl⟩ | ⟨rfl, rfl⟩ |
      ⟨rfl, rfl⟩ | ⟨rfl, rfl⟩ <;> rfl

/-- What is read behind a backslash is the rest of a spelling. -/
theorem spells_of_escaped {cs left : List Utf8.Symbol} {c : Char}
    (h : escaped cs = .ok (c, left)) :
    ∃ text, Spells ('\\' :: text) c ∧ cs = text.map some ++ left := by
  unfold escaped at h
  split at h
  · cases h
  · next rest =>
    obtain ⟨text, htext, rfl⟩ := spells_of_unicodeEscape h
    exact ⟨'u' :: text, htext, rfl⟩
  · next l rest _ =>
    split at h
    · next x hx =>
      cases h
      exact ⟨[l], .letter (shortEscape_eq_some_iff.mp hx), rfl⟩
    · cases h
  · cases h

theorem ne_u_of_letter {l c : Char} (h : (l, c) ∈ letterEscapes) : l ≠ 'u' := by
  rintro rfl
  have hnone : ∀ p ∈ letterEscapes, p.1 ≠ 'u' := by decide
  exact hnone _ h rfl

theorem unicodeEscape_number {digits : List Char} {c : Char} (h : FourDigits digits c.toNat)
    (left : List Utf8.Symbol) : unicodeEscape (digits.map some ++ left) = .ok (c, left) := by
  have hvalid := (Utf8.toNat_bounds c).1
  have htrail : ¬ isTrailSurrogate c.toNat = true := by
    rw [isTrailSurrogate_iff]
    omega
  have hlead : ¬ isLeadSurrogate c.toNat = true := by
    rw [isLeadSurrogate_iff]
    omega
  rw [unicodeEscape, hexEscape_eq_ok_iff.mpr ⟨digits, h, rfl⟩]
  simp only [if_neg htrail, if_neg hlead, Char.ofNat_toNat]

theorem unicodeEscape_pair {high low : List Char} {m n : Nat} {c : Char}
    (first : FourDigits high m) (second : FourDigits low n) (lead : 0xD800 ≤ m ∧ m ≤ 0xDBFF)
    (trail : 0xDC00 ≤ n ∧ n ≤ 0xDFFF) (value : c.toNat = pairNumber m n)
    (left : List Utf8.Symbol) :
    unicodeEscape (high.map some ++ some '\\' :: some 'u' :: (low.map some ++ left))
      = .ok (c, left) := by
  have htrail : ¬ isTrailSurrogate m = true := by
    rw [isTrailSurrogate_iff]
    omega
  have hc : Char.ofNat (pairNumber m n) = c := by
    rw [← value, Char.ofNat_toNat]
  rw [unicodeEscape, hexEscape_eq_ok_iff.mpr ⟨high, first, rfl⟩]
  simp only [if_neg htrail, if_pos (isLeadSurrogate_iff.mpr lead), secondHalf,
    hexEscape_eq_ok_iff.mpr ⟨low, second, rfl⟩, if_pos (isTrailSurrogate_iff.mpr trail)]
  exact congrArg (fun c => Except.ok (c, left)) hc

theorem escaped_of_spells {text : List Char} {c : Char} (h : Spells ('\\' :: text) c)
    (left : List Utf8.Symbol) : escaped (text.map some ++ left) = .ok (c, left) := by
  cases h with
  | self _ _ notBackslash => exact absurd rfl notBackslash
  | @letter l _ named =>
    have hshort := shortEscape_eq_some_iff.mpr named
    show escaped (some l :: left) = _
    rw [escaped]
    · simp only [hshort]
    · exact ne_u_of_letter named
  | number value => exact unicodeEscape_number value left
  | @pair high low _ _ _ first second lead trail value =>
    rw [List.map_cons, List.cons_append, escaped, ← unicodeEscape_pair first second lead trail value]
    simp

/-! ## Literals -/

theorem literalFrom_escape {cs left : List Utf8.Symbol} {c : Char}
    (h : escaped cs = .ok (c, left)) (fuel : Nat) (sound : Bool) (read : List Char) :
    literalFrom (fuel + 1) sound read (some '\\' :: cs)
      = literalFrom fuel sound (c :: read) left := by
  rw [literalFrom]
  simp only [h]

/-- **One character** is read from its text. -/
theorem literalFrom_of_spells {text : List Char} {c : Char} (h : Spells text c) (fuel : Nat)
    (sound : Bool) (read : List Char) (rest : List Utf8.Symbol) :
    literalFrom (fuel + 1) sound read (text.map some ++ rest)
      = literalFrom fuel sound (c :: read) rest := by
  have hescape : ∀ tail, Spells ('\\' :: tail) c → literalFrom (fuel + 1) sound read
      (('\\' :: tail).map some ++ rest) = literalFrom fuel sound (c :: read) rest :=
    fun tail htail => literalFrom_escape (escaped_of_spells htail rest) fuel sound read
  cases h with
  | self printable notQuote notBackslash =>
    rw [List.map_cons, List.map_nil, List.cons_append, List.nil_append, literalFrom,
      if_neg (Nat.not_lt.mpr printable)]
    · exact notQuote
    · exact notBackslash
  | letter named => exact hescape _ (.letter named)
  | number value => exact hescape _ (.number value)
  | pair first second lead trail value => exact hescape _ (.pair first second lead trail value)

theorem literalFrom_of_spellsAll {text cs : List Char} (h : SpellsAll text cs) {fuel : Nat}
    (hfuel : cs.length < fuel) (read : List Char) (rest : List Utf8.Symbol) :
    literalFrom fuel true read (text.map some ++ some '"' :: rest)
      = .ok (String.ofList (read.reverse ++ cs), rest) := by
  induction h generalizing fuel read with
  | nil =>
    obtain ⟨fuel, rfl⟩ := Nat.exists_eq_succ_of_ne_zero (Nat.ne_zero_of_lt hfuel)
    rw [List.append_nil]
    rfl
  | @cons text more c cs head tail ih =>
    obtain ⟨fuel, rfl⟩ := Nat.exists_eq_succ_of_ne_zero (Nat.ne_zero_of_lt hfuel)
    rw [List.map_append, List.append_assoc, literalFrom_of_spells head,
      ih (by simpa using hfuel), List.reverse_cons, List.append_assoc]
    rfl

/-- Where bytes were no text, no string is read. -/
theorem literalFrom_unsound (fuel : Nat) (read : List Char) (cs : List Utf8.Symbol) :
    ∃ f, literalFrom fuel false read cs = .error f := by
  induction fuel generalizing read cs with
  | zero => exact ⟨_, rfl⟩
  | succ fuel ih =>
    unfold literalFrom
    split
    · exact ⟨_, rfl⟩
    · exact ⟨_, rfl⟩
    · split
      · exact ⟨_, rfl⟩
      · exact ih _ _
    · split
      · exact ⟨_, rfl⟩
      · exact ih _ _
    · exact ih _ _

/-- What is read is spelled, up to the closing quote. -/
theorem spellsAll_of_literalFrom {fuel : Nat} {read : List Char} {cs left : List Utf8.Symbol}
    {s : String} (h : literalFrom fuel true read cs = .ok (s, left)) :
    ∃ text more, SpellsAll text more ∧ s = String.ofList (read.reverse ++ more) ∧
      cs = text.map some ++ some '"' :: left := by
  induction fuel generalizing read cs with
  | zero => cases h
  | succ fuel ih =>
    -- one more character in front of those that are read next
    have hnext : ∀ {text : List Char} {c : Char} {rest : List Utf8.Symbol}, Spells text c →
        literalFrom fuel true (c :: read) rest = .ok (s, left) →
        ∃ all more, SpellsAll all more ∧ s = String.ofList (read.reverse ++ more) ∧
          text.map some ++ rest = all.map some ++ some '"' :: left := by
      intro text c rest htext hrest
      obtain ⟨behind, more, hbehind, rfl, rfl⟩ := ih hrest
      exact ⟨text ++ behind, c :: more, .cons htext hbehind, by simp, by simp⟩
    unfold literalFrom at h
    split at h
    · cases h
    · cases h
      exact ⟨[], [], .nil, by simp, rfl⟩
    · split at h
      · cases h
      · next hescaped =>
        obtain ⟨text, htext, rfl⟩ := spells_of_escaped hescaped
        exact hnext htext h
    · next c rest hquote hbackslash =>
      split at h
      · cases h
      · next hprintable =>
        exact hnext (.self (Nat.not_lt.mp hprintable) hquote hbackslash) h
    · next rest =>
      obtain ⟨f, hf⟩ := literalFrom_unsound fuel read rest
      rw [hf] at h
      cases h

theorem SpellsAll.length_le {text cs : List Char} (h : SpellsAll text cs) :
    cs.length ≤ text.length := by
  induction h with
  | nil => exact Nat.le_refl 0
  | @cons text more c cs head tail ih =>
    have hhead : 0 < text.length := by
      cases head <;> exact Nat.succ_pos _
    rw [List.length_cons, List.length_append]
    omega

/-- **A string** is read exactly from a spelling of it and the closing quote. -/
theorem literal_eq_ok_iff {cs left : List Utf8.Symbol} {s : String} :
    literal cs = .ok (s, left) ↔
      ∃ text, SpellsAll text s.toList ∧ cs = text.map some ++ some '"' :: left := by
  constructor
  · intro h
    obtain ⟨text, more, htext, rfl, rfl⟩ := spellsAll_of_literalFrom h
    exact ⟨text, by simpa using htext, rfl⟩
  · rintro ⟨text, htext, rfl⟩
    have hlength := htext.length_le
    rw [literal, literalFrom_of_spellsAll htext, List.reverse_nil, List.nil_append,
      String.ofList_toList]
    simp only [List.length_append, List.length_map, List.length_cons]
    omega

end Courier.Json
