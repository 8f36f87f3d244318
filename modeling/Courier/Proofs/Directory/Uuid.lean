import Mathlib.Tactic.Ring
import Courier.Directory.Uuid

/-!
# Identifiers are read as they are written

The text of an identifier is read back as this identifier, so that the identifier in an answer is
the one to ask for.
-/

namespace Courier.Directory.Uuid

/-! ## Digits -/

theorem hexValue_lowerHexDigit :
    ∀ n < 16, Percent.hexValue (lowerHexDigit n) = some n := by
  decide

theorem lowerHexDigit_ne :
    ∀ n < 16, lowerHexDigit n ≠ '-' ∧ lowerHexDigit n ≠ '\x7b' ∧ lowerHexDigit n ≠ 'u' := by
  decide

/-- Every digit is that of a value below sixteen. -/
theorem exists_of_mem_hexDigits {c : Char} {count n : Nat} (h : c ∈ hexDigits count n) :
    ∃ k < 16, c = lowerHexDigit k := by
  induction count with
  | zero => cases h
  | succ count ih =>
    rcases List.mem_cons.mp h with rfl | h
    · exact ⟨_, Nat.mod_lt _ (by decide), rfl⟩
    · exact ih h

theorem length_hexDigits (count n : Nat) : (hexDigits count n).length = count := by
  induction count with
  | zero => rfl
  | succ count ih => rw [hexDigits, List.length_cons, ih]

/-- Reading digits behind a number `acc` that was read before. -/
theorem foldlM_hexDigits (count n acc : Nat) :
    (hexDigits count n).foldlM (fun m c => (Percent.hexValue c).map (m * 16 + ·)) acc
      = some (acc * 16 ^ count + n % 16 ^ count) := by
  induction count generalizing acc with
  | zero => simp [hexDigits, Nat.mod_one]
  | succ count ih =>
    have hdigit := hexValue_lowerHexDigit (n / 16 ^ count % 16) (Nat.mod_lt _ (by decide))
    have hstep : (acc * 16 + n / 16 ^ count % 16) * 16 ^ count + n % 16 ^ count
        = acc * 16 ^ (count + 1) + n % 16 ^ (count + 1) := by
      rw [Nat.mod_pow_succ]
      ring
    show (do
      let m ← (Percent.hexValue (lowerHexDigit (n / 16 ^ count % 16))).map (acc * 16 + ·)
      (hexDigits count n).foldlM (fun m c => (Percent.hexValue c).map (m * 16 + ·)) m) = _
    rw [hdigit, ← hstep]
    exact ih _

theorem length_digits (id : Uuid) : id.digits.length = 32 :=
  length_hexDigits 32 _

theorem ofDigits?_digits (id : Uuid) : ofDigits? id.digits = some id := by
  have hsmall : id.bits.toNat % 16 ^ 32 = id.bits.toNat := Nat.mod_eq_of_lt id.bits.isLt
  have hnumber : hexNumber? id.digits = some id.bits.toNat := by
    rw [hexNumber?, digits, foldlM_hexDigits, hsmall, Nat.zero_mul, Nat.zero_add]
  rw [ofDigits?, if_pos (length_digits id), hnumber, Option.map_some, BitVec.ofNat_toNat,
    BitVec.setWidth_eq]

/-! ## Groups -/

theorem ungrouped?_hyphenated {lengths : List Nat} (hne : lengths ≠ []) {ds : List Char}
    (hlength : ds.length = lengths.sum) (hhyphen : '-' ∉ ds) :
    ungrouped? lengths (hyphenated lengths ds) = some ds := by
  induction lengths generalizing ds with
  | nil => exact absurd rfl hne
  | cons n more ih =>
    cases more with
    | nil =>
      have hall : ds.take n = ds := List.take_of_length_le (by simp [hlength])
      rw [hyphenated, ungrouped?, hall, if_pos ⟨by simpa using hlength, hhyphen⟩]
    | cons m more =>
      rw [List.sum_cons] at hlength
      have hfirst : (ds.take n).length = n := List.length_take_of_le (by omega)
      have hdropped : (ds.drop n).length = (m :: more).sum := by
        rw [List.length_drop]
        omega
      have hrest := ih (by simp) hdropped (fun h => hhyphen (List.mem_of_mem_drop h))
      have htake : (hyphenated (n :: m :: more) ds).take n = ds.take n := by
        rw [hyphenated, List.take_left' hfirst]
        simp
      have hdrop : (hyphenated (n :: m :: more) ds).drop n
          = '-' :: hyphenated (m :: more) (ds.drop n) := by
        rw [hyphenated, List.drop_left' hfirst]
        simp
      have hbehind : (hyphenated (n :: m :: more) ds).drop (n + 1)
          = hyphenated (m :: more) (ds.drop n) := by
        rw [← List.drop_drop, hdrop]
        rfl
      rw [ungrouped?, htake, hdrop, hbehind, hrest,
        if_pos ⟨fun h => hhyphen (List.mem_of_mem_take h), rfl⟩, Option.map_some,
        List.take_append_drop]
      simp

/-- A text that starts with a digit is in no braces and has no mark in front of it. -/
theorem unwrap_cons {c : Char} (hbrace : c ≠ '\x7b') (hmark : c ≠ 'u') (cs : List Char) :
    unwrap (c :: cs) = (c :: cs, 0, true) := by
  simp [unwrap, urnMark, hbrace, hmark.symm]

theorem toList_text (id : Uuid) : id.text.toList = hyphenated groupLengths id.digits := by
  rw [text, String.toList_ofList]

/-- **An identifier** is given back by its text. -/
theorem parse_text (id : Uuid) : parse id.text = .ok id := by
  have hlength := length_digits id
  have hhyphen : '-' ∉ id.digits := by
    intro h
    obtain ⟨k, hk, heq⟩ := exists_of_mem_hexDigits h
    exact (lowerHexDigit_ne k hk).1 heq.symm
  obtain ⟨d, ds, hdigits⟩ : ∃ d ds, id.digits = d :: ds := ⟨_, _, rfl⟩
  have hfirst : d ≠ '\x7b' ∧ d ≠ 'u' := by
    have hmem : d ∈ hexDigits 32 id.bits.toNat := by
      rw [← digits, hdigits]
      exact List.mem_cons_self
    obtain ⟨k, hk, rfl⟩ := exists_of_mem_hexDigits hmem
    exact (lowerHexDigit_ne k hk).2
  have hunwrap : (unwrap (hyphenated groupLengths id.digits)).1
      = hyphenated groupLengths id.digits := by
    rw [hdigits, groupLengths, hyphenated, List.take_succ_cons, List.cons_append,
      unwrap_cons hfirst.1 hfirst.2]
    simp
  have hlong : (hyphenated groupLengths id.digits).length ≠ 32 := by
    simp [hyphenated, groupLengths, hlength]
  have hread : ofChars? id.text.toList = some id := by
    rw [toList_text, ofChars?, if_neg hlong, hunwrap,
      ungrouped?_hyphenated (by decide) hlength hhyphen, Option.bind_some, ofDigits?_digits]
  rw [parse, hread]

theorem text_injective {a b : Uuid} (h : a.text = b.text) : a = b := by
  have hparse := parse_text a
  rw [h, parse_text b] at hparse
  exact (Except.ok.inj hparse).symm

end Courier.Directory.Uuid
