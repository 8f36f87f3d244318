import Courier.Json.Numeral
import Courier.Json.Printer
import Courier.Proofs.Text.Cutting

/-!
# Integers are read as they are written

The reader of numbers takes the digits of an integer up to the first symbol that is none, and no
digit is cut off as long as 64 bits hold the integer. Behind an integer in a written value stands a
comma, a closing bracket or brace, or nothing, so no fraction and no exponent begins there.
-/

namespace Courier.Json

/-- What stands behind a written value: nothing, or a symbol that goes on with the container around
it or ends it. -/
def IsBoundary (rest : List Utf8.Symbol) : Prop :=
  rest = [] ∨ ∃ c more, rest = some c :: more ∧ (c = ',' ∨ c = ']' ∨ c = '\x7d')

theorem IsBoundary.not_isDigitSymbol {rest : List Utf8.Symbol} (h : IsBoundary rest) :
    ∀ s, rest.head? = some s → isDigitSymbol s = false := by
  intro s hs
  rcases h with rfl | ⟨c, more, rfl, rfl | rfl | rfl⟩ <;> cases hs <;> rfl

/-! ## Digits -/

theorem isDigit_of_mem_toDigits {n : Nat} {c : Char} (h : c ∈ Nat.toDigits 10 n) :
    isDigit c = true := by
  have hc := Nat.isDigit_of_mem_toDigits (by decide) (by decide) h
  simpa [isDigit, Char.isDigit, Char.le_def] using hc

/-- The first digit of a number is zero only if there is no other. -/
theorem exists_toDigits (n : Nat) :
    ∃ first more, Nat.toDigits 10 n = first :: more ∧ (first = '0' → more = []) ∧
      (n ≠ 0 → first ≠ '0') := by
  induction n using Nat.strongRecOn with
  | ind n ih =>
    rw [Nat.toDigits_eq_if (by decide)]
    split
    · next hlt =>
      have hdigit : ∀ d < 10, d ≠ 0 → d.digitChar ≠ '0' := by decide
      exact ⟨_, _, rfl, fun _ => rfl, hdigit n hlt⟩
    · next hge =>
      obtain ⟨first, more, hdigits, -, hfirst⟩ := ih (n / 10) (by omega)
      have hne := hfirst (by omega)
      exact ⟨first, more ++ _, by rw [hdigits]; rfl, fun h => absurd h hne, fun _ => hne⟩

theorem spanDigits_append {digits : List Char} (h : ∀ c ∈ digits, isDigit c = true)
    {rest : List Utf8.Symbol} (hrest : IsBoundary rest) :
    spanDigits (digits.map some ++ rest) = (digits, rest) := by
  have hall : ∀ s ∈ digits.map some, isDigitSymbol s = true := by
    intro s hs
    obtain ⟨c, hc, rfl⟩ := List.mem_map.mp hs
    exact h c hc
  rw [spanDigits, takeWhile_of_boundary hall hrest.not_isDigitSymbol,
    dropWhile_of_boundary hall hrest.not_isDigitSymbol]
  simp

/-- Digits are appended as long as the number that they make fits. -/
theorem appendDigits_eq {digits : List Char} {significand : Nat}
    (hfits : Nat.ofDigitChars 10 digits significand ≤ maxSignificand) (used : Nat) :
    appendDigits significand used digits
      = (Nat.ofDigitChars 10 digits significand, used + digits.length) := by
  induction digits generalizing significand used with
  | nil => rfl
  | cons c digits ih =>
    have hstep : Nat.ofDigitChars 10 (c :: digits) significand
        = Nat.ofDigitChars 10 digits (10 * significand + (c.toNat - 0x30)) := Nat.ofDigitChars_cons
    rw [hstep] at hfits ⊢
    have hnext : ¬ maxSignificand < 10 * significand + (c.toNat - 0x30) := by
      have hpower : 0 < 10 ^ digits.length := Nat.pow_pos (by decide)
      have hgrows := Nat.le_mul_of_pos_left (10 * significand + (c.toNat - 0x30)) hpower
      rw [Nat.ofDigitChars_eq_ofDigitChars_zero] at hfits
      omega
    rw [appendDigits]
    simp only [if_neg hnext]
    rw [ih hfits, List.length_cons]
    congr 1
    omega

theorem appendDigits_toDigits {n : Nat} (h : n ≤ maxSignificand) :
    appendDigits 0 0 (Nat.toDigits 10 n) = (n, (Nat.toDigits 10 n).length) := by
  have hvalue : Nat.ofDigitChars 10 (Nat.toDigits 10 n) 0 = n := Nat.ofDigitChars_ten_toDigits
  rw [appendDigits_eq (by rw [hvalue]; exact h), hvalue, Nat.zero_add]

/-! ## Integers -/

/-- No fraction and no exponent begins at a boundary. -/
theorem unsigned_toDigits {negative : Bool} {n : Nat} (hfits : n ≤ maxSignificand)
    {number : JsonNumber} (hnumber : ofInteger negative n = some number)
    {rest : List Utf8.Symbol} (hrest : IsBoundary rest) :
    unsigned negative ((Nat.toDigits 10 n).map some ++ rest) = .ok (number, rest) := by
  obtain ⟨first, more, hdigits, hzero, -⟩ := exists_toDigits n
  have hspan := spanDigits_append (fun c hc => isDigit_of_mem_toDigits (n := n) hc) hrest
  have happend := appendDigits_toDigits hfits
  rw [hdigits] at hspan happend
  unfold unsigned
  rw [hdigits, hspan]
  have hfirst : ¬ (first = '0' ∧ more ≠ []) := fun h => h.2 (hzero h.1)
  simp only [if_neg hfirst, happend]
  -- what stands at the boundary is none of the marks that go on with a number
  rcases hrest with rfl | ⟨c, tail, rfl, rfl | rfl | rfl⟩ <;> simp [hnumber]

theorem ofInteger_natAbs (n : JsonInteger) :
    ofInteger (decide (n.value < 0)) n.value.natAbs = some (.integer n) := by
  have hzero : ¬ (decide (n.value < 0) = true ∧ n.value.natAbs = 0) := by
    rw [decide_eq_true_iff]
    omega
  have hvalue : (if decide (n.value < 0) = true then -(n.value.natAbs : Int)
      else n.value.natAbs) = n.value := by
    simp only [decide_eq_true_eq]
    split <;> omega
  rw [ofInteger, if_neg hzero, hvalue, JsonInteger.ofInt?, dif_pos n.inRange]

/-- **An integer** is read as it is written. -/
theorem numeral_integerText (n : JsonInteger) {rest : List Utf8.Symbol} (hrest : IsBoundary rest) :
    numeral ((integerText n.value).map some ++ rest) = .ok (.integer n, rest) := by
  have hfits : n.value.natAbs ≤ maxSignificand := by
    have hrange := n.inRange
    rw [maxSignificand]
    omega
  have hread := unsigned_toDigits hfits (ofInteger_natAbs n) hrest
  by_cases hneg : n.value < 0
  · rw [decide_eq_true hneg] at hread
    rw [integerText, if_pos hneg]
    exact hread
  · rw [decide_eq_false hneg] at hread
    rw [integerText, if_neg hneg]
    obtain ⟨first, more, hdigits, -, -⟩ := exists_toDigits n.value.natAbs
    have hfirst : first ≠ '-' := by
      rintro rfl
      have hdigit := isDigit_of_mem_toDigits (n := n.value.natAbs) (hdigits ▸ List.mem_cons_self)
      exact absurd hdigit (by decide)
    rw [hdigits] at hread ⊢
    rw [← hread]
    unfold numeral
    split
    · next heq => exact absurd (Option.some.inj (List.cons.inj heq).1) hfirst
    · rfl

end Courier.Json
