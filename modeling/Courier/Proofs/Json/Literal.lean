import Courier.Json.Printer
import Courier.Proofs.Json.Spelling

/-!
# Strings are read as they are written

What is written for each character of a string is a spelling of it, so the reader of literals gives
the string back whatever stands behind it.
-/

namespace Courier.Json

theorem fourDigits_control :
    ∀ n < 32, FourDigits ['0', '0', lowerHexDigit (n / 16), lowerHexDigit (n % 16)] n := by
  intro n h
  have hdigits : ∀ n < 32, Percent.hexValue (lowerHexDigit (n / 16)) = some (n / 16) ∧
      Percent.hexValue (lowerHexDigit (n % 16)) = some (n % 16) := by
    decide
  obtain ⟨hhigh, hlow⟩ := hdigits n h
  have hzero : Percent.hexValue '0' = some 0 := by decide
  have hvalue : ((0 * 16 + 0) * 16 + n / 16) * 16 + n % 16 = n := by omega
  have hall := FourDigits.intro hzero hzero hhigh hlow
  rwa [hvalue] at hall

/-- **One character** is spelled by what is written for it. -/
theorem spells_charText (c : Char) : Spells (charText c) c := by
  have hnamed : ∀ d : Char, c.toNat = d.toNat → c = d := fun d h => Char.toNat_inj.mp h
  unfold charText
  -- the escapes of one letter come first, then those of other controls, then all that is kept
  split
  · next h => subst h; exact .letter (by decide)
  split
  · next h => subst h; exact .letter (by decide)
  split
  · next h => subst h; exact .letter (by decide)
  split
  · next h => subst h; exact .letter (by decide)
  split
  · next h => subst h; exact .letter (by decide)
  split
  · next h => rw [hnamed '\x08' h]; exact .letter (by decide)
  split
  · next h => rw [hnamed '\x0c' h]; exact .letter (by decide)
  split
  · next h => exact .number (fourDigits_control c.toNat h)
  · next hquote hback _ _ _ _ _ hcontrol => exact .self (Nat.not_lt.mp hcontrol) hquote hback

theorem spellsAll_flatMap_charText (cs : List Char) : SpellsAll (cs.flatMap charText) cs := by
  induction cs with
  | nil => exact .nil
  | cons c cs ih => exact .cons (spells_charText c) ih

/-- **A string** is read from its literal, behind the opening quote. -/
theorem literal_stringText (s : String) (rest : List Utf8.Symbol) :
    literal ((s.toList.flatMap charText).map some ++ some '"' :: rest) = .ok (s, rest) :=
  literal_eq_ok_iff.mpr ⟨_, spellsAll_flatMap_charText s.toList, rfl⟩

end Courier.Json
