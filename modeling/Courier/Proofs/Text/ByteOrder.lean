import Courier.Proofs.Text.Utf8

/-!
# The order of bytes

Texts are in the order of their code points, and so are their bytes: a first byte tells how many
bytes belong to a character, with greater numbers for longer sequences, and the bytes behind it are
the digits of the code point to the base 64.
-/

namespace Courier.Utf8

/-- The bytes for the last `6 * k` bits of a number. -/
def tailBytes : Nat → Nat → List UInt8
  | 0, _ => []
  | k + 1, n => tailBytes k (n / 64) ++ [tailByte n]

/-- The bits of a number in front of the last `6 * k`. -/
def front : Nat → Nat → Nat
  | 0, n => n
  | k + 1, n => front k (n / 64)

theorem tailByte_lt {m n : Nat} (h : m % 64 < n % 64) : tailByte m < tailByte n := by
  rw [UInt8.lt_iff_toNat_lt, toNat_tailByte, toNat_tailByte]
  omega

/-- Of two numbers, the one with the greater front is greater, and where the fronts are equal the
bytes behind them decide. -/
theorem front_lt_or_tailBytes_lt {m n : Nat} (h : m < n) (k : Nat) (xs ys : List UInt8) :
    front k m < front k n ∨
      front k m = front k n ∧ tailBytes k m ++ xs < tailBytes k n ++ ys := by
  induction k generalizing m n xs ys with
  | zero => exact .inl h
  | succ k ih =>
    rw [front, front, tailBytes, tailBytes, List.append_assoc, List.append_assoc]
    rcases Nat.lt_or_eq_of_le (Nat.div_le_div_right (c := 64) (Nat.le_of_lt h)) with hlt | heq
    · exact ih hlt _ _
    · -- only the last digits differ
      refine .inr ⟨by rw [heq], ?_⟩
      rw [heq]
      exact List.append_left_lt (List.cons_lt_cons_iff.mpr (.inl (tailByte_lt (by omega))))

/-- How a code point is written: with `k` bytes behind the first, which is marked by `mark`. -/
inductive Width : Nat → Nat → Nat → Prop
  | one {n : Nat} (high : n < 0x80) : Width n 0 0
  | two {n : Nat} (low : 0x80 ≤ n) (high : n < 0x800) : Width n 1 192
  | three {n : Nat} (low : 0x800 ≤ n) (high : n < 0x10000) : Width n 2 224
  | four {n : Nat} (low : 0x10000 ≤ n) (high : n < 0x110000) : Width n 3 240

theorem encodeChar_eq (c : Char) : ∃ k mark, Width c.toNat k mark ∧
    String.utf8EncodeChar c
      = UInt8.ofNat (mark + front k c.toNat) :: tailBytes k c.toNat := by
  have hgreatest := (toNat_bounds c).2
  have hval : c.val.toNat = c.toNat := rfl
  have hsmall : ∀ {m n : Nat}, m < n → m % n = m := Nat.mod_eq_of_lt
  have hthird : c.toNat / 4096 = c.toNat / 64 / 64 := by omega
  have hfourth : c.toNat / 262144 = c.toNat / 64 / 64 / 64 := by omega
  simp only [String.utf8EncodeChar, hval]
  by_cases h1 : c.toNat ≤ 0x7F
  · refine ⟨0, 0, .one (by omega), ?_⟩
    rw [if_pos h1, Nat.zero_add]
    rfl
  rw [if_neg h1]
  by_cases h2 : c.toNat ≤ 0x7FF
  · refine ⟨1, 192, .two (by omega) (by omega), ?_⟩
    rw [if_pos h2, hsmall (by omega), Nat.add_comm]
    rfl
  rw [if_neg h2]
  by_cases h3 : c.toNat ≤ 0xFFFF
  · refine ⟨2, 224, .three (by omega) (by omega), ?_⟩
    rw [if_pos h3, hsmall (by omega), Nat.add_comm, hthird]
    rfl
  · refine ⟨3, 240, .four (by omega) hgreatest, ?_⟩
    rw [if_neg h3, hsmall (by omega), Nat.add_comm, hthird, hfourth]
    rfl

/-- A character before another is written by bytes before those of the other, whatever follows. -/
theorem encodeChar_lt {c d : Char} (h : c.toNat < d.toNat) (xs ys : List UInt8) :
    String.utf8EncodeChar c ++ xs < String.utf8EncodeChar d ++ ys := by
  obtain ⟨k, mark, hwidth, hc⟩ := encodeChar_eq c
  obtain ⟨k', mark', hwidth', hd⟩ := encodeChar_eq d
  rw [hc, hd, List.cons_append, List.cons_append, List.cons_lt_cons_iff]
  -- the first bytes as numbers
  have hfirst : ∀ {n k mark : Nat}, Width n k mark →
      (UInt8.ofNat (mark + front k n)).toNat = mark + front k n := by
    intro n k mark hw
    refine toNat_ofNat_of_lt ?_
    cases hw <;> simp only [front] <;> omega
  rw [UInt8.lt_iff_toNat_lt, ← UInt8.toNat_inj, hfirst hwidth, hfirst hwidth']
  by_cases hsame : k = k' ∧ mark = mark'
  · obtain ⟨rfl, rfl⟩ := hsame
    rcases front_lt_or_tailBytes_lt h k xs ys with hlt | ⟨heq, htail⟩
    · exact .inl (Nat.add_lt_add_left hlt mark)
    · exact .inr ⟨by rw [heq], htail⟩
  · -- a longer sequence has the greater first byte
    refine .inl ?_
    generalize c.toNat = m at *
    generalize d.toNat = n at *
    cases hwidth <;> cases hwidth' <;> simp only [front] <;> simp at hsame <;> omega

theorem encodeChars_lt {cs ds : List Char} (h : cs < ds) : encodeChars cs < encodeChars ds := by
  induction cs generalizing ds with
  | nil =>
    cases ds with
    | nil => exact absurd h (List.lt_irrefl _)
    | cons d ds =>
      obtain ⟨k, mark, -, hd⟩ := encodeChar_eq d
      rw [encodeChars, encodeChars, List.flatMap_cons, hd]
      exact List.nil_lt_cons _ _
  | cons c cs ih =>
    cases ds with
    | nil => exact absurd h (List.not_lt_nil _)
    | cons d ds =>
      rw [encodeChars, encodeChars, List.flatMap_cons, List.flatMap_cons]
      rcases List.cons_lt_cons_iff.mp h with hlt | ⟨rfl, hlt⟩
      · exact encodeChar_lt hlt _ _
      · exact List.append_left_lt (ih hlt)

/-- **Byte order**: a text before another is so by its bytes. -/
theorem encode_lt {s t : String} (h : s < t) : encode s < encode t :=
  encodeChars_lt (String.lt_iff.mp h)

end Courier.Utf8
