import Courier.Proofs.Text.Cutting
import Courier.Proofs.Text.Percent
import Courier.Url.Path

/-!
# Segments in normal form

A segment that is not dots, and in which nothing has to be escaped, is in normal form: a path of
such segments is read as these segments. Whether a segment is dots depends only on the bytes it
stands for.
-/

namespace Courier.Url

/-! ## Dots -/

/-- The rest of an escape: two hexadecimal digits. -/
def StartsWithDigits (cs : List Char) : Prop :=
  ∃ a b rest x y, cs = a :: b :: rest ∧ Percent.hexValue a = some x ∧ Percent.hexValue b = some y

theorem decodeChars_percent {cs : List Char} (h : ¬ StartsWithDigits cs) :
    Percent.decodeChars ('%' :: cs) = 0x25 :: Percent.decodeChars cs := by
  cases cs with
  | nil => rfl
  | cons a cs =>
    cases cs with
    | nil => rfl
    | cons b rest =>
      rw [Percent.decodeChars]
      split
      · next x y hx hy => exact absurd ⟨a, b, rest, x, y, rfl, hx, hy⟩ h
      · rfl

theorem ne_percent_of_hexValue {c : Char} {x : Nat} (h : Percent.hexValue c = some x) :
    c ≠ '%' := by
  rintro rfl
  cases h

theorem plainDots_cons {c : Char} (h : c ≠ '%') (rest : List Char) :
    plainDots (c :: rest) = c :: plainDots rest := by
  rw [plainDots]
  · intro more hc
    exact absurd hc h
  · intro more hc
    exact absurd hc h

/-- A digit at the front of a text with plain dots was there before. -/
theorem cons_of_plainDots {a : Char} {x : Nat} (ha : Percent.hexValue a = some x)
    {cs rest : List Char} (h : plainDots cs = a :: rest) :
    ∃ before, cs = a :: before ∧ plainDots before = rest := by
  unfold plainDots at h
  split at h
  · obtain ⟨rfl, -⟩ := List.cons.inj h
    cases ha
  · obtain ⟨rfl, -⟩ := List.cons.inj h
    cases ha
  · obtain ⟨rfl, hrest⟩ := List.cons.inj h
    exact ⟨_, rfl, hrest⟩
  · cases h

/-- Writing escaped dots as dots makes no escape. -/
theorem startsWithDigits_of_plainDots {cs : List Char} (h : StartsWithDigits (plainDots cs)) :
    StartsWithDigits cs := by
  obtain ⟨a, b, rest, x, y, hcs, ha, hb⟩ := h
  obtain ⟨before, rfl, hbefore⟩ := cons_of_plainDots ha hcs
  obtain ⟨rest', rfl, -⟩ := cons_of_plainDots hb hbefore
  exact ⟨a, b, rest', x, y, rfl, ha, hb⟩

theorem decodeChars_escaped {a b : Char} {x y : Nat} (ha : Percent.hexValue a = some x)
    (hb : Percent.hexValue b = some y) (rest : List Char) :
    Percent.decodeChars ('%' :: a :: b :: rest)
      = UInt8.ofNat (x * 16 + y) :: Percent.decodeChars rest := by
  rw [Percent.decodeChars]
  simp only [ha, hb]

/-- **Escaped dots are dots**: a text in which they are written out stands for the same bytes. -/
theorem decodeChars_plainDots (cs : List Char) :
    Percent.decodeChars (plainDots cs) = Percent.decodeChars cs := by
  fun_induction plainDots cs with
  | case1 rest ih =>
    rw [Percent.decodeChars_cons (by decide), ih]
    rfl
  | case2 rest ih =>
    rw [Percent.decodeChars_cons (by decide), ih]
    rfl
  | case3 c rest _ _ ih =>
    by_cases hc : c = '%'
    · subst hc
      by_cases hdigits : StartsWithDigits rest
      · -- an escape: its digits stay, and so does what follows them
        obtain ⟨a, b, more, x, y, rfl, ha, hb⟩ := hdigits
        have ha' := ne_percent_of_hexValue ha
        have hb' := ne_percent_of_hexValue hb
        rw [plainDots_cons ha', plainDots_cons hb'] at ih ⊢
        simp only [Percent.decodeChars_cons ha', Percent.decodeChars_cons hb'] at ih
        rw [decodeChars_escaped ha hb, decodeChars_escaped ha hb,
          List.append_cancel_left (List.append_cancel_left ih)]
      · rw [decodeChars_percent hdigits,
          decodeChars_percent (mt startsWithDigits_of_plainDots hdigits), ih]
    · rw [Percent.decodeChars_cons hc, Percent.decodeChars_cons hc, ih]
  | case4 => rfl

/-- What stands for neither one dot nor two is no dots. -/
structure IsNotDots (segment : List Char) : Prop where
  single : isSingleDot segment = false
  double : isDoubleDot segment = false

theorem isNotDots_of_decodeChars {segment : List Char}
    (hsingle : Percent.decodeChars segment ≠ Utf8.encodeChars ['.'])
    (hdouble : Percent.decodeChars segment ≠ Utf8.encodeChars ['.', '.']) :
    IsNotDots segment := by
  constructor
  · refine decide_eq_false ?_
    intro hdots
    rw [← decodeChars_plainDots, hdots] at hsingle
    exact hsingle rfl
  · refine decide_eq_false ?_
    intro hdots
    rw [← decodeChars_plainDots, hdots] at hdouble
    exact hdouble rfl

/-! ## Paths -/

/-- A segment in normal form. -/
structure IsNormalSegment (segment : List Char) : Prop extends IsNotDots segment where
  kept : ∀ c ∈ segment, keepInPath c = true
  noSlash : ∀ c ∈ segment, isSlash true c = false

theorem normalizeSegments_of_isNormal {names : List (List Char)}
    (h : ∀ n ∈ names, IsNormalSegment n) (before : List (List Char)) :
    normalizeSegments false before names = before ++ names := by
  induction names generalizing before with
  | nil => rw [normalizeSegments, List.append_nil]
  | cons name names ih =>
    have hname := h name (by simp)
    have hadd : addSegment false before name = before ++ [name] := by
      rw [addSegment, Percent.encodeChars_eq_self hname.kept]
      rfl
    rw [normalizeSegments]
    simp only [hname.single, hname.double, Bool.false_eq_true, if_false, hadd]
    rw [ih (fun n hn => h n (by simp [hn])), List.append_assoc]
    rfl

/-- **A path in normal form** is read as the segments that it shows. -/
theorem specialPath_of_isNormal {names : List (List Char)} (hne : names ≠ [])
    (h : ∀ n ∈ names, IsNormalSegment n) :
    specialPath (names.flatMap ('/' :: ·)) = .segments names := by
  obtain ⟨name, names, rfl⟩ := List.exists_cons_of_ne_nil hne
  have hsplit : splitAll (isSlash true) (name ++ names.flatMap ('/' :: ·)) = name :: names :=
    splitAll_flatMap rfl fun n hn => (h n hn).noSlash
  have hdrop : dropSlash true ((name :: names).flatMap ('/' :: ·))
      = name ++ names.flatMap ('/' :: ·) := rfl
  rw [specialPath, hdrop, hsplit, normalizeSegments_of_isNormal h, List.nil_append]

end Courier.Url
