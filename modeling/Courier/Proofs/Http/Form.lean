import Courier.Http.Form
import Courier.Proofs.Text.Cutting
import Courier.Proofs.Text.Percent

/-!
# Form encoding there and back

Whatever names and values are, their encoded texts have no ampersand and no equal sign, so a text
of pairs is cut into its pairs again, and these are read as they were. Pairs that are added to a
text come after those it has, whatever the text is.
-/

namespace Courier.Http.Form

/-! ## Names and values -/

theorem not_mem_encodeText {c : Char} (hkept : isKept c = false) (hplus : '+' ≠ c) (hsign : '%' ≠ c)
    (hdigit : ∀ n < 16, Percent.hexDigit n ≠ c) (s : String) : c ∉ encodeText s := by
  intro hc
  obtain ⟨d, -, hd⟩ := List.mem_flatMap.mp hc
  rw [encodeChar] at hd
  split at hd
  · exact hplus (List.mem_singleton.mp hd).symm
  · refine Percent.forall_mem_encodeChar (P := (· ≠ c)) hsign hdigit ?_ c hd rfl
    rintro hk rfl
    rw [hkept] at hk
    cases hk

/-- A plus sign as the space that it stands for. -/
def plusToSpace (c : Char) : Char :=
  if c = '+' then ' ' else c

theorem plusToSpace_of_ne {c : Char} (h : c ≠ '+') : plusToSpace c = c := by
  rw [plusToSpace, if_neg h]

/-- An encoded character without its plus sign. -/
theorem map_plusToSpace_encodeChar (c : Char) :
    (encodeChar c).map plusToSpace
      = if c = ' ' then [' '] else Percent.encodeChar isKept c := by
  rw [encodeChar]
  split
  · rfl
  · have hne : ∀ d ∈ Percent.encodeChar isKept c, d ≠ '+' := by
      refine Percent.forall_mem_encodeChar (by decide) (by decide) ?_
      rintro hk rfl
      revert hk
      decide
    calc (Percent.encodeChar isKept c).map plusToSpace
        = (Percent.encodeChar isKept c).map id :=
          List.map_congr_left fun d hd => plusToSpace_of_ne (hne d hd)
      _ = Percent.encodeChar isKept c := List.map_id _

theorem decodeChars_encodeChar (c : Char) (rest : List Char) :
    Percent.decodeChars ((encodeChar c).map plusToSpace ++ rest)
      = String.utf8EncodeChar c ++ Percent.decodeChars rest := by
  rw [map_plusToSpace_encodeChar]
  split
  · next hspace =>
    rw [hspace, List.singleton_append, Percent.decodeChars_cons (by decide)]
  · exact Percent.decodeChars_encodeChar (by decide) c rest

theorem decodeChars_encodeText (s : String) :
    Percent.decodeChars ((encodeText s).map plusToSpace) = Utf8.encode s := by
  rw [encodeText, Utf8.encode, Utf8.encodeChars, List.map_flatMap]
  induction s.toList with
  | nil => rfl
  | cons c cs ih => rw [List.flatMap_cons, List.flatMap_cons, decodeChars_encodeChar, ih]

/-- **A name or a value** is read as it was. -/
theorem decodeText_encodeText (s : String) : decodeText (encodeText s) = s := by
  show Utf8.decodeLossy (Percent.decodeChars ((encodeText s).map plusToSpace)) = s
  rw [decodeChars_encodeText, Utf8.encode, Utf8.decodeLossy_encodeChars, String.ofList_toList]

/-! ## Pairs -/

theorem decodePair_encodePair (pair : String × String) : decodePair (encodePair pair) = pair := by
  have hname : ∀ c ∈ encodeText pair.1, decide (c ≠ '=') = true := by
    intro c hc
    refine decide_eq_true ?_
    rintro rfl
    exact not_mem_encodeText (by decide) (by decide) (by decide) (by decide) pair.1 hc
  have hmark : ∀ c, ('=' :: encodeText pair.2).head? = some c → decide (c ≠ '=') = false := by
    intro c hc
    cases hc
    rfl
  rw [decodePair, encodePair, takeWhile_of_boundary hname hmark,
    dropWhile_of_boundary hname hmark, List.drop_one, List.tail_cons, decodeText_encodeText,
    decodeText_encodeText]

theorem not_mem_encodePair {c : Char} (heq : '=' ≠ c) (htext : ∀ s, c ∉ encodeText s)
    (pair : String × String) : c ∉ encodePair pair := by
  intro hc
  rcases List.mem_append.mp hc with hc | hc
  · exact htext pair.1 hc
  · rcases List.mem_cons.mp hc with rfl | hc
    · exact heq rfl
    · exact htext pair.2 hc

/-- A pair alone. -/
theorem decode_encodePair (pair : String × String) : decode (encodePair pair) = [pair] := by
  have hplain : ∀ c ∈ encodePair pair, decide (c = '&') = false := by
    intro c hc
    refine decide_eq_false ?_
    rintro rfl
    exact not_mem_encodePair (by decide)
      (not_mem_encodeText (by decide) (by decide) (by decide) (by decide)) pair hc
  have hne : (encodePair pair).isEmpty = false := by simp [encodePair]
  rw [decode, Url.splitAll_of_none hplain]
  simp [hne, decodePair_encodePair]

/-- Texts with an ampersand between them are read apart. -/
theorem decode_append_ampersand (cs ds : List Char) :
    decode (cs ++ '&' :: ds) = decode cs ++ decode ds := by
  rw [decode, Url.splitAll_append (by decide), List.filter_append, List.map_append]
  rfl

theorem append_cons (text : List Char) (pair : String × String) (pairs : List (String × String)) :
    append text (pair :: pairs)
      = append (text ++ (if text.isEmpty then [] else ['&']) ++ encodePair pair) pairs := rfl

/-- Pairs are added behind a text. -/
theorem prefix_append (text : List Char) (pairs : List (String × String)) :
    text <+: append text pairs := by
  induction pairs generalizing text with
  | nil => exact List.prefix_refl text
  | cons pair pairs ih =>
    rw [append_cons, List.append_assoc]
    exact (List.prefix_append text _).trans (ih _)

/-- One pair comes after those of the text. -/
theorem decode_append_pair (text : List Char) (pair : String × String) :
    decode (text ++ (if text.isEmpty then [] else ['&']) ++ encodePair pair)
      = decode text ++ [pair] := by
  cases text with
  | nil => exact decode_encodePair pair
  | cons c cs =>
    show decode ((c :: cs) ++ ['&'] ++ encodePair pair) = _
    rw [List.append_assoc, List.singleton_append, decode_append_ampersand, decode_encodePair]

/-- **Added pairs** come after those of the text, as they are and in order. -/
theorem decode_append (text : List Char) (pairs : List (String × String)) :
    decode (append text pairs) = decode text ++ pairs := by
  -- the text grows by each pair
  induction pairs generalizing text with
  | nil => exact (List.append_nil _).symm
  | cons pair pairs ih => rw [append_cons, ih, decode_append_pair, List.append_assoc]; rfl

/-- What is neither in a text nor written for a pair is not in the text with pairs. -/
theorem not_mem_append {c : Char} (hamp : '&' ≠ c) (hpair : ∀ pair, c ∉ encodePair pair)
    {text : List Char} (htext : c ∉ text) (pairs : List (String × String)) :
    c ∉ append text pairs := by
  induction pairs generalizing text with
  | nil => exact htext
  | cons pair pairs ih =>
    rw [append_cons]
    refine ih ?_
    have hsep : c ∉ (if text.isEmpty then [] else ['&']) := by
      split
      · simp
      · simpa using hamp.symm
    simp only [List.mem_append, not_or]
    exact ⟨⟨htext, hsep⟩, hpair pair⟩

theorem numberSign_not_mem_append {text : List Char} (h : '#' ∉ text)
    (pairs : List (String × String)) : '#' ∉ append text pairs := by
  refine not_mem_append (by decide) ?_ h pairs
  exact not_mem_encodePair (by decide)
    (not_mem_encodeText (by decide) (by decide) (by decide) (by decide))

end Courier.Http.Form
