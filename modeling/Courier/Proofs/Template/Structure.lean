import Courier.Proofs.Template.Substitution
import Courier.Proofs.Text.Cutting

/-!
# Values add no structure

All that a value writes is characters that are kept, and escapes. So a text has the separators of
its template, neither more nor less and in the same order. Where each token of a template is
followed by a separator, the places of the tokens are found again in the text, and with them the
values.
-/

namespace Courier.Template

open Members (valuesOf)

/-- The characters of tokens and of what takes their place. -/
def isFilling (c : Char) : Bool :=
  isKept c || c = '%' || c = ':'

/-! ## Separators -/

theorem isFilling_of_isKept {c : Char} (h : isKept c = true) : isFilling c = true := by
  simp [isFilling, h]

theorem isFilling_hexDigit : ∀ n < 16, isFilling (Percent.hexDigit n) = true := by
  decide

theorem isFilling_of_isNameChar {c : Char} (h : isNameChar c = true) : isFilling c = true := by
  simp only [isNameChar, Bool.or_eq_true, decide_eq_true_eq] at h
  rcases h with halnum | rfl
  · exact isFilling_of_isKept (by simp [isKept, halnum])
  · decide

theorem isFilling_of_mem_encoded (value : String) : ∀ c ∈ encoded value, isFilling c = true :=
  Percent.forall_mem_encodeChars (by decide) isFilling_hexDigit fun _ _ => isFilling_of_isKept

/-- What is replaced leaves no trace in a class that has none of it, nor of what replaces it. -/
theorem filter_replaceFirst {p : Char → Bool} {old new : List Char}
    (hold : ∀ c ∈ old, p c = false) (hnew : ∀ c ∈ new, p c = false) (cs : List Char) :
    (replaceFirst old new cs).filter p = cs.filter p := by
  have hnone : ∀ {ds : List Char}, (∀ c ∈ ds, p c = false) → ds.filter p = [] := by
    intro ds hds
    exact List.filter_eq_nil_iff.mpr fun c hc => by simp [hds c hc]
  induction cs with
  | nil =>
    rw [replaceFirst]
    split
    · exact hnone hnew
    · rfl
  | cons c cs ih =>
    by_cases hpre : old <+: c :: cs
    · obtain ⟨tail, htail⟩ := hpre
      rw [replaceFirst, if_pos (by simp [← htail]), ← htail, List.drop_left, List.filter_append,
        List.filter_append, hnone hold, hnone hnew]
    · rw [replaceFirst_of_not_startsWith _ hpre, List.filter_cons, List.filter_cons, ih]

/-- **Separators** of a text are those of its template. -/
theorem filter_fillChars {values : List (String × String)}
    (hnames : ∀ v ∈ values, ∀ c ∈ v.1.toList, isKept c = true) (template : List Char) :
    (fillChars template values).filter (!isFilling ·) = template.filter (!isFilling ·) := by
  induction values generalizing template with
  | nil => rfl
  | cons head rest ih =>
    obtain ⟨name, value⟩ := head
    rw [fillChars_cons, ih fun v hv => hnames v (by simp [hv]), fillOne_eq]
    refine filter_replaceFirst ?_ ?_ template
    · intro c hc
      rcases List.mem_cons.mp hc with rfl | hc
      · decide
      · rw [isFilling_of_isKept (hnames (name, value) (by simp) c hc), Bool.not_true]
    · intro c hc
      rw [isFilling_of_mem_encoded value c hc, Bool.not_true]

/-! ## Reading a text back -/

/-- Every token is followed by a character that cannot be in the place of a token, or by nothing. -/
def IsSeparated (ps : List Part) : Prop :=
  ps.IsChain fun p q => p.name? = none ∨ ∃ c, q = .char c ∧ isFilling c = false

theorem IsSeparated.isSpaced {ps : List Part} (h : IsSeparated ps) : IsSpaced ps := by
  refine h.imp ?_
  rintro p q (hp | ⟨c, rfl, -⟩)
  · exact .inl hp
  · exact .inr rfl

/-- The part of a text that stands where its template has the first token of a name. -/
def textAt (name : String) : List Part → List Char → Option (List Char)
  | [], _ => none
  | .char _ :: rest, text => textAt name rest (text.drop 1)
  | .token other :: rest, text =>
    if other = name then some (text.takeWhile isFilling)
    else textAt name rest (text.dropWhile isFilling)

theorem isFilling_of_mem_shownAs {name : String} (hname : ∀ c ∈ name.toList, isNameChar c = true)
    (value : Option String) : ∀ c ∈ shownAs name value, isFilling c = true := by
  intro c hc
  cases value with
  | some value => exact isFilling_of_mem_encoded value c hc
  | none =>
    rcases List.mem_cons.mp hc with rfl | hc
    · decide
    · exact isFilling_of_isNameChar (hname c hc)

/-- **The place of a token** in a text has what is shown for the token. -/
theorem textAt_substituteFrom {ps : List Part} (hsep : IsSeparated ps)
    (hchars : ∀ name ∈ tokens ps, ∀ c ∈ name.toList, isNameChar c = true)
    {values : List (String × String)} {name : String} (hname : name ∈ tokens ps)
    {seen : List String} (hseen : name ∉ seen) :
    textAt name ps (substituteFrom values seen ps)
      = some (shownAs name (valuesOf name values)[0]?) := by
  induction ps generalizing seen with
  | nil => cases hname
  | cons p ps ih =>
    obtain ⟨hnext, hrest⟩ := List.isChain_cons.mp hsep
    cases p with
    | char c => exact ih hrest hchars hname hseen
    | token other =>
      have hshown : ∀ c ∈ shownAs other (valuesOf other values)[seen.count other]?,
          isFilling c = true :=
        isFilling_of_mem_shownAs (hchars other (by simp)) _
      have hstop : ∀ c, (substituteFrom values (other :: seen) ps).head? = some c →
          isFilling c = false := by
        intro c hc
        cases ps with
        | nil => cases hc
        | cons q ps =>
          rcases hnext q rfl with hnone | ⟨d, rfl, hd⟩
          · cases hnone
          · obtain rfl : d = c := by simpa [substituteFrom] using hc
            exact hd
      rw [substituteFrom, textAt]
      by_cases heq : other = name
      · subst heq
        rw [if_pos rfl, takeWhile_of_boundary hshown hstop, List.count_eq_zero_of_not_mem hseen]
      · have hmem : name ∈ tokens ps := by
          rcases List.mem_cons.mp hname with rfl | hmem
          · exact absurd rfl heq
          · exact hmem
        rw [if_neg heq, dropWhile_of_boundary hshown hstop]
        exact ih hrest (fun n hn => hchars n (by simp [hn])) hmem (by simp [hseen, Ne.symm heq])

/-- Names for which a text can tell the values: each is the name of one token, and starts no longer
one. -/
structure IsTold (ps : List Part) (names : List String) : Prop where
  separated : IsSeparated ps
  distinct : names.Nodup
  once : ∀ name ∈ names, (tokens ps).count name = 1
  apart : ∀ name ∈ names, ∀ other ∈ tokens ps, name.toList <+: other.toList → name = other

section Told

variable {template : String} {names : List String}
  (htold : IsTold (parts template.toList) names) {values : List (String × String)}
  (hvalues : (values.map (·.1)).Perm names)
include htold hvalues

/-- **A value** is read where its token stood. -/
theorem textAt_fill {name value : String} (h : (name, value) ∈ values) :
    textAt name (parts template.toList) (fill template values).toList = some (encoded value) := by
  have hname : name ∈ names := hvalues.subset (List.mem_map.mpr ⟨_, h, rfl⟩)
  have htoken : ∀ {n}, n ∈ names → n ∈ tokens (parts template.toList) := by
    intro n hn
    exact List.count_pos_iff.mp (by rw [htold.once n hn]; decide)
  have hmem : ∀ v ∈ values, v.1 ∈ names := fun v hv => hvalues.subset (List.mem_map_of_mem hv)
  have hclear : IsUnambiguous (parts template.toList) values :=
    fun v hv => htold.apart v.1 (hmem v hv)
  rw [toList_fill htold.separated.isSpaced
      (fun v hv => isNameChar_of_mem_tokens (htoken (hmem v hv))) hclear.isOrdered,
    substitute, textAt_substituteFrom htold.separated (fun n hn => isNameChar_of_mem_tokens hn)
      (htoken hname) (by simp),
    Members.valuesOf_eq_singleton (hvalues.nodup_iff.mpr htold.distinct) h,
    List.getElem?_cons_zero, shownAs]

end Told

/-- **Values add no structure**: a text has the separators of its template in the same order,
whatever the values are. If tokens stand before separators, the part of the text at the place of a
token is decoded to its value, so that different values give different texts. -/
theorem values_add_no_structure :
    (∀ (template : String) (values : List (String × String)),
      (∀ v ∈ values, ∀ c ∈ v.1.toList, isKept c = true) →
        (fill template values).toList.filter (!isFilling ·)
          = template.toList.filter (!isFilling ·)) ∧
    ∀ (template : String) (names : List String), IsTold (parts template.toList) names →
      ∀ values : List (String × String), (values.map (·.1)).Perm names →
        (∀ name value, (name, value) ∈ values → ∃ text,
          textAt name (parts template.toList) (fill template values).toList = some text ∧
            Utf8.decode (Percent.decodeChars text) = .ok value) ∧
        ∀ others : List (String × String), (others.map (·.1)).Perm names →
          (∃ name a b, (name, a) ∈ values ∧ (name, b) ∈ others ∧ a ≠ b) →
            fill template values ≠ fill template others := by
  constructor
  · intro template values hnames
    rw [fill, String.toList_ofList, filter_fillChars hnames]
  · intro template names htold values hvalues
    have hdecode : ∀ value, Utf8.decode (Percent.decodeChars (encoded value)) = .ok value := by
      intro value
      rw [decodeChars_encoded, Utf8.encode, Utf8.decode_encodeChars, String.ofList_toList]
    constructor
    · intro name value hmem
      exact ⟨_, textAt_fill htold hvalues hmem, hdecode value⟩
    · rintro others hothers ⟨name, a, b, ha, hb, hne⟩ hsame
      have htext := textAt_fill htold hvalues ha
      rw [hsame, textAt_fill htold hothers hb, Option.some_inj] at htext
      have hvalue := hdecode a
      rw [← htext, hdecode b] at hvalue
      exact hne (Except.ok.inj hvalue).symm

/-- Values full of separators, in a template that has some of its own. -/
theorem separators_are_not_added :
    (fill "/f/:name?x=:id" [("name", "a/b?c=d#é"), ("id", "&x=:y")]).toList.filter (!isFilling ·)
      = "//?=".toList ∧
    (∃ text, textAt "name" (parts "/f/:name?x=:id".toList)
        (fill "/f/:name?x=:id" [("id", "&x=:y"), ("name", "a/b?c=d#é")]).toList = some text ∧
      Utf8.decode (Percent.decodeChars text) = .ok "a/b?c=d#é") ∧
    fill "/f/:name?x=:id" [("id", "&x=:y"), ("name", "a/b?c=d#é")]
      ≠ fill "/f/:name?x=:id" [("name", "a/b?c=d#e"), ("id", "&x=:y")] := by
  have hparts : parts "/f/:name?x=:id".toList = [.char '/', .char 'f', .char '/', .token "name",
      .char '?', .char 'x', .char '=', .token "id"] := by
    decide +kernel
  have htold : IsTold (parts "/f/:name?x=:id".toList) ["id", "name"] := by
    rw [hparts]
    exact {
      separated := by simp [IsSeparated, Part.name?, show isFilling '?' = false by decide]
      distinct := by decide
      once := by decide
      apart := by decide }
  obtain ⟨hkept, htell⟩ := values_add_no_structure
  obtain ⟨hread, hdiffer⟩ := htell _ _ htold [("id", "&x=:y"), ("name", "a/b?c=d#é")] (by decide)
  have hone : ("name", "a/b?c=d#é") ∈ [("id", "&x=:y"), ("name", "a/b?c=d#é")] := by decide
  have hother : ("name", "a/b?c=d#e") ∈ [("name", "a/b?c=d#e"), ("id", "&x=:y")] := by decide
  refine ⟨?_, hread _ _ hone, hdiffer _ (by decide) ⟨_, _, _, hone, hother, by decide⟩⟩
  rw [hkept _ _ (by simp [isKept, Percent.isAsciiAlnum])]
  decide

end Courier.Template
