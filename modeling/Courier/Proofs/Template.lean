import Courier.Proofs.Text.Percent
import Courier.Template

/-!
# Filled templates

What takes the place of a token has no colon and no slash, so a value cannot bring in a token or a
segment. It can take a segment away: an empty value in the place of a token that is the whole first
segment leaves two slashes at the front.
-/

namespace Courier.Template

/-! ## What takes the place of a token -/

/-- The text that takes the place of a token. -/
def encoded (value : String) : List Char :=
  Percent.encodeChars isKept value.toList

theorem fillOne_eq (template : List Char) (name value : String) :
    fillOne template name value = replaceFirst (':' :: name.toList) (encoded value) template := rfl

theorem isKept_percent : isKept '%' = false := by
  decide

theorem decodeChars_encoded (value : String) :
    Percent.decodeChars (encoded value) = Utf8.encode value :=
  Percent.decodeChars_encodeChars isKept_percent value.toList

theorem encoded_eq_nil_iff {value : String} : encoded value = [] ↔ value = "" := by
  constructor
  · intro h
    have hnil : value.toList = [] := Percent.encodeChars_inj isKept_percent h
    rw [← String.ofList_toList (s := value), hnil]
  · rintro rfl
    rfl

theorem not_mem_encoded {c : Char} (hkept : isKept c = false) (hsign : '%' ≠ c)
    (hdigit : ∀ n < 16, Percent.hexDigit n ≠ c) (value : String) : c ∉ encoded value := by
  intro hc
  refine Percent.forall_mem_encodeChars (P := (· ≠ c)) hsign hdigit ?_ c hc rfl
  rintro d - hd rfl
  rw [hkept] at hd
  cases hd

theorem slash_not_mem_encoded (value : String) : '/' ∉ encoded value :=
  not_mem_encoded (by decide) (by decide) (by decide) value

theorem colon_not_mem_encoded (value : String) : ':' ∉ encoded value :=
  not_mem_encoded (by decide) (by decide) (by decide) value

/-! ## The first occurrence -/

theorem replaceFirst_cons_of_ne {c d : Char} (h : c ≠ d) (name new cs : List Char) :
    replaceFirst (c :: name) new (d :: cs) = d :: replaceFirst (c :: name) new cs := by
  rw [replaceFirst, if_neg (by simp [h])]

theorem replaceFirst_self (c : Char) (name new tail : List Char) :
    replaceFirst (c :: name) new (c :: name ++ tail) = new ++ tail := by
  have hpre : (c :: name).isPrefixOf (c :: (name ++ tail)) = true := by simp
  rw [List.cons_append, replaceFirst, if_pos hpre, ← List.cons_append, List.drop_left]

theorem replaceFirst_of_not_startsWith {old : List Char} {c : Char} {cs : List Char}
    (new : List Char) (h : ¬ old <+: c :: cs) :
    replaceFirst old new (c :: cs) = c :: replaceFirst old new cs := by
  rw [replaceFirst, if_neg (by simpa using h)]

/-- A part without the first character of what is replaced stays as it is. -/
theorem replaceFirst_append_of_not_mem {c : Char} {part : List Char} (h : c ∉ part)
    (name new rest : List Char) :
    replaceFirst (c :: name) new (part ++ rest) = part ++ replaceFirst (c :: name) new rest := by
  induction part with
  | nil => rfl
  | cons d part ih =>
    obtain ⟨hd, hpart⟩ := List.ne_and_not_mem_of_not_mem_cons h
    rw [List.cons_append, replaceFirst_cons_of_ne hd, ih hpart, List.cons_append]

/-! ## The first segment -/

theorem fillChars_cons (template : List Char) (name value : String)
    (rest : List (String × String)) :
    fillChars template ((name, value) :: rest) = fillChars (fillOne template name value) rest := rfl

/-- A slash at the front stays there. -/
theorem fillChars_slash (template : List Char) (values : List (String × String)) :
    fillChars ('/' :: template) values = '/' :: fillChars template values := by
  induction values generalizing template with
  | nil => rfl
  | cons head rest ih =>
    obtain ⟨name, value⟩ := head
    have hstep : fillOne ('/' :: template) name value = '/' :: fillOne template name value :=
      replaceFirst_cons_of_ne (by decide) _ _ _
    rw [fillChars_cons, fillChars_cons, hstep, ih]

/-- A text gets a slash at its front only where its first token gives way to one behind it. -/
theorem slash_prefix_fillOne_iff {text : List Char} (h : ¬ ['/'] <+: text) (name value : String) :
    ['/'] <+: fillOne text name value ↔
      value = "" ∧ ':' :: name.toList ++ ['/'] <+: text := by
  rw [fillOne_eq]
  by_cases htoken : ':' :: name.toList <+: text
  · obtain ⟨tail, rfl⟩ := htoken
    rw [replaceFirst_self, List.prefix_append_right_inj]
    by_cases hvalue : value = ""
    · rw [encoded_eq_nil_iff.mpr hvalue]
      simp [hvalue]
    · -- the front is now that of an encoded value
      obtain ⟨c, cs, hcs⟩ := List.exists_cons_of_ne_nil (mt encoded_eq_nil_iff.mp hvalue)
      have hc : '/' ≠ c := by
        rintro rfl
        exact slash_not_mem_encoded value (by simp [hcs])
      simp [hcs, hvalue, hc]
  · have hnone : ¬ ':' :: name.toList ++ ['/'] <+: text :=
      fun hpre => htoken ((List.prefix_append _ _).trans hpre)
    cases text with
    | nil => simp [replaceFirst]
    | cons c cs =>
      rw [replaceFirst_of_not_startsWith _ htoken]
      simp only [hnone, and_false, iff_false]
      simpa using h

/-- At some point an empty value takes the place of a token that is the whole first segment. -/
def EmptiesFirst (template : List Char) (values : List (String × String)) : Prop :=
  ∃ before name after, values = before ++ (name, "") :: after ∧
    '/' :: ':' :: name.toList ++ ['/'] <+: fillChars template before

theorem emptiesFirst_cons_iff {template : List Char} {name value : String}
    {rest : List (String × String)} :
    EmptiesFirst template ((name, value) :: rest) ↔
      (value = "" ∧ '/' :: ':' :: name.toList ++ ['/'] <+: template) ∨
        EmptiesFirst (fillOne template name value) rest := by
  constructor
  · rintro ⟨before, n, after, hvalues, hpre⟩
    cases before with
    | nil =>
      cases hvalues
      exact .inl ⟨rfl, hpre⟩
    | cons head before =>
      cases hvalues
      exact .inr ⟨before, n, after, rfl, hpre⟩
  · rintro (⟨rfl, hpre⟩ | ⟨before, n, after, rfl, hpre⟩)
    · exact ⟨[], name, rest, rfl, hpre⟩
    · exact ⟨(name, value) :: before, n, after, rfl, hpre⟩

/-- Two slashes at the front stay there. -/
theorem slashes_prefix_fillChars {template : List Char} (h : ['/', '/'] <+: template)
    (values : List (String × String)) : ['/', '/'] <+: fillChars template values := by
  obtain ⟨tail, rfl⟩ := h
  show ['/', '/'] <+: fillChars ('/' :: '/' :: tail) values
  rw [fillChars_slash, fillChars_slash]
  simp

/-- **Two slashes** come to the front of a path only by an emptied first segment. -/
theorem slashes_prefix_fillChars_iff {template : List Char} (hone : ['/'] <+: template)
    (htwo : ¬ ['/', '/'] <+: template) (values : List (String × String)) :
    ['/', '/'] <+: fillChars template values ↔ EmptiesFirst template values := by
  induction values generalizing template with
  | nil => exact iff_of_false htwo (by rintro ⟨before, name, after, h, -⟩; cases before <;> cases h)
  | cons head rest ih =>
    obtain ⟨name, value⟩ := head
    obtain ⟨text, rfl⟩ := hone
    change ¬ ['/', '/'] <+: '/' :: text at htwo
    have htext : ¬ ['/'] <+: text := by simpa using htwo
    have hstep : fillOne ('/' :: text) name value = '/' :: fillOne text name value :=
      replaceFirst_cons_of_ne (by decide) _ _ _
    have hfront := slash_prefix_fillOne_iff htext name value
    rw [emptiesFirst_cons_iff, fillChars_cons]
    show ['/', '/'] <+: fillChars (fillOne ('/' :: text) name value) rest ↔ _ ∨
      EmptiesFirst (fillOne ('/' :: text) name value) rest
    rw [hstep]
    by_cases hnow : ['/'] <+: fillOne text name value
    · have hslashes : ['/', '/'] <+: '/' :: fillOne text name value := by simpa using hnow
      obtain ⟨hvalue, hpre⟩ := hfront.mp hnow
      exact iff_of_true (slashes_prefix_fillChars hslashes rest)
        (.inl ⟨hvalue, by simpa using hpre⟩)
    · rw [ih (by simp) (by simpa using hnow)]
      have hnot : ¬ (value = "" ∧ '/' :: ':' :: name.toList ++ ['/'] <+: '/' :: text) := by
        rintro ⟨hvalue, hpre⟩
        exact hnow (hfront.mpr ⟨hvalue, by simpa using hpre⟩)
      exact (or_iff_right hnot).symm

end Courier.Template
