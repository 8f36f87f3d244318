import Courier.Proofs.Template
import Courier.Proofs.Url.Joining

/-!
# Filled templates behind a base

A text that starts with a slash has no scheme, so it is absolute only if a second slash follows. Of
a template with one slash at its front, values can bring a second one there in one way: an empty
value takes the place of a token that is the whole first segment. In all other cases the filled
template stands behind the base.
-/

namespace Courier.Url

/-- A text that starts with a slash is no URL by itself. -/
theorem parse_of_slash {url : String} {rest : List Char} (h : url.toList = '/' :: rest) :
    parse url = .error .relativeWithoutBase := by
  obtain ⟨back, hclean⟩ := clean_append_slash [] rest
  have hmain : ∃ more, (cut (clean ('/' :: rest))).main = '/' :: more := by
    rw [← List.nil_append ('/' :: rest), hclean]
    exact ⟨(back.takeWhile (· ≠ '#')).takeWhile (· ≠ '?'), rfl⟩
  obtain ⟨more, hmore⟩ := hmain
  have hscheme : readScheme ('/' :: more) = none := rfl
  rw [parse, parseChars, h]
  simp only [hmore, hscheme]

theorem isAbsolute_of_slash {url : String} {rest : List Char} (h : url.toList = '/' :: rest) :
    isAbsolute url = true ↔ ['/', '/'] <+: url.toList := by
  rw [isAbsolute, parse_of_slash h, Bool.or_false, List.isPrefixOf_iff_prefix]

/-- A text that starts with a slash is joined to a base, unless it is absolute. -/
theorem resolve_of_slash {url : String} {rest : List Char} (h : url.toList = '/' :: rest)
    (hurl : isAbsolute url = false) (base : String) : resolve (some base) url = join base url := by
  have hfilled : ¬ url.isEmpty = true := by
    intro hempty
    rw [String.isEmpty_iff.mp hempty] at h
    cases h
  rw [resolve_of_not_isAbsolute hurl, if_neg hfilled]

theorem prefix_join (base url : String) :
    trimEndSlashes base.toList ++ ['/'] <+: (join base url).toList := by
  refine ⟨url.toList.dropWhile (· = '/'), ?_⟩
  rw [join, String.toList_ofList, List.append_assoc]
  rfl

/-- A filled template that starts with a slash. -/
theorem toList_fill_of_slash {template : String} (h : ['/'] <+: template.toList)
    (values : List (String × String)) :
    ∃ rest, (Template.fill template values).toList = '/' :: rest := by
  obtain ⟨text, htext⟩ := h
  refine ⟨Template.fillChars text values, ?_⟩
  rw [Template.fill, String.toList_ofList, ← htext]
  exact Template.fillChars_slash text values

/-- **Whether the base is used** is not decided by what values say: behind a template with one slash
at its front, only an empty value in the place of the whole first segment keeps the base out. Then
the filled template starts with two slashes and stays as it is. -/
theorem base_used_unless_first_emptied {template : String} (hone : ['/'] <+: template.toList)
    (htwo : ¬ ['/', '/'] <+: template.toList) (values : List (String × String)) (base : String) :
    (¬ Template.EmptiesFirst template.toList values →
      trimEndSlashes base.toList ++ ['/'] <+:
        (resolve (some base) (Template.fill template values)).toList) ∧
    (Template.EmptiesFirst template.toList values →
      ['/', '/'] <+: (Template.fill template values).toList ∧
      resolve (some base) (Template.fill template values) = Template.fill template values) := by
  obtain ⟨rest, hrest⟩ := toList_fill_of_slash hone values
  have hslashes : ['/', '/'] <+: (Template.fill template values).toList ↔
      Template.EmptiesFirst template.toList values := by
    rw [← Template.slashes_prefix_fillChars_iff hone htwo, Template.fill, String.toList_ofList]
  have habsolute := (isAbsolute_of_slash hrest).trans hslashes
  constructor
  · intro hkept
    have hrelative : isAbsolute (Template.fill template values) = false :=
      Bool.eq_false_iff.mpr (mt habsolute.mp hkept)
    rw [resolve_of_slash hrest hrelative]
    exact prefix_join base _
  · intro hemptied
    exact ⟨hslashes.mpr hemptied, resolve_of_isAbsolute (habsolute.mpr hemptied) (some base)⟩

/-- A value that looks like another host stays behind the base. -/
theorem folder_behind_base :
    ['/'] <+: "/:folder/list".toList ∧ ¬ ['/', '/'] <+: "/:folder/list".toList ∧
      ¬ Template.EmptiesFirst "/:folder/list".toList [("folder", "//other.test")] ∧
      "http://files.test/".toList <+: (resolve (some "http://files.test/")
        (Template.fill "/:folder/list" [("folder", "//other.test")])).toList := by
  have hkept : ¬ Template.EmptiesFirst "/:folder/list".toList [("folder", "//other.test")] := by
    rw [Template.emptiesFirst_cons_iff]
    rintro (⟨hvalue, -⟩ | ⟨before, name, after, hvalues, -⟩)
    · exact absurd hvalue (by decide)
    · simp at hvalues
  refine ⟨by decide, by decide, hkept, ?_⟩
  exact (base_used_unless_first_emptied (by decide) (by decide) _ "http://files.test/").1 hkept

/-- A template for which it depends on a value whether the base is used. -/
theorem not_behind_base_of_emptied_folder :
    ['/'] <+: "/:folder/list".toList ∧ ¬ ['/', '/'] <+: "/:folder/list".toList ∧
      ¬ trimEndSlashes "http://files.test".toList ++ ['/'] <+:
        (resolve (some "http://files.test")
          (Template.fill "/:folder/list" [("folder", "")])).toList := by
  decide

end Courier.Url
