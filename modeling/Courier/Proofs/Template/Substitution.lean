import Courier.Proofs.Members
import Courier.Proofs.Template.Parts

/-!
# Values all at once

Values are put into a template one after the other, each into the text that the values before it
have left. This is the same as reading the template once and giving each token the value that its
name has for it, the first token the first value and so on. What it needs is that a token with a
longer name has got its value before a name that it starts with is looked for.
-/

namespace Courier.Template

open Members (valuesOf)

/-! ## Substitution -/

/-- What stands in the place of a token: its value if there is one, else the token. -/
def shownAs (name : String) : Option String → List Char
  | some value => encoded value
  | none => ':' :: name.toList

/-- The text of parts in which each token has its value: of the values of its name, the one with the
number of tokens of this name that were `seen` before. -/
def substituteFrom (values : List (String × String)) : List String → List Part → List Char
  | _, [] => []
  | seen, .char c :: rest => c :: substituteFrom values seen rest
  | seen, .token name :: rest =>
    shownAs name (valuesOf name values)[seen.count name]? ++
      substituteFrom values (name :: seen) rest

/-- The text of parts in which each token has its value. -/
def substitute (values : List (String × String)) (ps : List Part) : List Char :=
  substituteFrom values [] ps

/-- Where a name starts the names of longer tokens, all these have values before it. -/
def IsOrdered (ps : List Part) (values : List (String × String)) : Prop :=
  ∀ i (h : i < values.length), ∀ longer ∈ tokens ps, values[i].1.toList <+: longer.toList →
    values[i].1 ≠ longer → (tokens ps).count longer ≤ (valuesOf longer (values.take i)).length

section Substitution

variable {name value : String} {values : List (String × String)} {seen : List String}

/-- Without values all tokens stay. -/
theorem substituteFrom_nil (seen : List String) (ps : List Part) :
    substituteFrom [] seen ps = partsText ps := by
  induction ps generalizing seen with
  | nil => rfl
  | cons p ps ih =>
    cases p with
    | char c => rw [substituteFrom, ih, partsText_cons, Part.text, List.singleton_append]
    | token other =>
      rw [substituteFrom, ih, partsText_cons, Part.text, Members.valuesOf_nil, List.getElem?_nil,
        shownAs]

/-- Characters stand for themselves. -/
theorem substituteFrom_map_char_append (cs : List Char) (ps : List Part) :
    substituteFrom values seen (cs.map .char ++ ps) = cs ++ substituteFrom values seen ps := by
  induction cs with
  | nil => rfl
  | cons c cs ih => rw [List.map_cons, List.cons_append, substituteFrom, ih, List.cons_append]

/-- Only the values of each name count, in their order. -/
theorem substituteFrom_congr {others : List (String × String)}
    (h : ∀ name, valuesOf name others = valuesOf name values) (seen : List String)
    (ps : List Part) : substituteFrom others seen ps = substituteFrom values seen ps := by
  induction ps generalizing seen with
  | nil => rfl
  | cons p ps ih =>
    cases p with
    | char c => rw [substituteFrom, substituteFrom, ih]
    | token other => rw [substituteFrom, substituteFrom, ih, h]

/-- The first value is not for tokens behind the first of its name. -/
theorem substituteFrom_cons_of_seen {seen' : List String} (ps : List Part)
    (hname : seen'.count name = seen.count name + 1)
    (hother : ∀ other ≠ name, seen'.count other = seen.count other) :
    substituteFrom ((name, value) :: values) seen' ps = substituteFrom values seen ps := by
  induction ps generalizing seen seen' with
  | nil => rfl
  | cons p ps ih =>
    cases p with
    | char c => rw [substituteFrom, substituteFrom, ih hname hother]
    | token n =>
      have hmore : substituteFrom ((name, value) :: values) (n :: seen') ps
          = substituteFrom values (n :: seen) ps := by
        refine ih ?_ ?_
        · rw [List.count_cons, List.count_cons, hname]
          omega
        · intro other hne
          rw [List.count_cons, List.count_cons, hother other hne]
      rw [substituteFrom, substituteFrom, hmore]
      by_cases heq : n = name
      · subst heq
        rw [Members.valuesOf_cons_self, hname, List.getElem?_cons_succ]
      · rw [Members.valuesOf_cons_of_ne (Ne.symm heq), hother n heq]

/-- **The first value** goes to the first token of its name. -/
theorem substituteFrom_cons (hseen : name ∉ seen) (ps : List Part) :
    substituteFrom ((name, value) :: values) seen ps
      = substituteFrom values seen (fillFirst name value ps) := by
  induction ps generalizing seen with
  | nil => rfl
  | cons p ps ih =>
    cases p with
    | char c => rw [substituteFrom, fillFirst, substituteFrom, ih hseen]
    | token n =>
      by_cases heq : n = name
      · subst heq
        have hmore : substituteFrom ((n, value) :: values) (n :: seen) ps
            = substituteFrom values seen ps :=
          substituteFrom_cons_of_seen ps List.count_cons_self fun other hne =>
            List.count_cons_of_ne hne.symm
        rw [substituteFrom, hmore, List.count_eq_zero_of_not_mem hseen,
          Members.valuesOf_cons_self, List.getElem?_cons_zero, shownAs, fillFirst_token_self,
          substituteFrom_map_char_append]
      · have hseen' : name ∉ n :: seen := by simp [hseen, Ne.symm heq]
        rw [substituteFrom, fillFirst_token_of_ne heq, substituteFrom, ih hseen',
          Members.valuesOf_cons_of_ne (Ne.symm heq)]

end Substitution

/-! ## One after the other -/

theorem IsOrdered.head {ps : List Part} {name value : String} {rest : List (String × String)}
    (h : IsOrdered ps ((name, value) :: rest)) :
    ∀ other ∈ tokens ps, name.toList <+: other.toList → other = name := by
  intro other hother hpre
  by_contra hne
  have hcount := h 0 (by simp) other hother hpre (Ne.symm hne)
  have hpos := List.count_pos_iff.mpr hother
  simp at hcount
  omega

theorem IsOrdered.tail {ps : List Part} {name value : String} {rest : List (String × String)}
    (h : IsOrdered ps ((name, value) :: rest)) : IsOrdered (fillFirst name value ps) rest := by
  intro i hi longer hlonger hpre hne
  rw [tokens_fillFirst] at hlonger ⊢
  have hcount := h (i + 1) (by simpa using hi) longer (List.mem_of_mem_erase hlonger) hpre hne
  rw [List.take_succ_cons] at hcount
  by_cases heq : name = longer
  · subst heq
    rw [Members.valuesOf_cons_self, List.length_cons] at hcount
    rw [List.count_erase_self]
    omega
  · rw [Members.valuesOf_cons_of_ne heq] at hcount
    rwa [List.count_erase_of_ne (Ne.symm heq)]

/-- **Values one after the other** are values all at once. -/
theorem fillChars_partsText {ps : List Part} (hps : IsReadable ps)
    {values : List (String × String)}
    (hnames : ∀ v ∈ values, ∀ c ∈ v.1.toList, isNameChar c = true)
    (hordered : IsOrdered ps values) :
    fillChars (partsText ps) values = substitute values ps := by
  induction values generalizing ps with
  | nil => rw [substitute, substituteFrom_nil]; rfl
  | cons head rest ih =>
    obtain ⟨name, value⟩ := head
    have hname : ∀ c ∈ name.toList, isNameChar c = true := hnames (name, value) (by simp)
    rw [fillChars_cons, fillOne_partsText hps hname hordered.head,
      ih (hps.fillFirst name value) (fun v hv => hnames v (by simp [hv])) hordered.tail,
      substitute, substitute, substituteFrom_cons (by simp)]

/-- No name of a value starts a longer name of a token. -/
def IsUnambiguous (ps : List Part) (values : List (String × String)) : Prop :=
  ∀ v ∈ values, ∀ name ∈ tokens ps, v.1.toList <+: name.toList → v.1 = name

theorem IsUnambiguous.isOrdered {ps : List Part} {values : List (String × String)}
    (h : IsUnambiguous ps values) : IsOrdered ps values := by
  intro i hi longer hlonger hpre hne
  exact absurd (h values[i] (List.getElem_mem hi) longer hlonger hpre) hne

section Whole

variable {template : String} {values : List (String × String)}
  (hspaced : IsSpaced (parts template.toList))
  (hnames : ∀ v ∈ values, ∀ c ∈ v.1.toList, isNameChar c = true)
include hspaced hnames

theorem toList_fill (hordered : IsOrdered (parts template.toList) values) :
    (fill template values).toList = substitute values (parts template.toList) := by
  have hchars := fillChars_partsText (isReadable_parts hspaced) hnames hordered
  rw [partsText_parts] at hchars
  rw [fill, String.toList_ofList, hchars]

/-- **A template is filled at once**: its `i`-th token of a name gets the `i`-th value of this name,
as long as tokens have got their values before a name that theirs starts with. Where no name starts
another, only the order of the values of each name counts. -/
theorem fill_is_substitution :
    (IsOrdered (parts template.toList) values →
      fill template values = String.ofList (substitute values (parts template.toList))) ∧
    (IsUnambiguous (parts template.toList) values → ∀ others : List (String × String),
      (∀ name, valuesOf name others = valuesOf name values) →
        fill template others = fill template values) := by
  constructor
  · intro hordered
    rw [← toList_fill hspaced hnames hordered, String.ofList_toList]
  · intro hclear others hvalues
    -- both have the same names
    have hmem : ∀ v ∈ others, ∃ w ∈ values, w.1 = v.1 := by
      intro v hv
      have hvalue : v.2 ∈ valuesOf v.1 values := by
        rw [← hvalues]
        exact Members.mem_valuesOf_iff.mpr hv
      exact ⟨_, Members.mem_valuesOf_iff.mp hvalue, rfl⟩
    have hothers : ∀ v ∈ others, ∀ c ∈ v.1.toList, isNameChar c = true := by
      intro v hv
      obtain ⟨w, hw, heq⟩ := hmem v hv
      exact heq ▸ hnames w hw
    have hclear' : IsUnambiguous (parts template.toList) others := by
      intro v hv
      obtain ⟨w, hw, heq⟩ := hmem v hv
      exact heq ▸ hclear w hw
    apply String.toList_injective
    rw [toList_fill hspaced hothers hclear'.isOrdered, toList_fill hspaced hnames hclear.isOrdered]
    exact substituteFrom_congr hvalues [] _

end Whole

/-- The name of a token starts that of another, which is filled first; a value is left over, and a
token. Where names are apart, a value can come earlier. -/
theorem nested_names_are_substituted :
    (IsOrdered (parts "/:id/:idx/:id?:x".toList)
      [("idx", "b/c"), ("id", ":x"), ("id", ""), ("id", "d"), ("no", "1")] ∧
    fill "/:id/:idx/:id?:x" [("idx", "b/c"), ("id", ":x"), ("id", ""), ("id", "d"), ("no", "1")]
      = "/%3Ax/b%2Fc/?:x") ∧
    IsUnambiguous (parts "/:a/:b/:a".toList) [("a", "1"), ("a", "2"), ("b", "3")] ∧
    fill "/:a/:b/:a" [("b", "3"), ("a", "1"), ("a", "2")]
      = fill "/:a/:b/:a" [("a", "1"), ("a", "2"), ("b", "3")] := by
  constructor
  · have hparts : parts "/:id/:idx/:id?:x".toList = [.char '/', .token "id", .char '/',
        .token "idx", .char '/', .token "id", .char '?', .token "x"] := by
      decide +kernel
    have hspaced : IsSpaced (parts "/:id/:idx/:id?:x".toList) := by
      rw [hparts]
      simp [IsSpaced, Part.name?]
    have hordered : IsOrdered (parts "/:id/:idx/:id?:x".toList)
        [("idx", "b/c"), ("id", ":x"), ("id", ""), ("id", "d"), ("no", "1")] := by
      rw [hparts]
      unfold IsOrdered
      decide
    have hnames : ∀ v ∈ [("idx", "b/c"), ("id", ":x"), ("id", ""), ("id", "d"), ("no", "1")],
        ∀ c ∈ v.1.toList, isNameChar c = true := by
      simp [isNameChar, Percent.isAsciiAlnum]
    refine ⟨hordered, ?_⟩
    rw [(fill_is_substitution hspaced hnames).1 hordered, hparts]
    decide
  · have hparts : parts "/:a/:b/:a".toList = [.char '/', .token "a", .char '/', .token "b",
        .char '/', .token "a"] := by
      decide +kernel
    have hspaced : IsSpaced (parts "/:a/:b/:a".toList) := by
      rw [hparts]
      simp [IsSpaced, Part.name?]
    have hclear : IsUnambiguous (parts "/:a/:b/:a".toList)
        [("a", "1"), ("a", "2"), ("b", "3")] := by
      rw [hparts]
      unfold IsUnambiguous
      decide
    have hnames : ∀ v ∈ [("a", "1"), ("a", "2"), ("b", "3")],
        ∀ c ∈ v.1.toList, isNameChar c = true := by
      simp [isNameChar, Percent.isAsciiAlnum]
    refine ⟨hclear, (fill_is_substitution hspaced hnames).2 hclear _ ?_⟩
    intro name
    by_cases hb : "b" = name
    · subst hb
      rfl
    · have hnone : valuesOf name [("b", "3")] = [] := Members.valuesOf_cons_of_ne hb
      rw [Members.valuesOf_cons_of_ne hb]
      by_cases ha : "a" = name
      · subst ha
        rfl
      · simp [Members.valuesOf_cons_of_ne ha, hnone]

end Courier.Template
