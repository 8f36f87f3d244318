import Mathlib.Data.List.Chain
import Mathlib.Data.List.TakeWhile
import Courier.Proofs.Template

/-!
# Templates in parts

A template is read as characters and tokens: every colon starts a token, and its name goes as far as
letters, digits and `_` do. Putting in a value turns the first token of its name into the characters
of the value, if no other token's name starts with it and no token stands directly before another.
-/

namespace Courier.Template

/-! ## Parts -/

/-- A part of a template: a character of its text, or a token. -/
inductive Part where
  | char (c : Char)
  | token (name : String)
deriving DecidableEq

namespace Part

/-- A part as it is written. -/
def text : Part → List Char
  | char c => [c]
  | token name => ':' :: name.toList

/-- The name of a token. -/
def name? : Part → Option String
  | char _ => none
  | token name => some name

end Part

/-- The characters of names. -/
def isNameChar (c : Char) : Bool :=
  Percent.isAsciiAlnum c || c = '_'

/-- The parts of a template. The name of a token is the longest run of characters of names. -/
def parts : List Char → List Part
  | [] => []
  | c :: cs =>
    if c = ':' then
      .token (String.ofList (cs.takeWhile isNameChar)) :: parts (cs.dropWhile isNameChar)
    else .char c :: parts cs
termination_by cs => cs.length
decreasing_by
  · exact Nat.lt_succ_of_le ((List.dropWhile_sublist _).length_le)
  · exact Nat.lt_succ_self _

/-- The text of parts. -/
def partsText (ps : List Part) : List Char :=
  ps.flatMap Part.text

/-- The names of tokens in order, as often as they stand there. -/
def tokens (ps : List Part) : List String :=
  ps.filterMap Part.name?

/-- No token is directly followed by another. -/
def IsSpaced (ps : List Part) : Prop :=
  ps.IsChain fun p q => p.name? = none ∨ q.name? = none

@[simp] theorem partsText_nil : partsText [] = [] := rfl

@[simp] theorem partsText_cons (p : Part) (ps : List Part) :
    partsText (p :: ps) = p.text ++ partsText ps := rfl

@[simp] theorem partsText_append (ps qs : List Part) :
    partsText (ps ++ qs) = partsText ps ++ partsText qs :=
  List.flatMap_append

@[simp] theorem partsText_map_char (cs : List Char) : partsText (cs.map .char) = cs := by
  induction cs with
  | nil => rfl
  | cons c cs ih => rw [List.map_cons, partsText_cons, ih, Part.text, List.singleton_append]

@[simp] theorem tokens_cons_char (c : Char) (ps : List Part) :
    tokens (.char c :: ps) = tokens ps := rfl

@[simp] theorem tokens_cons_token (name : String) (ps : List Part) :
    tokens (.token name :: ps) = name :: tokens ps := rfl

@[simp] theorem tokens_append (ps qs : List Part) : tokens (ps ++ qs) = tokens ps ++ tokens qs :=
  List.filterMap_append

@[simp] theorem tokens_map_char (cs : List Char) : tokens (cs.map .char) = [] := by
  simp [tokens, List.filterMap_map, Function.comp_def, Part.name?]

/-- Nothing of a template is lost. -/
theorem partsText_parts (cs : List Char) : partsText (parts cs) = cs := by
  fun_induction parts cs with
  | case1 => rfl
  | case2 cs ih =>
    rw [partsText_cons, ih, Part.text, String.toList_ofList, List.cons_append,
      List.takeWhile_append_dropWhile]
  | case3 c cs hc ih => rw [partsText_cons, ih, Part.text, List.singleton_append]

/-- Names are made of the characters of names. -/
theorem isNameChar_of_mem_tokens {cs : List Char} {name : String} (h : name ∈ tokens (parts cs)) :
    ∀ c ∈ name.toList, isNameChar c = true := by
  fun_induction parts cs with
  | case1 => cases h
  | case2 cs ih =>
    rcases List.mem_cons.mp h with rfl | h
    · intro c hc
      rw [String.toList_ofList] at hc
      exact List.mem_takeWhile_imp hc
    · exact ih h
  | case3 c cs hc ih => exact ih h

/-! ## One value -/

/-- Parts whose text is read as these parts: each name ends where its token does. -/
def IsReadable : List Part → Prop
  | [] => True
  | .char c :: rest => c ≠ ':' ∧ IsReadable rest
  | .token name :: rest => (∀ c ∈ name.toList, isNameChar c = true) ∧
      (∀ c ∈ (partsText rest).head?, isNameChar c = false ∧ c ≠ ':') ∧ IsReadable rest

theorem isNameChar_colon : isNameChar ':' = false := by
  decide

theorem colon_not_mem_of_isNameChar {cs : List Char} (h : ∀ c ∈ cs, isNameChar c = true) :
    ':' ∉ cs := by
  intro hmem
  have hcolon := h ':' hmem
  rw [isNameChar_colon] at hcolon
  cases hcolon

theorem isReadable_parts {cs : List Char} (h : IsSpaced (parts cs)) : IsReadable (parts cs) := by
  fun_induction parts cs with
  | case1 => trivial
  | case2 cs ih =>
    obtain ⟨hnext, hrest⟩ := List.isChain_cons.mp h
    refine ⟨?_, ?_, ih hrest⟩
    · rw [String.toList_ofList]
      exact fun c hc => List.mem_takeWhile_imp hc
    · rw [partsText_parts]
      intro c hc
      cases hdrop : cs.dropWhile isNameChar with
      | nil => simp [hdrop] at hc
      | cons d ds =>
        obtain rfl : d = c := by simpa [hdrop] using hc
        refine ⟨?_, ?_⟩
        · have hstop := List.head?_dropWhile_not isNameChar cs
          rw [hdrop] at hstop
          exact hstop
        · -- a colon would be the next token
          rintro rfl
          rw [hdrop, parts, if_pos rfl] at hnext
          rcases hnext _ rfl with hnone | hnone <;> cases hnone
  | case3 c cs hc ih =>
    exact ⟨hc, ih (List.isChain_cons.mp h).2⟩

/-- The parts with the characters of a value in the place of the first token of a name. -/
def fillFirst (name value : String) : List Part → List Part
  | [] => []
  | .char c :: rest => .char c :: fillFirst name value rest
  | .token other :: rest =>
    if other = name then (encoded value).map .char ++ rest
    else .token other :: fillFirst name value rest

theorem fillFirst_token_self (name value : String) (rest : List Part) :
    fillFirst name value (.token name :: rest) = (encoded value).map .char ++ rest := by
  rw [fillFirst, if_pos rfl]

theorem fillFirst_token_of_ne {name other : String} (h : other ≠ name) (value : String)
    (rest : List Part) :
    fillFirst name value (.token other :: rest) = .token other :: fillFirst name value rest := by
  rw [fillFirst, if_neg h]

theorem tokens_fillFirst (name value : String) (ps : List Part) :
    tokens (fillFirst name value ps) = (tokens ps).erase name := by
  induction ps with
  | nil => rfl
  | cons p ps ih =>
    cases p with
    | char c => exact ih
    | token other =>
      by_cases h : other = name
      · subst h
        rw [fillFirst_token_self, tokens_append, tokens_map_char, tokens_cons_token,
          List.erase_cons_head, List.nil_append]
      · rw [fillFirst_token_of_ne h, tokens_cons_token, tokens_cons_token, ih,
          List.erase_cons_tail (by simpa using h)]

/-- A text that does not start with a token keeps its front. -/
theorem head?_partsText_fillFirst {ps : List Part} (h : (partsText ps).head? ≠ some ':')
    (name value : String) :
    (partsText (fillFirst name value ps)).head? = (partsText ps).head? := by
  cases ps with
  | nil => rfl
  | cons p ps =>
    cases p with
    | char c => rfl
    | token other => exact absurd rfl h

theorem isReadable_map_char_append {cs : List Char} (h : ':' ∉ cs) {ps : List Part}
    (hps : IsReadable ps) : IsReadable (cs.map .char ++ ps) := by
  induction cs with
  | nil => exact hps
  | cons c cs ih =>
    obtain ⟨hc, hcs⟩ := List.ne_and_not_mem_of_not_mem_cons h
    exact ⟨hc.symm, ih hcs⟩

theorem IsReadable.fillFirst {ps : List Part} (h : IsReadable ps) (name value : String) :
    IsReadable (fillFirst name value ps) := by
  induction ps with
  | nil => trivial
  | cons p ps ih =>
    cases p with
    | char c => exact ⟨h.1, ih h.2⟩
    | token other =>
      obtain ⟨hname, hnext, hrest⟩ := h
      by_cases heq : other = name
      · subst heq
        rw [fillFirst_token_self]
        exact isReadable_map_char_append (colon_not_mem_encoded value) hrest
      · rw [fillFirst_token_of_ne heq]
        refine ⟨hname, ?_, ih hrest⟩
        rw [head?_partsText_fillFirst (fun hcolon => (hnext _ hcolon).2 rfl)]
        exact hnext

/-- **One value** goes into the first token of its name, unless the name of another token starts
with it. -/
theorem fillOne_partsText {ps : List Part} (hps : IsReadable ps) {name : String}
    (hname : ∀ c ∈ name.toList, isNameChar c = true)
    (hapart : ∀ other ∈ tokens ps, name.toList <+: other.toList → other = name) (value : String) :
    fillOne (partsText ps) name value = partsText (fillFirst name value ps) := by
  rw [fillOne_eq]
  induction ps with
  | nil => rfl
  | cons p ps ih =>
    cases p with
    | char c =>
      rw [partsText_cons, Part.text, List.singleton_append, replaceFirst_cons_of_ne hps.1.symm,
        ih hps.2 hapart]
      rfl
    | token other =>
      obtain ⟨hother, hnext, hrest⟩ := hps
      rw [partsText_cons, Part.text]
      by_cases heq : other = name
      · subst heq
        rw [replaceFirst_self, fillFirst_token_self, partsText_append, partsText_map_char]
      · have hnone : ¬ ':' :: name.toList <+: ':' :: (other.toList ++ partsText ps) := by
          intro hpre
          have hpre := (List.cons_prefix_cons.mp hpre).2
          rcases List.prefix_or_prefix_of_prefix hpre (List.prefix_append _ _) with hshort | hlong
          · exact heq (hapart other (by simp) hshort)
          · -- the name would go on behind the end of the token
            obtain ⟨more, hmore⟩ := hlong
            rw [← hmore, List.prefix_append_right_inj] at hpre
            cases more with
            | nil => exact heq (String.toList_injective (by simpa using hmore))
            | cons c more =>
              obtain ⟨tail, htail⟩ := hpre
              have hc : c ∈ (partsText ps).head? := by simp [← htail]
              have hin : isNameChar c = true := hname c (by simp [← hmore])
              rw [(hnext c hc).1] at hin
              cases hin
        have hcolon := colon_not_mem_of_isNameChar hother
        have hmore := ih hrest fun n hn => hapart n (by simp [hn])
        rw [List.cons_append, replaceFirst_of_not_startsWith _ hnone,
          replaceFirst_append_of_not_mem hcolon, hmore, fillFirst_token_of_ne heq, partsText_cons,
          Part.text, List.cons_append]

end Courier.Template
