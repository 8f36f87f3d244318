import Mathlib.Data.List.Perm.Basic
import Courier.Proofs.Template

/-!
# Templates of whole segments

A template whose tokens are whole segments is filled segment by segment: putting in a value turns
its token into a text and leaves all other segments alone. This needs that no token's name starts
with another's, since a token is found by its first letters.
-/

namespace Courier.Template

/-- A segment of a template: a text, or a token. -/
inductive Segment where
  | literal (text : List Char)
  | token (name : String)
deriving DecidableEq

namespace Segment

/-- A segment as it is written. -/
def text : Segment → List Char
  | literal text => text
  | token name => ':' :: name.toList

/-- The segment with a value in the place of the token of a name. -/
def fill (name value : String) : Segment → Segment
  | literal text => literal text
  | token other => if other = name then literal (encoded value) else token other

/-- Neither slashes nor colons besides the mark of a token. -/
def IsWhole : Segment → Prop
  | literal text => '/' ∉ text ∧ ':' ∉ text
  | token name => '/' ∉ name.toList ∧ ':' ∉ name.toList

/-- The name of a token. -/
def name? : Segment → Option String
  | literal _ => none
  | token name => some name

theorem IsWhole.fill {segment : Segment} (h : segment.IsWhole) (name value : String) :
    (segment.fill name value).IsWhole := by
  cases segment with
  | literal text => exact h
  | token other =>
    rw [Segment.fill]
    split
    · exact ⟨slash_not_mem_encoded value, colon_not_mem_encoded value⟩
    · exact h

end Segment

/-- The text of segments, with a slash before each of them. -/
def textOf (segments : List Segment) : List Char :=
  segments.flatMap fun segment => '/' :: segment.text

/-- The names of the tokens. -/
def names (segments : List Segment) : List String :=
  segments.filterMap Segment.name?

theorem textOf_cons (segment : Segment) (segments : List Segment) :
    textOf (segment :: segments) = '/' :: (segment.text ++ textOf segments) := rfl

@[simp] theorem names_cons_literal (text : List Char) (segments : List Segment) :
    names (.literal text :: segments) = names segments := rfl

@[simp] theorem names_cons_token (name : String) (segments : List Segment) :
    names (.token name :: segments) = name :: names segments := rfl

theorem fill_token_of_ne {name other : String} (h : other ≠ name) (value : String) :
    (Segment.token other).fill name value = .token other := by
  rw [Segment.fill, if_neg h]

theorem fill_token_self (name value : String) :
    (Segment.token name).fill name value = .literal (encoded value) := by
  rw [Segment.fill, if_pos rfl]

theorem names_map_fill (name value : String) (segments : List Segment) :
    names (segments.map (Segment.fill name value)) = (names segments).filter (· ≠ name) := by
  induction segments with
  | nil => rfl
  | cons segment segments ih =>
    rw [List.map_cons]
    cases segment with
    | literal text => exact ih
    | token other =>
      by_cases h : other = name
      · subst h
        rw [fill_token_self, names_cons_literal, ih]
        simp
      · rw [fill_token_of_ne h, names_cons_token, ih]
        simp [h]

theorem map_fill_of_not_mem {name : String} (value : String) {segments : List Segment}
    (h : name ∉ names segments) : segments.map (Segment.fill name value) = segments := by
  induction segments with
  | nil => rfl
  | cons segment segments ih =>
    rw [List.map_cons]
    cases segment with
    | literal text => exact congrArg (Segment.literal text :: ·) (ih h)
    | token other =>
      obtain ⟨hother, hrest⟩ := List.ne_and_not_mem_of_not_mem_cons h
      rw [fill_token_of_ne hother.symm, ih hrest]

/-! ## One value -/

/-- A name without slashes that starts a segment and what follows it starts the segment. -/
theorem prefix_of_prefix_append_textOf {name text : List Char} (hslash : '/' ∉ name)
    {segments : List Segment} (h : name <+: text ++ textOf segments) : name <+: text := by
  rcases List.prefix_or_prefix_of_prefix h (List.prefix_append text _) with hshort | ⟨more, rfl⟩
  · exact hshort
  · have hmore : more <+: textOf segments := (List.prefix_append_right_inj text).mp h
    cases more with
    | nil => simp
    | cons c more =>
      cases segments with
      | nil => cases List.prefix_nil.mp hmore
      | cons segment segments =>
        obtain ⟨rfl, -⟩ := List.cons_prefix_cons.mp hmore
        exact absurd (by simp) hslash

/-- A name that can be told from the names of all tokens by its first letters. -/
def IsApartFrom (name : String) (segments : List Segment) : Prop :=
  '/' ∉ name.toList ∧ ∀ other ∈ names segments, name.toList <+: other.toList → other = name

/-- **One value** goes into the token of its name and nowhere else. -/
theorem fillOne_textOf {segments : List Segment} (hwhole : ∀ s ∈ segments, s.IsWhole)
    (hnodup : (names segments).Nodup) {name : String} (hapart : IsApartFrom name segments)
    (value : String) :
    fillOne (textOf segments) name value = textOf (segments.map (Segment.fill name value)) := by
  obtain ⟨hslash, hother⟩ := hapart
  rw [fillOne_eq]
  induction segments with
  | nil => rfl
  | cons segment segments ih =>
    have hrest : ∀ s ∈ segments, s.IsWhole := fun s hs => hwhole s (by simp [hs])
    have hsegment := hwhole segment (by simp)
    rw [List.map_cons, textOf_cons, textOf_cons, replaceFirst_cons_of_ne (by decide)]
    cases segment with
    | literal text =>
      have hcolon : ':' ∉ text := hsegment.2
      rw [Segment.text, Segment.fill, Segment.text, replaceFirst_append_of_not_mem hcolon,
        ih hrest hnodup hother]
    | token other =>
      obtain ⟨hfirst, hnodup⟩ := List.nodup_cons.mp hnodup
      by_cases heq : other = name
      · -- the token itself: it is replaced, and there is no other one
        subst heq
        rw [fill_token_self, map_fill_of_not_mem value hfirst, Segment.text, Segment.text,
          replaceFirst_self]
      · -- another token: the one that is looked for does not begin inside
        have hcolon : ':' ∉ other.toList := hsegment.2
        have hnone : ¬ ':' :: name.toList <+: ':' :: (other.toList ++ textOf segments) := by
          intro hpre
          have hname : name.toList <+: other.toList :=
            prefix_of_prefix_append_textOf hslash (List.cons_prefix_cons.mp hpre).2
          exact heq (hother other (by simp) hname)
        rw [fill_token_of_ne heq, Segment.text, List.cons_append,
          replaceFirst_of_not_startsWith _ hnone, replaceFirst_append_of_not_mem hcolon,
          ih hrest hnodup (fun n hn => hother n (by simp [hn])), List.cons_append]

/-! ## All values -/

/-- The segment with values in the place of the tokens of their names. -/
def Segment.fillAll (values : List (String × String)) (segment : Segment) : Segment :=
  values.foldl (fun segment (name, value) => segment.fill name value) segment

theorem IsApartFrom.map_fill {name : String} {segments : List Segment}
    (h : IsApartFrom name segments) (other value : String) :
    IsApartFrom name (segments.map (Segment.fill other value)) := by
  refine ⟨h.1, ?_⟩
  intro n hn
  rw [names_map_fill] at hn
  exact h.2 n (List.mem_of_mem_filter hn)

/-- **All values** go into the tokens of their names, one after the other. -/
theorem fillChars_textOf {segments : List Segment} (hwhole : ∀ s ∈ segments, s.IsWhole)
    (hnodup : (names segments).Nodup) {values : List (String × String)}
    (hapart : ∀ v ∈ values, IsApartFrom v.1 segments) :
    fillChars (textOf segments) values = textOf (segments.map (Segment.fillAll values)) := by
  -- each value leaves segments for which all this holds again
  induction values generalizing segments with
  | nil =>
    have hid : segments.map (Segment.fillAll []) = segments := List.map_id segments
    rw [hid]
    rfl
  | cons head rest ih =>
    obtain ⟨name, value⟩ := head
    have hname : IsApartFrom name segments := hapart (name, value) (by simp)
    rw [fillChars_cons, fillOne_textOf hwhole hnodup hname, ih]
    · rw [List.map_map]
      rfl
    · intro s hs
      obtain ⟨t, ht, rfl⟩ := List.mem_map.mp hs
      exact (hwhole t ht).fill name value
    · rw [names_map_fill]
      exact hnodup.filter _
    · intro v hv
      exact (hapart v (by simp [hv])).map_fill name value

@[simp] theorem Segment.fillAll_literal (values : List (String × String)) (text : List Char) :
    (literal text).fillAll values = literal text := by
  induction values with
  | nil => rfl
  | cons head rest ih => exact ih

/-- The value of a name takes the place of its token. -/
theorem Segment.fillAll_token {values : List (String × String)} (hnodup : (values.map (·.1)).Nodup)
    {name value : String} (h : (name, value) ∈ values) :
    (token name).fillAll values = literal (encoded value) := by
  induction values with
  | nil => cases h
  | cons head rest ih =>
    obtain ⟨n, v⟩ := head
    obtain ⟨hn, hrest⟩ := List.nodup_cons.mp hnodup
    show ((token name).fill n v).fillAll rest = _
    rcases List.mem_cons.mp h with heq | hmem
    · cases heq
      rw [fill_token_self, fillAll_literal]
    · have hne : name ≠ n := by
        rintro rfl
        exact hn (List.mem_map.mpr ⟨(name, value), hmem, rfl⟩)
      rw [fill_token_of_ne hne, ih hrest hmem]

end Courier.Template
