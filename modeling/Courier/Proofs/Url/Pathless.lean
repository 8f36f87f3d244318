import Courier.Proofs.Url.Filling
import Courier.Proofs.Url.Segments
import Courier.Proofs.Url.Written

/-!
# Paths behind a base without one

A base can stop at its authority. What is joined to it is then the whole path, and if the segments
that are joined are in normal form, the path has exactly these.
-/

namespace Courier.Url

/-- A base that stops at its authority, or at slashes behind it. It has no query and no fragment. -/
structure IsPathless (base : String) : Prop where
  unmarked : ∀ c ∈ base.toList, c ≠ '?' ∧ c ≠ '#'
  bare : ∃ scheme rest, readScheme (cleanFront (trimEndSlashes base.toList)) = some (scheme, rest) ∧
    webFront rest ≠ [] ∧ webBack rest = []

/-- A text behind an authority is what stands there. -/
theorem webBack_append {cs ds : List Char} (hds : SlashLed ds) (hfront : webFront cs ≠ [])
    (hback : webBack cs = []) : webBack (cs ++ ds) = ds := by
  have hbody : cs.dropWhile (isSlash true) ≠ [] := by
    intro hnil
    exact hfront (by rw [webFront, hnil]; rfl)
  have hdrop : (cs ++ ds).dropWhile (isSlash true) = cs.dropWhile (isSlash true) ++ ds := by
    rw [List.dropWhile_append, if_neg (by simpa using hbody)]
  rw [webBack] at hback
  rw [webBack, hdrop, dropWhile_append_slashLed rfl _ hds, hback, List.nil_append]

theorem mem_of_mem_cleanFront {cs : List Char} {c : Char} (h : c ∈ cleanFront cs) : c ∈ cs :=
  (List.dropWhile_suffix _).subset (List.mem_of_mem_filter h)

theorem mem_of_mem_trimEndSlashes {cs : List Char} {c : Char} (h : c ∈ trimEndSlashes cs) :
    c ∈ cs := by
  obtain ⟨slashes, -, hsplit⟩ := trimEndSlashes_append cs
  rw [hsplit]
  exact List.mem_append_left slashes h

/-- The characters of a path are visible, and none of them ends it. -/
theorem plain_of_keepInPath {c : Char} (h : keepInPath c = true) :
    isControlOrSpace c = false ∧ c ≠ '?' ∧ c ≠ '#' := by
  simp only [keepInPath, keepInFragment, keepPlain, Percent.isAsciiGraphic, Bool.and_eq_true,
    Bool.not_eq_true', Bool.or_eq_false_iff, decide_eq_true_eq, decide_eq_false_iff_not] at h
  obtain ⟨⟨⟨hlow, -⟩, ⟨⟨⟨hspace, -⟩, -⟩, -⟩, -⟩, ⟨⟨hnumber, hquestion⟩, -⟩, -⟩ := h
  have hne : c.toNat ≠ ' '.toNat := fun heq => hspace (Char.toNat_inj.mp heq)
  have hle : ' '.toNat ≤ c.toNat := hlow
  have hblank : ' '.toNat = 0x20 := rfl
  exact ⟨decide_eq_false (by omega), hquestion, hnumber⟩

/-- The text of a path in normal form. -/
theorem plain_of_isNormal {names : List (List Char)} (h : ∀ n ∈ names, IsNormalSegment n) :
    ∀ c ∈ names.flatMap ('/' :: ·), isControlOrSpace c = false ∧ c ≠ '?' ∧ c ≠ '#' := by
  intro c hc
  obtain ⟨name, hname, hc⟩ := List.mem_flatMap.mp hc
  rcases List.mem_cons.mp hc with rfl | hc
  · decide
  · exact plain_of_keepInPath ((h name hname).kept c hc)

theorem slashLed_flatMap (names : List (List Char)) : SlashLed (names.flatMap ('/' :: ·)) := by
  cases names with
  | nil => exact .inl rfl
  | cons name names => exact .inr ⟨name ++ names.flatMap ('/' :: ·), rfl⟩

/-- Segments are joined to a base as they are written, unless the first of them is empty. -/
theorem toList_join_flatMap (base : String) {url : String} {name : List Char}
    {names : List (List Char)} (hname : name ≠ []) (hslash : ∀ c ∈ name, isSlash true c = false)
    (hurl : url.toList = (name :: names).flatMap ('/' :: ·)) :
    (join base url).toList = trimEndSlashes base.toList ++ (name :: names).flatMap ('/' :: ·) := by
  obtain ⟨c, cs, rfl⟩ := List.exists_cons_of_ne_nil hname
  have hc : c ≠ '/' := by
    rintro rfl
    exact absurd (hslash '/' (by simp)) (by decide)
  rw [join, String.toList_ofList, hurl, List.flatMap_cons, List.cons_append,
    List.dropWhile_cons_of_pos (by simp), List.cons_append,
    List.dropWhile_cons_of_neg (by simpa using hc)]

section Joined

variable {base url : String} {name : List Char} {names : List (List Char)}
  (hbase : IsPathless base) (hne : name ≠ []) (hnormal : ∀ n ∈ name :: names, IsNormalSegment n)
  (hurl : url.toList = (name :: names).flatMap ('/' :: ·))
include hne hnormal hurl

/-- Segments that start with a slash are no URL by themselves. -/
theorem isAbsolute_of_isNormal : isAbsolute url = false := by
  obtain ⟨c, cs, rfl⟩ := List.exists_cons_of_ne_nil hne
  have hc : '/' ≠ c := by
    rintro rfl
    exact absurd ((hnormal ('/' :: cs) (by simp)).noSlash '/' (by simp)) (by decide)
  refine Bool.eq_false_iff.mpr ?_
  rw [Ne, isAbsolute_of_slash hurl, hurl]
  simp [hc]

include hbase

theorem mainOf_join_of_isNormal : mainOf (join base url)
    = cleanFront (trimEndSlashes base.toList) ++ (name :: names).flatMap ('/' :: ·) := by
  have hplain := plain_of_isNormal hnormal
  have hfront : ∀ c ∈ cleanFront (trimEndSlashes base.toList)
      ++ (name :: names).flatMap ('/' :: ·), c ≠ '?' ∧ c ≠ '#' := by
    intro c hc
    rcases List.mem_append.mp hc with hc | hc
    · exact hbase.unmarked c (mem_of_mem_trimEndSlashes (mem_of_mem_cleanFront hc))
    · exact (hplain c hc).2
  have hend : ∀ c, (trimEndSlashes base.toList
      ++ (name :: names).flatMap ('/' :: ·)).getLast? = some c → isControlOrSpace c = false := by
    intro c hc
    rw [List.getLast?_append_of_ne_nil _ (by simp)] at hc
    exact (hplain c (List.mem_of_getLast? hc)).1
  rw [mainOf, toList_join_flatMap base hne (hnormal name (by simp)).noSlash hurl,
    clean_append_visible (slashLed_flatMap _) (fun c hc => (hplain c hc).1) hend]
  have hcut : cut (_ ++ marked '?' none) = _ := cut_marked hfront (by simp)
  rw [marked, List.append_nil] at hcut
  rw [hcut]

/-- **The path of a joined URL** are the segments that were joined. -/
theorem path_join {u : Url} (hparse : parse (join base url) = .ok u)
    (hweb : schemeKind u.scheme = .web) : u.path = .segments (name :: names) := by
  obtain ⟨rest, hscheme, hpath, -⟩ := back_of_parse hparse hweb
  obtain ⟨scheme, common, hcommon, hfront, hback⟩ := hbase.bare
  have hled := slashLed_flatMap (name :: names)
  rw [mainOf_join_of_isNormal hbase hne hnormal hurl, readScheme_append _ hled, hcommon] at hscheme
  cases hscheme
  rw [hpath, webBack_append hled hfront hback, specialPath_of_isNormal (by simp) hnormal]

end Joined

end Courier.Url
