import Courier.Proofs.Text.Cutting
import Courier.Proofs.Url.Joining

/-!
# What a URL stands for behind a base

A URL that needs no base stands for itself, and the empty one for the base. Any other is put behind
the base with exactly one slash between them, however many there were. This is said here by cases,
and the function that resolves URLs is shown to find just that.
-/

namespace Courier.Url

/-- A text that needs no base: it starts with two slashes, or it is read as a URL with a host. -/
def StandsAlone (url : String) : Prop :=
  ['/', '/'] <+: url.toList ∨ ∃ u, parse url = .ok u ∧ u.hasHost = true

/-- `Behind base url whole`: behind this base, if there is one, `url` stands for `whole`. -/
inductive Behind : Option String → String → String → Prop
  | baseless (url : String) : Behind none url url
  | alone {base url : String} (alone : StandsAlone url) : Behind (some base) url url
  | empty (base : String) : Behind (some base) "" base
  | joined {base url : String} {front back : List Char} {m n : Nat}
      (relative : ¬ StandsAlone url) (nonempty : url ≠ "")
      (base_eq : base.toList = front ++ List.replicate m '/') (front_end : front.getLast? ≠ some '/')
      (url_eq : url.toList = List.replicate n '/' ++ back) (back_start : back.head? ≠ some '/') :
      Behind (some base) url (String.ofList (front ++ '/' :: back))

theorem isAbsolute_iff_standsAlone {url : String} :
    isAbsolute url = true ↔ StandsAlone url := by
  rw [isAbsolute, Bool.or_eq_true, List.isPrefixOf_iff_prefix, StandsAlone]
  refine or_congr_right ?_
  cases parse url with
  | ok u => simp
  | error e => simp

theorem isAbsolute_empty : isAbsolute "" = false := rfl

/-! ## Slashes at either end -/

theorem dropWhile_slashes {back : List Char} (h : back.head? ≠ some '/') (n : Nat) :
    (List.replicate n '/' ++ back).dropWhile (· = '/') = back := by
  refine dropWhile_of_boundary ?_ ?_
  · intro c hc
    exact decide_eq_true (List.eq_of_mem_replicate hc)
  · rintro c hc
    refine decide_eq_false ?_
    rintro rfl
    exact h hc

theorem trimEndSlashes_slashes {front : List Char} (h : front.getLast? ≠ some '/') (m : Nat) :
    trimEndSlashes (front ++ List.replicate m '/') = front := by
  rw [← List.head?_reverse] at h
  rw [trimEndSlashes, List.reverse_append, List.reverse_replicate, dropWhile_slashes h,
    List.reverse_reverse]

/-- Any text is slashes and something that does not start with one. -/
theorem exists_slashes_append (cs : List Char) :
    ∃ n back, cs = List.replicate n '/' ++ back ∧ back.head? ≠ some '/' := by
  induction cs with
  | nil => exact ⟨0, [], rfl, by simp⟩
  | cons c cs ih =>
    by_cases hc : c = '/'
    · obtain ⟨n, back, rfl, hback⟩ := ih
      exact ⟨n + 1, back, by rw [hc, List.replicate_succ, List.cons_append], hback⟩
    · exact ⟨0, c :: cs, rfl, by simpa using hc⟩

/-- Any text is something that does not end with a slash, and slashes. -/
theorem exists_append_slashes (cs : List Char) :
    ∃ front m, cs = front ++ List.replicate m '/' ∧ front.getLast? ≠ some '/' := by
  obtain ⟨m, back, hcs, hback⟩ := exists_slashes_append cs.reverse
  refine ⟨back.reverse, m, ?_, by rwa [List.getLast?_reverse]⟩
  rw [← List.reverse_reverse cs, hcs, List.reverse_append, List.reverse_replicate]

/-! ## Resolving finds what is meant -/

theorem Behind.eq_resolve {base : Option String} {url whole : String} (h : Behind base url whole) :
    whole = resolve base url := by
  cases h with
  | baseless => rfl
  | alone halone => exact (resolve_of_isAbsolute (isAbsolute_iff_standsAlone.mpr halone) _).symm
  | empty => exact (resolve_of_not_isAbsolute isAbsolute_empty _).symm
  | joined relative nonempty base_eq front_end url_eq back_start =>
    have habsolute := Bool.eq_false_iff.mpr (mt isAbsolute_iff_standsAlone.mp relative)
    have hsome : ¬ url.isEmpty = true := by rwa [String.isEmpty_iff]
    rw [resolve_of_not_isAbsolute habsolute, if_neg hsome, join, base_eq, url_eq,
      trimEndSlashes_slashes front_end, dropWhile_slashes back_start]

/-- **Every URL stands for something** behind any base, and resolving it finds that. -/
theorem behind_resolve (base : Option String) (url : String) :
    Behind base url (resolve base url) := by
  have hexists : ∃ whole, Behind base url whole := by
    cases base with
    | none => exact ⟨_, .baseless url⟩
    | some base =>
      by_cases halone : StandsAlone url
      · exact ⟨_, .alone halone⟩
      · by_cases hempty : url = ""
        · exact ⟨base, hempty ▸ .empty base⟩
        · obtain ⟨front, m, hbase, hfront⟩ := exists_append_slashes base.toList
          obtain ⟨n, back, hurl, hback⟩ := exists_slashes_append url.toList
          exact ⟨_, .joined halone hempty hbase hfront hurl hback⟩
  obtain ⟨whole, hwhole⟩ := hexists
  rwa [← hwhole.eq_resolve]

end Courier.Url
