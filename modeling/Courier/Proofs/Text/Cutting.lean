import Courier.Url.Ipv4

/-!
# Cutting texts

A text that was put together from parts without a mark, and the mark, is cut at the mark into its
parts.
-/

namespace Courier

section Boundary

variable {α : Type} {p : α → Bool} {cs ds : List α} (hcs : ∀ c ∈ cs, p c = true)
  (hds : ∀ c, ds.head? = some c → p c = false)
include hcs hds

/-- A front in a class is taken if nothing, or something outside of the class, is behind it. -/
theorem takeWhile_of_boundary : (cs ++ ds).takeWhile p = cs := by
  induction cs with
  | nil =>
    cases ds with
    | nil => rfl
    | cons d ds => rw [List.nil_append, List.takeWhile_cons, hds d rfl]; rfl
  | cons c cs ih =>
    rw [List.cons_append, List.takeWhile_cons, if_pos (hcs c (by simp)),
      ih fun d hd => hcs d (by simp [hd])]

@[inherit_doc takeWhile_of_boundary]
theorem dropWhile_of_boundary : (cs ++ ds).dropWhile p = ds := by
  have hsplit := List.takeWhile_append_dropWhile (p := p) (l := cs ++ ds)
  rw [takeWhile_of_boundary hcs hds] at hsplit
  exact List.append_cancel_left hsplit

end Boundary

namespace Url

variable {isSeparator : Char → Bool}

theorem exists_splitAll_eq (isSeparator : Char → Bool) (cs : List Char) :
    ∃ piece more, splitAll isSeparator cs = piece :: more := by
  cases cs with
  | nil => exact ⟨[], [], rfl⟩
  | cons c cs =>
    rw [splitAll]
    split
    · exact ⟨_, _, rfl⟩
    · split
      · exact ⟨_, _, rfl⟩
      · exact ⟨_, _, rfl⟩

theorem splitAll_cons_of_separator {c : Char} (hc : isSeparator c = true) (cs : List Char) :
    splitAll isSeparator (c :: cs) = [] :: splitAll isSeparator cs := by
  rw [splitAll, if_pos hc]

theorem splitAll_cons_of_not {c : Char} (hc : isSeparator c = false) {cs piece : List Char}
    {more : List (List Char)} (h : splitAll isSeparator cs = piece :: more) :
    splitAll isSeparator (c :: cs) = (c :: piece) :: more := by
  rw [splitAll, hc, h]
  rfl

/-- A text without separators is one piece. -/
theorem splitAll_of_none {piece : List Char} (h : ∀ c ∈ piece, isSeparator c = false) :
    splitAll isSeparator piece = [piece] := by
  induction piece with
  | nil => rfl
  | cons c piece ih =>
    exact splitAll_cons_of_not (h c (by simp)) (ih fun d hd => h d (by simp [hd]))

/-- A text is cut on both sides of a separator apart. -/
theorem splitAll_append {c : Char} (hc : isSeparator c = true) (cs ds : List Char) :
    splitAll isSeparator (cs ++ c :: ds)
      = splitAll isSeparator cs ++ splitAll isSeparator ds := by
  induction cs with
  | nil => exact splitAll_cons_of_separator hc ds
  | cons d cs ih =>
    rw [List.cons_append]
    cases hd : isSeparator d with
    | true =>
      rw [splitAll_cons_of_separator hd, splitAll_cons_of_separator hd, ih, List.cons_append]
    | false =>
      obtain ⟨piece, more, hcs⟩ := exists_splitAll_eq isSeparator cs
      rw [hcs, List.cons_append] at ih
      rw [splitAll_cons_of_not hd hcs, splitAll_cons_of_not hd ih, List.cons_append]

/-- No piece has a separator. -/
theorem of_mem_splitAll {cs piece : List Char} (h : piece ∈ splitAll isSeparator cs) :
    ∀ c ∈ piece, isSeparator c = false := by
  induction cs generalizing piece with
  | nil =>
    rw [splitAll, List.mem_singleton] at h
    rw [h]
    simp
  | cons d cs ih =>
    cases hd : isSeparator d with
    | true =>
      rw [splitAll_cons_of_separator hd] at h
      rcases List.mem_cons.mp h with rfl | h
      · simp
      · exact ih h
    | false =>
      obtain ⟨first, more, hcs⟩ := exists_splitAll_eq isSeparator cs
      rw [splitAll_cons_of_not hd hcs] at h
      rw [hcs] at ih
      rcases List.mem_cons.mp h with rfl | h
      · intro c hc
        rcases List.mem_cons.mp hc with rfl | hc
        · exact hd
        · exact ih (by simp) c hc
      · exact ih (by simp [h])

/-- Texts with a mark before each of them are cut at these marks. -/
theorem splitAll_flatMap {mark : Char} (hmark : isSeparator mark = true) {piece : List Char}
    {pieces : List (List Char)} (h : ∀ n ∈ piece :: pieces, ∀ c ∈ n, isSeparator c = false) :
    splitAll isSeparator (piece ++ pieces.flatMap (mark :: ·)) = piece :: pieces := by
  induction pieces generalizing piece with
  | nil =>
    rw [List.flatMap_nil, List.append_nil]
    exact splitAll_of_none (h piece (by simp))
  | cons next pieces ih =>
    rw [List.flatMap_cons, List.cons_append, splitAll_append hmark,
      splitAll_of_none (h piece (by simp)), ih (fun n hn => h n (by simp [hn])),
      List.singleton_append]

end Url

end Courier
