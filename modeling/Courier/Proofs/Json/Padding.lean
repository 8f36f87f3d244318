import Mathlib.Data.List.DropRight
import Courier.Json.Value
import Courier.Text.Blank

/-!
# White space around a text

Readers pass over the white space of JSON in front of what they read, and a whole text may end with
it. So a text is read by what stands between.
-/

namespace Courier.Json

/-- The characters that count as white space. -/
def spaces : List Char :=
  [' ', '\t', '\n', '\r']

/-- Some characters with nothing but white space before and behind them. -/
def IsPadded (core : List Char) (s : String) : Prop :=
  ∃ before after : List Char, (∀ c ∈ before, c ∈ spaces) ∧ (∀ c ∈ after, c ∈ spaces) ∧
    s.toList = before ++ core ++ after

/-- The text of `null`. -/
def IsNull (s : String) : Prop :=
  IsPadded ['n', 'u', 'l', 'l'] s

theorem isSpace_iff {c : Utf8.Symbol} : isSpace c = true ↔ ∃ x ∈ spaces, c = some x := by
  simp only [isSpace, spaces, Bool.or_eq_true, decide_eq_true_eq, List.mem_cons, List.not_mem_nil,
    or_false, exists_eq_or_imp, exists_eq_left, or_assoc]

theorem exists_spaces (cs : List Utf8.Symbol) :
    ∃ before : List Char, (∀ c ∈ before, c ∈ spaces) ∧ cs = before.map some ++ skipSpace cs := by
  induction cs with
  | nil => exact ⟨[], List.forall_mem_nil _, rfl⟩
  | cons c cs ih =>
    by_cases hc : isSpace c = true
    · obtain ⟨before, hbefore, hcs⟩ := ih
      obtain ⟨x, hx, rfl⟩ := isSpace_iff.mp hc
      refine ⟨x :: before, List.forall_mem_cons.mpr ⟨hx, hbefore⟩, ?_⟩
      rw [skipSpace, List.dropWhile_cons_of_pos hc, List.map_cons, List.cons_append]
      exact congrArg (some x :: ·) hcs
    · refine ⟨[], List.forall_mem_nil _, ?_⟩
      rw [skipSpace, List.dropWhile_cons_of_neg hc]
      rfl

theorem skipSpace_append {before : List Char} (h : ∀ c ∈ before, c ∈ spaces)
    (rest : List Utf8.Symbol) : skipSpace (before.map some ++ rest) = skipSpace rest := by
  refine List.dropWhile_append_of_pos ?_
  intro c hc
  obtain ⟨x, hx, rfl⟩ := List.mem_map.mp hc
  exact isSpace_iff.mpr ⟨x, h x hx, rfl⟩

theorem skipSpace_cons {c : Char} (h : c ∉ spaces) (rest : List Utf8.Symbol) :
    skipSpace (some c :: rest) = some c :: rest := by
  refine List.dropWhile_cons_of_neg ?_
  rw [isSpace_iff]
  rintro ⟨x, hx, heq⟩
  cases heq
  exact h hx

theorem skipSpace_skipSpace (cs : List Utf8.Symbol) : skipSpace (skipSpace cs) = skipSpace cs :=
  List.dropWhile_idempotent isSpace cs

theorem skipSpace_eq_nil_iff {cs : List Utf8.Symbol} :
    skipSpace cs = [] ↔ ∃ after : List Char, (∀ c ∈ after, c ∈ spaces) ∧ cs = after.map some := by
  constructor
  · intro h
    obtain ⟨after, hafter, hcs⟩ := exists_spaces cs
    rw [h, List.append_nil] at hcs
    exact ⟨after, hafter, hcs⟩
  · rintro ⟨after, hafter, rfl⟩
    rw [← List.append_nil (after.map some), skipSpace_append hafter]
    rfl

/-- **A padded text** is what it is to a reader: the characters are left after the white space at
the front, and nothing but white space is behind them. -/
theorem isPadded_iff {c : Char} (hc : c ∉ spaces) (core : List Char) (s : String) :
    IsPadded (c :: core) s ↔ ∃ left, skipSpace (Utf8.symbolsOf s) = (c :: core).map some ++ left ∧
      skipSpace left = [] := by
  constructor
  · rintro ⟨before, after, hbefore, hafter, hs⟩
    refine ⟨after.map some, ?_, skipSpace_eq_nil_iff.mpr ⟨after, hafter, rfl⟩⟩
    rw [Utf8.symbolsOf, hs, List.map_append, List.map_append, List.append_assoc,
      skipSpace_append hbefore]
    exact skipSpace_cons hc _
  · rintro ⟨left, hskip, hleft⟩
    obtain ⟨before, hbefore, hs⟩ := exists_spaces (Utf8.symbolsOf s)
    obtain ⟨after, hafter, rfl⟩ := skipSpace_eq_nil_iff.mp hleft
    refine ⟨before, after, hbefore, hafter, ?_⟩
    rw [hskip, ← List.map_append, ← List.map_append, ← List.append_assoc] at hs
    exact (List.map_inj_right fun _ _ => Option.some.inj).mp hs

theorem word_eq_ok_iff {ws : List Char} {cs left : List Utf8.Symbol} :
    word ws cs = .ok left ↔ cs = ws.map some ++ left := by
  induction ws generalizing cs with
  | nil => simp [word]
  | cons w ws ih =>
    cases cs with
    | nil => simp [word]
    | cons c cs =>
      by_cases hc : c = some w
      · simp [word, hc, ih]
      · simp [word, hc]

theorem readAll_eq_ok_iff {α : Type} {reader : Reader α} {text : List Utf8.Symbol} {v : α} :
    readAll reader text = .ok v ↔ ∃ left, reader text = .ok (v, left) ∧ skipSpace left = [] := by
  cases hread : reader text with
  | error f => simp [readAll, hread]
  | ok r =>
    obtain ⟨w, left⟩ := r
    cases hskip : skipSpace left with
    | nil =>
      simp only [readAll, hread, hskip, Except.ok.injEq, Prod.mk.injEq]
      constructor
      · rintro rfl
        exact ⟨left, ⟨rfl, rfl⟩, hskip⟩
      · rintro ⟨_, ⟨rfl, -⟩, -⟩
        rfl
    | cons c rest =>
      simp only [readAll, hread, hskip, reduceCtorEq, Except.ok.injEq, Prod.mk.injEq, false_iff,
        not_exists, not_and]
      rintro _ ⟨-, rfl⟩
      rw [hskip]
      exact List.cons_ne_nil _ _

/-! ## The text of `null` -/

theorem isNull_iff {s : String} : IsNull s ↔
    ∃ left, skipSpace (Utf8.symbolsOf s) = some 'n' :: (nullTail.map some ++ left) ∧
      skipSpace left = [] :=
  isPadded_iff (by decide) nullTail s

theorem isNull_null : IsNull "null" :=
  ⟨[], [], List.forall_mem_nil _, List.forall_mem_nil _, by decide⟩

theorem IsNull.not_isBlank {s : String} (h : IsNull s) : Text.isBlank s = false := by
  obtain ⟨before, after, -, -, hs⟩ := h
  have hn : 'n' ∈ s.toList := by simp [hs]
  rw [Text.isBlank, List.all_eq_false]
  exact ⟨'n', hn, by decide⟩

end Courier.Json
