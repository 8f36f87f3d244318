import Courier.Proofs.Json.Containers

/-!
# Values are read as they are written

A value without floating-point numbers is given back by its text as long as no more containers are
nested in it than the reader opens. If there are more, its text is no JSON to the reader, which then
takes it for a string.
-/

namespace Courier.Json

/-- Values that a text shows exactly: all their numbers are integers, and no object repeats a
name. -/
inductive IsExact : Json → Prop
  | null : IsExact .null
  | bool (b : Bool) : IsExact (.bool b)
  | integer (n : JsonInteger) : IsExact (.number (.integer n))
  | string (s : String) : IsExact (.string s)
  | array {items : List Json} (parts : ∀ v ∈ items, IsExact v) : IsExact (.array items)
  | object {members : List (String × Json)} (names : (members.map (·.1)).Nodup)
      (parts : ∀ m ∈ members, IsExact m.2) : IsExact (.object members)

mutual

/-- How many containers are nested in a value. -/
def depth : Json → Nat
  | .array items => itemsDepth items + 1
  | .object members => membersDepth members + 1
  | _ => 0

/-- How many containers are nested in one of the items. -/
def itemsDepth : List Json → Nat
  | [] => 0
  | item :: rest => max (depth item) (itemsDepth rest)

/-- How many containers are nested in one of the members. -/
def membersDepth : List (String × Json) → Nat
  | [] => 0
  | (_, value) :: rest => max (depth value) (membersDepth rest)

end

theorem itemsDepth_le_iff {items : List Json} {d : Nat} :
    itemsDepth items ≤ d ↔ ∀ v ∈ items, v.depth ≤ d := by
  induction items with
  | nil => simp [itemsDepth]
  | cons v items ih => rw [itemsDepth, Nat.max_le, ih, List.forall_mem_cons]

theorem membersDepth_le_iff {members : List (String × Json)} {d : Nat} :
    membersDepth members ≤ d ↔ ∀ m ∈ members, m.2.depth ≤ d := by
  induction members with
  | nil => simp [membersDepth]
  | cons head members ih =>
    obtain ⟨name, v⟩ := head
    rw [membersDepth, Nat.max_le, ih, List.forall_mem_cons]

/-! ## The first character -/

theorem isBlankChar_of_isDigit {c : Char} (h : isDigit c = true) : Text.isBlankChar c = false := by
  simp only [isDigit, Bool.and_eq_true, decide_eq_true_eq] at h
  have hlow : '0'.toNat ≤ c.toNat := h.1
  have hhigh : c.toNat ≤ '9'.toNat := h.2
  have hzero : '0'.toNat = 0x30 := rfl
  have hnine : '9'.toNat = 0x39 := rfl
  simp only [Text.isBlankChar, Bool.or_eq_false_iff, Bool.and_eq_false_iff, beq_eq_false_iff_ne,
    decide_eq_false_iff_not]
  omega

/-- The first character of an integer. -/
theorem exists_integerText (n : Int) :
    ∃ c more, integerText n = c :: more ∧ (c = '-' ∨ isDigit c = true) := by
  unfold integerText
  split
  · exact ⟨'-', _, rfl, .inl rfl⟩
  · obtain ⟨first, more, hdigits, -, -⟩ := exists_toDigits n.natAbs
    refine ⟨first, more, hdigits, .inr (isDigit_of_mem_toDigits (n := n.natAbs) ?_)⟩
    rw [hdigits]
    exact List.mem_cons_self

theorem IsExact.isStarted {v : Json} (h : IsExact v) : IsStarted v.chars := by
  cases h with
  | null => exact ⟨'n', _, rfl, by decide, by decide⟩
  | bool b =>
    cases b with
    | false => exact ⟨'f', _, rfl, by decide, by decide⟩
    | true => exact ⟨'t', _, rfl, by decide, by decide⟩
  | integer n =>
    obtain ⟨c, more, htext, rfl | hdigit⟩ := exists_integerText n.value
    · exact ⟨'-', more, htext, by decide, by decide⟩
    · refine ⟨c, more, htext, isBlankChar_of_isDigit hdigit, ?_⟩
      rintro rfl
      exact absurd hdigit (by decide)
  | string s => exact ⟨'"', _, rfl, by decide, by decide⟩
  | array parts => exact ⟨'[', _, rfl, by decide, by decide⟩
  | object names parts => exact ⟨'\x7b', _, rfl, by decide, by decide⟩

/-! ## Values -/

section Readers

variable (list : Reader (List Json)) (object : Reader (List (String × Json)))
  (rest : List Utf8.Symbol)

theorem valueWith_quote : valueWith list object (some '"' :: rest)
    = (literal rest).map fun (s, left) => (.string s, left) := rfl

/-- A text that starts with a sign or a digit is read as a number. -/
theorem valueWith_number {c : Char} (h : c = '-' ∨ isDigit c = true) :
    valueWith list object (some c :: rest)
      = (numeral (some c :: rest)).map fun (n, left) => (.number n, left) := by
  have hblank : Text.isBlankChar c = false := by
    rcases h with rfl | h
    · decide
    · exact isBlankChar_of_isDigit h
  have hnone : ∀ d : Char, ¬ (d = '-' ∨ isDigit d = true) → c ≠ d := by
    rintro d hd rfl
    exact hd h
  unfold valueWith
  rw [skipSpace_of_isBlankChar hblank]
  split
  · next heq => cases heq
  · next heq => exact absurd (Option.some.inj (List.cons.inj heq).1) (hnone 'n' (by decide))
  · next heq => exact absurd (Option.some.inj (List.cons.inj heq).1) (hnone 't' (by decide))
  · next heq => exact absurd (Option.some.inj (List.cons.inj heq).1) (hnone 'f' (by decide))
  · next heq => exact absurd (Option.some.inj (List.cons.inj heq).1) (hnone '"' (by decide))
  · next heq => exact absurd (Option.some.inj (List.cons.inj heq).1) (hnone '[' (by decide))
  · next heq => exact absurd (Option.some.inj (List.cons.inj heq).1) (hnone '\x7b' (by decide))
  · next heq =>
    cases heq
    exact if_pos (by simpa [isDigitSymbol] using h)

end Readers

/-- A value that is no container is read whatever the readers of containers are. -/
theorem value_scalar {v : Json} (h : IsExact v) (hdepth : v.depth = 0) (d : Nat)
    {rest : List Utf8.Symbol} (hrest : IsBoundary rest) :
    value d (v.chars.map some ++ rest) = .ok (v, rest) := by
  obtain ⟨list, object, hvalue⟩ : ∃ list object, value d = valueWith list object := by
    cases d with
    | zero => exact ⟨_, _, rfl⟩
    | succ d => exact ⟨_, _, rfl⟩
  rw [hvalue]
  cases h with
  | null => rfl
  | bool b =>
    cases b with
    | false => rfl
    | true => rfl
  | integer n =>
    obtain ⟨c, more, htext, hc⟩ := exists_integerText n.value
    have hread := numeral_integerText n hrest
    have hchars : chars (.number (.integer n)) = c :: more := htext
    rw [htext, List.map_cons, List.cons_append] at hread
    rw [hchars, List.map_cons, List.cons_append, valueWith_number list object _ hc, hread]
    rfl
  | string s =>
    have hread := literal_stringText s rest
    have hchars : (chars (.string s)).map some ++ rest
        = some '"' :: ((s.toList.flatMap charText).map some ++ some '"' :: rest) := by
      simp [chars, stringText]
    rw [hchars, valueWith_quote, hread]
    rfl
  | array parts => simp [depth] at hdepth
  | object names parts => simp [depth] at hdepth

/-- **A value** is given back by its text if it is nested no deeper than the reader goes. -/
theorem value_chars {v : Json} (h : IsExact v) (d : Nat) :
    Reads (value d) (v.depth ≤ d) v.chars v := by
  induction h generalizing d with
  | null => exact fun rest hrest => gives_of_eq (Nat.zero_le d) (value_scalar .null rfl d hrest)
  | bool b =>
    exact fun rest hrest => gives_of_eq (Nat.zero_le d) (value_scalar (.bool b) rfl d hrest)
  | integer n =>
    exact fun rest hrest => gives_of_eq (Nat.zero_le d) (value_scalar (.integer n) rfl d hrest)
  | string s =>
    exact fun rest hrest => gives_of_eq (Nat.zero_le d) (value_scalar (.string s) rfl d hrest)
  | @array items parts ih =>
    intro rest hrest
    cases d with
    -- no container may be opened any more
    | zero => exact ⟨fun hle => absurd hle (by simp [depth]), fun _ => ⟨_, rfl⟩⟩
    | succ d =>
      have hlist := listOf_chars (fun v hv => (parts v hv).isStarted) (fun v hv => ih v hv d)
        rest hrest
      rw [depth, Nat.succ_le_succ_iff, itemsDepth_le_iff]
      exact hlist.map Json.array
  | @object members names parts ih =>
    intro rest hrest
    cases d with
    | zero => exact ⟨fun hle => absurd hle (by simp [depth]), fun _ => ⟨_, rfl⟩⟩
    | succ d =>
      have hobject := objectOf_chars (depth · ≤ d) (fun m hm => ih m hm d) names rest hrest
      rw [depth, Nat.succ_le_succ_iff, membersDepth_le_iff]
      exact hobject.map Json.object

/-! ## Texts -/

theorem symbolsOf_text (v : Json) : Utf8.symbolsOf v.text = v.chars.map some ++ [] := by
  rw [Utf8.symbolsOf, text, String.toList_ofList, List.append_nil]

/-- **A written text** is read back if at most 127 containers are nested in the value; else it stays
a text. -/
theorem parseOrString_text {v : Json} (h : IsExact v) :
    parseOrString v.text = if v.depth ≤ 127 then v else .string v.text := by
  have hread := value_chars h depthLimit [] (.inl rfl)
  rw [← symbolsOf_text] at hread
  by_cases hdepth : v.depth ≤ 127
  · rw [if_pos hdepth, parseOrString, parse, readAll, hread.1 hdepth]
    rfl
  · obtain ⟨f, hf⟩ := hread.2 hdepth
    rw [if_neg hdepth, parseOrString, parse, readAll, hf]

/-- Values that are written alike are the same. -/
theorem text_inj {v w : Json} (hv : IsExact v) (hw : IsExact w) (hvdepth : v.depth ≤ 127)
    (hwdepth : w.depth ≤ 127) (h : v.text = w.text) : v = w := by
  have hread := parseOrString_text hv
  rw [h, parseOrString_text hw, if_pos hvdepth, if_pos hwdepth] at hread
  exact hread.symm

end Courier.Json
