import Courier.Json.Value
import Courier.Proofs.Json.Literal
import Courier.Proofs.Json.Numeral
import Courier.Text.Blank

/-!
# Containers are read as they are written

The readers of lists and objects are loops over parts. If a reader of parts gives back the parts
that fit and refuses all others, so does the loop: it gives back a container all of whose parts fit,
in order, and refuses every other one.
-/

namespace Courier.Json

/-- The outcome of reading a value that was written: the value and what is behind it if the value
fits, and else a fault. -/
def Gives {α : Type} (fits : Prop) (x : α) (rest : List Utf8.Symbol)
    (outcome : Except Fault (α × List Utf8.Symbol)) : Prop :=
  (fits → outcome = .ok (x, rest)) ∧ (¬ fits → ∃ f, outcome = .error f)

/-- A reader gives back a value from its text, at every boundary, if the value fits. -/
def Reads {α : Type} (reader : Reader α) (fits : Prop) (text : List Char) (x : α) : Prop :=
  ∀ rest, IsBoundary rest → Gives fits x rest (reader (text.map some ++ rest))

/-- A text that starts like a written value. -/
def IsStarted (text : List Char) : Prop :=
  ∃ c more, text = c :: more ∧ Text.isBlankChar c = false ∧ c ≠ ']'

section Outcomes

variable {α β : Type} {p : Prop} {x : α} {rest : List Utf8.Symbol}
  {outcome : Except Fault (α × List Utf8.Symbol)}

theorem gives_of_eq (hp : p) (h : outcome = .ok (x, rest)) : Gives p x rest outcome :=
  ⟨fun _ => h, fun hnot => absurd hp hnot⟩

theorem Gives.map (h : Gives p x rest outcome) (f : α → β) :
    Gives p (f x) rest (outcome.map fun (x, left) => (f x, left)) := by
  refine ⟨?_, ?_⟩
  · intro hp
    rw [h.1 hp]
    rfl
  · intro hp
    obtain ⟨fault, hfault⟩ := h.2 hp
    exact ⟨fault, by rw [hfault]; rfl⟩

theorem Gives.close {finish : List Utf8.Symbol → Option Fault × List Utf8.Symbol}
    {left : List Utf8.Symbol} (h : Gives p x left outcome) (hfinish : finish left = (none, rest)) :
    Gives p x rest (close finish outcome) := by
  refine ⟨?_, ?_⟩
  · intro hp
    rw [h.1 hp, Json.close]
    simp only [hfinish]
  · intro hp
    obtain ⟨fault, hfault⟩ := h.2 hp
    exact ⟨_, by rw [hfault]; rfl⟩

end Outcomes

theorem skipSpace_of_isBlankChar {c : Char} (h : Text.isBlankChar c = false)
    (rest : List Utf8.Symbol) : skipSpace (some c :: rest) = some c :: rest := by
  refine List.dropWhile_cons_of_neg ?_
  intro hspace
  simp only [isSpace, Bool.or_eq_true, decide_eq_true_eq, Option.some.injEq] at hspace
  rcases hspace with ((rfl | rfl) | rfl) | rfl <;> exact absurd h (by decide)

/-! ## Lists -/

/-- A text inside a container, with the comma that is before it unless it is the first. -/
def separated (first : Bool) (text : List Char) : List Char :=
  if first then text else ',' :: text

theorem nextItem_separated (first : Bool) {text : List Char} (h : IsStarted text)
    (rest : List Utf8.Symbol) :
    nextItem first ((separated first text).map some ++ rest)
      = .ok (.more (text.map some ++ rest)) := by
  obtain ⟨c, more, rfl, hblank, hbracket⟩ := h
  have hskip := skipSpace_of_isBlankChar hblank (more.map some ++ rest)
  cases first with
  | true =>
    show nextItem true (some c :: (more.map some ++ rest)) = _
    rw [nextItem, hskip]
    simp [hbracket]
  | false =>
    show nextItem false (some ',' :: some c :: (more.map some ++ rest)) = _
    simp [nextItem, skipSpace_of_isBlankChar (c := ',') (by decide), hskip, hbracket]

section Items

variable {item : Reader Json} {fits : Json → Prop}

/-- One item, and those behind it. -/
theorem itemsFrom_separated {v : Json} (hstart : IsStarted v.chars)
    (hread : Reads item (fits v) v.chars v) {items : List Json} {fuel index : Nat}
    {tail rest : List Utf8.Symbol} (htail : IsBoundary tail)
    (hitems : Gives (∀ w ∈ items, fits w) items rest (itemsFrom item fuel false (index + 1) tail))
    (first : Bool) :
    Gives (∀ w ∈ v :: items, fits w) (v :: items) rest
      (itemsFrom item (fuel + 1) first index ((separated first v.chars).map some ++ tail)) := by
  rw [itemsFrom, nextItem_separated first hstart, List.forall_mem_cons]
  dsimp only
  by_cases hv : fits v
  · rw [(hread tail htail).1 hv]
    refine ⟨?_, ?_⟩
    · rintro ⟨-, hall⟩
      simp only [hitems.1 hall]
    · intro hnot
      obtain ⟨f, hf⟩ := hitems.2 fun hall => hnot ⟨hv, hall⟩
      exact ⟨f, by simp only [hf]⟩
  · obtain ⟨f, hf⟩ := (hread tail htail).2 hv
    rw [hf]
    exact ⟨fun hall => absurd hall.1 hv, fun _ => ⟨_, rfl⟩⟩

theorem isBoundary_moreItemsText (items : List Json) (rest : List Utf8.Symbol) :
    IsBoundary ((moreItemsText items).map some ++ some ']' :: rest) := by
  cases items with
  | nil => exact .inr ⟨']', rest, rfl, .inr (.inl rfl)⟩
  | cons v items => exact .inr ⟨',', _, rfl, .inl rfl⟩

theorem itemsFrom_moreItemsText {items : List Json} (hstart : ∀ v ∈ items, IsStarted v.chars)
    (hread : ∀ v ∈ items, Reads item (fits v) v.chars v) {fuel : Nat} (hfuel : items.length < fuel)
    (index : Nat) (rest : List Utf8.Symbol) :
    Gives (∀ v ∈ items, fits v) items (some ']' :: rest)
      (itemsFrom item fuel false index ((moreItemsText items).map some ++ some ']' :: rest)) := by
  induction items generalizing fuel index with
  | nil =>
    obtain ⟨fuel, rfl⟩ := Nat.exists_eq_succ_of_ne_zero (Nat.ne_zero_of_lt hfuel)
    exact gives_of_eq (by simp) rfl
  | cons v items ih =>
    obtain ⟨fuel, rfl⟩ := Nat.exists_eq_succ_of_ne_zero (Nat.ne_zero_of_lt hfuel)
    -- one round of the loop is for this item; the last one finds the bracket
    have hfuel' : items.length < fuel := by simpa using hfuel
    have htext : moreItemsText (v :: items) = separated false v.chars ++ moreItemsText items := rfl
    have hmore := ih (fun w hw => hstart w (by simp [hw])) (fun w hw => hread w (by simp [hw]))
      hfuel' (index + 1)
    rw [htext, List.map_append, List.append_assoc]
    exact itemsFrom_separated (hstart v (by simp)) (hread v (by simp))
      (isBoundary_moreItemsText items rest) hmore false

theorem length_le_moreItemsText (items : List Json) :
    items.length ≤ (moreItemsText items).length := by
  induction items with
  | nil => exact Nat.le_refl 0
  | cons v items ih =>
    rw [moreItemsText, List.length_cons, List.length_cons, List.length_append]
    omega

/-- **A list** is given back if all its items are. -/
theorem listOf_chars {items : List Json} (hstart : ∀ v ∈ items, IsStarted v.chars)
    (hread : ∀ v ∈ items, Reads item (fits v) v.chars v) :
    Reads (listOf item) (∀ v ∈ items, fits v) (chars (.array items)) items := by
  intro rest _
  have hinner : ((chars (.array items)).map some ++ rest).drop 1
      = (itemsText items).map some ++ some ']' :: rest := by
    simp [chars]
  rw [listOf]
  simp only [hinner]
  have hclose : endList (some ']' :: rest) = (none, rest) := rfl
  refine Gives.close ?_ hclose
  cases items with
  | nil => exact gives_of_eq (by simp) rfl
  | cons v items =>
    have htext : itemsText (v :: items) = separated true v.chars ++ moreItemsText items := rfl
    have hlength := length_le_moreItemsText items
    have hfuel : items.length < ((itemsText (v :: items)).map some ++ some ']' :: rest).length := by
      rw [htext]
      simp only [List.length_append, List.length_map, List.length_cons]
      omega
    have hmore := itemsFrom_moreItemsText (fun w hw => hstart w (by simp [hw]))
      (fun w hw => hread w (by simp [hw])) hfuel 1 rest
    rw [htext, List.map_append, List.append_assoc] at hmore ⊢
    exact itemsFrom_separated (hstart v (by simp)) (hread v (by simp))
      (isBoundary_moreItemsText items rest) hmore true

end Items

/-! ## Objects -/

/-- A member whose name is new comes last. -/
theorem insert_of_not_mem {α : Type} {name : String} (value : α) {members : List (String × α)}
    (h : name ∉ members.map (·.1)) :
    Members.insert name value members = members ++ [(name, value)] := by
  induction members with
  | nil => rfl
  | cons head members ih =>
    obtain ⟨n, v⟩ := head
    obtain ⟨hne, hrest⟩ := List.ne_and_not_mem_of_not_mem_cons h
    rw [Members.insert, if_neg hne.symm, ih hrest, List.cons_append]

/-- The text of a member. -/
def memberText (name : String) (v : Json) : List Char :=
  stringText name ++ ':' :: v.chars

theorem nextMember_separated (first : Bool) (name : String) (v : Json) (rest : List Utf8.Symbol) :
    nextMember first ((separated first (memberText name v)).map some ++ rest)
      = .ok (.more ((memberText name v).map some ++ rest)) := by
  cases first <;> rfl

/-- Reading the value of a member, from the colon on. -/
theorem Reads.memberValue {α : Type} {value : Reader α} {p : Prop} {v : Json} {x : α}
    (h : Reads value p v.chars x) (name : String) {tail : List Utf8.Symbol}
    (htail : IsBoundary tail) :
    Gives p x tail (Json.memberValue value name (some ':' :: (v.chars.map some ++ tail))) := by
  have hcolon : colon (some ':' :: (v.chars.map some ++ tail))
      = .ok (v.chars.map some ++ tail) := rfl
  rw [Json.memberValue, hcolon]
  refine ⟨?_, ?_⟩
  · intro hp
    simp only [(h tail htail).1 hp]
  · intro hp
    obtain ⟨f, hf⟩ := (h tail htail).2 hp
    exact ⟨f.within (.member name), by simp only [hf]⟩

section Members

variable {σ : Type} {member : σ → String → Reader σ} {fits : Json → Prop}

/-- Members that fit are taken one after the other, each from its colon on and at every boundary, and
lead from one state to another; a member that does not fit is refused. -/
inductive TakesAll (member : σ → String → Reader σ) (fits : Json → Prop) :
    σ → List (String × Json) → σ → Prop
  | nil (state : σ) : TakesAll member fits state [] state
  | cons {state next final : σ} {name : String} {v : Json} {members : List (String × Json)}
      (head : ∀ tail, IsBoundary tail →
        Gives (fits v) next tail (member state name (some ':' :: (v.chars.map some ++ tail))))
      (rest : TakesAll member fits next members final) :
      TakesAll member fits state ((name, v) :: members) final

/-- One member, and those behind it. -/
theorem membersFrom_separated {state next final : σ} {name : String} {v : Json}
    {members : List (String × Json)} {fuel : Nat} {tail rest : List Utf8.Symbol}
    (hmember : Gives (fits v) next tail (member state name (some ':' :: (v.chars.map some ++ tail))))
    (hmembers : Gives (∀ m ∈ members, fits m.2) final rest
      (membersFrom member fuel false next tail))
    (first : Bool) :
    Gives (∀ m ∈ (name, v) :: members, fits m.2) final rest
      (membersFrom member (fuel + 1) first state
        ((separated first (memberText name v)).map some ++ tail)) := by
  have hname : literal (((memberText name v).map some ++ tail).drop 1)
      = .ok (name, some ':' :: (v.chars.map some ++ tail)) := by
    rw [← literal_stringText]
    simp [memberText, stringText]
  rw [membersFrom, nextMember_separated, List.forall_mem_cons]
  dsimp only
  rw [hname]
  dsimp only
  by_cases hv : fits v
  · rw [hmember.1 hv]
    exact ⟨fun hall => hmembers.1 hall.2, fun hnot => hmembers.2 fun hall => hnot ⟨hv, hall⟩⟩
  · obtain ⟨f, hf⟩ := hmember.2 hv
    rw [hf]
    exact ⟨fun hall => absurd hall.1 hv, fun _ => ⟨_, rfl⟩⟩

theorem isBoundary_moreMembersText (members : List (String × Json)) (rest : List Utf8.Symbol) :
    IsBoundary ((moreMembersText members).map some ++ some '\x7d' :: rest) := by
  cases members with
  | nil => exact .inr ⟨'\x7d', rest, rfl, .inr (.inr rfl)⟩
  | cons m members => exact .inr ⟨',', _, rfl, .inl rfl⟩

theorem membersFrom_moreMembersText {state final : σ} {members : List (String × Json)}
    (h : TakesAll member fits state members final) {fuel : Nat} (hfuel : members.length < fuel)
    (rest : List Utf8.Symbol) :
    Gives (∀ m ∈ members, fits m.2) final (some '\x7d' :: rest)
      (membersFrom member fuel false state
        ((moreMembersText members).map some ++ some '\x7d' :: rest)) := by
  induction h generalizing fuel with
  | nil state =>
    obtain ⟨fuel, rfl⟩ := Nat.exists_eq_succ_of_ne_zero (Nat.ne_zero_of_lt hfuel)
    exact gives_of_eq (by simp) rfl
  | @cons state next final name v members head _ ih =>
    obtain ⟨fuel, rfl⟩ := Nat.exists_eq_succ_of_ne_zero (Nat.ne_zero_of_lt hfuel)
    -- one round of the loop is for this member; the last one finds the brace
    have hfuel' : members.length < fuel := by simpa using hfuel
    have htext : moreMembersText ((name, v) :: members)
        = separated false (memberText name v) ++ moreMembersText members := by
      simp [moreMembersText, separated, memberText]
    rw [htext, List.map_append, List.append_assoc]
    exact membersFrom_separated (head _ (isBoundary_moreMembersText members rest)) (ih hfuel') false

theorem length_le_moreMembersText (members : List (String × Json)) :
    members.length ≤ (moreMembersText members).length := by
  induction members with
  | nil => exact Nat.le_refl 0
  | cons head members ih =>
    rw [moreMembersText]
    simp only [List.length_cons, List.length_append]
    omega

/-- The text of an object behind its opening brace. -/
theorem drop_one_chars_object (members : List (String × Json)) (rest : List Utf8.Symbol) :
    ((chars (.object members)).map some ++ rest).drop 1
      = (membersText members).map some ++ some '\x7d' :: rest := by
  simp [chars]

/-- **Members are taken** from the text of an object, up to its closing brace. -/
theorem membersFrom_membersText {state final : σ} {members : List (String × Json)}
    (h : TakesAll member fits state members final) (rest : List Utf8.Symbol) :
    let inner := (membersText members).map some ++ some '\x7d' :: rest
    Gives (∀ m ∈ members, fits m.2) final (some '\x7d' :: rest)
      (membersFrom member (inner.length + 1) true state inner) := by
  intro inner
  cases h with
  | nil => exact gives_of_eq (by simp) rfl
  | @cons _ next _ name v members head htail =>
    have htext : membersText ((name, v) :: members)
        = separated true (memberText name v) ++ moreMembersText members := by
      simp [membersText, separated, memberText]
    have hlength := length_le_moreMembersText members
    have hfuel : members.length < inner.length := by
      simp only [inner, htext, List.length_append, List.length_map, List.length_cons]
      omega
    have hmore := membersFrom_moreMembersText htail hfuel rest
    have hinner : inner = (separated true (memberText name v)).map some
        ++ ((moreMembersText members).map some ++ some '\x7d' :: rest) := by
      simp only [inner, htext, List.map_append, List.append_assoc]
    rw [hinner] at hmore ⊢
    exact membersFrom_separated (head _ (isBoundary_moreMembersText members rest)) hmore true

theorem endObject_brace (rest : List Utf8.Symbol) :
    endObject (some '\x7d' :: rest) = (none, rest) := rfl

theorem objectOf_of_takesAll {start final : σ} {members : List (String × Json)}
    (h : TakesAll member fits start members final) (rest : List Utf8.Symbol) :
    Gives (∀ m ∈ members, fits m.2) final rest
      (objectOf member start ((chars (.object members)).map some ++ rest)) := by
  rw [objectOf]
  simp only [drop_one_chars_object]
  exact (membersFrom_membersText h rest).close (endObject_brace rest)

end Members

/-- Members with new names are kept behind those before them. -/
theorem takesAll_keepMember {value : Reader Json} {fits : Json → Prop}
    {members : List (String × Json)}
    (hread : ∀ m ∈ members, Reads value (fits m.2) m.2.chars m.2) {state : List (String × Json)}
    (hnames : ((state ++ members).map (·.1)).Nodup) :
    TakesAll (keepMember value) fits state members (state ++ members) := by
  induction members generalizing state with
  | nil =>
    rw [List.append_nil]
    exact .nil state
  | cons head members ih =>
    obtain ⟨name, v⟩ := head
    have hnew : name ∉ state.map (·.1) := by
      rw [List.map_append, List.nodup_append] at hnames
      intro hmem
      exact hnames.2.2 name hmem name (by simp) rfl
    rw [List.append_cons] at hnames ⊢
    have hmore := ih (fun m hm => hread m (by simp [hm])) hnames
    rw [← insert_of_not_mem v hnew] at hmore ⊢
    refine .cons ?_ hmore
    intro tail htail
    exact ((hread (name, v) (by simp)).memberValue name htail).map fun w =>
      Members.insert name w state

/-- **An object** is given back if all its members are and no name is repeated. -/
theorem objectOf_chars {value : Reader Json} (fits : Json → Prop)
    {members : List (String × Json)}
    (hread : ∀ m ∈ members, Reads value (fits m.2) m.2.chars m.2)
    (hnames : (members.map (·.1)).Nodup) :
    Reads (objectOf (keepMember value) []) (∀ m ∈ members, fits m.2) (chars (.object members))
      members := by
  intro rest _
  have htakes : TakesAll (keepMember value) fits [] members members :=
    takesAll_keepMember hread hnames
  exact objectOf_of_takesAll htakes rest

end Courier.Json
