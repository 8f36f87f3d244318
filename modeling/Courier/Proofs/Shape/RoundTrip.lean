import Courier.Proofs.Json.RoundTrip
import Courier.Shape.Reading

/-!
# Data is read as it is written

The readers of shapes give back the data that a written value stands for. Of an object, the entries
of a map are given back in order of their names, and the fields of a record whichever order they were
written in; a field that is left out is what it is where it is missing.
-/

namespace Courier

/-- A name behind all others is put at the end. -/
theorem Members.insertSorted_of_forall_lt {α : Type} {name : String} (value : α)
    {members : List (String × α)} (h : ∀ m ∈ members, m.1 < name) :
    insertSorted name value members = members ++ [(name, value)] := by
  induction members with
  | nil => rfl
  | cons head members ih =>
    obtain ⟨n, v⟩ := head
    obtain ⟨hlt, hrest⟩ := List.forall_mem_cons.mp h
    have hne : n ≠ name := String.ne_of_lt hlt
    have hnot : ¬ name < n := fun hgt => String.lt_asymm hlt hgt
    rw [insertSorted, if_neg hne, if_neg hnot, ih hrest, List.cons_append]

/-- Members in order of their names stay as they are. -/
theorem Members.sorted_eq_self {α : Type} {members : List (String × α)} (h : IsSorted members) :
    sorted members = members := by
  suffices hfrom : ∀ before : List (String × α), IsSorted (before ++ members) →
      members.foldl (fun kept entry => insertSorted entry.1 entry.2 kept) before = before ++ members
    from hfrom [] h
  induction members with
  | nil => exact fun before _ => (List.append_nil before).symm
  | cons head members ih =>
    intro before hsorted
    have hlt : ∀ m ∈ before, m.1 < head.1 := by
      intro m hm
      exact (List.pairwise_append.mp hsorted).2.2 m hm head List.mem_cons_self
    rw [List.append_cons] at hsorted ⊢
    rw [List.foldl_cons, insertSorted_of_forall_lt head.2 hlt]
    exact ih (List.pairwise_cons.mp h).2 _ hsorted

/-- Entries whose values depend on their names only. -/
theorem Members.get?_map_pair {α : Type} (value : String → α) (name : String)
    (names : List String) :
    get? name (names.map fun n => (n, value n)) = if name ∈ names then some (value name) else none := by
  induction names with
  | nil => rfl
  | cons n names ih =>
    rw [List.map_cons, get?, ih]
    by_cases hn : n = name
    · simp [hn]
    · simp [hn, Ne.symm hn]

namespace Shape

open Json

/-- A reader gives back data from the text of a value, at every boundary. -/
def Restores (reader : Reader Datum) (v : Json) (d : Datum) : Prop :=
  ∀ rest, IsBoundary rest → reader (v.chars.map some ++ rest) = .ok (d, rest)

theorem Restores.reads {reader : Reader Datum} {v : Json} {d : Datum} (h : Restores reader v d) :
    Reads reader True v.chars d :=
  fun rest hrest => gives_of_eq trivial (h rest hrest)

/-! ## Scalars -/

theorem restores_text (depth : Nat) (s : String) :
    Restores (text.read depth) (.string s) (.text s) := by
  intro rest _
  have hchars : (chars (.string s)).map some ++ rest
      = some '"' :: ((s.toList.flatMap charText).map some ++ some '"' :: rest) := by
    simp [chars, stringText]
  have hskip := skipSpace_of_isBlankChar (c := '"') (by decide)
    ((s.toList.flatMap charText).map some ++ some '"' :: rest)
  rw [hchars, read, readString]
  simp only [hskip, literal_stringText]

theorem restores_integer (depth : Nat) {kind : IntegerKind} {n : JsonInteger}
    (hfits : kind.least ≤ n.value ∧ n.value ≤ kind.greatest) :
    Restores ((integer kind).read depth) (.number (.integer n)) (.integer n.value) := by
  intro rest hrest
  obtain ⟨c, more, htext, hc⟩ := exists_integerText n.value
  have hblank : Text.isBlankChar c = false := by
    rcases hc with rfl | hc
    · decide
    · exact isBlankChar_of_isDigit hc
  have hnumber : some c = some '-' ∨ isDigitSymbol (some c) = true := by
    simpa [isDigitSymbol] using hc
  have hread := numeral_integerText n hrest
  have hchars : chars (.number (.integer n)) = c :: more := htext
  rw [htext, List.map_cons, List.cons_append] at hread
  rw [hchars, List.map_cons, List.cons_append, read, readNumber]
  simp only [skipSpace_of_isBlankChar hblank, if_pos hnumber, hread, toInteger, if_pos hfits]

/-! ## Options -/

theorem restores_option_null (inner : Shape) (depth : Nat) :
    Restores ((option inner).read depth) .null .absent :=
  fun _ _ => rfl

/-- A value is present if it does not begin like `null`. -/
theorem Restores.option {inner : Shape} {depth : Nat} {v : Json} {d : Datum}
    (h : Restores (inner.read depth) v d)
    (hfront : ∃ c more, v.chars = c :: more ∧ Text.isBlankChar c = false ∧ c ≠ 'n') :
    Restores ((option inner).read depth) v (.present d) := by
  intro rest hrest
  obtain ⟨c, more, hchars, hblank, hnull⟩ := hfront
  have hread := h rest hrest
  rw [hchars, List.map_cons, List.cons_append] at hread ⊢
  rw [read, readOption, skipSpace_of_isBlankChar hblank]
  split
  · next heq => exact absurd (Option.some.inj (List.cons.inj heq).1) hnull
  · rw [hread]
    rfl

/-! ## Maps -/

/-- Entries in order of their names are taken in this order. -/
theorem takesAll_insertSorted {reader : Reader Datum} {data : Json → Datum}
    {members : List (String × Json)}
    (hread : ∀ m ∈ members, Restores reader m.2 (data m.2)) {before : List (String × Datum)}
    (hsorted : Members.IsSorted (before ++ members.map fun m => (m.1, data m.2))) :
    TakesAll (fun entries name cs => (memberValue reader name cs).map fun (v, left) =>
        (Members.insertSorted name v entries, left)) (fun _ => True) before members
      (before ++ members.map fun m => (m.1, data m.2)) := by
  induction members generalizing before with
  | nil =>
    rw [List.map_nil, List.append_nil]
    exact .nil before
  | cons head members ih =>
    obtain ⟨name, v⟩ := head
    have hlt : ∀ m ∈ before, m.1 < name := by
      intro m hm
      exact (List.pairwise_append.mp hsorted).2.2 m hm (name, data v) (by simp)
    rw [List.map_cons, List.append_cons] at hsorted ⊢
    have hmore := ih (fun m hm => hread m (by simp [hm])) hsorted
    rw [← Members.insertSorted_of_forall_lt (data v) hlt] at hmore ⊢
    refine .cons ?_ hmore
    intro tail htail
    exact ((hread (name, v) (by simp)).reads.memberValue name htail).map fun d =>
      Members.insertSorted name d before

/-- **A map** is read from an object with its names in order. -/
theorem restores_map {element : Shape} {depth : Nat} {data : Json → Datum}
    {members : List (String × Json)}
    (hread : ∀ m ∈ members, Restores (element.read depth) m.2 (data m.2))
    (hsorted : Members.IsSorted (members.map fun m => (m.1, data m.2))) :
    Restores ((map element).read (depth + 1)) (.object members)
      (.map (members.map fun m => (m.1, data m.2))) := by
  intro rest _
  have htakes : TakesAll _ (fun _ => True) [] members (members.map fun m => (m.1, data m.2)) :=
    takesAll_insertSorted hread hsorted
  have hobject := (objectOf_of_takesAll htakes rest).1 fun _ _ => trivial
  have hfront : ∀ more, skipSpace (some '\x7b' :: more) = some '\x7b' :: more :=
    skipSpace_of_isBlankChar (by decide)
  rw [chars, List.map_cons, List.cons_append] at hobject ⊢
  rw [read, readObject]
  simp only [hfront, opened, hobject]
  rfl

/-! ## Records -/

section Records

variable {strict : Bool} {parts : List Part} {depth : Nat} {given : String → Datum}
  {members : List (String × Json)}

/-- Fields that were read, in any order. -/
def known (given : String → Datum) (names : List String) : List (String × Datum) :=
  names.map fun name => (name, given name)

theorem takesAll_readMember
    (hread : ∀ m ∈ members, ∃ part, parts.find? (·.name = m.1) = some part ∧
      Restores (part.read depth) m.2 (given m.1))
    {before : List String} (hnames : ((members.map (·.1)).reverse ++ before).Nodup) :
    TakesAll (readMember strict parts depth) (fun _ => True) (known given before) members
      (known given ((members.map (·.1)).reverse ++ before)) := by
  induction members generalizing before with
  | nil => exact .nil _
  | cons head members ih =>
    obtain ⟨name, v⟩ := head
    obtain ⟨part, hfind, hrestores⟩ := hread (name, v) (by simp)
    rw [List.map_cons, List.reverse_cons, List.append_assoc, List.singleton_append] at hnames ⊢
    -- no field is read twice
    have hnew : name ∉ before := by
      have hcons := (List.nodup_append.mp hnames).2.1
      exact (List.nodup_cons.mp hcons).1
    have hfresh : ¬ (Members.get? name (known given before)).isSome = true := by
      rw [known, Members.get?_map_pair, if_neg hnew]
      exact Bool.false_ne_true
    refine .cons ?_ (ih (fun m hm => hread m (by simp [hm])) hnames)
    intro tail htail
    simp only [readMember, hfind, if_neg hfresh]
    exact (hrestores.reads.memberValue name htail).map fun d => (name, d) :: known given before

theorem complete_known {names : List String}
    (hmissing : ∀ part ∈ parts, part.name ∉ names → part.notInObject = some (given part.name)) :
    complete (known given names) parts = .ok (parts.map fun part => given part.name) := by
  induction parts with
  | nil => rfl
  | cons part parts ih =>
    obtain ⟨hpart, hmore⟩ := List.forall_mem_cons.mp hmissing
    have hvalue : (Members.get? part.name (known given names)).or part.notInObject
        = some (given part.name) := by
      rw [known, Members.get?_map_pair]
      by_cases hmem : part.name ∈ names
      · rw [if_pos hmem, Option.some_or]
      · rw [if_neg hmem, Option.none_or, hpart hmem]
    rw [complete, hvalue]
    simp only [ih hmore]
    rfl

/-- **Fields in any order**: the parts of a record are read from the text of an object, in declared
order, and those left out are what they are where they are missing. -/
theorem objectOfParts_chars (hnames : (members.map (·.1)).Nodup)
    (hread : ∀ m ∈ members, ∃ part, parts.find? (·.name = m.1) = some part ∧
      Restores (part.read depth) m.2 (given m.1))
    (hmissing : ∀ part ∈ parts, part.name ∉ members.map (·.1) →
      part.notInObject = some (given part.name)) (rest : List Utf8.Symbol) :
    objectOfParts strict parts depth ((chars (.object members)).map some ++ rest)
      = .ok (parts.map fun part => given part.name, rest) := by
  have hreverse : ((members.map Prod.fst).reverse ++ []).Nodup := by
    rw [List.append_nil]
    exact (List.reverse_perm _).symm.nodup hnames
  have htakes : TakesAll (readMember strict parts depth) (fun _ => True) [] members
      (known given (members.map Prod.fst).reverse) := by
    rw [← List.append_nil (members.map Prod.fst).reverse]
    exact takesAll_readMember hread hreverse
  have hmembers := (membersFrom_membersText htakes rest).1 fun _ _ => trivial
  have hcomplete : complete (known given (members.map Prod.fst).reverse) parts
      = .ok (parts.map fun part => given part.name) := by
    refine complete_known fun part hpart hnot => hmissing part hpart ?_
    exact fun hmem => hnot (List.mem_reverse.mpr hmem)
  rw [objectOfParts]
  simp only [drop_one_chars_object, hmembers, hcomplete, close, endObject_brace]

end Records

/-- **A record** is read from an object with any of its fields, in any order. -/
theorem restores_record {name : String} {strict : Bool} {fields : List Field} {depth : Nat}
    {given : String → Datum} {members : List (String × Json)}
    (hnames : (members.map (·.1)).Nodup)
    (hread : ∀ m ∈ members, ∃ part, (fieldParts fields).find? (·.name = m.1) = some part ∧
      Restores (part.read depth) m.2 (given m.1))
    (hmissing : ∀ part ∈ fieldParts fields, part.name ∉ members.map (·.1) →
      part.notInObject = some (given part.name)) :
    Restores ((record name strict fields).read (depth + 1)) (.object members)
      (.record (known given ((fieldParts fields).map (·.name)))) := by
  intro rest _
  have hparts : objectOfParts strict (fieldParts fields) depth
      ((chars (.object members)).map some ++ rest) = .ok (_, rest) :=
    objectOfParts_chars hnames hread hmissing rest
  have hfront : ∀ more, skipSpace (some '\x7b' :: more) = some '\x7b' :: more :=
    skipSpace_of_isBlankChar (by decide)
  have hnamed : ((fieldParts fields).map (·.name)).zip
      ((fieldParts fields).map fun part => given part.name)
      = known given ((fieldParts fields).map (·.name)) := by
    rw [known, List.map_map, ← List.zip_map']
    rfl
  rw [chars, List.map_cons, List.cons_append] at hparts ⊢
  rw [read, readRecord]
  simp only [hfront, opened, hparts]
  rw [← hnamed]
  rfl

/-- A whole text is read as data of a shape. -/
theorem parse_text_of_restores {shape : Shape} {v : Json} {d : Datum}
    (h : Restores (shape.read depthLimit) v d) : shape.parse v.text = .ok d := by
  have hread := h [] (.inl rfl)
  rw [← symbolsOf_text] at hread
  simp only [parse, parseSymbols, readAll, hread]
  rfl

end Shape

end Courier
