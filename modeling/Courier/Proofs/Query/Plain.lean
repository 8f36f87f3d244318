import Courier.Proofs.Query
import Courier.Proofs.Text.Cutting

/-!
# Plain queries

A plain query has no brackets in its names and no empty list or object. Its pairs tell what it was:
each stretch of pairs under one name is that of one member, and what stands behind the name tells a
leaf, a list and an object apart.
-/

namespace Courier.Query

/-! ## Plain values -/

/-- A name without brackets. -/
def IsBare (name : String) : Prop :=
  '[' ∉ name.toList ∧ ']' ∉ name.toList

/-- Members under different names. -/
def IsKeyed (members : List (String × Json)) : Prop :=
  (members.map (·.1)).Nodup

/-- Leaves, lists of leaves, and objects of plain values. Nothing is empty: no list, no object and
no name. -/
inductive IsPlain : Json → Prop
  | leaf {v : Json} {text : String} (shown : scalarText? v = some text) : IsPlain v
  | array {items : List Json} (nonempty : items ≠ [])
      (leaves : ∀ v ∈ items, ∃ text, scalarText? v = some text) : IsPlain (.array items)
  | object {members : List (String × Json)} (nonempty : members ≠ []) (keyed : IsKeyed members)
      (names : ∀ m ∈ members, m.1 ≠ "" ∧ IsBare m.1) (parts : ∀ m ∈ members, IsPlain m.2) :
      IsPlain (.object members)

/-- An object, maybe an empty one, of plain values. Its names can be empty. -/
inductive IsPlainQuery : Json → Prop
  | object {members : List (String × Json)} (keyed : IsKeyed members)
      (names : ∀ m ∈ members, IsBare m.1) (parts : ∀ m ∈ members, IsPlain m.2) :
      IsPlainQuery (.object members)

mutual

/-- Values of the same form, with the same names in the same order, and with leaves of the same
texts. -/
inductive SameTree : Json → Json → Prop
  | leaf {v w : Json} {text : String} (left : scalarText? v = some text)
      (right : scalarText? w = some text) : SameTree v w
  | array {items others : List Json} (parts : SameItems items others) :
      SameTree (.array items) (.array others)
  | object {members others : List (String × Json)} (parts : SameMembers members others) :
      SameTree (.object members) (.object others)

/-- Items that are the same trees, one by one. -/
inductive SameItems : List Json → List Json → Prop
  | nil : SameItems [] []
  | cons {v w : Json} {items others : List Json} (head : SameTree v w)
      (tail : SameItems items others) : SameItems (v :: items) (w :: others)

/-- Members of the same names that are the same trees, one by one. -/
inductive SameMembers : List (String × Json) → List (String × Json) → Prop
  | nil : SameMembers [] []
  | cons {name : String} {v w : Json} {members others : List (String × Json)} (head : SameTree v w)
      (tail : SameMembers members others) :
      SameMembers ((name, v) :: members) ((name, w) :: others)

end

/-- Values whose leaves are strings. -/
inductive IsTextual : Json → Prop
  | string (s : String) : IsTextual (.string s)
  | array {items : List Json} (parts : ∀ v ∈ items, IsTextual v) : IsTextual (.array items)
  | object {members : List (String × Json)} (parts : ∀ m ∈ members, IsTextual m.2) :
      IsTextual (.object members)

mutual

theorem SameTree.eq : (v w : Json) → SameTree v w → IsTextual v → IsTextual w → v = w
  | .string s, w, h, _, hw => by
    cases h with
    | leaf left right =>
      cases hw with
      | string t => exact congrArg Json.string (Option.some.inj (left.trans right.symm))
      | array parts => cases right
      | object parts => cases right
  | .array items, w, h, hv, hw => by
    cases h with
    | leaf left right => cases left
    | array parts =>
      cases hv with | array hitems =>
      cases hw with | array hothers =>
      rw [SameItems.eq _ _ parts hitems hothers]
  | .object members, w, h, hv, hw => by
    cases h with
    | leaf left right => cases left
    | object parts =>
      cases hv with | object hmembers =>
      cases hw with | object hothers =>
      rw [SameMembers.eq _ _ parts hmembers hothers]
  | .null, _, _, hv, _ => by cases hv
  | .bool _, _, _, hv, _ => by cases hv
  | .number _, _, _, hv, _ => by cases hv

theorem SameItems.eq : (items others : List Json) → SameItems items others →
    (∀ v ∈ items, IsTextual v) → (∀ v ∈ others, IsTextual v) → items = others
  | [], _, h, _, _ => by cases h; rfl
  | v :: items, _, h, hitems, hothers => by
    cases h with
    | cons head tail =>
      obtain ⟨hv, hitems⟩ := List.forall_mem_cons.mp hitems
      obtain ⟨hw, hothers⟩ := List.forall_mem_cons.mp hothers
      rw [SameTree.eq v _ head hv hw, SameItems.eq items _ tail hitems hothers]

theorem SameMembers.eq : (members others : List (String × Json)) → SameMembers members others →
    (∀ m ∈ members, IsTextual m.2) → (∀ m ∈ others, IsTextual m.2) → members = others
  | [], _, h, _, _ => by cases h; rfl
  | (name, v) :: members, _, h, hmembers, hothers => by
    cases h with
    | cons head tail =>
      obtain ⟨hv, hmembers⟩ := List.forall_mem_cons.mp hmembers
      obtain ⟨hw, hothers⟩ := List.forall_mem_cons.mp hothers
      rw [SameTree.eq v _ head hv hw, SameMembers.eq members _ tail hmembers hothers]

end

/-! ## Names of pairs -/

/-- A name itself, or with something in brackets behind it. -/
def Under (name key : String) : Prop :=
  ∃ rest : List Char, key.toList = name.toList ++ rest ∧ ∀ c ∈ rest.head?, c = '['

/-- The name of a member in an object under a name. -/
def memberName (name inner : String) : String :=
  name ++ "[" ++ inner ++ "]"

theorem toList_memberName (name inner : String) :
    (memberName name inner).toList = name.toList ++ '[' :: (inner.toList ++ [']']) := by
  simp [memberName, String.toList_append]

theorem Under.refl (name : String) : Under name name :=
  ⟨[], by simp, by simp⟩

theorem under_array (name : String) : Under name (name ++ "[]") :=
  ⟨['[', ']'], by simp [String.toList_append], by simp⟩

/-- What is under a longer name is under the name in front of its brackets. -/
theorem Under.of_bracket {name longer key : String} {behind : List Char}
    (hlonger : longer.toList = name.toList ++ '[' :: behind) (h : Under longer key) :
    Under name key := by
  obtain ⟨rest, hkey, -⟩ := h
  refine ⟨'[' :: (behind ++ rest), ?_, by simp⟩
  rw [hkey, hlonger, List.append_assoc, List.cons_append]

theorem Under.of_memberName {name inner key : String} (h : Under (memberName name inner) key) :
    Under name key :=
  h.of_bracket (toList_memberName name inner)

theorem flattenMembers_eq (name : String) (members : List (String × Json)) :
    flattenMembers name members = members.flatMap fun m => flatten (memberName name m.1) m.2 := by
  induction members with
  | nil => rfl
  | cons head rest ih =>
    obtain ⟨inner, v⟩ := head
    rw [flattenMembers, ih, List.flatMap_cons]
    rfl

mutual

theorem under_of_mem_flatten : (name : String) → (v : Json) → ∀ p ∈ flatten name v, Under name p.1
  | name, .null, p, h => by cases h
  | name, .bool b, p, h => by
    obtain rfl := List.mem_singleton.mp h
    exact .refl name
  | name, .number n, p, h => by
    obtain rfl := List.mem_singleton.mp h
    exact .refl name
  | name, .string s, p, h => by
    obtain rfl := List.mem_singleton.mp h
    exact .refl name
  | name, .array items, p, h => by
    rw [flatten] at h
    have hlonger : (name ++ "[]").toList = name.toList ++ '[' :: [']'] := by
      simp [String.toList_append]
    exact (under_of_mem_flattenItems (name ++ "[]") items p h).of_bracket hlonger
  | name, .object members, p, h => by
    rw [flatten] at h
    exact under_of_mem_flattenMembers name members p h

theorem under_of_mem_flattenItems : (name : String) → (items : List Json) →
    ∀ p ∈ flattenItems name items, Under name p.1
  | name, [], p, h => by cases h
  | name, item :: rest, p, h => by
    rw [flattenItems] at h
    rcases List.mem_append.mp h with h | h
    · exact under_of_mem_flatten name item p h
    · exact under_of_mem_flattenItems name rest p h

theorem under_of_mem_flattenMembers : (name : String) → (members : List (String × Json)) →
    ∀ p ∈ flattenMembers name members, Under name p.1
  | name, [], p, h => by cases h
  | name, (inner, v) :: rest, p, h => by
    rw [flattenMembers] at h
    rcases List.mem_append.mp h with h | h
    · exact (under_of_mem_flatten (memberName name inner) v p h).of_memberName
    · exact under_of_mem_flattenMembers name rest p h

end

theorem takeWhile_ne_append {c : Char} {cs behind : List Char} (hcs : c ∉ cs)
    (hbehind : ∀ d ∈ behind.head?, d = c) : (cs ++ behind).takeWhile (· ≠ c) = cs := by
  refine takeWhile_of_boundary ?_ ?_
  · intro d hd
    have hne : d ≠ c := ne_of_mem_of_not_mem hd hcs
    simpa using hne
  · intro d hd
    simpa using hbehind d hd

/-- Names in front of the first bracket of a key are the same. -/
theorem eq_of_under {a b key : String} (ha : IsBare a) (hb : IsBare b) (hka : Under a key)
    (hkb : Under b key) : a = b := by
  obtain ⟨rest, hkey, hrest⟩ := hka
  obtain ⟨rest', hkey', hrest'⟩ := hkb
  apply String.toList_injective
  rw [← takeWhile_ne_append ha.1 hrest, ← takeWhile_ne_append hb.1 hrest', ← hkey, hkey']

/-- So are names inside the first brackets behind a name. -/
theorem eq_of_under_memberName {name a b key : String} (ha : IsBare a) (hb : IsBare b)
    (hka : Under (memberName name a) key) (hkb : Under (memberName name b) key) : a = b := by
  obtain ⟨rest, hkey, -⟩ := hka
  obtain ⟨rest', hkey', -⟩ := hkb
  rw [toList_memberName, List.append_assoc, List.cons_append, List.append_assoc] at hkey hkey'
  have hinner : a.toList ++ (']' :: rest) = b.toList ++ (']' :: rest') := by
    have hboth := hkey.symm.trans hkey'
    simpa using hboth
  have hclosed : ∀ behind : List Char, ∀ d ∈ (']' :: behind).head?, d = ']' := by simp
  apply String.toList_injective
  rw [← takeWhile_ne_append ha.2 (hclosed rest), ← takeWhile_ne_append hb.2 (hclosed rest'), hinner]

/-! ## Pairs of plain values -/

theorem flatten_leaf {v : Json} {text : String} (h : scalarText? v = some text) (name : String) :
    flatten name v = [(name, text)] := by
  cases v with
  | string s => cases h; rfl
  | number n => cases h; rfl
  | bool b => cases h; rfl
  | null => cases h
  | array items => cases h
  | object members => cases h

theorem flattenItems_leaves {items : List Json}
    (h : ∀ v ∈ items, ∃ text, scalarText? v = some text) (name : String) :
    ∀ p ∈ flattenItems name items, p.1 = name := by
  induction items with
  | nil => simp [flattenItems]
  | cons v items ih =>
    obtain ⟨⟨text, htext⟩, hitems⟩ := List.forall_mem_cons.mp h
    rw [flattenItems, flatten_leaf htext]
    intro p hp
    rcases List.mem_cons.mp hp with rfl | hp
    · rfl
    · exact ih hitems p hp

/-- A plain value has a pair. -/
theorem IsPlain.flatten_ne_nil {v : Json} (h : IsPlain v) (name : String) :
    flatten name v ≠ [] := by
  induction h generalizing name with
  | leaf shown => simp [flatten_leaf shown]
  | @array items nonempty leaves =>
    obtain ⟨v, rest, rfl⟩ := List.exists_cons_of_ne_nil nonempty
    obtain ⟨text, htext⟩ := leaves v (by simp)
    simp [flatten, flattenItems, flatten_leaf htext]
  | @object members nonempty keyed names parts ih =>
    obtain ⟨⟨inner, v⟩, rest, rfl⟩ := List.exists_cons_of_ne_nil nonempty
    have hfirst := ih (inner, v) (by simp) (memberName name inner)
    rw [flatten, flattenMembers_eq, List.flatMap_cons]
    simp [hfirst]

theorem IsPlain.exists_first {v : Json} (h : IsPlain v) (name : String) :
    ∃ p more, flatten name v = p :: more ∧ Under name p.1 := by
  obtain ⟨p, more, hp⟩ := List.exists_cons_of_ne_nil (h.flatten_ne_nil name)
  exact ⟨p, more, hp, under_of_mem_flatten name v p (by simp [hp])⟩

/-- What stands behind the name in the keys of a plain value. -/
def Fits : Json → List Char → Prop
  | .array _, behind => behind = ['[', ']']
  | .object _, behind => ∃ c more, behind = '[' :: c :: more ∧ c ≠ ']'
  | _, behind => behind = []

theorem fits_leaf_iff {v : Json} {text : String} (h : scalarText? v = some text)
    {behind : List Char} : Fits v behind ↔ behind = [] := by
  cases v with
  | string s => rfl
  | number n => rfl
  | bool b => rfl
  | null => cases h
  | array items => cases h
  | object members => cases h

theorem IsPlain.fits {v : Json} (h : IsPlain v) {name : String} {p : String × String}
    (hp : p ∈ flatten name v) : ∃ behind, p.1.toList = name.toList ++ behind ∧ Fits v behind := by
  cases h with
  | leaf shown =>
    rw [flatten_leaf shown] at hp
    obtain rfl := List.mem_singleton.mp hp
    exact ⟨[], by simp, (fits_leaf_iff shown).mpr rfl⟩
  | @array items nonempty leaves =>
    rw [flatten] at hp
    rw [flattenItems_leaves leaves _ p hp]
    exact ⟨['[', ']'], by simp [String.toList_append], rfl⟩
  | @object members nonempty keyed names parts =>
    rw [flatten, flattenMembers_eq] at hp
    obtain ⟨m, hm, hp⟩ := List.mem_flatMap.mp hp
    obtain ⟨rest, hkey, -⟩ := under_of_mem_flatten _ _ p hp
    obtain ⟨hne, hbare⟩ := names m hm
    -- the name of the member is not empty and does not start with a bracket
    obtain ⟨c, more, hinner⟩ := List.exists_cons_of_ne_nil
      (fun hnil => hne (String.toList_injective hnil))
    refine ⟨'[' :: c :: (more ++ ']' :: rest), ?_, c, _, rfl, ?_⟩
    · rw [hkey, toList_memberName, hinner]
      simp
    · rintro rfl
      exact hbare.2 (by simp [hinner])

/-- Where two plain values start the same list of pairs, what stands behind the name fits both. -/
theorem exists_fits {v w : Json} (hv : IsPlain v) (hw : IsPlain w) {name : String}
    {rest rest' : List (String × String)}
    (h : flatten name v ++ rest = flatten name w ++ rest') :
    ∃ behind, Fits v behind ∧ Fits w behind := by
  obtain ⟨p, more, hp, -⟩ := hv.exists_first name
  obtain ⟨q, more', hq, -⟩ := hw.exists_first name
  rw [hp, hq, List.cons_append, List.cons_append] at h
  obtain rfl : p = q := (List.cons.inj h).1
  have hmem : p ∈ flatten name v := by simp [hp]
  have hmem' : p ∈ flatten name w := by simp [hq]
  obtain ⟨behind, hkey, hfits⟩ := hv.fits hmem
  obtain ⟨behind', hkey', hfits'⟩ := hw.fits hmem'
  obtain rfl : behind = behind' := List.append_cancel_left (hkey.symm.trans hkey')
  exact ⟨behind, hfits, hfits'⟩

/-! ## What pairs tell -/

/-- The pairs of a value tell the value, and where they end in front of other names. -/
def IsTold (v : Json) : Prop :=
  ∀ (name : String) (w : Json) (rest rest' : List (String × String)), IsPlain w →
    (∀ p ∈ rest, ¬ Under name p.1) → (∀ p ∈ rest', ¬ Under name p.1) →
      flatten name v ++ rest = flatten name w ++ rest' → SameTree v w ∧ rest = rest'

theorem sameItems_of_eq {items others : List Json}
    (hitems : ∀ v ∈ items, ∃ text, scalarText? v = some text)
    (hothers : ∀ v ∈ others, ∃ text, scalarText? v = some text) {name : String}
    {rest rest' : List (String × String)} (hrest : ∀ p ∈ rest, p.1 ≠ name)
    (hrest' : ∀ p ∈ rest', p.1 ≠ name)
    (h : flattenItems name items ++ rest = flattenItems name others ++ rest') :
    SameItems items others ∧ rest = rest' := by
  induction items generalizing others with
  | nil =>
    cases others with
    | nil => exact ⟨.nil, h⟩
    | cons w others =>
      obtain ⟨text, hw⟩ := hothers w (by simp)
      rw [flattenItems, flattenItems, flatten_leaf hw, List.nil_append] at h
      exact absurd rfl (hrest (name, text) (by simp [h]))
  | cons v items ih =>
    obtain ⟨⟨text, hv⟩, hitems⟩ := List.forall_mem_cons.mp hitems
    rw [flattenItems, flatten_leaf hv] at h
    cases others with
    | nil =>
      rw [flattenItems, List.nil_append] at h
      exact absurd rfl (hrest' (name, text) (by simp [← h]))
    | cons w others =>
      obtain ⟨⟨text', hw⟩, hothers⟩ := List.forall_mem_cons.mp hothers
      rw [flattenItems, flatten_leaf hw] at h
      obtain ⟨hhead, htail⟩ := List.cons.inj h
      obtain rfl : text = text' := congrArg Prod.snd hhead
      obtain ⟨hmore, heq⟩ := ih hitems hothers htail
      exact ⟨.cons (.leaf hv hw) hmore, heq⟩

section Members

variable {rename : String → String}
  (hrename : ∀ a b key : String, IsBare a → IsBare b → Under (rename a) key →
    Under (rename b) key → a = b)
include hrename

/-- Keys of other members are not under the name of a member. -/
theorem not_under_of_mem {inner : String} (hinner : IsBare inner) {members : List (String × Json)}
    (hnames : ∀ m ∈ members, IsBare m.1) (hnew : inner ∉ members.map (·.1))
    {rest : List (String × String)} (hrest : ∀ p ∈ rest, ¬ Under (rename inner) p.1) :
    ∀ p ∈ (members.flatMap fun m => flatten (rename m.1) m.2) ++ rest,
      ¬ Under (rename inner) p.1 := by
  intro p hp hunder
  rcases List.mem_append.mp hp with hp | hp
  · obtain ⟨m, hm, hp⟩ := List.mem_flatMap.mp hp
    have heq := hrename _ _ _ hinner (hnames m hm) hunder (under_of_mem_flatten _ _ p hp)
    exact hnew (List.mem_map.mpr ⟨m, hm, heq.symm⟩)
  · exact hrest p hp hunder

theorem sameMembers_of_eq {members others : List (String × Json)} (hkeyed : IsKeyed members)
    (hkeyed' : IsKeyed others) (hnames : ∀ m ∈ members, IsBare m.1)
    (hnames' : ∀ m ∈ others, IsBare m.1) (hparts : ∀ m ∈ members, IsPlain m.2)
    (hparts' : ∀ m ∈ others, IsPlain m.2) (htold : ∀ m ∈ members, IsTold m.2)
    {rest rest' : List (String × String)}
    (hrest : ∀ p ∈ rest, ∀ inner, ¬ Under (rename inner) p.1)
    (hrest' : ∀ p ∈ rest', ∀ inner, ¬ Under (rename inner) p.1)
    (h : (members.flatMap fun m => flatten (rename m.1) m.2) ++ rest
      = (others.flatMap fun m => flatten (rename m.1) m.2) ++ rest') :
    SameMembers members others ∧ rest = rest' := by
  induction members generalizing others with
  | nil =>
    cases others with
    | nil => exact ⟨.nil, h⟩
    | cons other others =>
      obtain ⟨p, more, hp, hunder⟩ := (hparts' other (by simp)).exists_first (rename other.1)
      rw [List.flatMap_nil, List.nil_append, List.flatMap_cons, hp] at h
      exact absurd hunder (hrest p (by simp [h]) other.1)
  | cons member members ih =>
    obtain ⟨inner, v⟩ := member
    obtain ⟨hname, hnames⟩ := List.forall_mem_cons.mp hnames
    obtain ⟨hpart, hparts⟩ := List.forall_mem_cons.mp hparts
    obtain ⟨htold, htolds⟩ := List.forall_mem_cons.mp htold
    obtain ⟨hnew, hkeyed⟩ := List.nodup_cons.mp hkeyed
    obtain ⟨p, more, hp, hunder⟩ := hpart.exists_first (rename inner)
    cases others with
    | nil =>
      rw [List.flatMap_nil, List.nil_append, List.flatMap_cons, hp] at h
      exact absurd hunder (hrest' p (by simp [← h]) inner)
    | cons other others =>
      obtain ⟨inner', w⟩ := other
      obtain ⟨hother, hothers⟩ := List.forall_mem_cons.mp hnames'
      obtain ⟨hpart', hmore⟩ := List.forall_mem_cons.mp hparts'
      obtain ⟨hfresh, hapart⟩ := List.nodup_cons.mp hkeyed'
      obtain ⟨q, more', hq, hunder'⟩ := hpart'.exists_first (rename inner')
      rw [List.flatMap_cons, List.flatMap_cons, List.append_assoc, List.append_assoc] at h
      -- both lists start with the pair that tells the name
      have hfirst : p = q := by
        rw [hp, hq] at h
        exact (List.cons.inj h).1
      obtain rfl : inner = inner' := hrename _ _ _ hname hother hunder (hfirst ▸ hunder')
      obtain ⟨hhead, htail⟩ := htold (rename inner) w _ _ hpart'
        (not_under_of_mem hrename hname hnames hnew fun p hp => hrest p hp inner)
        (not_under_of_mem hrename hname hothers hfresh fun p hp => hrest' p hp inner) h
      obtain ⟨hmembers, heq⟩ := ih hkeyed hapart hnames hothers hparts hmore htolds htail
      exact ⟨.cons hhead hmembers, heq⟩

end Members

/-- A plain value is told by its pairs: what stands behind the name gives its form, and its parts
are told in turn. -/
theorem IsPlain.isTold {v : Json} (hv : IsPlain v) : IsTold v := by
  induction hv with
  | @leaf v text shown =>
    intro name w rest rest' hw hrest hrest' h
    obtain ⟨behind, hfits, hfits'⟩ := exists_fits (.leaf shown) hw h
    obtain rfl : behind = [] := (fits_leaf_iff shown).mp hfits
    cases hw with
    | leaf shown' =>
      rw [flatten_leaf shown, flatten_leaf shown'] at h
      obtain ⟨hhead, htail⟩ := List.cons.inj h
      obtain rfl : text = _ := congrArg Prod.snd hhead
      exact ⟨.leaf shown shown', htail⟩
    | array => cases hfits'
    | object =>
      obtain ⟨c, more, hc, -⟩ := hfits'
      cases hc
  | @array items nonempty leaves =>
    intro name w rest rest' hw hrest hrest' h
    obtain ⟨behind, hfits, hfits'⟩ := exists_fits (.array nonempty leaves) hw h
    obtain rfl : behind = ['[', ']'] := hfits
    cases hw with
    | leaf shown' => cases (fits_leaf_iff shown').mp hfits'
    | array nonempty' leaves' =>
      rw [flatten, flatten] at h
      obtain ⟨hitems, heq⟩ := sameItems_of_eq leaves leaves'
        (fun p hp hkey => hrest p hp (hkey ▸ under_array name))
        (fun p hp hkey => hrest' p hp (hkey ▸ under_array name)) h
      exact ⟨.array hitems, heq⟩
    | object =>
      obtain ⟨c, more, hc, hne⟩ := hfits'
      cases hc
      exact absurd rfl hne
  | @object members nonempty keyed names parts ih =>
    intro name w rest rest' hw hrest hrest' h
    obtain ⟨behind, hfits, hfits'⟩ := exists_fits (.object nonempty keyed names parts) hw h
    obtain ⟨c, more, rfl, hne⟩ := hfits
    cases hw with
    | leaf shown' => cases (fits_leaf_iff shown').mp hfits'
    | array =>
      cases hfits'
      exact absurd rfl hne
    | object nonempty' keyed' names' parts' =>
      rw [flatten, flatten, flattenMembers_eq, flattenMembers_eq] at h
      obtain ⟨hmembers, heq⟩ := sameMembers_of_eq (fun _ _ _ => eq_of_under_memberName)
        keyed keyed' (fun m hm => (names m hm).2) (fun m hm => (names' m hm).2) parts parts' ih
        (fun p hp inner hunder => hrest p hp hunder.of_memberName)
        (fun p hp inner hunder => hrest' p hp hunder.of_memberName) h
      exact ⟨.object hmembers, heq⟩

/-- **Pairs tell plain queries**: two of them with the same pairs have the same form, the same names
in the same order and leaves of the same texts. They are the same query if their leaves are
strings. -/
theorem pairs_tell_plain_queries {q r : Json} (hq : IsPlainQuery q) (hr : IsPlainQuery r)
    (h : pairs q = pairs r) : SameTree q r ∧ (IsTextual q → IsTextual r → q = r) := by
  suffices hsame : SameTree q r from ⟨hsame, hsame.eq q r⟩
  cases hq with | object keyed names parts =>
  cases hr with | object keyed' names' parts' =>
  obtain ⟨hmembers, -⟩ := sameMembers_of_eq (fun _ _ _ => eq_of_under) keyed keyed' names names'
    parts parts' (fun m hm => (parts m hm).isTold) (List.forall_mem_nil _) (List.forall_mem_nil _)
    (congrArg (· ++ []) h)
  exact .object hmembers

/-- A query with a value nested in it. -/
def deepQuery (v : Json) : Json :=
  .object [("filters", .object [("status", .string "active"),
    ("tags", .array [.string "t1", .string "t2"])]), ("nested", .object [("deep", v)])]

theorem isPlainQuery_deepQuery {v : Json} {text : String} (h : scalarText? v = some text) :
    IsPlainQuery (deepQuery v) := by
  have hkeyed : IsKeyed [("status", .string "active"),
      ("tags", .array [.string "t1", .string "t2"])] := by
    simp [IsKeyed]
  refine .object (by simp [IsKeyed]) (by simp [IsBare]) ?_
  simp only [List.forall_mem_cons, List.not_mem_nil, false_implies, implies_true, and_true]
  refine ⟨.object (by simp) hkeyed (by simp [IsBare]) ?_, .object (by simp) (by simp [IsKeyed])
    (by simp [IsBare]) ?_⟩
  · simp only [List.forall_mem_cons, List.not_mem_nil, false_implies, implies_true, and_true]
    refine ⟨.leaf rfl, .array (by simp) ?_⟩
    simp [scalarText?]
  · simpa using .leaf h

/-- A number gives the pair that a string of its text gives, and nothing else is left open. -/
theorem number_passes_for_its_text :
    IsPlainQuery (deepQuery (.number (.integer ⟨42, by decide⟩))) ∧
    IsPlainQuery (deepQuery (.string "42")) ∧
    pairs (deepQuery (.number (.integer ⟨42, by decide⟩))) = pairs (deepQuery (.string "42")) ∧
    SameTree (deepQuery (.number (.integer ⟨42, by decide⟩))) (deepQuery (.string "42")) := by
  have hnumber : IsPlainQuery (deepQuery (.number (.integer ⟨42, by decide⟩))) :=
    isPlainQuery_deepQuery rfl
  have hstring : IsPlainQuery (deepQuery (.string "42")) := isPlainQuery_deepQuery rfl
  have hpairs : pairs (deepQuery (.number (.integer ⟨42, by decide⟩)))
      = pairs (deepQuery (.string "42")) := by
    decide
  exact ⟨hnumber, hstring, hpairs, (pairs_tell_plain_queries hnumber hstring hpairs).1⟩

end Courier.Query
