import Mathlib.Data.List.Induction
import Courier.Proofs.Query.Plain

/-!
# Pairs are leaves

A leaf of a query is a string, a number or a truth value at the end of a way that leads from the
root into one part after the other. The pairs of a query are its leaves in the order of the text,
each once, under the names on the way to them. `null` and containers without leaves have no say.
-/

namespace Courier.Query

/-! ## Ways to leaves -/

/-- A step into a part: how many parts stand before it, and its name if it is one of an object. -/
structure Branch where
  index : Nat
  name : Option String
deriving DecidableEq, Repr

/-- The parts of a container in order, with their names if it is an object. -/
def parts : Json → List (Option String × Json)
  | .array items => items.map fun v => (none, v)
  | .object members => members.map fun (name, v) => (some name, v)
  | _ => []

/-- A way through a value leads to a part of it. -/
def LeadsTo : Json → List Branch → Json → Prop
  | v, [], w => v = w
  | v, b :: way, w => ∃ u, (parts v)[b.index]? = some (b.name, u) ∧ LeadsTo u way w

/-- A leaf: the way to it, and its text. -/
structure Leaf where
  way : List Branch
  text : String
deriving DecidableEq, Repr

namespace Leaf

/-- A leaf of a value. -/
def IsIn (leaf : Leaf) (v : Json) : Prop :=
  ∃ w, LeadsTo v leaf.way w ∧ scalarText? w = some leaf.text

/-- A leaf of one of some parts. -/
def IsAmong (leaf : Leaf) (ps : List (Option String × Json)) : Prop :=
  ∃ b way v, leaf.way = b :: way ∧ ps[b.index]? = some (b.name, v) ∧ IsIn ⟨way, leaf.text⟩ v

/-- The places of the parts that a leaf is in, outermost first. -/
def places (leaf : Leaf) : List Nat :=
  leaf.way.map (·.index)

/-- The leaf as one of the value that has this value as a part. -/
def under (b : Branch) (leaf : Leaf) : Leaf :=
  ⟨b :: leaf.way, leaf.text⟩

end Leaf

/-- Some leaves in the order of the text, each once. -/
structure IsListing (which : Leaf → Prop) (leaves : List Leaf) : Prop where
  mem_iff : ∀ leaf, leaf ∈ leaves ↔ which leaf
  inOrder : leaves.Pairwise fun a b => a.places < b.places

/-- What a step adds to a name: the name of a member in brackets, and for an item the brackets
alone. -/
def bracketed (name : Option String) : String :=
  "[" ++ name.getD "" ++ "]"

/-- The name of what is at the end of a way that starts under a name. -/
def nameAfter (name : String) (way : List Branch) : String :=
  way.foldl (fun name b => name ++ bracketed b.name) name

/-- The pair of a leaf. The first name on the way is that of a member of the root. -/
def Leaf.pair (leaf : Leaf) : String × String :=
  match leaf.way with
  | [] => ("", leaf.text)
  | b :: way => (nameAfter (b.name.getD "") way, leaf.text)

/-! ## Values by their parts -/

theorem sizeOf_lt_of_mem_parts {v : Json} {p : Option String × Json} (h : p ∈ parts v) :
    sizeOf p.2 < sizeOf v := by
  cases v with
  | array items =>
    obtain ⟨w, hw, rfl⟩ := List.mem_map.mp h
    have hsize := List.sizeOf_lt_of_mem hw
    simp only [Json.array.sizeOf_spec]
    omega
  | object members =>
    obtain ⟨⟨name, w⟩, hm, rfl⟩ := List.mem_map.mp h
    have hsize := List.sizeOf_lt_of_mem hm
    simp only [Prod.mk.sizeOf_spec] at hsize
    simp only [Json.object.sizeOf_spec]
    omega
  | null | bool | number | string => cases h

theorem parts_of_scalar {v : Json} {text : String} (h : scalarText? v = some text) :
    parts v = [] := by
  cases v with
  | null | bool | number | string => rfl
  | array | object => cases h

theorem flattenItems_eq (name : String) (items : List Json) :
    flattenItems name items = items.flatMap (flatten name) := by
  induction items with
  | nil => rfl
  | cons v rest ih => rw [flattenItems, ih, List.flatMap_cons]

/-- The pairs of all that is no leaf are those of its parts. -/
theorem flatten_eq_flatMap_parts {v : Json} (h : scalarText? v = none) (name : String) :
    flatten name v = (parts v).flatMap fun p => flatten (name ++ bracketed p.1) p.2 := by
  cases v with
  | null => rfl
  | array items =>
    have hbrackets : bracketed none = "[]" := rfl
    rw [flatten, flattenItems_eq, parts, List.flatMap_map]
    simp only [hbrackets]
  | object members =>
    rw [flatten, flattenMembers_eq, parts, List.flatMap_map]
    simp only [memberName, bracketed, Option.getD_some, String.append_assoc]
  | bool | number | string => cases h

/-! ## All leaves in order -/

theorem isIn_scalar_iff {v : Json} {text : String} (h : scalarText? v = some text) (leaf : Leaf) :
    leaf.IsIn v ↔ leaf = ⟨[], text⟩ := by
  obtain ⟨way, shown⟩ := leaf
  cases way with
  | nil => simp [Leaf.IsIn, LeadsTo, h, eq_comm]
  | cons b way => simp [Leaf.IsIn, LeadsTo, parts_of_scalar h]

theorem isIn_iff_isAmong {v : Json} (h : scalarText? v = none) (leaf : Leaf) :
    leaf.IsIn v ↔ leaf.IsAmong (parts v) := by
  obtain ⟨way, text⟩ := leaf
  cases way with
  | nil => simp [Leaf.IsIn, Leaf.IsAmong, LeadsTo, h]
  | cons b way =>
    constructor
    · rintro ⟨w, ⟨u, hpart, hway⟩, htext⟩
      exact ⟨b, way, u, rfl, hpart, w, hway, htext⟩
    · rintro ⟨_, _, u, heq, hpart, w, hway, htext⟩
      cases heq
      exact ⟨w, ⟨u, hpart, hway⟩, htext⟩

/-- The leaves of one more part come behind those of the parts before it. -/
theorem isAmong_concat_iff (ps : List (Option String × Json)) (p : Option String × Json)
    (leaf : Leaf) : leaf.IsAmong (ps ++ [p]) ↔
      leaf.IsAmong ps ∨ ∃ inner : Leaf, inner.IsIn p.2 ∧ inner.under ⟨ps.length, p.1⟩ = leaf := by
  obtain ⟨name, v⟩ := p
  constructor
  · rintro ⟨b, way, u, hway, hpart, hin⟩
    rw [List.getElem?_append] at hpart
    split at hpart
    · exact .inl ⟨b, way, u, hway, hpart, hin⟩
    · next hge =>
      obtain ⟨hindex, heq⟩ := List.getElem?_eq_some_iff.mp hpart
      simp only [List.length_singleton] at hindex
      simp only [List.getElem_singleton, Prod.mk.injEq] at heq
      obtain ⟨rfl, rfl⟩ := heq
      have hb : b = ⟨ps.length, b.name⟩ := by
        obtain ⟨index, name⟩ := b
        simp only [Branch.mk.injEq, and_true]
        simp only at hge hindex
        omega
      refine .inr ⟨⟨way, leaf.text⟩, hin, ?_⟩
      rw [Leaf.under, ← hb, ← hway]
  · rintro (⟨b, way, u, hway, hpart, hin⟩ | ⟨inner, hin, rfl⟩)
    · obtain ⟨hindex, -⟩ := List.getElem?_eq_some_iff.mp hpart
      exact ⟨b, way, u, hway, by rw [List.getElem?_append_left hindex, hpart], hin⟩
    · exact ⟨⟨ps.length, name⟩, inner.way, v, rfl, by simp, hin⟩

theorem index_lt_of_isAmong {leaf : Leaf} {ps : List (Option String × Json)}
    (h : leaf.IsAmong ps) : ∃ i more, leaf.places = i :: more ∧ i < ps.length := by
  obtain ⟨b, way, v, hway, hpart, -⟩ := h
  obtain ⟨hindex, -⟩ := List.getElem?_eq_some_iff.mp hpart
  exact ⟨b.index, way.map (·.index), by rw [Leaf.places, hway, List.map_cons], hindex⟩

/-- **One more part**: its leaves are listed behind those of the parts before it. -/
theorem isListing_concat {ps : List (Option String × Json)} {p : Option String × Json}
    {before inside : List Leaf} (hbefore : IsListing (·.IsAmong ps) before)
    (hinside : IsListing (·.IsIn p.2) inside) :
    IsListing (·.IsAmong (ps ++ [p])) (before ++ inside.map (·.under ⟨ps.length, p.1⟩)) where
  mem_iff leaf := by
    rw [isAmong_concat_iff, List.mem_append, hbefore.mem_iff, List.mem_map]
    simp only [hinside.mem_iff]
  inOrder := by
    refine List.pairwise_append.mpr ⟨hbefore.inOrder, ?_, ?_⟩
    · refine List.pairwise_map.mpr (hinside.inOrder.imp ?_)
      intro a b hab
      exact List.cons_lt_cons_iff.mpr (.inr ⟨rfl, hab⟩)
    · intro a ha b hb
      obtain ⟨inner, -, rfl⟩ := List.mem_map.mp hb
      obtain ⟨i, more, hplaces, hlt⟩ := index_lt_of_isAmong ((hbefore.mem_iff a).mp ha)
      rw [hplaces]
      exact List.cons_lt_cons_iff.mpr (.inl hlt)

/-- If each part has pairs for its leaves, so have all parts one after the other. -/
theorem exists_listing_of_parts (ps : List (Option String × Json))
    (pairsOf : Option String × Json → List (String × String)) (pairOf : Leaf → String × String)
    (h : ∀ p ∈ ps, ∃ inside, IsListing (·.IsIn p.2) inside ∧
      ∀ index, pairsOf p = inside.map fun leaf => pairOf (leaf.under ⟨index, p.1⟩)) :
    ∃ leaves, IsListing (·.IsAmong ps) leaves ∧ ps.flatMap pairsOf = leaves.map pairOf := by
  -- the last part first, so that the places of the others stay what they are
  induction ps using List.reverseRecOn with
  | nil => exact ⟨[], ⟨by simp [Leaf.IsAmong], .nil⟩, rfl⟩
  | append_singleton ps p ih =>
    obtain ⟨before, hbefore, hps⟩ := ih fun q hq => h q (List.mem_append_left _ hq)
    obtain ⟨inside, hinside, hp⟩ := h p (by simp)
    refine ⟨_, isListing_concat hbefore hinside, ?_⟩
    rw [List.flatMap_append, List.map_append, hps, List.flatMap_singleton, hp ps.length,
      List.map_map]
    rfl

/-- **The pairs of a value** under a name are its leaves in order. -/
theorem exists_listing_flatten (name : String) (v : Json) :
    ∃ leaves, IsListing (·.IsIn v) leaves ∧
      flatten name v = leaves.map fun leaf => (nameAfter name leaf.way, leaf.text) := by
  cases hshown : scalarText? v with
  | some text =>
    refine ⟨[⟨[], text⟩], ⟨?_, List.pairwise_singleton _ _⟩, flatten_leaf hshown name⟩
    intro leaf
    rw [isIn_scalar_iff hshown, List.mem_singleton]
  | none =>
    have hparts : ∀ p ∈ parts v, ∃ inside, IsListing (·.IsIn p.2) inside ∧
        flatten (name ++ bracketed p.1) p.2 = inside.map fun leaf =>
          (nameAfter (name ++ bracketed p.1) leaf.way, leaf.text) := by
      intro p hp
      have hsize := sizeOf_lt_of_mem_parts hp
      exact exists_listing_flatten (name ++ bracketed p.1) p.2
    obtain ⟨leaves, hleaves, hpairs⟩ := exists_listing_of_parts (parts v)
      (fun p => flatten (name ++ bracketed p.1) p.2)
      (fun leaf => (nameAfter name leaf.way, leaf.text))
      (fun p hp => (hparts p hp).imp fun _ h => ⟨h.1, fun _ => h.2⟩)
    refine ⟨leaves, ?_, ?_⟩
    · simpa only [isIn_iff_isAmong hshown] using hleaves
    · rw [flatten_eq_flatMap_parts hshown, hpairs]
termination_by sizeOf v

/-! ## How many -/

mutual

/-- How many leaves a value has. -/
def leafCount : Json → Nat
  | .null => 0
  | .bool _ | .number _ | .string _ => 1
  | .array items => itemsLeafCount items
  | .object members => membersLeafCount members

/-- How many leaves some items have. -/
def itemsLeafCount : List Json → Nat
  | [] => 0
  | v :: rest => leafCount v + itemsLeafCount rest

/-- How many leaves some members have. -/
def membersLeafCount : List (String × Json) → Nat
  | [] => 0
  | (_, v) :: rest => leafCount v + membersLeafCount rest

end

mutual

theorem length_flatten : (name : String) → (v : Json) → (flatten name v).length = leafCount v
  | _, .null | _, .bool _ | _, .number _ | _, .string _ => rfl
  | name, .array items => length_flattenItems (name ++ "[]") items
  | name, .object members => by
    rw [flatten, flattenMembers_eq, length_memberPairs, leafCount]

theorem length_flattenItems : (name : String) → (items : List Json) →
    (flattenItems name items).length = itemsLeafCount items
  | _, [] => rfl
  | name, v :: rest => by
    rw [flattenItems, List.length_append, length_flatten, length_flattenItems, itemsLeafCount]

theorem length_memberPairs : (rename : String → String) → (members : List (String × Json)) →
    (members.flatMap fun m => flatten (rename m.1) m.2).length = membersLeafCount members
  | _, [] => rfl
  | rename, (name, v) :: rest => by
    rw [List.flatMap_cons, List.length_append, length_flatten, length_memberPairs,
      membersLeafCount]

end

/-! ## What has no say -/

/-- `null`, and containers without parts. -/
def isVoid : Json → Bool
  | .null => true
  | .array items => items.isEmpty
  | .object members => members.isEmpty
  | .bool _ | .number _ | .string _ => false

mutual

/-- A value without its void parts. Nothing is left of one that is void without them. -/
def prune : Json → Option Json
  | .null => none
  | .array items =>
    let left := pruneItems items
    if left.isEmpty then none else some (.array left)
  | .object members =>
    let left := pruneMembers members
    if left.isEmpty then none else some (.object left)
  | v => some v

/-- What is left of some items. -/
def pruneItems : List Json → List Json
  | [] => []
  | v :: rest => (prune v).toList ++ pruneItems rest

/-- What is left of some members. -/
def pruneMembers : List (String × Json) → List (String × Json)
  | [] => []
  | (name, v) :: rest => ((prune v).map fun left => (name, left)).toList ++ pruneMembers rest

end

/-- Nothing void is anywhere inside. -/
def IsPruned (v : Json) : Prop :=
  ∀ way w, LeadsTo v way w → way ≠ [] → isVoid w = false

mutual

theorem flatten_prune : (name : String) → (v : Json) →
    (prune v).toList.flatMap (flatten name) = flatten name v
  | _, .null => rfl
  | _, .bool _ | _, .number _ | _, .string _ => by simp [prune]
  | name, .array items => by
    rw [prune, flatten, ← flattenItems_prune]
    split
    · next hempty => rw [List.isEmpty_iff.mp hempty]; rfl
    · exact List.flatMap_singleton _ _
  | name, .object members => by
    rw [prune, flatten, flattenMembers_eq, ← memberPairs_prune]
    split
    · next hempty => rw [List.isEmpty_iff.mp hempty]; rfl
    · rw [← flattenMembers_eq]
      exact List.flatMap_singleton _ _

theorem flattenItems_prune : (name : String) → (items : List Json) →
    flattenItems name (pruneItems items) = flattenItems name items
  | _, [] => rfl
  | name, v :: rest => by
    rw [pruneItems, flattenItems_eq, List.flatMap_append, flatten_prune, ← flattenItems_eq,
      flattenItems_prune, flattenItems]

theorem memberPairs_prune : (rename : String → String) → (members : List (String × Json)) →
    ((pruneMembers members).flatMap fun m => flatten (rename m.1) m.2)
      = members.flatMap fun m => flatten (rename m.1) m.2
  | _, [] => rfl
  | rename, (name, v) :: rest => by
    rw [pruneMembers, List.flatMap_append, memberPairs_prune, List.flatMap_cons, ← flatten_prune,
      Option.toList_map, List.flatMap_map]

end

theorem exists_of_mem_pruneItems {items : List Json} {w : Json} (h : w ∈ pruneItems items) :
    ∃ v, prune v = some w := by
  induction items with
  | nil => cases h
  | cons v rest ih =>
    rcases List.mem_append.mp h with hv | hrest
    · exact ⟨v, Option.mem_toList.mp hv⟩
    · exact ih hrest

theorem exists_of_mem_pruneMembers {members : List (String × Json)} {m : String × Json}
    (h : m ∈ pruneMembers members) : ∃ v, prune v = some m.2 := by
  induction members with
  | nil => cases h
  | cons head rest ih =>
    obtain ⟨name, v⟩ := head
    rcases List.mem_append.mp h with hv | hrest
    · obtain ⟨left, hleft, rfl⟩ := Option.map_eq_some_iff.mp (Option.mem_toList.mp hv)
      exact ⟨v, hleft⟩
    · exact ih hrest

/-- What is left of a value is not void, and its parts are what is left of parts. -/
theorem of_prune_eq_some {v w : Json} (h : prune v = some w) :
    isVoid w = false ∧ ∀ p ∈ parts w, ∃ u, prune u = some p.2 := by
  cases v with
  | null => cases h
  | bool | number | string =>
    cases h
    exact ⟨rfl, List.forall_mem_nil _⟩
  | array items =>
    obtain ⟨hne, rfl⟩ : ¬ (pruneItems items).isEmpty ∧ .array (pruneItems items) = w := by
      simpa [prune] using h
    refine ⟨Bool.not_eq_true _ ▸ hne, ?_⟩
    intro p hp
    obtain ⟨u, hu, rfl⟩ := List.mem_map.mp hp
    exact exists_of_mem_pruneItems hu
  | object members =>
    obtain ⟨hne, rfl⟩ : ¬ (pruneMembers members).isEmpty ∧
        .object (pruneMembers members) = w := by
      simpa [prune] using h
    refine ⟨Bool.not_eq_true _ ▸ hne, ?_⟩
    intro p hp
    obtain ⟨m, hm, rfl⟩ := List.mem_map.mp hp
    exact exists_of_mem_pruneMembers hm

/-- What is inside of what is left of a value is what is left of another one. -/
theorem exists_of_leadsTo {way : List Branch} {v u w : Json} (h : prune v = some u)
    (hway : LeadsTo u way w) : ∃ t, prune t = some w := by
  induction way generalizing v u with
  | nil =>
    obtain rfl : u = w := hway
    exact ⟨v, h⟩
  | cons b way ih =>
    obtain ⟨part, hpart, hrest⟩ := hway
    obtain ⟨t, ht⟩ := (of_prune_eq_some h).2 _ (List.mem_of_getElem? hpart)
    exact ih ht hrest

theorem isPruned_pruneMembers (members : List (String × Json)) :
    IsPruned (.object (pruneMembers members)) := by
  intro way w hway hne
  obtain ⟨b, way, rfl⟩ := List.exists_cons_of_ne_nil hne
  obtain ⟨u, hpart, hrest⟩ := hway
  obtain ⟨m, hm, heq⟩ := List.mem_map.mp (List.mem_of_getElem? hpart)
  obtain ⟨v, hv⟩ := exists_of_mem_pruneMembers hm
  obtain rfl : m.2 = u := congrArg Prod.snd heq
  obtain ⟨t, ht⟩ := exists_of_leadsTo hv hrest
  exact (of_prune_eq_some ht).1

/-! ## The pairs of a query -/

/-- The pairs of an object, with a place for the name that each member starts with. -/
theorem pairs_eq_flatMap_parts (members : List (String × Json)) :
    pairs (.object members)
      = (parts (.object members)).flatMap fun p => flatten (p.1.getD "") p.2 := by
  rw [pairs, parts, List.flatMap_map]
  rfl

theorem exists_listing_pairs (members : List (String × Json)) :
    ∃ leaves, IsListing (·.IsIn (.object members)) leaves ∧
      pairs (.object members) = leaves.map Leaf.pair := by
  obtain ⟨leaves, hleaves, hpairs⟩ := exists_listing_of_parts (parts (.object members))
    (fun p => flatten (p.1.getD "") p.2) Leaf.pair
    (fun p _ => (exists_listing_flatten (p.1.getD "") p.2).imp fun _ h => ⟨h.1, fun _ => h.2⟩)
  refine ⟨leaves, ?_, ?_⟩
  · simpa only [isIn_iff_isAmong (v := .object members) rfl] using hleaves
  · rw [pairs_eq_flatMap_parts, hpairs]

theorem length_pairs (members : List (String × Json)) :
    (pairs (.object members)).length = leafCount (.object members) :=
  length_memberPairs id members

theorem pairs_pruneMembers (members : List (String × Json)) :
    pairs (.object (pruneMembers members)) = pairs (.object members) :=
  memberPairs_prune id members

/-- **Pairs are leaves**: the pairs of an object are its leaves in the order of the text, each once,
under the names on the way to them. So there are as many pairs as leaves, and without `null` and
empty containers, wherever they are, the pairs are the same. -/
theorem pairs_list_leaves (members : List (String × Json)) :
    (∃ leaves, IsListing (·.IsIn (.object members)) leaves ∧
      pairs (.object members) = leaves.map Leaf.pair) ∧
    (pairs (.object members)).length = leafCount (.object members) ∧
    IsPruned (.object (pruneMembers members)) ∧
    pairs (.object (pruneMembers members)) = pairs (.object members) :=
  ⟨exists_listing_pairs members, length_pairs members, isPruned_pruneMembers members,
    pairs_pruneMembers members⟩

end Courier.Query
