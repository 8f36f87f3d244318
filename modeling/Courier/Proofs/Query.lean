import Courier.Query

/-!
# Queries without pairs

A query has no pairs if nothing in it is a leaf: it is no object, or an object of nothing but `null`
and containers without leaves.
-/

namespace Courier.Query

/-- Values without a leaf: `null`, and containers that hold nothing else. -/
inductive Leafless : Json → Prop
  | null : Leafless .null
  | array {items : List Json} (parts : ∀ v ∈ items, Leafless v) : Leafless (.array items)
  | object {members : List (String × Json)} (parts : ∀ m ∈ members, Leafless m.2) :
      Leafless (.object members)

theorem leafless_array_iff {items : List Json} :
    Leafless (.array items) ↔ ∀ v ∈ items, Leafless v :=
  ⟨fun h => by cases h; assumption, .array⟩

theorem leafless_object_iff {members : List (String × Json)} :
    Leafless (.object members) ↔ ∀ m ∈ members, Leafless m.2 :=
  ⟨fun h => by cases h; assumption, .object⟩

mutual

theorem flatten_eq_nil_iff : (name : String) → (v : Json) → (flatten name v = [] ↔ Leafless v)
  | name, .null => iff_of_true rfl .null
  | name, .bool b => iff_of_false (by simp [flatten]) (by rintro ⟨⟩)
  | name, .number n => iff_of_false (by simp [flatten]) (by rintro ⟨⟩)
  | name, .string s => iff_of_false (by simp [flatten]) (by rintro ⟨⟩)
  | name, .array items => by rw [flatten, flattenItems_eq_nil_iff, leafless_array_iff]
  | name, .object members => by rw [flatten, flattenMembers_eq_nil_iff, leafless_object_iff]

theorem flattenItems_eq_nil_iff : (name : String) → (items : List Json) →
    (flattenItems name items = [] ↔ ∀ v ∈ items, Leafless v)
  | name, [] => by simp [flattenItems]
  | name, item :: rest => by
    rw [flattenItems, List.append_eq_nil_iff, flatten_eq_nil_iff, flattenItems_eq_nil_iff,
      List.forall_mem_cons]

theorem flattenMembers_eq_nil_iff : (name : String) → (members : List (String × Json)) →
    (flattenMembers name members = [] ↔ ∀ m ∈ members, Leafless m.2)
  | name, [] => by simp [flattenMembers]
  | name, (inner, v) :: rest => by
    rw [flattenMembers, List.append_eq_nil_iff, flatten_eq_nil_iff, flattenMembers_eq_nil_iff,
      List.forall_mem_cons]

end

/-- **No pairs**: nothing in the query is a leaf that has a name. -/
theorem pairs_eq_nil_iff (query : Json) :
    pairs query = [] ↔ ∀ members, query = .object members → ∀ m ∈ members, Leafless m.2 := by
  cases query with
  | object members =>
    simp only [pairs, List.flatMap_eq_nil_iff, Json.object.injEq, forall_eq']
    exact forall₂_congr fun m _ => flatten_eq_nil_iff m.1 m.2
  | null | bool | number | string | array => simp [pairs]

end Courier.Query
