import Mathlib.Data.List.Infix
import Mathlib.Data.List.Nodup
import Courier.Directory.Store
import Courier.Proofs.Text.ByteOrder

/-!
# Users as a set

What is found in a store, as long as no identifier is there twice: a store then is a set of users
with an identifier for each, and every operation is one on this set.
-/

namespace Courier.Directory.Store

/-- No two users have the same identifier. -/
def IsKeyed (store : Store) : Prop :=
  (store.map (·.id)).Nodup

theorem IsKeyed.eq_of_id_eq {store : Store} (h : store.IsKeyed) {a b : User} (ha : a ∈ store)
    (hb : b ∈ store) (hid : a.id = b.id) : a = b :=
  List.inj_on_of_nodup_map h ha hb hid

/-! ## One user -/

theorem find?_eq_some_iff {store : Store} (h : store.IsKeyed) {id : Uuid} {user : User} :
    store.find? id = some user ↔ user ∈ store ∧ user.id = id := by
  constructor
  · intro hfind
    exact ⟨List.mem_of_find?_eq_some hfind, by simpa using List.find?_some hfind⟩
  · rintro ⟨hmem, hid⟩
    cases hfind : store.find? id with
    | none => exact absurd (by simpa using hid) (List.find?_eq_none.mp hfind user hmem)
    | some other =>
      have hother : other.id = id := by simpa using List.find?_some hfind
      rw [h.eq_of_id_eq (List.mem_of_find?_eq_some hfind) hmem (hother.trans hid.symm)]

theorem find?_eq_none_iff {store : Store} {id : Uuid} :
    store.find? id = none ↔ ∀ user ∈ store, user.id ≠ id := by
  rw [find?, List.find?_eq_none]
  exact forall₂_congr fun user _ => by simp

theorem mem_remove_iff {store : Store} {id : Uuid} {user : User} :
    user ∈ store.remove id ↔ user ∈ store ∧ user.id ≠ id := by
  simp [remove]

theorem IsKeyed.remove {store : Store} (h : store.IsKeyed) (id : Uuid) :
    (store.remove id).IsKeyed :=
  h.sublist (List.filter_sublist.map _)

theorem add_eq {store : Store} {user : User} (hnew : ∀ u ∈ store, u.id ≠ user.id) :
    store.add user = store ++ [user] := by
  have hall : ∀ u ∈ store, decide (u.id ≠ user.id) = true := by simpa using hnew
  rw [add, List.filter_eq_self.mpr hall]

theorem IsKeyed.add {store : Store} (h : store.IsKeyed) {user : User}
    (hnew : ∀ u ∈ store, u.id ≠ user.id) : (store.add user).IsKeyed := by
  rw [add_eq hnew, IsKeyed, List.map_append, List.nodup_append]
  refine ⟨h, List.nodup_singleton _, ?_⟩
  intro a ha b hb
  obtain ⟨u, hu, rfl⟩ := List.mem_map.mp ha
  obtain rfl := List.mem_singleton.mp hb
  exact hnew u hu

/-! ## Searches -/

theorem occursIn_iff {part text : List Char} : occursIn part text = true ↔ part <:+: text := by
  induction text with
  | nil => simp [occursIn]
  | cons c text ih =>
    rw [occursIn, Bool.or_eq_true, ih, List.isPrefixOf_iff_prefix, List.infix_cons_iff]

theorem mem_search_iff {store : Store} {text : String} {user : User} :
    user ∈ store.search text ↔ user ∈ store ∧ text.toList <:+: user.name.toList := by
  rw [search, List.mem_mergeSort, List.mem_filter, occursIn_iff]

theorem nodup_search {store : Store} (h : store.IsKeyed) (text : String) :
    (store.search text).Nodup := by
  rw [search, (List.mergeSort_perm _ _).nodup_iff]
  exact (h.of_map).filter _

/-- **Users that were searched for** are in the order of the bytes of their names. -/
theorem pairwise_search (store : Store) (text : String) :
    (store.search text).Pairwise fun a b => Utf8.encode a.name ≤ Utf8.encode b.name := by
  have htrans : ∀ a b c : User, decide (a.name ≤ b.name) = true → decide (b.name ≤ c.name) = true →
      decide (a.name ≤ c.name) = true := by
    simpa using fun a b c : User => String.le_trans
  have htotal : ∀ a b : User, (decide (a.name ≤ b.name) || decide (b.name ≤ a.name)) = true := by
    simpa using fun a b : User => String.le_total a.name b.name
  refine (List.pairwise_mergeSort htrans htotal _).imp ?_
  intro a b hle
  rw [decide_eq_true_eq] at hle
  by_cases heq : a.name = b.name
  · rw [heq]
    exact List.le_refl _
  · have hlt : a.name < b.name := Members.lt_of_not_lt_of_ne (Ne.symm heq) (String.not_lt.mpr hle)
    exact List.le_of_lt (Utf8.encode_lt hlt)

end Courier.Directory.Store
