import Courier.Json.Basic

/-!
# Values under one name

A list of named values may give a name several values. These are they, in order.
-/

namespace Courier.Members

variable {α : Type} {name other : String} {value : α} {entries : List (String × α)}

/-- The values of a name in order. -/
def valuesOf (name : String) (entries : List (String × α)) : List α :=
  (entries.filter (·.1 = name)).map (·.2)

@[simp] theorem valuesOf_nil : valuesOf name ([] : List (String × α)) = [] := rfl

@[simp] theorem valuesOf_cons_self :
    valuesOf name ((name, value) :: entries) = value :: valuesOf name entries := by
  simp [valuesOf]

@[simp] theorem valuesOf_cons_of_ne (h : other ≠ name) :
    valuesOf name ((other, value) :: entries) = valuesOf name entries := by
  simp [valuesOf, h]

theorem any_eq_true_iff : entries.any (·.1 = name) = true ↔ valuesOf name entries ≠ [] := by
  simp [valuesOf]

theorem mem_valuesOf_iff : value ∈ valuesOf name entries ↔ (name, value) ∈ entries := by
  simp only [valuesOf, List.mem_map, List.mem_filter, decide_eq_true_eq]
  constructor
  · rintro ⟨⟨n, v⟩, ⟨hmem, rfl⟩, rfl⟩
    exact hmem
  · intro hmem
    exact ⟨(name, value), ⟨hmem, rfl⟩, rfl⟩

theorem valuesOf_eq_nil (h : name ∉ entries.map (·.1)) : valuesOf name entries = [] := by
  refine List.eq_nil_iff_forall_not_mem.mpr ?_
  intro value hvalue
  exact h (List.mem_map.mpr ⟨_, mem_valuesOf_iff.mp hvalue, rfl⟩)

/-- A name that is there once has one value. -/
theorem valuesOf_eq_singleton (hnodup : (entries.map (·.1)).Nodup) (h : (name, value) ∈ entries) :
    valuesOf name entries = [value] := by
  induction entries with
  | nil => cases h
  | cons head rest ih =>
    obtain ⟨n, v⟩ := head
    obtain ⟨hn, hrest⟩ := List.nodup_cons.mp hnodup
    rcases List.mem_cons.mp h with heq | hmem
    · cases heq
      rw [valuesOf_cons_self, valuesOf_eq_nil hn]
    · have hne : n ≠ name := by
        rintro rfl
        exact hn (List.mem_map.mpr ⟨_, hmem, rfl⟩)
      rw [valuesOf_cons_of_ne hne, ih hrest hmem]

end Courier.Members
