import Mathlib.Data.List.Forall2
import Courier.PathParams
import Courier.Proofs.Steps

/-!
# Which values hold path parameters

`PathParams.ofJson` beside a description that does not run it: the values that hold parameters,
which these are, and for every other value the fault that is reported. A member without a text is
named by its place among the members, so nothing that comes after it matters.
-/

namespace Courier

/-- A string, a number or a truth value. -/
inductive IsScalar : Json → Prop
  | string (s : String) : IsScalar (.string s)
  | number (n : JsonNumber) : IsScalar (.number n)
  | bool (b : Bool) : IsScalar (.bool b)

theorem scalarText?_isSome_iff (v : Json) : (scalarText? v).isSome = true ↔ IsScalar v := by
  constructor
  · intro h
    cases v with
    | string s => exact .string s
    | number n => exact .number n
    | bool b => exact .bool b
    | null | array | object => simp [scalarText?] at h
  · intro h
    cases h <;> rfl

theorem scalarText?_eq_none_iff (v : Json) : scalarText? v = none ↔ ¬ IsScalar v := by
  rw [← scalarText?_isSome_iff, Option.not_isSome_iff_eq_none]

/-- The text of a scalar: a string is its own text, and the others have the text that is written for
them. -/
inductive HasText : Json → String → Prop
  | string (s : String) : HasText (.string s) s
  | number (n : JsonNumber) : HasText (.number n) (Json.number n).text
  | bool (b : Bool) : HasText (.bool b) (Json.bool b).text

theorem scalarText?_eq_some_iff (v : Json) (text : String) :
    scalarText? v = some text ↔ HasText v text := by
  constructor
  · intro h
    cases v with
    | string s =>
      obtain rfl : s = text := Option.some.inj h
      exact .string s
    | number n =>
      obtain rfl : (Json.number n).text = text := Option.some.inj h
      exact .number n
    | bool b =>
      obtain rfl : (Json.bool b).text = text := Option.some.inj h
      exact .bool b
    | null | array | object => cases h
  · intro h
    cases h <;> rfl

namespace PathParams

/-- The values that hold path parameters. -/
inductive Holds : Json → Prop
  | null : Holds .null
  | object {members : List (String × Json)} (scalars : ∀ m ∈ members, IsScalar m.2) :
      Holds (.object members)

/-- What is wrong with a value that holds none. -/
inductive Fault : Json → ParamsError → Prop
  | root {v : Json} (notNull : v ≠ .null) (notObject : ∀ members, v ≠ .object members) :
      Fault v .notAnObject
  | member {before after : List (String × Json)} {name : String} {v : Json}
      (scalars : ∀ m ∈ before, IsScalar m.2) (bad : ¬ IsScalar v) :
      Fault (.object (before ++ (name, v) :: after)) (.badValue name)

/-- A member gives its name with its text. -/
def Gives (member : String × Json) (value : String × String) : Prop :=
  value.1 = member.1 ∧ HasText member.2 value.2

/-- The parameters that a value holds: `null` holds none, and an object one for each member, in
order. -/
inductive Lists : Json → List (String × String) → Prop
  | null : Lists .null []
  | object {members : List (String × Json)} {values : List (String × String)}
      (each : List.Forall₂ Gives members values) : Lists (.object members) values

theorem ofMembers_of_scalars {members : List (String × Json)}
    (h : ∀ m ∈ members, IsScalar m.2) : ∃ values, ofMembers members = .ok values := by
  induction members with
  | nil => exact ⟨[], rfl⟩
  | cons head rest ih =>
    obtain ⟨name, v⟩ := head
    obtain ⟨text, htext⟩ := Option.isSome_iff_exists.mp
      ((scalarText?_isSome_iff v).mpr (h (name, v) (by simp)))
    obtain ⟨values, hvalues⟩ := ih (fun m hm => h m (by simp [hm]))
    exact ⟨(name, text) :: values, by simp [ofMembers, htext, hvalues, Except.map]⟩

/-- The first member without a text decides, whatever follows it. -/
theorem ofMembers_of_bad {before after : List (String × Json)} {name : String} {v : Json}
    (h : ∀ m ∈ before, IsScalar m.2) (hv : ¬ IsScalar v) :
    ofMembers (before ++ (name, v) :: after) = .error (.badValue name) := by
  induction before with
  | nil => simp [ofMembers, (scalarText?_eq_none_iff v).mpr hv]
  | cons head rest ih =>
    -- a scalar before it is kept, and the failure behind it passes through
    obtain ⟨n, w⟩ := head
    obtain ⟨text, htext⟩ := Option.isSome_iff_exists.mp
      ((scalarText?_isSome_iff w).mpr (h (n, w) (by simp)))
    have hrest := ih (fun m hm => h m (by simp [hm]))
    simp [ofMembers, htext, hrest, Except.map]

/-- **Members that are taken** give one parameter each, in order. -/
theorem ofMembers_eq_ok_iff (members : List (String × Json)) (values : List (String × String)) :
    ofMembers members = .ok values ↔ List.Forall₂ Gives members values := by
  induction members generalizing values with
  | nil => rw [ofMembers, List.forall₂_nil_left_iff, Except.ok.injEq, eq_comm]
  | cons head rest ih =>
    obtain ⟨name, v⟩ := head
    rw [ofMembers, List.forall₂_cons_left_iff]
    constructor
    · intro h
      cases htext : scalarText? v with
      | none => simp [htext] at h
      | some text =>
        simp only [htext] at h
        obtain ⟨more, hmore, rfl⟩ := map_eq_ok_iff.mp h
        have hgives : Gives (name, v) (name, text) :=
          ⟨rfl, (scalarText?_eq_some_iff v text).mp htext⟩
        exact ⟨(name, text), more, hgives, (ih more).mp hmore, rfl⟩
    · rintro ⟨⟨n, text⟩, more, ⟨hname, htext⟩, hmore, rfl⟩
      obtain rfl : n = name := hname
      simp only [(scalarText?_eq_some_iff v text).mpr htext]
      exact map_eq_ok_iff.mpr ⟨more, (ih more).mpr hmore, rfl⟩

/-- Members are all scalars, or one of them is the first that is not. -/
theorem scalars_or_bad (members : List (String × Json)) :
    (∀ m ∈ members, IsScalar m.2) ∨
      ∃ before name v after, members = before ++ (name, v) :: after ∧
        (∀ m ∈ before, IsScalar m.2) ∧ ¬ IsScalar v := by
  induction members with
  | nil => exact .inl (by simp)
  | cons head rest ih =>
    obtain ⟨n, w⟩ := head
    by_cases hw : IsScalar w
    · rcases ih with hall | ⟨before, name, v, after, rfl, hb, hv⟩
      · refine .inl ?_
        intro m hm
        rcases List.mem_cons.mp hm with rfl | hm
        · exact hw
        · exact hall m hm
      · refine .inr ⟨(n, w) :: before, name, v, after, rfl, ?_, hv⟩
        intro m hm
        rcases List.mem_cons.mp hm with rfl | hm
        · exact hw
        · exact hb m hm
    · exact .inr ⟨[], n, w, rest, rfl, by simp, hw⟩

/-- Every value holds parameters or has a fault. -/
theorem holds_or_fault (v : Json) : Holds v ∨ ∃ e, Fault v e := by
  cases v with
  | null => exact .inl .null
  | object members =>
    rcases scalars_or_bad members with hall | ⟨before, name, w, after, rfl, hb, hw⟩
    · exact .inl (.object hall)
    · exact .inr ⟨.badValue name, .member hb hw⟩
  | bool | number | string | array =>
    exact .inr ⟨.notAnObject, .root (by simp) (by simp)⟩

theorem ofJson_of_holds {v : Json} (h : Holds v) : ∃ values, ofJson v = .ok values := by
  cases h with
  | null => exact ⟨[], rfl⟩
  | object scalars => exact ofMembers_of_scalars scalars

theorem ofJson_of_fault {v : Json} {e : ParamsError} (h : Fault v e) : ofJson v = .error e := by
  cases h with
  | root notNull notObject =>
    cases v with
    | null => exact absurd rfl notNull
    | object members => exact absurd rfl (notObject members)
    | bool | number | string | array => rfl
  | member scalars bad => exact ofMembers_of_bad scalars bad

/-- Values with parameters are those without a fault. -/
theorem ofJson_eq_error_iff (v : Json) (e : ParamsError) : ofJson v = .error e ↔ Fault v e := by
  constructor
  · intro h
    rcases holds_or_fault v with hv | ⟨e', hv⟩
    · obtain ⟨values, hvalues⟩ := ofJson_of_holds hv
      simp [hvalues] at h
    · rw [ofJson_of_fault hv] at h
      cases h
      exact hv
  · exact ofJson_of_fault

theorem ofJson_eq_ok_iff (v : Json) (values : List (String × String)) :
    ofJson v = .ok values ↔ Lists v values := by
  cases v with
  | null =>
    constructor
    · rintro ⟨⟩
      exact .null
    · rintro ⟨⟩
      rfl
  | object members =>
    rw [ofJson, ofMembers_eq_ok_iff]
    exact ⟨.object, fun h => by cases h; assumption⟩
  | bool | number | string | array => exact iff_of_false (by rintro ⟨⟩) (by rintro ⟨⟩)

theorem ofJson_isOk_iff (v : Json) : (∃ values, ofJson v = .ok values) ↔ Holds v := by
  constructor
  · rintro ⟨values, hvalues⟩
    rcases holds_or_fault v with hv | ⟨e, hv⟩
    · exact hv
    · simp [ofJson_of_fault hv] at hvalues
  · exact ofJson_of_holds

/-- **Which values hold path parameters**: `null`, and objects of nothing but scalars. Each member
gives its name with its text, in order. Any other value is refused for its root, or for the first
member that is no scalar. -/
theorem scalars_listed_or_fault_found (v : Json) :
    ((∃ values, ofJson v = .ok values) ↔ Holds v) ∧
    (∀ values, ofJson v = .ok values ↔ Lists v values) ∧
    ∀ e, ofJson v = .error e ↔ Fault v e :=
  ⟨ofJson_isOk_iff v, ofJson_eq_ok_iff v, ofJson_eq_error_iff v⟩

/-- Three members are no scalars, and the first of them is named. -/
example : ofJson (.object [("id", .bool true), ("tag", .null), ("page", .array []), ("x", .null)])
    = .error (.badValue "tag") := rfl

end PathParams

end Courier
