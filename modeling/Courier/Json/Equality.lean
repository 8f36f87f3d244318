import Courier.Json.Basic

/-!
# Equality of JSON values

Two values are equal if they are so part by part. Floating-point numbers are compared as they are
written, so the two zeros differ.
-/

namespace Courier.Json

mutual

/-- Whether two values are equal. -/
def same : Json → Json → Bool
  | .null, .null => true
  | .bool a, .bool b => a == b
  | .number a, .number b => decide (a = b)
  | .string a, .string b => a == b
  | .array as, .array bs => sameItems as bs
  | .object as, .object bs => sameMembers as bs
  | _, _ => false

/-- Whether two lists of values are equal. -/
def sameItems : List Json → List Json → Bool
  | [], [] => true
  | a :: as, b :: bs => same a b && sameItems as bs
  | _, _ => false

/-- Whether two lists of members are equal. -/
def sameMembers : List (String × Json) → List (String × Json) → Bool
  | [], [] => true
  | (m, a) :: as, (n, b) :: bs => m == n && same a b && sameMembers as bs
  | _, _ => false

end

mutual

theorem same_iff : (a b : Json) → (same a b = true ↔ a = b)
  | .null, b => by cases b <;> simp [same]
  | .bool x, b => by cases b <;> simp [same]
  | .number x, b => by cases b <;> simp [same]
  | .string x, b => by cases b <;> simp [same]
  | .array xs, b => by
    cases b with
    | array ys => simp [same, sameItems_iff xs ys]
    | _ => simp [same]
  | .object xs, b => by
    cases b with
    | object ys => simp [same, sameMembers_iff xs ys]
    | _ => simp [same]

theorem sameItems_iff : (as bs : List Json) → (sameItems as bs = true ↔ as = bs)
  | [], bs => by cases bs <;> simp [sameItems]
  | a :: as, bs => by
    cases bs with
    | nil => simp [sameItems]
    | cons b bs => simp [sameItems, same_iff a b, sameItems_iff as bs]

theorem sameMembers_iff : (as bs : List (String × Json)) → (sameMembers as bs = true ↔ as = bs)
  | [], bs => by cases bs <;> simp [sameMembers]
  | (m, a) :: as, bs => by
    cases bs with
    | nil => simp [sameMembers]
    | cons head bs =>
      obtain ⟨n, b⟩ := head
      simp [sameMembers, same_iff a b, sameMembers_iff as bs]

end

instance : DecidableEq Json :=
  fun a b => decidable_of_iff (same a b = true) (same_iff a b)

end Courier.Json
