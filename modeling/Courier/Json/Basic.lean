import Courier.Number.Decimal

/-!
# JSON values

A value keeps all that its text shows: the order of members, and whether a number is an integer or
a floating-point number. An object is a list of members; adding a member under a name that is
already there replaces the value and keeps the place.
-/

namespace Courier

/-- An integer of 64 bits, with or without a sign. -/
structure JsonInteger where
  value : Int
  inRange : -9223372036854775808 ≤ value ∧ value < 18446744073709551616
deriving DecidableEq

/-- A number: an integer of 64 bits, or a finite floating-point number. -/
inductive JsonNumber where
  | integer (n : JsonInteger)
  | float (x : Finite64)
deriving DecidableEq

/-- A JSON value. -/
inductive Json where
  | null
  | bool (b : Bool)
  | number (n : JsonNumber)
  | string (s : String)
  | array (items : List Json)
  | object (members : List (String × Json))

namespace JsonInteger

/-- An integer, if 64 bits hold it. -/
def ofInt? (n : Int) : Option JsonInteger :=
  if h : -9223372036854775808 ≤ n ∧ n < 18446744073709551616 then some ⟨n, h⟩ else none

/-- A count of 64 bits. -/
def ofUInt64 (n : UInt64) : JsonInteger :=
  ⟨n.toNat, by have := n.toNat_lt; omega⟩

end JsonInteger

/-! ### Lists of named values in order -/

namespace Members

variable {α : Type}

/-- Sets the value of a name: in its place if the name is there, else at the end. -/
def insert (name : String) (value : α) : List (String × α) → List (String × α)
  | [] => [(name, value)]
  | (n, v) :: rest => if n = name then (n, value) :: rest else (n, v) :: insert name value rest

/-- The members added one by one. -/
def ofList (entries : List (String × α)) : List (String × α) :=
  entries.foldl (fun members (name, value) => insert name value members) []

/-- The value of a name. -/
def get? (name : String) : List (String × α) → Option α
  | [] => none
  | (n, v) :: rest => if n = name then some v else get? name rest

/-- Sets the value of a name in a list sorted by name. Names are in the order of their code points,
which is also the order of their bytes. -/
def insertSorted (name : String) (value : α) : List (String × α) → List (String × α)
  | [] => [(name, value)]
  | (n, v) :: rest =>
    if n = name then (n, value) :: rest
    else if name < n then (name, value) :: (n, v) :: rest
    else (n, v) :: insertSorted name value rest

/-- Names that rise, so that none is repeated. -/
def IsSorted (members : List (String × α)) : Prop :=
  members.Pairwise fun a b => a.1 < b.1

theorem lt_of_not_lt_of_ne {a b : String} (h : a ≠ b) (hn : ¬ a < b) : b < a := by
  rcases String.le_total a b with hab | hba
  · exact absurd (String.le_antisymm hab (String.not_lt.1 hn)) h
  · exact String.not_le.1 fun hab => h (String.le_antisymm hab hba)

/-- Setting a value brings in no name but its own. -/
theorem mem_insertSorted {name : String} {value : α} {members : List (String × α)}
    {entry : String × α} (h : entry ∈ insertSorted name value members) :
    entry = (name, value) ∨ entry ∈ members := by
  induction members with
  | nil => simpa [insertSorted] using h
  | cons head rest ih =>
    obtain ⟨n, v⟩ := head
    unfold insertSorted at h
    split at h
    · subst_vars; grind
    · split at h
      · grind
      · grind

/-- Setting a value keeps the names in order. -/
theorem IsSorted.insertSorted {name : String} {value : α} {members : List (String × α)}
    (h : IsSorted members) : IsSorted (Members.insertSorted name value members) := by
  induction members with
  | nil => simp [IsSorted, Members.insertSorted]
  | cons head rest ih =>
    obtain ⟨n, v⟩ := head
    obtain ⟨hhead, hrest⟩ := List.pairwise_cons.1 h
    unfold Members.insertSorted
    split
    · exact List.pairwise_cons.2 ⟨hhead, hrest⟩
    · next hne =>
      split
      · next hlt =>
        refine List.pairwise_cons.2 ⟨fun entry hentry => ?_, h⟩
        rcases List.mem_cons.1 hentry with rfl | hin
        · exact hlt
        · exact String.lt_trans hlt (hhead entry hin)
      · next hnlt =>
        refine List.pairwise_cons.2 ⟨fun entry hentry => ?_, ih hrest⟩
        rcases mem_insertSorted hentry with rfl | hin
        · exact lt_of_not_lt_of_ne (Ne.symm hne) hnlt
        · exact hhead entry hin

/-- The members sorted by name; of several under one name, the last. -/
def sorted (entries : List (String × α)) : List (String × α) :=
  entries.foldl (fun members entry => insertSorted entry.1 entry.2 members) []

theorem isSorted_sorted (entries : List (String × α)) : IsSorted (sorted entries) := by
  suffices h : ∀ members : List (String × α), IsSorted members →
      IsSorted (entries.foldl (fun members entry => insertSorted entry.1 entry.2 members) members)
    from h [] List.Pairwise.nil
  induction entries with
  | nil => exact fun _ h => h
  | cons entry rest ih => exact fun members h => ih _ h.insertSorted

end Members

namespace Json

/-- A natural number that 64 bits hold. -/
def ofUInt64 (n : UInt64) : Json :=
  .number (.integer (.ofUInt64 n))

/-- A floating-point number; all that is not finite becomes `null`. -/
def ofBinary64 : Binary64 → Json
  | .finite x => .number (.float x)
  | .infinite _ | .nan => .null

end Json

end Courier
