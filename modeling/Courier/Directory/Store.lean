import Courier.Directory.Uuid

/-!
# Users

The users of a directory in order of creation.
-/

namespace Courier.Directory

/-- A user. -/
structure User where
  id : Uuid
  name : String
deriving DecidableEq, Repr

/-- Users in order of creation. -/
abbrev Store := List User

namespace Store

/-- The user with an identifier. -/
def find? (id : Uuid) (store : Store) : Option User :=
  List.find? (·.id = id) store

/-- Adds a user. A user with the same identifier is replaced. -/
def add (user : User) (store : Store) : Store :=
  store.filter (·.id ≠ user.id) ++ [user]

/-- Removes the user with an identifier. -/
def remove (id : Uuid) (store : Store) : Store :=
  store.filter (·.id ≠ id)

/-- Whether one list stands somewhere in another. -/
def occursIn (part : List Char) : List Char → Bool
  | [] => part.isEmpty
  | c :: cs => part.isPrefixOf (c :: cs) || occursIn part cs

/-- The users whose names contain a text, in the order of their names. Which of two users with one
name comes first is not settled by a search; here it is the one that was created first. -/
def search (text : String) (store : Store) : List User :=
  (store.filter fun u => occursIn text.toList u.name.toList).mergeSort fun a b => a.name ≤ b.name

end Store

end Courier.Directory
