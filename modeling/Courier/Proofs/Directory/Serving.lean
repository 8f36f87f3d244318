import Courier.Directory.Service
import Courier.Proofs.Members
import Courier.Proofs.Steps

/-!
# What a request does

Of all requests, only a `POST` of a user and the `DELETE` of one that is there change the users: the
first adds a user, the second removes one. Refused requests and all other routes leave them alone.
-/

namespace Courier.Directory

open Members (valuesOf)

/-! ## Requests -/

namespace Inquiry

/-- A request by a method, with a path that leads to a route. -/
def Reaches (inquiry : Inquiry) (method : String) (route : Route) : Prop :=
  inquiry.method = method ∧ Route.ofPath inquiry.path = some route

/-- A request by a method for the user with an identifier. -/
def AsksFor (inquiry : Inquiry) (method : String) (id : Uuid) : Prop :=
  ∃ raw, inquiry.Reaches method (.user raw) ∧ pathId raw = .ok id

/-- The texts that a query gives to search for. -/
def searchTexts (inquiry : Inquiry) : List String :=
  valuesOf "search" (queryPairs inquiry)

/-- A request for the users whose names contain a text, which is empty if none is given. -/
def Searches (inquiry : Inquiry) (text : String) : Prop :=
  inquiry.Reaches "GET" .users ∧
    (inquiry.searchTexts = [text] ∨ inquiry.searchTexts = [] ∧ text = "")

theorem Reaches.route_eq {inquiry : Inquiry} {a b : String} {r s : Route}
    (h : inquiry.Reaches a r) (h' : inquiry.Reaches b s) : r = s :=
  Option.some.inj (h.2.symm.trans h'.2)

end Inquiry

/-- The status codes of refusals. -/
theorem Rejection.status_mem (r : Rejection) : r.toAnswer.status ∈ [400, 413, 415, 422] := by
  show r.status ∈ _
  cases r with
  | badBody trail error =>
    rw [Rejection.status]
    split <;> simp
  | _ => simp [Rejection.status]

/-! ## Steps that keep the users -/

/-- A request that is not refused leaves the users as they are. -/
def Keeps (store : Store) (outcome : Except Rejection (Answer × Store)) : Prop :=
  ∀ result, outcome = .ok result → result.2 = store

section Keeping

variable (fresh : Uuid) (inquiry : Inquiry) (raw : List Char) (store : Store)

theorem keeps_listUsers : Keeps store (listUsers inquiry store) := by
  intro result h
  obtain ⟨text, -, heq⟩ := bind_eq_ok_iff.mp h
  cases heq
  rfl

theorem keeps_showUser : Keeps store (showUser raw store) := by
  intro result h
  obtain ⟨id, -, heq⟩ := bind_eq_ok_iff.mp h
  split at heq
  · cases heq
    rfl
  · cases heq
    rfl

theorem keeps_createPost : Keeps store (createPost fresh inquiry store) := by
  intro result h
  obtain ⟨publish, -, h⟩ := bind_eq_ok_iff.mp h
  obtain ⟨data, -, heq⟩ := bind_eq_ok_iff.mp h
  cases heq
  rfl

theorem keeps_reflect : Keeps store (reflect inquiry store) := by
  intro result h
  unfold reflect at h
  split at h
  · cases h
  · split at h
    · cases h
    · cases h
      rfl

theorem keeps_answerStatus : Keeps store (answerStatus raw store) := by
  intro result h
  obtain ⟨code, -, heq⟩ := bind_eq_ok_iff.mp h
  cases heq
  rfl

end Keeping

theorem Keeps.orReject_eq {store : Store} {outcome : Except Rejection (Answer × Store)}
    (h : Keeps store outcome) : (orReject store outcome).2 = store := by
  cases outcome with
  | error r => rfl
  | ok result => exact h result rfl

/-! ## All that a step can do -/

section Steps

variable {fresh : Uuid} {inquiry : Inquiry} {store : Store}

theorem trimAnswer_of_ne {method : String} (hhead : method ≠ "HEAD") (hconnect : method ≠ "CONNECT")
    (answer : Answer) : trimAnswer method answer = answer := by
  rw [trimAnswer, if_neg (by simp [hhead, hconnect])]

/-- A request that reaches its route by a method other than `HEAD` and `CONNECT`. -/
theorem step_of_handle {method : String} {route : Route} (hreach : inquiry.Reaches method route)
    (hhead : method ≠ "HEAD") (hconnect : method ≠ "CONNECT")
    {outcome : Except Rejection (Answer × Store)}
    (hhandle : handle fresh inquiry route store = some outcome) :
    step fresh inquiry store = orReject store outcome := by
  obtain ⟨rfl, hroute⟩ := hreach
  simp only [step, hroute, hhandle, trimAnswer_of_ne hhead hconnect]

theorem step_createUser (h : inquiry.Reaches "POST" .users) :
    step fresh inquiry store = orReject store (createUser fresh inquiry store) :=
  step_of_handle h (by decide) (by decide) (by simp [handle, h.1])

theorem step_deleteUser {raw : List Char} (h : inquiry.Reaches "DELETE" (.user raw)) :
    step fresh inquiry store = orReject store (deleteUser raw store) :=
  step_of_handle h (by decide) (by decide) (by simp [handle, h.1])

theorem step_listUsers (h : inquiry.Reaches "GET" .users) :
    step fresh inquiry store = orReject store (listUsers inquiry store) :=
  step_of_handle h (by decide) (by decide) (by simp [handle, h.1])

theorem step_showUser {raw : List Char} (h : inquiry.Reaches "GET" (.user raw)) :
    step fresh inquiry store = orReject store (showUser raw store) :=
  step_of_handle h (by decide) (by decide) (by simp [handle, h.1])

section Named

variable {raw : List Char} {id : Uuid} (hid : pathId raw = .ok id)
include hid

theorem deleteUser_of_ok : deleteUser raw store
    = .ok ((store.find? id).elim (userNotFound, store) fun _ => (.bare 204, store.remove id)) := by
  simp only [deleteUser, hid, bind, Except.bind]
  cases store.find? id with
  | none => rfl
  | some user => rfl

theorem showUser_of_ok : showUser raw store
    = .ok ((store.find? id).elim userNotFound fun user => .json 200 user.toJson, store) := by
  simp only [showUser, hid, bind, Except.bind]
  cases store.find? id with
  | none => rfl
  | some user => rfl

end Named

/-- What a query gives for a name: nothing, one text, or too many. -/
theorem queryValue_ok (name : String) (pairs : List (String × String)) :
    queryValue name .ok pairs = match valuesOf name pairs with
      | [] => .ok none
      | [text] => .ok (some text)
      | _ => .error (.repeatedQuery name) := by
  induction pairs with
  | nil => rfl
  | cons head rest ih =>
    obtain ⟨n, text⟩ := head
    rw [queryValue]
    by_cases hname : n = name
    · subst hname
      rw [if_pos rfl, Members.valuesOf_cons_self]
      have hmore : rest.any (·.1 = n) = true ↔ valuesOf n rest ≠ [] := Members.any_eq_true_iff
      cases hrest : valuesOf n rest with
      | nil =>
        rw [hrest] at hmore
        simp [hmore]
      | cons other more =>
        rw [hrest] at hmore
        simp [hmore]
    · rw [if_neg hname, Members.valuesOf_cons_of_ne hname, ih]

theorem step_of_searches {text : String} (h : inquiry.Searches text) : step fresh inquiry store
    = (.json 200 (.array ((store.search text).map User.toJson)), store) := by
  obtain ⟨hreach, htexts⟩ := h
  rw [step_listUsers hreach, listUsers, queryValue_ok]
  rcases htexts with hone | ⟨hnone, rfl⟩
  · rw [show valuesOf "search" (queryPairs inquiry) = [text] from hone]
    rfl
  · rw [show valuesOf "search" (queryPairs inquiry) = [] from hnone]
    rfl

/-- A listing is answered unless its query gives several texts. -/
theorem searches_or_refused (h : inquiry.Reaches "GET" .users) :
    (∃ text, inquiry.Searches text) ∨ (step fresh inquiry store).1.status = 400 := by
  cases htexts : inquiry.searchTexts with
  | nil => exact .inl ⟨"", h, .inr ⟨htexts, rfl⟩⟩
  | cons text more =>
    cases more with
    | nil => exact .inl ⟨text, h, .inl htexts⟩
    | cons other more =>
      right
      rw [step_listUsers h, listUsers, queryValue_ok,
        show valuesOf "search" (queryPairs inquiry) = text :: other :: more from htexts]
      rfl

/-- What a request does on any other route, or by any other method, keeps the users. -/
theorem keeps_handle {route : Route} (hpost : inquiry.method = "POST" → route ≠ .users)
    (hdelete : inquiry.method = "DELETE" → ∀ raw, route ≠ .user raw)
    {outcome : Except Rejection (Answer × Store)}
    (h : handle fresh inquiry route store = some outcome) : Keeps store outcome := by
  cases route with
  | echo =>
    cases h
    exact keeps_reflect inquiry store
  | users =>
    have hmethod : inquiry.method ≠ "POST" := fun hm => hpost hm rfl
    simp only [handle, hmethod, if_false] at h
    split at h
    · cases h
      exact keeps_listUsers inquiry store
    · cases h
  | user raw =>
    have hmethod : inquiry.method ≠ "DELETE" := fun hm => hdelete hm raw rfl
    simp only [handle, hmethod, if_false] at h
    split at h
    · cases h
      exact keeps_showUser raw store
    · cases h
  | posts =>
    simp only [handle] at h
    split at h
    · cases h
      exact keeps_createPost fresh inquiry store
    · cases h
  | status code =>
    simp only [handle] at h
    split at h
    · cases h
      exact keeps_answerStatus code store
    · cases h

theorem snd_step_of_other (hpost : ¬ inquiry.Reaches "POST" .users)
    (hdelete : ∀ raw, ¬ inquiry.Reaches "DELETE" (.user raw)) :
    (step fresh inquiry store).2 = store := by
  cases hroute : Route.ofPath inquiry.path with
  | none => simp [step, hroute]
  | some route =>
    cases hhandle : handle fresh inquiry route store with
    | none => simp [step, hroute, hhandle]
    | some outcome =>
      have hkeeps : Keeps store outcome := by
        refine keeps_handle ?_ ?_ hhandle
        · rintro hmethod rfl
          exact hpost ⟨hmethod, hroute⟩
        · rintro hmethod raw rfl
          exact hdelete raw ⟨hmethod, hroute⟩
      simpa [step, hroute, hhandle] using hkeeps.orReject_eq

end Steps

/-- What a request does: it creates a user, deletes one, or leaves the users as they are. -/
inductive Effect (fresh : Uuid) (inquiry : Inquiry) (store : Store) : Answer → Store → Prop
  | creates {data : Datum} (reached : inquiry.Reaches "POST" .users)
      (read : readBody newUserShape inquiry = .ok data) :
      Effect fresh inquiry store (.json 201 (User.mk fresh (fieldText "name" data)).toJson)
        (store.add ⟨fresh, fieldText "name" data⟩)
  | deletes {id : Uuid} {user : User} (asked : inquiry.AsksFor "DELETE" id)
      (found : store.find? id = some user) :
      Effect fresh inquiry store (.bare 204) (store.remove id)
  | keeps {answer : Answer}
      (refused : inquiry.Reaches "POST" .users →
        ∃ r, readBody newUserShape inquiry = .error r ∧ answer = r.toAnswer)
      (missing : ∀ raw, inquiry.Reaches "DELETE" (.user raw) →
        (∃ r, pathId raw = .error r ∧ answer = r.toAnswer) ∨
          ∃ id, pathId raw = .ok id ∧ store.find? id = none ∧ answer = userNotFound) :
      Effect fresh inquiry store answer store

/-- **All that a step can do.** -/
theorem effect_step (fresh : Uuid) (inquiry : Inquiry) (store : Store) :
    Effect fresh inquiry store (step fresh inquiry store).1 (step fresh inquiry store).2 := by
  by_cases hpost : inquiry.Reaches "POST" .users
  · have hdelete : ∀ raw, ¬ inquiry.Reaches "DELETE" (.user raw) :=
      fun raw h => absurd (hpost.1.symm.trans h.1) (by decide)
    rw [step_createUser hpost]
    cases hread : readBody newUserShape inquiry with
    | ok data =>
      simp only [createUser, hread]
      exact .creates hpost hread
    | error r =>
      simp only [createUser, hread]
      exact .keeps (fun _ => ⟨r, hread, rfl⟩) fun raw h => absurd h (hdelete raw)
  by_cases hdelete : ∃ raw, inquiry.Reaches "DELETE" (.user raw)
  · obtain ⟨raw, hdelete⟩ := hdelete
    rw [step_deleteUser hdelete]
    have hraw : ∀ {other}, inquiry.Reaches "DELETE" (.user other) → raw = other :=
      fun h => Route.user.inj (hdelete.route_eq h)
    cases hid : pathId raw with
    | error r =>
      simp only [deleteUser, hid]
      refine .keeps (fun h => absurd h hpost) fun other h => .inl ⟨r, ?_, rfl⟩
      rw [← hraw h, hid]
    | ok id =>
      cases hfind : store.find? id with
      | some user =>
        rw [deleteUser_of_ok hid, hfind]
        exact .deletes ⟨raw, hdelete, hid⟩ hfind
      | none =>
        rw [deleteUser_of_ok hid, hfind]
        refine .keeps (fun h => absurd h hpost) fun other h => .inr ⟨id, ?_, hfind, rfl⟩
        rw [← hraw h, hid]
  · have hkeep : (step fresh inquiry store).2 = store :=
      snd_step_of_other hpost fun raw h => hdelete ⟨raw, h⟩
    rw [hkeep]
    exact .keeps (fun h => absurd h hpost) fun raw h => absurd ⟨raw, h⟩ hdelete

end Courier.Directory
