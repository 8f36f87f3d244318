import Courier.Proofs.Directory.Serving
import Courier.Proofs.Directory.Store
import Courier.Proofs.Directory.Uuid
import Courier.Proofs.Json.RoundTrip

/-!
# What an answer tells

What a directory was asked and what it answered tells which users it has: those that it said it
created and did not say it deleted since. The text of an answer shows one user only, so that a turn
creates one user at most, and it is the one that the store gets.
-/

namespace Courier.Directory

/-! ## Turns -/

/-- A request, the identifier at hand for what it creates, and the answer. -/
structure Turn where
  fresh : Uuid
  inquiry : Inquiry
  answer : Answer

namespace Turn

/-- The answer shows the user that was created. -/
def Creates (turn : Turn) (user : User) : Prop :=
  turn.inquiry.Reaches "POST" .users ∧ turn.answer = .json 201 user.toJson

/-- The answer confirms that the user with an identifier is gone. -/
def Deletes (turn : Turn) (id : Uuid) : Prop :=
  turn.inquiry.AsksFor "DELETE" id ∧ turn.answer.status = 204

/-- The answer is that something was created, be it a user or a post. -/
def Generates (turn : Turn) : Prop :=
  turn.inquiry.method = "POST" ∧ turn.answer.status = 201

end Turn

/-- Users that were created and not deleted since. -/
def Live (history : List Turn) (user : User) : Prop :=
  ∃ before turn after, history = before ++ turn :: after ∧ turn.Creates user ∧
    ∀ later ∈ after, ¬ later.Deletes user.id

/-! ## What an answer tells -/

theorem User.isExact_toJson (user : User) : user.toJson.IsExact := by
  have hnames : ["id", "name"].Nodup := by decide
  refine .object hnames ?_
  intro m hm
  simp only [List.mem_cons, List.not_mem_nil, or_false] at hm
  rcases hm with rfl | rfl
  · exact .string _
  · exact .string _

theorem User.depth_toJson (user : User) : user.toJson.depth ≤ 127 := by
  show 1 ≤ 127
  decide

theorem User.text_toJson_inj {a b : User} (h : a.toJson.text = b.toJson.text) : a = b := by
  have hsame : a.toJson = b.toJson :=
    Json.text_inj a.isExact_toJson b.isExact_toJson a.depth_toJson b.depth_toJson h
  obtain ⟨aid, aname⟩ := a
  obtain ⟨bid, bname⟩ := b
  simp only [User.toJson, Json.object.injEq, List.cons.injEq, Prod.mk.injEq, Json.string.injEq,
    true_and, and_true] at hsame
  obtain ⟨hid, rfl⟩ := hsame
  rw [Uuid.text_injective hid]

theorem Inquiry.AsksFor.id_eq {inquiry : Inquiry} {a b : String} {id other : Uuid}
    (h : inquiry.AsksFor a id) (h' : inquiry.AsksFor b other) : id = other := by
  obtain ⟨raw, hreach, hid⟩ := h
  obtain ⟨raw', hreach', hother⟩ := h'
  obtain rfl := Route.user.inj (hreach.route_eq hreach')
  exact Except.ok.inj (hid.symm.trans hother)

theorem Turn.Creates.unique {turn : Turn} {a b : User} (ha : turn.Creates a) (hb : turn.Creates b) :
    a = b := by
  have hsame : Answer.json 201 a.toJson = .json 201 b.toJson := ha.2.symm.trans hb.2
  rw [Answer.json, Answer.json, Answer.mk.injEq] at hsame
  exact User.text_toJson_inj hsame.2.2.2

theorem Turn.Creates.iff_eq {turn : Turn} {user : User} (h : turn.Creates user) (u : User) :
    turn.Creates u ↔ u = user :=
  ⟨fun hu => hu.unique h, fun heq => heq ▸ h⟩

theorem Turn.Deletes.iff_eq {turn : Turn} {id : Uuid} (h : turn.Deletes id) (other : Uuid) :
    turn.Deletes other ↔ other = id :=
  ⟨fun hother => hother.1.id_eq h.1, fun heq => heq ▸ h⟩

theorem Turn.Creates.not_deletes {turn : Turn} {user : User} (h : turn.Creates user) (id : Uuid) :
    ¬ turn.Deletes id := by
  rintro ⟨⟨raw, hreach, -⟩, -⟩
  exact absurd (h.1.1.symm.trans hreach.1) (by decide)

theorem Turn.Creates.generates {turn : Turn} {user : User} (h : turn.Creates user) :
    turn.Generates := by
  refine ⟨h.1.1, ?_⟩
  rw [h.2]
  rfl

/-! ## What a turn does to the users -/

section Effects

variable {fresh : Uuid} {inquiry : Inquiry} {answer : Answer} {store after : Store}
  (heffect : Effect fresh inquiry store answer after)
include heffect

theorem of_creates {user : User} (h : Turn.Creates ⟨fresh, inquiry, answer⟩ user) :
    user.id = fresh ∧ after = store.add user := by
  have hreach : inquiry.Reaches "POST" .users := h.1
  cases heffect with
  | @creates data reached read =>
    have hcreated : Turn.Creates ⟨fresh, inquiry, _⟩ ⟨fresh, fieldText "name" data⟩ :=
      ⟨reached, rfl⟩
    obtain rfl := h.unique hcreated
    exact ⟨rfl, rfl⟩
  | deletes asked found =>
    have hstatus : (204 : Nat) = 201 := congrArg Answer.status h.2
    cases hstatus
  | keeps refused missing =>
    obtain ⟨r, -, rfl⟩ := refused hreach
    have hstatus : r.toAnswer.status = 201 := congrArg Answer.status h.2
    exact absurd (hstatus ▸ r.status_mem) (by decide)

theorem of_deletes {id : Uuid} (h : Turn.Deletes ⟨fresh, inquiry, answer⟩ id) :
    (∃ user, store.find? id = some user) ∧ after = store.remove id := by
  obtain ⟨raw, hreach, hid⟩ := h.1
  cases heffect with
  | creates reached read =>
    have hstatus : (201 : Nat) = 204 := h.2
    cases hstatus
  | deletes asked found =>
    obtain rfl := asked.id_eq h.1
    exact ⟨⟨_, found⟩, rfl⟩
  | keeps refused missing =>
    rcases missing raw hreach with ⟨r, -, rfl⟩ | ⟨-, -, -, rfl⟩
    · exact absurd (h.2 ▸ r.status_mem) (by decide)
    · have hstatus : (404 : Nat) = 204 := h.2
      cases hstatus

theorem of_neither (hcreates : ∀ user, ¬ Turn.Creates ⟨fresh, inquiry, answer⟩ user)
    (hdeletes : ∀ id, ¬ Turn.Deletes ⟨fresh, inquiry, answer⟩ id) : after = store := by
  cases heffect with
  | creates reached read => exact absurd ⟨reached, rfl⟩ (hcreates _)
  | deletes asked found => exact absurd ⟨asked, rfl⟩ (hdeletes _)
  | keeps refused missing => rfl

/-- The users after a turn: those that it created, and of the others those that it did not
delete. -/
theorem mem_after_iff
    (hnew : ∀ user, Turn.Creates ⟨fresh, inquiry, answer⟩ user → ∀ u ∈ store, u.id ≠ user.id)
    (u : User) : u ∈ after ↔ Turn.Creates ⟨fresh, inquiry, answer⟩ u ∨
      u ∈ store ∧ ¬ Turn.Deletes ⟨fresh, inquiry, answer⟩ u.id := by
  by_cases hcreates : ∃ user, Turn.Creates ⟨fresh, inquiry, answer⟩ user
  · obtain ⟨user, huser⟩ := hcreates
    rw [(of_creates heffect huser).2, Store.add_eq (hnew user huser), List.mem_append,
      List.mem_singleton, huser.iff_eq, or_comm, and_iff_left (huser.not_deletes u.id)]
  have hnone : ∀ user, ¬ Turn.Creates ⟨fresh, inquiry, answer⟩ user :=
    fun user h => hcreates ⟨user, h⟩
  rw [or_iff_right (hnone u)]
  by_cases hdeletes : ∃ id, Turn.Deletes ⟨fresh, inquiry, answer⟩ id
  · obtain ⟨id, hid⟩ := hdeletes
    rw [(of_deletes heffect hid).2, Store.mem_remove_iff, hid.iff_eq]
  · have hkept : ∀ id, ¬ Turn.Deletes ⟨fresh, inquiry, answer⟩ id :=
      fun id h => hdeletes ⟨id, h⟩
    rw [of_neither heffect hnone hkept, and_iff_left (hkept u.id)]

end Effects

/-! ## Users that are live -/

/-- What stands in a history with one more turn is this turn, or stood there before. -/
theorem eq_or_eq_of_concat {history before after : List Turn} {last turn : Turn}
    (h : history ++ [last] = before ++ turn :: after) :
    (before = history ∧ turn = last ∧ after = []) ∨
      ∃ more, after = more ++ [last] ∧ history = before ++ turn :: more := by
  rcases List.eq_nil_or_concat after with rfl | ⟨more, final, rfl⟩
  · obtain ⟨rfl, rfl⟩ := List.append_singleton_inj.mp h
    exact .inl ⟨rfl, rfl, rfl⟩
  · rw [List.concat_eq_append, ← List.cons_append, ← List.append_assoc] at h
    obtain ⟨rfl, rfl⟩ := List.append_singleton_inj.mp h
    exact .inr ⟨more, List.concat_eq_append, rfl⟩

/-- The last turn decides first. -/
theorem live_concat_iff {history : List Turn} {turn : Turn} {user : User} :
    Live (history ++ [turn]) user ↔
      turn.Creates user ∨ Live history user ∧ ¬ turn.Deletes user.id := by
  constructor
  · rintro ⟨before, creator, after, hsplit, hcreates, hkept⟩
    rcases eq_or_eq_of_concat hsplit with ⟨-, rfl, -⟩ | ⟨more, rfl, rfl⟩
    · exact .inl hcreates
    · refine .inr ⟨⟨before, creator, more, rfl, hcreates, ?_⟩, hkept _ (by simp)⟩
      exact fun later hlater => hkept later (by simp [hlater])
  · rintro (hcreates | ⟨⟨before, creator, after, rfl, hcreates, hkept⟩, hlast⟩)
    · exact ⟨history, turn, [], rfl, hcreates, by simp⟩
    · refine ⟨before, creator, after ++ [turn], by simp, hcreates, ?_⟩
      intro later hlater
      rcases List.mem_append.mp hlater with hlater | hlater
      · exact hkept later hlater
      · obtain rfl := List.mem_singleton.mp hlater
        exact hlast

end Courier.Directory
