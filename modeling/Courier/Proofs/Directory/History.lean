import Mathlib.Data.List.Induction
import Courier.Proofs.Directory.Turn

/-!
# Users that are live

The answers of every run are those of the set of users that its history tells, and the store holds
nothing else, as long as no identifier is generated twice.
-/

namespace Courier.Directory

/-- Every generated identifier differs from all earlier ones. -/
def HasNewIds (history : List Turn) : Prop :=
  history.Pairwise fun earlier later =>
    earlier.Generates → later.Generates → earlier.fresh ≠ later.fresh

/-- One more request, with the identifier at hand for it. -/
def ask (past : List Turn × Store) (request : Uuid × Inquiry) : List Turn × Store :=
  let (answer, after) := step request.1 request.2 past.2
  (past.1 ++ [⟨request.1, request.2, answer⟩], after)

/-- The history of requests to a new directory, and the users that it then has. -/
def run (requests : List (Uuid × Inquiry)) : List Turn × Store :=
  requests.foldl ask ([], [])

/-- How a request is served where `live` are the users and `after` are those that are left. -/
structure Serves (live after : User → Prop) (turn : Turn) : Prop where
  shows : ∀ id, turn.inquiry.AsksFor "GET" id →
    (∀ user, live user → user.id = id → turn.answer = .json 200 user.toJson) ∧
      ((∀ user, live user → user.id ≠ id) → turn.answer = userNotFound)
  deletes : ∀ id, turn.inquiry.AsksFor "DELETE" id →
    (∀ user, live user → user.id = id →
      turn.answer = .bare 204 ∧ ∀ u, after u ↔ live u ∧ u ≠ user) ∧
      ((∀ user, live user → user.id ≠ id) →
        turn.answer = userNotFound ∧ ∀ u, after u ↔ live u)
  lists : ∀ text, turn.inquiry.Searches text → ∃ users : List User,
    turn.answer = .json 200 (.array (users.map User.toJson)) ∧ users.Nodup ∧
      (∀ u, u ∈ users ↔ live u ∧ text.toList <:+: u.name.toList) ∧
      users.Pairwise fun a b => Utf8.encode a.name ≤ Utf8.encode b.name
  refuses : turn.inquiry.Reaches "GET" .users →
    (∃ text, turn.inquiry.Searches text) ∨ turn.answer.status = 400
  creates : ∀ user, turn.Creates user →
    user.id = turn.fresh ∧ (∀ u, live u → u.id ≠ user.id) ∧ ∀ u, after u ↔ live u ∨ u = user
  accepts : ∀ data, turn.inquiry.Reaches "POST" .users →
    readBody newUserShape turn.inquiry = .ok data →
      turn.Creates ⟨turn.fresh, fieldText "name" data⟩
  keeps : (∀ user, ¬ turn.Creates user) → (∀ id, ¬ turn.Deletes id) → ∀ u, after u ↔ live u

/-! ## Histories and stores -/

/-- What is created has an identifier that nothing before it had. -/
theorem fresh_ne_of_creates {fresh : Uuid} {inquiry : Inquiry} {answer : Answer}
    {store after : Store} (heffect : Effect fresh inquiry store answer after) {history : List Turn}
    (hnew : HasNewIds (history ++ [⟨fresh, inquiry, answer⟩])) {user : User}
    (hcreates : Turn.Creates ⟨fresh, inquiry, answer⟩ user) {creator : Turn}
    (hmem : creator ∈ history) (hgenerates : creator.Generates) : creator.fresh ≠ user.id := by
  rw [(of_creates heffect hcreates).1]
  exact (List.pairwise_append.mp hnew).2.2 creator hmem _ (by simp) hgenerates
    hcreates.generates

/-- What a history tells of the store that it led to. -/
structure Tracks (history : List Turn) (store : Store) : Prop where
  keyed : store.IsKeyed
  mem_iff : ∀ user, user ∈ store ↔ Live history user
  /-- The identifier of a user is the one that was at hand. -/
  created : ∀ turn ∈ history, ∀ user, turn.Creates user → user.id = turn.fresh
  /-- An identifier that was deleted has been in use, and is so no more. -/
  deleted : ∀ turn ∈ history, ∀ id, turn.Deletes id →
    (∃ creator ∈ history, creator.Generates ∧ creator.fresh = id) ∧
      ∀ user, Live history user → user.id ≠ id

namespace Tracks

variable {history : List Turn} {store : Store}

theorem nil : Tracks [] [] where
  keyed := List.nodup_nil
  mem_iff := by
    intro user
    refine iff_of_false (by simp) ?_
    rintro ⟨before, turn, after, hsplit, -⟩
    simp at hsplit
  created := by simp
  deleted := by simp

/-- A live user was created by a turn that generated the identifier. -/
theorem exists_creator (h : Tracks history store) {user : User} (hlive : Live history user) :
    ∃ creator ∈ history, creator.Generates ∧ creator.fresh = user.id := by
  obtain ⟨before, creator, after, rfl, hcreates, -⟩ := hlive
  exact ⟨creator, by simp, hcreates.generates, (h.created _ (by simp) _ hcreates).symm⟩

theorem unique (h : Tracks history store) {a b : User} (ha : Live history a) (hb : Live history b)
    (hid : a.id = b.id) : a = b :=
  h.keyed.eq_of_id_eq ((h.mem_iff a).mpr ha) ((h.mem_iff b).mpr hb) hid

section Step

variable {fresh : Uuid} {inquiry : Inquiry} {answer : Answer} {after : Store}
  (h : Tracks history store) (heffect : Effect fresh inquiry store answer after)
  (hnew : HasNewIds (history ++ [⟨fresh, inquiry, answer⟩]))
include h heffect hnew

theorem id_ne_of_creates {user : User} (hcreates : Turn.Creates ⟨fresh, inquiry, answer⟩ user)
    {u : User} (hlive : Live history u) : u.id ≠ user.id := by
  obtain ⟨creator, hmem, hgenerates, hfresh⟩ := h.exists_creator hlive
  rw [← hfresh]
  exact fresh_ne_of_creates heffect hnew hcreates hmem hgenerates

/-- **One more turn** keeps the store to what the history tells. -/
theorem concat : Tracks (history ++ [⟨fresh, inquiry, answer⟩]) after where
  keyed := by
    by_cases hcreates : ∃ user, Turn.Creates ⟨fresh, inquiry, answer⟩ user
    · obtain ⟨user, huser⟩ := hcreates
      rw [(of_creates heffect huser).2]
      exact h.keyed.add fun u hu => h.id_ne_of_creates heffect hnew huser ((h.mem_iff u).mp hu)
    by_cases hdeletes : ∃ id, Turn.Deletes ⟨fresh, inquiry, answer⟩ id
    · obtain ⟨id, hid⟩ := hdeletes
      rw [(of_deletes heffect hid).2]
      exact h.keyed.remove id
    · rw [of_neither heffect (fun user hu => hcreates ⟨user, hu⟩) fun id hid => hdeletes ⟨id, hid⟩]
      exact h.keyed
  mem_iff := by
    intro user
    have hids : ∀ user, Turn.Creates ⟨fresh, inquiry, answer⟩ user →
        ∀ u ∈ store, u.id ≠ user.id :=
      fun user huser u hu => h.id_ne_of_creates heffect hnew huser ((h.mem_iff u).mp hu)
    rw [mem_after_iff heffect hids, live_concat_iff, h.mem_iff]
  created := by
    intro turn hturn user hcreates
    rcases List.mem_append.mp hturn with hturn | hturn
    · exact h.created turn hturn user hcreates
    · obtain rfl := List.mem_singleton.mp hturn
      exact (of_creates heffect hcreates).1
  deleted := by
    intro turn hturn id hdeletes
    rcases List.mem_append.mp hturn with hturn | hturn
    · -- deleted before: the creator stays, and a new user has another identifier
      obtain ⟨⟨creator, hmem, hgenerates, rfl⟩, hgone⟩ := h.deleted turn hturn id hdeletes
      refine ⟨⟨creator, by simp [hmem], hgenerates, rfl⟩, ?_⟩
      intro user hlive
      rcases live_concat_iff.mp hlive with hcreates | ⟨hlive, -⟩
      · exact (fresh_ne_of_creates heffect hnew hcreates hmem hgenerates).symm
      · exact hgone user hlive
    · -- deleted now: it was live, and the others have other identifiers
      obtain rfl := List.mem_singleton.mp hturn
      obtain ⟨⟨user, hfind⟩, -⟩ := of_deletes heffect hdeletes
      obtain ⟨hmem, rfl⟩ := (Store.find?_eq_some_iff h.keyed).mp hfind
      obtain ⟨creator, hcreator, hgenerates, hfresh⟩ :=
        h.exists_creator ((h.mem_iff user).mp hmem)
      refine ⟨⟨creator, by simp [hcreator], hgenerates, hfresh⟩, ?_⟩
      rintro u hlive hid
      rcases live_concat_iff.mp hlive with hcreates | ⟨-, hkept⟩
      · exact hcreates.not_deletes _ hdeletes
      · exact hkept (hid ▸ hdeletes)

omit hnew in
/-- What was deleted is not deleted again. -/
theorem not_deletes_of_deleted {turn : Turn} (hturn : turn ∈ history) {id : Uuid}
    (hdeleted : turn.Deletes id) : ¬ Turn.Deletes ⟨fresh, inquiry, answer⟩ id := by
  intro hdeletes
  obtain ⟨⟨user, hfind⟩, -⟩ := of_deletes heffect hdeletes
  obtain ⟨hmem, hid⟩ := (Store.find?_eq_some_iff h.keyed).mp hfind
  exact (h.deleted turn hturn id hdeleted).2 user ((h.mem_iff user).mp hmem) hid

end Step

/-! ## How a turn is served -/

section Served

variable {fresh : Uuid} {inquiry : Inquiry} (h : Tracks history store)
include h

theorem find?_eq_some_iff {id : Uuid} {user : User} :
    store.find? id = some user ↔ Live history user ∧ user.id = id := by
  rw [Store.find?_eq_some_iff h.keyed, h.mem_iff]

theorem find?_eq_none {id : Uuid} (hnone : ∀ user, Live history user → user.id ≠ id) :
    store.find? id = none :=
  Store.find?_eq_none_iff.mpr fun user hmem => hnone user ((h.mem_iff user).mp hmem)

/-- **A turn** is served from the live users. -/
theorem serves (hnew : HasNewIds (history ++ [⟨fresh, inquiry, (step fresh inquiry store).1⟩])) :
    Serves (Live history) (Live (history ++ [⟨fresh, inquiry, (step fresh inquiry store).1⟩]))
      ⟨fresh, inquiry, (step fresh inquiry store).1⟩ where
  shows := by
    rintro id ⟨raw, hreach, hid⟩
    have hstep : (step fresh inquiry store).1
        = (store.find? id).elim userNotFound fun user => .json 200 user.toJson := by
      rw [step_showUser hreach, showUser_of_ok hid, orReject]
    constructor
    · intro user hlive huser
      show (step fresh inquiry store).1 = _
      rw [hstep, h.find?_eq_some_iff.mpr ⟨hlive, huser⟩, Option.elim_some]
    · intro hnone
      show (step fresh inquiry store).1 = _
      rw [hstep, h.find?_eq_none hnone, Option.elim_none]
  deletes := by
    rintro id ⟨raw, hreach, hid⟩
    have hstep : (step fresh inquiry store).1
        = (store.find? id).elim userNotFound fun _ => .bare 204 := by
      rw [step_deleteUser hreach, deleteUser_of_ok hid, orReject]
      cases store.find? id with
      | none => rfl
      | some user => rfl
    have hcreates : ∀ user, ¬ Turn.Creates ⟨fresh, inquiry, (step fresh inquiry store).1⟩ user :=
      fun user hcreates => absurd (hcreates.1.1.symm.trans hreach.1) (by decide)
    constructor
    · intro user hlive huser
      rw [h.find?_eq_some_iff.mpr ⟨hlive, huser⟩, Option.elim_some] at hstep
      refine ⟨hstep, fun u => ?_⟩
      have hdeletes : Turn.Deletes ⟨fresh, inquiry, (step fresh inquiry store).1⟩ id :=
        ⟨⟨raw, hreach, hid⟩, by rw [hstep]; rfl⟩
      rw [live_concat_iff, or_iff_right (hcreates u), hdeletes.iff_eq, ← huser]
      refine and_congr_right fun hu => not_congr ⟨h.unique hu hlive, ?_⟩
      rintro rfl
      rfl
    · intro hnone
      rw [h.find?_eq_none hnone, Option.elim_none] at hstep
      refine ⟨hstep, fun u => ?_⟩
      have hkept : ¬ Turn.Deletes ⟨fresh, inquiry, (step fresh inquiry store).1⟩ u.id := by
        rintro ⟨-, hstatus⟩
        rw [hstep] at hstatus
        have hmissing : (404 : Nat) = 204 := hstatus
        cases hmissing
      rw [live_concat_iff, or_iff_right (hcreates u), and_iff_left hkept]
  lists := by
    intro text hsearches
    refine ⟨store.search text, ?_, Store.nodup_search h.keyed text, ?_,
      Store.pairwise_search store text⟩
    · show (step fresh inquiry store).1 = _
      rw [step_of_searches hsearches]
    · intro u
      rw [Store.mem_search_iff, h.mem_iff]
  refuses := fun hreach => searches_or_refused hreach
  creates := by
    intro user hcreates
    have heffect := effect_step fresh inquiry store
    refine ⟨(of_creates heffect hcreates).1, ?_, fun u => ?_⟩
    · exact fun u hlive => h.id_ne_of_creates heffect hnew hcreates hlive
    · rw [live_concat_iff, hcreates.iff_eq, and_iff_left (hcreates.not_deletes u.id), or_comm]
  accepts := by
    intro data hreach hread
    refine ⟨hreach, ?_⟩
    show (step fresh inquiry store).1 = _
    rw [step_createUser hreach, createUser, hread]
    rfl
  keeps := by
    intro hcreates hdeletes u
    rw [live_concat_iff, or_iff_right (hcreates u), and_iff_left (hdeletes u.id)]

end Served

end Tracks

/-! ## Runs -/

theorem run_concat (requests : List (Uuid × Inquiry)) (fresh : Uuid) (inquiry : Inquiry) :
    run (requests ++ [(fresh, inquiry)])
      = ((run requests).1 ++ [⟨fresh, inquiry, (step fresh inquiry (run requests).2).1⟩],
        (step fresh inquiry (run requests).2).2) := by
  rw [run, List.foldl_concat]
  rfl

theorem map_fresh_run (requests : List (Uuid × Inquiry)) :
    (run requests).1.map (·.fresh) = requests.map (·.1) := by
  induction requests using List.reverseRecOn with
  | nil => rfl
  | append_singleton requests request ih =>
    obtain ⟨fresh, inquiry⟩ := request
    rw [run_concat, List.map_append, List.map_append, ih]
    rfl

/-- Identifiers are new if all those at hand are different. -/
theorem hasNewIds_run {requests : List (Uuid × Inquiry)} (h : (requests.map (·.1)).Nodup) :
    HasNewIds (run requests).1 := by
  rw [← map_fresh_run] at h
  exact (List.pairwise_map.mp h).imp fun hne _ _ => hne

/-- The history of a run tells its store. -/
theorem tracks_run {requests : List (Uuid × Inquiry)} (hnew : HasNewIds (run requests).1) :
    Tracks (run requests).1 (run requests).2 := by
  induction requests using List.reverseRecOn with
  | nil => exact .nil
  | append_singleton requests request ih =>
    obtain ⟨fresh, inquiry⟩ := request
    rw [run_concat] at hnew ⊢
    have hbefore := ih (List.pairwise_append.mp hnew).1
    exact hbefore.concat (effect_step fresh inquiry _) hnew

theorem serves_run {requests : List (Uuid × Inquiry)} (hnew : HasNewIds (run requests).1)
    {before after : List Turn} {turn : Turn} (hsplit : (run requests).1 = before ++ turn :: after) :
    Serves (Live before) (Live (before ++ [turn])) turn := by
  induction requests using List.reverseRecOn generalizing after with
  | nil =>
    have hnone : [] = before ++ turn :: after := hsplit
    simp at hnone
  | append_singleton requests request ih =>
    obtain ⟨fresh, inquiry⟩ := request
    rw [run_concat] at hnew hsplit
    have hbefore : HasNewIds (run requests).1 := (List.pairwise_append.mp hnew).1
    rcases eq_or_eq_of_concat hsplit with ⟨rfl, rfl, -⟩ | ⟨more, -, hmore⟩
    · exact (tracks_run hbefore).serves hnew
    · exact ih hbefore hmore

theorem deletes_once_run {requests : List (Uuid × Inquiry)} (hnew : HasNewIds (run requests).1)
    (id : Uuid) : (run requests).1.Pairwise fun earlier later =>
      earlier.Deletes id → ¬ later.Deletes id := by
  induction requests using List.reverseRecOn with
  | nil => exact .nil
  | append_singleton requests request ih =>
    obtain ⟨fresh, inquiry⟩ := request
    rw [run_concat] at hnew ⊢
    have hbefore : HasNewIds (run requests).1 := (List.pairwise_append.mp hnew).1
    refine List.pairwise_append.mpr ⟨ih hbefore, List.pairwise_singleton _ _, ?_⟩
    intro earlier hearlier later hlater
    obtain rfl := List.mem_singleton.mp hlater
    exact (tracks_run hbefore).not_deletes_of_deleted (effect_step fresh inquiry _) hearlier

theorem prefix_run {before requests : List (Uuid × Inquiry)} (h : before <+: requests) :
    (run before).1 <+: (run requests).1 := by
  obtain ⟨after, rfl⟩ := h
  induction after using List.reverseRecOn with
  | nil => rw [List.append_nil]
  | append_singleton after request ih =>
    obtain ⟨fresh, inquiry⟩ := request
    rw [← List.append_assoc, run_concat]
    exact ih.trans (List.prefix_append _ _)

/-- **The directory keeps a map of users**: in every run in which no identifier is generated twice,
the store at all times holds exactly the users that are live, one for each identifier; every request
is served from those that are live before it; and no identifier is deleted twice. -/
theorem run_serves_live {requests : List (Uuid × Inquiry)} (hnew : HasNewIds (run requests).1) :
    (∀ before, before <+: requests →
      (∀ user, user ∈ (run before).2 ↔ Live (run before).1 user) ∧
        ∀ a b, Live (run before).1 a → Live (run before).1 b → a.id = b.id → a = b) ∧
    (∀ before turn after, (run requests).1 = before ++ turn :: after →
      Serves (Live before) (Live (before ++ [turn])) turn) ∧
    ∀ id, (run requests).1.Pairwise fun earlier later =>
      earlier.Deletes id → ¬ later.Deletes id := by
  refine ⟨fun before hbefore => ?_, ?_, deletes_once_run hnew⟩
  · have htracks : Tracks (run before).1 (run before).2 :=
      tracks_run (hnew.sublist (prefix_run hbefore).sublist)
    exact ⟨htracks.mem_iff, fun a b => htracks.unique⟩
  · intro before turn after hsplit
    exact serves_run hnew hsplit

/-- Two users are created, one of them is looked for and deleted, and both are asked for. -/
def lifecycle : List (Uuid × Inquiry) :=
  [(⟨1⟩, post "Alice"), (⟨2⟩, post "Bob"), (⟨3⟩, get "/users?search=li"),
    (⟨4⟩, .ofTarget "DELETE" ("/users/" ++ Uuid.text ⟨1⟩) [] []),
    (⟨5⟩, get ("/users/" ++ Uuid.text ⟨1⟩)), (⟨6⟩, get "/users")]
where
  get (target : String) : Inquiry := .ofTarget "GET" target [] []
  post (name : String) : Inquiry :=
    .ofTarget "POST" "/users" [("Content-Type", "application/json")]
      (Utf8.encode (Json.text (.object [("name", .string name)])))

/-- Only the user that was not deleted is left. -/
theorem lifecycle_serves_live : HasNewIds (run lifecycle).1 ∧
    Live (run lifecycle).1 ⟨⟨2⟩, "Bob"⟩ ∧ ¬ Live (run lifecycle).1 ⟨⟨1⟩, "Alice"⟩ ∧
    (∀ before turn after, (run lifecycle).1 = before ++ turn :: after →
      Serves (Live before) (Live (before ++ [turn])) turn) ∧
    ∀ id, (run lifecycle).1.Pairwise fun earlier later =>
      earlier.Deletes id → ¬ later.Deletes id := by
  have hnew : HasNewIds (run lifecycle).1 := hasNewIds_run (by decide)
  have hstore : (run lifecycle).2 = [⟨⟨2⟩, "Bob"⟩] := by decide +kernel
  obtain ⟨hlive, hserves, hdeletes⟩ := run_serves_live hnew
  obtain ⟨hmem, -⟩ := hlive lifecycle (List.prefix_refl _)
  rw [hstore] at hmem
  exact ⟨hnew, (hmem _).mp (by decide), fun h => absurd ((hmem _).mpr h) (by decide), hserves,
    hdeletes⟩

end Courier.Directory
