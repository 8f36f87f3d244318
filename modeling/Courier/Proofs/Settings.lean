import Courier.Proofs.Shape.RoundTrip
import Courier.Proofs.Steps
import Courier.Settings

/-!
# Settings come back

Settings are written to JSON with all their parts and read from it with any of them, in any order.
What is written is read as the same settings, and so is every other way to write them; so settings
that were read, from whatever text, are kept by writing and reading them once more.
-/

namespace Courier.Settings

open Json Shape

/-- The parts of settings as they are written. -/
def members (settings : Settings) : List (String × Json) :=
  [("base_url", settings.baseUrl.elim .null .string),
    ("timeout_ms", settings.timeout.elim .null .ofUInt64),
    ("headers", .object (settings.headers.map fun (name, value) => (name, .string value)))]

theorem toJson_eq (settings : Settings) : settings.toJson = .object settings.members := rfl

/-- A part that sets nothing. -/
def IsUnset (v : Json) : Prop :=
  v = .null ∨ v = .object []

/-- A way to write settings: their parts in any order, where those that set nothing may be left
out. -/
structure Spells (written : List (String × Json)) (settings : Settings) : Prop where
  exists_kept : ∃ kept, kept.Sublist settings.members ∧ written.Perm kept ∧
    ∀ m ∈ settings.members, m ∉ kept → IsUnset m.2

theorem spells_members (settings : Settings) : Spells settings.members settings where
  exists_kept := ⟨_, List.Sublist.refl _, List.Perm.refl _, fun _ hm hnot => absurd hm hnot⟩

section Spelled

variable {written : List (String × Json)} {settings : Settings} (h : Spells written settings)
include h

theorem Spells.nodup : (written.map (·.1)).Nodup := by
  obtain ⟨kept, hsub, hperm, -⟩ := h.exists_kept
  have hnames : (settings.members.map (·.1)).Nodup := by
    simp [members]
  exact (hperm.map (·.1)).symm.nodup (hnames.sublist (hsub.map (·.1)))

theorem Spells.mem {m : String × Json} (hm : m ∈ written) : m ∈ settings.members := by
  obtain ⟨kept, hsub, hperm, -⟩ := h.exists_kept
  exact hsub.subset (hperm.mem_iff.mp hm)

theorem Spells.isUnset {m : String × Json} (hm : m ∈ settings.members) (hnot : m ∉ written) :
    IsUnset m.2 := by
  obtain ⟨kept, -, hperm, hunset⟩ := h.exists_kept
  exact hunset m hm fun hmem => hnot (hperm.mem_iff.mpr hmem)

end Spelled

/-! ## Reading the parts -/

/-- The data that a header stands for. -/
def headerDatum : Json → Datum
  | .string s => .text s
  | _ => .absent

/-- The data that the parts of settings stand for. -/
def datumOf (settings : Settings) (name : String) : Datum :=
  if name = "base_url" then settings.baseUrl.elim .absent fun s => .present (.text s)
  else if name = "timeout_ms" then settings.timeout.elim .absent fun n => .present (.integer n.toNat)
  else .map (settings.headers.map fun (name, value) => (name, .text value))

theorem restores_baseUrl (settings : Settings) (depth : Nat) :
    Restores ((option .text).read depth) (settings.baseUrl.elim .null .string)
      (settings.datumOf "base_url") := by
  rw [datumOf, if_pos rfl]
  cases settings.baseUrl with
  | none => exact restores_option_null .text depth
  | some s => exact (restores_text depth s).option ⟨'"', _, rfl, by decide, by decide⟩

theorem restores_timeout (settings : Settings) (depth : Nat) :
    Restores ((option (.integer (.unsigned 64))).read depth)
      (settings.timeout.elim .null .ofUInt64) (settings.datumOf "timeout_ms") := by
  rw [datumOf, if_neg (by decide), if_pos rfl]
  cases settings.timeout with
  | none => exact restores_option_null _ depth
  | some n =>
    obtain ⟨c, more, htext, hc⟩ := exists_integerText (JsonInteger.ofUInt64 n).value
    have hfits : (IntegerKind.unsigned 64).least ≤ (JsonInteger.ofUInt64 n).value ∧
        (JsonInteger.ofUInt64 n).value ≤ (IntegerKind.unsigned 64).greatest := by
      have hgreatest : (IntegerKind.unsigned 64).greatest = 18446744073709551615 := by decide
      have hleast : (IntegerKind.unsigned 64).least = 0 := rfl
      have hvalue : (JsonInteger.ofUInt64 n).value = n.toNat := rfl
      have hlt := n.toNat_lt
      rw [hgreatest, hleast, hvalue]
      omega
    have hfront : Text.isBlankChar c = false ∧ c ≠ 'n' := by
      rcases hc with rfl | hc
      · decide
      · refine ⟨isBlankChar_of_isDigit hc, ?_⟩
        rintro rfl
        exact absurd hc (by decide)
    exact (restores_integer depth hfits).option ⟨c, more, htext, hfront⟩

theorem restores_headers (settings : Settings) (depth : Nat) :
    Restores ((Shape.map .text).read (depth + 1))
      (.object (settings.headers.map fun (name, value) => (name, .string value)))
      (settings.datumOf "headers") := by
  have hdata : settings.datumOf "headers"
      = .map ((settings.headers.map fun (name, value) => (name, Json.string value)).map
        fun m => (m.1, headerDatum m.2)) := by
    rw [datumOf, if_neg (by decide), if_neg (by decide), List.map_map]
    rfl
  rw [hdata]
  refine restores_map ?_ ?_
  · intro m hm
    obtain ⟨header, -, rfl⟩ := List.mem_map.mp hm
    exact restores_text depth header.2
  · rw [List.map_map]
    exact List.pairwise_map.mpr settings.headers_sorted

/-- The fields of settings. -/
def fields : List Field :=
  [Shape.fieldOr "base_url" (.option .text) .absent,
    Shape.fieldOr "timeout_ms" (.option (.integer (.unsigned 64))) .absent,
    Shape.fieldOr "headers" (.map .text) (.map [])]

theorem shape_eq : shape = .record "TransportConfig" false fields := rfl

/-- Every part is read by the reader of the field that it names. -/
theorem restores_member (settings : Settings) (depth : Nat) :
    ∀ m ∈ settings.members, ∃ part, (fieldParts fields).find? (·.name = m.1) = some part ∧
      Restores (part.read (depth + 1)) m.2 (settings.datumOf m.1) := by
  simp only [members, List.forall_mem_cons, List.not_mem_nil, false_imp_iff, implies_true, and_true]
  exact ⟨⟨_, rfl, settings.restores_baseUrl _⟩, ⟨_, rfl, settings.restores_timeout _⟩,
    ⟨_, rfl, settings.restores_headers _⟩⟩

/-- A part that sets nothing is what it is where it is missing. -/
theorem notInObject_of_isUnset (settings : Settings) :
    ∀ part ∈ fieldParts fields, (∀ v, (part.name, v) ∈ settings.members → IsUnset v) →
      part.notInObject = some (settings.datumOf part.name) := by
  simp only [fields, Shape.fieldOr, fieldParts, List.forall_mem_cons, List.not_mem_nil,
    false_imp_iff, implies_true, and_true]
  refine ⟨fun h => ?_, fun h => ?_, fun h => ?_⟩
  · have hunset := h _ List.mem_cons_self
    rw [datumOf, if_pos rfl]
    cases hurl : settings.baseUrl with
    | none => rfl
    | some s => simp [hurl, IsUnset] at hunset
  · have hunset := h _ (List.mem_cons_of_mem _ List.mem_cons_self)
    rw [datumOf, if_neg (by decide), if_pos rfl]
    cases htimeout : settings.timeout with
    | none => rfl
    | some n => simp [htimeout, IsUnset, Json.ofUInt64] at hunset
  · have hunset := h _ (List.mem_cons_of_mem _ (List.mem_cons_of_mem _ List.mem_cons_self))
    rw [datumOf, if_neg (by decide), if_neg (by decide)]
    cases hheaders : settings.headers with
    | nil => rfl
    | cons header more => simp [hheaders, IsUnset] at hunset

/-- Settings are what the data of their parts holds. -/
theorem ofDatum_datumOf (settings : Settings) :
    ofDatum (.record (known settings.datumOf ((fieldParts fields).map (·.name)))) = settings := by
  have hurl : textOf? (settings.datumOf "base_url") = settings.baseUrl := by
    rw [datumOf, if_pos rfl]
    cases settings.baseUrl <;> rfl
  have htimeout : countOf? (settings.datumOf "timeout_ms") = settings.timeout := by
    rw [datumOf, if_neg (by decide), if_pos rfl]
    cases settings.timeout with
    | none => rfl
    | some n => simp [countOf?]
  have hheaders : Members.sorted (textsOf (settings.datumOf "headers")) = settings.headers := by
    have htexts : textsOf (settings.datumOf "headers") = settings.headers := by
      rw [datumOf, if_neg (by decide), if_neg (by decide), textsOf, List.filterMap_map]
      exact List.filterMap_some
    rw [htexts, Members.sorted_eq_self settings.headers_sorted]
  obtain ⟨baseUrl, timeout, headers, hsorted⟩ := settings
  simp only [ofDatum, Settings.mk.injEq]
  exact ⟨hurl, htimeout, hheaders⟩

/-! ## Round trips -/

/-- **Every way to write settings** is read as these settings. -/
theorem parse_of_spells {settings : Settings} {written : List (String × Json)}
    (h : Spells written settings) : parse (Json.object written).text = .ok settings := by
  have hmissing : ∀ part ∈ fieldParts fields, part.name ∉ written.map (·.1) →
      part.notInObject = some (settings.datumOf part.name) := by
    intro part hpart hnot
    refine settings.notInObject_of_isUnset part hpart fun v hv => h.isUnset hv ?_
    exact fun hmem => hnot (List.mem_map.mpr ⟨_, hmem, rfl⟩)
  have hrestores : Restores (shape.read depthLimit) (.object written)
      (.record (known settings.datumOf ((fieldParts fields).map (·.name)))) := by
    rw [shape_eq]
    -- the parts are read one level further down than the whole
    exact restores_record h.nodup (fun m hm => settings.restores_member 125 m (h.mem hm)) hmissing
  rw [parse, parse_text_of_restores hrestores]
  exact congrArg Except.ok settings.ofDatum_datumOf

/-- **Settings come back**: from the text that is written for them, and from every other way to write
them. So what was read from any text, be it an object or a list, is kept when it is written and read
again. -/
theorem settings_come_back :
    (∀ settings : Settings, parse settings.toJson.text = .ok settings) ∧
    (∀ (settings : Settings) (written : List (String × Json)), Spells written settings →
      parse (Json.object written).text = .ok settings) ∧
    ∀ (text : String) (settings : Settings), parse text = .ok settings →
      parse settings.toJson.text = .ok settings := by
  have hwritten : ∀ settings : Settings, parse settings.toJson.text = .ok settings := by
    intro settings
    rw [toJson_eq]
    exact parse_of_spells settings.spells_members
  exact ⟨hwritten, fun _ _ h => parse_of_spells h, fun _ settings _ => hwritten settings⟩

/-- Settings without a timeout. -/
def trackedNotes : Settings :=
  ⟨some "http://notes.test", none, [("x-a", "tab\t"), ("x-b", "2")], List.pairwise_pair.mpr (by decide)⟩

/-- They are read from a list whose headers are not in order, and come back from an object with the
headers first and the timeout left out. -/
theorem trackedNotes_come_back :
    parse "[\"http://notes.test\", null, \x7b\"x-b\":\"2\",\"x-a\":\"tab\\t\"\x7d]" = .ok trackedNotes ∧
    parse trackedNotes.toJson.text = .ok trackedNotes ∧
    parse (Json.object [("headers", .object [("x-a", .string "tab\t"), ("x-b", .string "2")]),
      ("base_url", .string "http://notes.test")]).text = .ok trackedNotes := by
  have hread : parse "[\"http://notes.test\", null, \x7b\"x-b\":\"2\",\"x-a\":\"tab\\t\"\x7d]"
      = .ok trackedNotes := toOption_eq_some_iff.mp (by decide +kernel)
  have hspells : Spells [("headers", .object [("x-a", .string "tab\t"), ("x-b", .string "2")]),
      ("base_url", .string "http://notes.test")] trackedNotes := by
    refine ⟨[("base_url", .string "http://notes.test"),
      ("headers", .object [("x-a", .string "tab\t"), ("x-b", .string "2")])], ?_, .swap _ _ _, ?_⟩
    · exact .cons_cons _ (.cons _ (.refl _))
    · simp [members, trackedNotes, IsUnset]
  obtain ⟨-, hback, hagain⟩ := settings_come_back
  exact ⟨hread, hagain _ _ hread, hback _ _ hspells⟩

end Courier.Settings
