import Mathlib.Data.List.Forall2
import Courier.Proofs.Http.Sending
import Courier.Proofs.Template.Segments
import Courier.Proofs.Url.Pathless

/-!
# Values in paths arrive

A value for a token of a template is encoded, joined to a base, read as part of a URL and written
again. If the template consists of whole segments and the base has no path, the path of the message
has a segment for each segment of the template, and that of a token stands for its value. Dots are
no values: they are not escaped, and the reader of URLs gives them a meaning. And a request for a
tunnel has no path.
-/

namespace Courier.Http

open Template (Segment names textOf encoded)

/-- The characters of words. -/
def isWordChar (c : Char) : Bool :=
  Percent.isAsciiAlnum c || c = '_'

/-- A template of whole segments: words, and tokens of which no name starts with another. -/
structure IsPathTemplate (segments : List Segment) : Prop where
  nonempty : segments ≠ []
  literal : ∀ text, .literal text ∈ segments → text ≠ [] ∧ ∀ c ∈ text, isWordChar c = true
  token : ∀ name ∈ names segments, '/' ∉ name.toList ∧ ':' ∉ name.toList
  distinct : (names segments).Nodup
  apart : ∀ a ∈ names segments, ∀ b ∈ names segments, a.toList <+: b.toList → a = b

/-- One value for each token, in any order. None of them is empty. -/
structure IsAssignment (values : List (String × String)) (segments : List Segment) : Prop where
  complete : (values.map (·.1)).Perm (names segments)
  nonempty : ∀ v ∈ values, v.2 ≠ ""

/-- What a segment of a path has to be for a segment of the template: a word itself, and for a token
a text that is decoded to its value. -/
def Carries (values : List (String × String)) : Segment → List Char → Prop
  | .literal text, shown => shown = text
  | .token name, shown =>
    ∃ value, (name, value) ∈ values ∧ Utf8.decode (Percent.decodeChars shown) = .ok value

/-! ## Segments -/

theorem lt_of_isAsciiAlnum {c : Char} (h : Percent.isAsciiAlnum c = true) : c.toNat < 128 := by
  have hupper : ∀ top : Char, c ≤ top → c.toNat ≤ top.toNat := fun top hle => hle
  simp only [Percent.isAsciiAlnum, Bool.or_eq_true, Bool.and_eq_true, decide_eq_true_eq] at h
  rcases h with (⟨-, h⟩ | ⟨-, h⟩) | ⟨-, h⟩
  · exact (hupper 'z' h).trans_lt (by decide)
  · exact (hupper 'Z' h).trans_lt (by decide)
  · exact (hupper '9' h).trans_lt (by decide)

/-- What is kept in a value is kept in a path. -/
theorem keepInPath_of_isKept {c : Char} (h : Template.isKept c = true) :
    Url.keepInPath c = true := by
  have hascii : ∀ n < 128, Percent.isAsciiAlnum (Char.ofNat n) = true →
      Url.keepInPath (Char.ofNat n) = true := by
    decide
  simp only [Template.isKept, Bool.or_eq_true, decide_eq_true_eq] at h
  rcases h with (((((((((h | rfl) | rfl) | rfl) | rfl) | rfl) | rfl) | rfl) | rfl) | rfl)
  · have hc := hascii c.toNat (lt_of_isAsciiAlnum h)
    rw [Char.ofNat_toNat] at hc
    exact hc h
  all_goals decide

theorem isNormal_encoded {value : String} (hsingle : value ≠ ".") (hdouble : value ≠ "..") :
    Url.IsNormalSegment (encoded value) := by
  have hdots : ∀ dots : List Char, value ≠ String.ofList dots →
      Percent.decodeChars (encoded value) ≠ Utf8.encodeChars dots := by
    intro dots hne heq
    rw [Template.decodeChars_encoded] at heq
    rw [← Utf8.encodeChars_inj heq, String.ofList_toList] at hne
    exact hne rfl
  refine ⟨Url.isNotDots_of_decodeChars (hdots _ hsingle) (hdots _ hdouble), ?_, ?_⟩
  · exact Percent.forall_mem_encodeChars (by decide) (by decide)
      fun c _ hc => keepInPath_of_isKept hc
  · intro c hc
    have hback : '\\' ∉ encoded value :=
      Template.not_mem_encoded (by decide) (by decide) (by decide) value
    refine Bool.eq_false_iff.mpr ?_
    intro hslash
    simp only [Url.isSlash, Bool.true_and, Bool.or_eq_true, decide_eq_true_eq] at hslash
    rcases hslash with rfl | rfl
    · exact Template.slash_not_mem_encoded value hc
    · exact hback hc

/-- A word is encoded as itself. -/
theorem encoded_word {text : List Char} (h : ∀ c ∈ text, isWordChar c = true) :
    encoded (String.ofList text) = text := by
  rw [encoded, String.toList_ofList]
  refine Percent.encodeChars_eq_self ?_
  intro c hc
  have hword := h c hc
  simp only [isWordChar, Bool.or_eq_true, decide_eq_true_eq] at hword
  rcases hword with halnum | rfl
  · simp [Template.isKept, halnum]
  · decide

theorem isNormal_word {text : List Char} (h : ∀ c ∈ text, isWordChar c = true) :
    Url.IsNormalSegment text := by
  have hne : ∀ dots : String, '.' ∈ dots.toList → String.ofList text ≠ dots := by
    rintro _ hdot rfl
    rw [String.toList_ofList] at hdot
    exact absurd (h '.' hdot) (by decide)
  rw [← encoded_word h]
  exact isNormal_encoded (hne _ (by decide)) (hne _ (by decide))

/-! ## Filled templates -/

/-- A segment as it is written when all values are in their places. -/
def shown (values : List (String × String)) (segment : Segment) : List Char :=
  (segment.fillAll values).text

section Filled

variable {segments : List Segment} {values : List (String × String)}
  (htemplate : IsPathTemplate segments) (hvalues : IsAssignment values segments)
include htemplate

theorem IsPathTemplate.isWhole : ∀ s ∈ segments, s.IsWhole := by
  intro s hs
  cases s with
  | literal text =>
    obtain ⟨-, hword⟩ := htemplate.literal text hs
    exact ⟨fun h => absurd (hword _ h) (by decide), fun h => absurd (hword _ h) (by decide)⟩
  | token name => exact htemplate.token name (List.mem_filterMap.mpr ⟨_, hs, rfl⟩)

theorem IsPathTemplate.isApartFrom {name : String} (hname : name ∈ names segments) :
    Template.IsApartFrom name segments :=
  ⟨(htemplate.token name hname).1,
    fun other hother hpre => (htemplate.apart name hname other hother hpre).symm⟩

include hvalues

theorem IsAssignment.nodup : (values.map (·.1)).Nodup :=
  hvalues.complete.nodup_iff.mpr htemplate.distinct

theorem fill_textOf : (Template.fill (String.ofList (textOf segments)) values).toList
    = (segments.map (shown values)).flatMap ('/' :: ·) := by
  rw [Template.fill, String.toList_ofList, String.toList_ofList,
    Template.fillChars_textOf htemplate.isWhole htemplate.distinct, textOf, List.flatMap_map,
    List.flatMap_map]
  · rfl
  · intro v hv
    exact htemplate.isApartFrom (hvalues.complete.subset (List.mem_map_of_mem hv))

variable (hdots : ∀ v ∈ values, v.2 ≠ "." ∧ v.2 ≠ "..")
include hdots

/-- **Each segment** is shown in normal form, and carries what it has to. -/
theorem shown_spec {segment : Segment} (hmem : segment ∈ segments) :
    Url.IsNormalSegment (shown values segment) ∧ shown values segment ≠ [] ∧
      Carries values segment (shown values segment) := by
  cases segment with
  | literal text =>
    obtain ⟨hne, hword⟩ := htemplate.literal text hmem
    have hshown : shown values (.literal text) = text := by
      rw [shown, Segment.fillAll_literal, Segment.text]
    rw [hshown]
    exact ⟨isNormal_word hword, hne, rfl⟩
  | token name =>
    have hname : name ∈ names segments := List.mem_filterMap.mpr ⟨_, hmem, rfl⟩
    obtain ⟨⟨n, value⟩, hv, rfl⟩ := List.mem_map.mp (hvalues.complete.symm.subset hname)
    obtain ⟨hsingle, hdouble⟩ := hdots _ hv
    have hshown : shown values (.token n) = encoded value := by
      rw [shown, Segment.fillAll_token (hvalues.nodup htemplate) hv, Segment.text]
    refine ⟨?_, ?_, value, hv, ?_⟩
    · rw [hshown]
      exact isNormal_encoded hsingle hdouble
    · rw [hshown]
      exact mt Template.encoded_eq_nil_iff.mp (hvalues.nonempty _ hv)
    · rw [hshown, Template.decodeChars_encoded, Utf8.encode, Utf8.decode_encodeChars,
        String.ofList_toList]

/-- The first segment that is shown, and those behind it. -/
theorem exists_shown : ∃ name more, segments.map (shown values) = name :: more ∧ name ≠ [] ∧
    ∀ n ∈ name :: more, Url.IsNormalSegment n := by
  obtain ⟨first, rest, rfl⟩ := List.exists_cons_of_ne_nil htemplate.nonempty
  refine ⟨_, _, rfl, (shown_spec htemplate hvalues hdots (by simp)).2.1, ?_⟩
  intro n hn
  rw [← List.map_cons] at hn
  obtain ⟨segment, hmem, rfl⟩ := List.mem_map.mp hn
  exact (shown_spec htemplate hvalues hdots hmem).1

end Filled

/-! ## Messages -/

theorem unmarked_of_isNormal {n : List Char} (h : Url.IsNormalSegment n) : Url.Unmarked n := by
  intro c hc
  refine ⟨?_, (Url.plain_of_keepInPath (h.kept c hc)).2⟩
  rintro rfl
  exact absurd (h.noSlash '/' hc) (by decide)

section Joined

variable {settings : Settings} {request : Request} {base : String} {name : List Char}
  {more : List (List Char)} (hbase : request.baseUrl.or settings.baseUrl = some base)
  (hne : name ≠ []) (hnormal : ∀ n ∈ name :: more, Url.IsNormalSegment n)
  (htext : request.url.toList = (name :: more).flatMap ('/' :: ·))
include hbase hne hnormal htext

theorem resolvedUrl_of_isNormal : resolvedUrl settings request = Url.join base request.url := by
  rw [resolvedUrl, hbase]
  exact Url.resolve_of_slash htext (Url.isAbsolute_of_isNormal hne hnormal htext) base

/-- The path of a message to a base without one is the path of the request. -/
theorem pathIn_of_sends (hpathless : Url.IsPathless base)
    (hmethod : request.method.token ≠ "CONNECT") {network : Network} {wire : WireRequest}
    (hsends : (exchange settings network request).1 = some wire) :
    Url.pathIn wire.url = name :: more := by
  obtain ⟨u, hparse, hweb, hwire⟩ := url_of_sends hmethod hsends
  have hreadable := Url.isReadable_of_parse hparse hweb
  rw [resolvedUrl_of_isNormal hbase hne hnormal htext] at hparse
  have hpath := Url.path_join hpathless hne hnormal htext hparse hweb
  rw [hwire]
  exact pathIn_sent hreadable _ hpath (by simp) fun n hn => unmarked_of_isNormal (hnormal n hn)

/-- A request to a base that is read leads to its site, and is sent unless something else keeps it
from that. -/
theorem sends_joined {b : Url} (hb : Url.parse base = .ok b)
    (hscheme : b.scheme = "http".toList ∨ b.scheme = "https".toList)
    (hend : ∀ c, base.toList.getLast? = some c → 0x20 < c.toNat) :
    ∃ u, Url.parse (resolvedUrl settings request) = .ok u ∧ Url.SameSite u b ∧
      (isToken request.method.token = true → badHeader? (givenHeaders settings request) = none →
        isTarget (aimed u (queryOf request)) = true →
        ∀ network : Network, (∀ wire time, (network wire time).leaves = true) →
          ∃ wire, (exchange settings network request).1 = some wire) := by
  have hvisible : ∀ c, base.toList.getLast? = some c → Url.isControlOrSpace c = false := by
    intro c hc
    simpa [Url.isControlOrSpace] using hend c hc
  have hweb := schemeKind_of_canSend (canSend_iff.mpr hscheme)
  obtain ⟨u, hu, hsite⟩ := Url.parse_join hb hweb hvisible request.url
  have hsend : canSend u = true := by
    rw [canSend_iff, hsite.scheme]
    exact hscheme
  have hhost := Url.hasHost_of_parse hu (schemeKind_of_canSend hsend)
  rw [← resolvedUrl_of_isNormal hbase hne hnormal htext] at hu
  exact ⟨u, hu, hsite, fun hmethod hheaders htarget network hnetwork =>
    sends_of_parse hmethod hheaders hnetwork hu hhost hsend htarget⟩

end Joined

/-- **Every value arrives as one segment**: the path of a message that asks for no tunnel has one
segment for each segment of the template, a word as it is and a token as a text that is decoded to
its value. A message is sent for every such request to a base that is read, as far as the rest of
the request can be sent. -/
theorem values_arrive {settings : Settings} {request : Request} {base : String}
    {segments : List Segment} {values : List (String × String)}
    (hmethod : request.method.token ≠ "CONNECT")
    (hbase : request.baseUrl.or settings.baseUrl = some base) (hpathless : Url.IsPathless base)
    (htemplate : IsPathTemplate segments) (hvalues : IsAssignment values segments)
    (hdots : ∀ v ∈ values, v.2 ≠ "." ∧ v.2 ≠ "..")
    (hurl : request.url = Template.fill (String.ofList (textOf segments)) values) :
    (∀ network wire, (exchange settings network request).1 = some wire →
      List.Forall₂ (Carries values) segments (Url.pathIn wire.url)) ∧
    ∀ b, Url.parse base = .ok b → (b.scheme = "http".toList ∨ b.scheme = "https".toList) →
      (∀ c, base.toList.getLast? = some c → 0x20 < c.toNat) →
      ∃ u, Url.parse (resolvedUrl settings request) = .ok u ∧ Url.SameSite u b ∧
        (isToken request.method.token = true →
          badHeader? (givenHeaders settings request) = none →
          isTarget (aimed u (queryOf request)) = true →
          ∀ network : Network, (∀ wire time, (network wire time).leaves = true) →
            ∃ wire, (exchange settings network request).1 = some wire) := by
  obtain ⟨name, more, hshown, hne, hnormal⟩ := exists_shown htemplate hvalues hdots
  have htext : request.url.toList = (name :: more).flatMap ('/' :: ·) := by
    rw [hurl, fill_textOf htemplate hvalues, hshown]
  refine ⟨?_, ?_⟩
  · intro network wire hsends
    rw [pathIn_of_sends hbase hne hnormal htext hpathless hmethod hsends, ← hshown,
      List.forall₂_map_right_iff, List.forall₂_same]
    exact fun segment hmem => (shown_spec htemplate hvalues hdots hmem).2.2
  · intro b hb hscheme hend
    exact sends_joined hbase hne hnormal htext hb hscheme hend

/-- A template with a word and two tokens. -/
def taggedItem : List Segment :=
  [.literal "items".toList, .token "id", .token "tag"]

theorem isPathTemplate_taggedItem : IsPathTemplate taggedItem where
  nonempty := by decide
  literal := by
    intro text h
    simp only [taggedItem, List.mem_cons, Segment.literal.injEq, reduceCtorEq, List.not_mem_nil,
      or_false] at h
    subst h
    exact ⟨by decide, List.all_eq_true.mp rfl⟩
  token := by decide
  distinct := by decide
  apart := by decide

/-- A request for an item of a shop. -/
def itemRequest (method : Method) (values : List (String × String)) : Request where
  __ := Request.bare method (Template.fill (String.ofList (textOf taggedItem)) values)
  baseUrl := some "http://shop.test/"

theorem isPathless_shop : Url.IsPathless "http://shop.test/" :=
  ⟨by simp, _, _, rfl, by decide, rfl⟩

/-- Values that look like other parts of a URL arrive. -/
theorem item_values_arrive : ∃ wire,
    (exchange .default (fun _ _ => .closed)
      (itemRequest .get [("tag", "?a=b#c"), ("id", "../7")])).1 = some wire ∧
    List.Forall₂ (Carries [("tag", "?a=b#c"), ("id", "../7")]) taggedItem
      (Url.pathIn wire.url) := by
  have hbase : (itemRequest .get [("tag", "?a=b#c"), ("id", "../7")]).baseUrl.or
      Settings.default.baseUrl = some "http://shop.test/" := rfl
  have hmethod : (itemRequest .get [("tag", "?a=b#c"), ("id", "../7")]).method.token
      ≠ "CONNECT" := by decide
  obtain ⟨harrive, hsent⟩ := values_arrive hmethod hbase isPathless_shop
    isPathTemplate_taggedItem ⟨by decide, by decide⟩ (by decide) rfl
  have hend : ∀ c, "http://shop.test/".toList.getLast? = some c → 0x20 < c.toNat := by
    intro c hc
    obtain rfl : '/' = c := Option.some.inj hc
    decide
  obtain ⟨u, hu, -, hsends⟩ := hsent _ rfl (.inl rfl) hend
  cases hu
  obtain ⟨wire, hwire⟩ := hsends rfl rfl rfl (fun _ _ => .closed) fun _ _ => rfl
  exact ⟨wire, hwire, harrive _ _ hwire⟩

/-- Dots remove the segment before them, and are none themselves. Where a tunnel is asked for, no
value arrives at all. -/
theorem not_values_arrive_of_dots_or_connect :
    Url.IsPathless "http://shop.test/" ∧ IsPathTemplate taggedItem ∧
    (IsAssignment [("tag", ".."), ("id", "..")] taggedItem ∧ ∃ wire,
      (exchange .default (fun _ _ => .closed)
        (itemRequest .get [("tag", ".."), ("id", "..")])).1 = some wire ∧
      ¬ List.Forall₂ (Carries [("tag", ".."), ("id", "..")]) taggedItem
        (Url.pathIn wire.url)) ∧
    (IsAssignment [("tag", "a"), ("id", "7")] taggedItem ∧ ∃ wire,
      (exchange .default (fun _ _ => .closed)
        (itemRequest (.custom "CONNECT") [("tag", "a"), ("id", "7")])).1 = some wire ∧
      ¬ List.Forall₂ (Carries [("tag", "a"), ("id", "7")]) taggedItem
        (Url.pathIn wire.url)) := by
  refine ⟨isPathless_shop, isPathTemplate_taggedItem, ⟨⟨by decide, by decide⟩, _, rfl, ?_⟩,
    ⟨by decide, by decide⟩, _, rfl, ?_⟩
  · intro harrived
    exact absurd harrived.length_eq (by decide)
  · intro harrived
    exact absurd harrived.length_eq (by decide)

end Courier.Http
