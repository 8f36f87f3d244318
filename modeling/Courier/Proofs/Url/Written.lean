import Mathlib.Data.List.TakeWhile
import Courier.Proofs.Url.Authority
import Courier.Proofs.Url.Segments

/-!
# The parts of a written URL

The text of a URL is cut at slashes, at a question mark and at a number sign. None of these is
inside a part that ends there, so the parts can be told apart again: path and query of a web URL are
read off its text as they were written.
-/

namespace Courier.Url

/-! ## Texts without marks -/

/-- A text without the marks that end parts of a URL. -/
def Unmarked (cs : List Char) : Prop :=
  ∀ c ∈ cs, c ≠ '/' ∧ c ≠ '?' ∧ c ≠ '#'

theorem Unmarked.append {cs ds : List Char} (hc : Unmarked cs) (hd : Unmarked ds) :
    Unmarked (cs ++ ds) := by
  intro c h
  rcases List.mem_append.mp h with h | h
  · exact hc c h
  · exact hd c h

theorem Unmarked.cons {c : Char} {cs : List Char} (hc : c ≠ '/' ∧ c ≠ '?' ∧ c ≠ '#')
    (hcs : Unmarked cs) : Unmarked (c :: cs) := by
  intro d hd
  rcases List.mem_cons.mp hd with rfl | hd
  · exact hc
  · exact hcs d hd

theorem unmarked_nil : Unmarked [] := by
  intro c h
  cases h

/-- Texts with separators between them. -/
theorem unmarked_intersperse {separator : List Char} (hsep : Unmarked separator)
    {texts : List (List Char)} (h : ∀ t ∈ texts, Unmarked t) :
    Unmarked (texts.intersperse separator).flatten := by
  induction texts with
  | nil => exact unmarked_nil
  | cons text texts ih =>
    have htext : Unmarked text := h text (by simp)
    have hrest := ih fun t ht => h t (by simp [ht])
    cases texts with
    | nil => simpa using htext
    | cons next texts =>
      rw [List.intersperse_cons_cons, List.flatten_cons, List.flatten_cons]
      exact htext.append (hsep.append hrest)

theorem unmarked_digitChar (n : Nat) :
    n.digitChar ≠ '/' ∧ n.digitChar ≠ '?' ∧ n.digitChar ≠ '#' := by
  rcases Nat.lt_or_ge n 16 with h | h
  · revert n
    decide
  · rw [Nat.digitChar_eq_star.mpr h]
    decide

theorem unmarked_toDigits {base : Nat} (hbase : 1 < base) (n : Nat) :
    Unmarked (Nat.toDigits base n) := by
  induction n using Nat.strongRecOn with
  | ind n ih =>
    have hdigit : ∀ d : Nat, Unmarked [d.digitChar] := by
      intro d
      exact Unmarked.cons (unmarked_digitChar d) unmarked_nil
    rw [Nat.toDigits_eq_if hbase]
    split
    · exact hdigit n
    · exact (ih (n / base) (Nat.div_lt_self (by omega) hbase)).append (hdigit (n % base))

/-! ## Hosts -/

theorem unmarked_ipv4 (bytes : List Nat) : Unmarked (Ipv4.text bytes) := by
  refine unmarked_intersperse (Unmarked.cons (by decide) unmarked_nil) ?_
  intro text htext
  obtain ⟨byte, -, rfl⟩ := List.mem_map.mp htext
  exact unmarked_toDigits (by decide) byte

theorem unmarked_groupsText (groups : List Nat) : Unmarked (Ipv6.groupsText groups) := by
  refine unmarked_intersperse (Unmarked.cons (by decide) unmarked_nil) ?_
  intro text htext
  obtain ⟨group, -, rfl⟩ := List.mem_map.mp htext
  exact unmarked_toDigits (by decide) group

theorem unmarked_ipv6 (groups : List Nat) : Unmarked (Ipv6.text groups) := by
  have hcolons : Unmarked [':', ':'] :=
    Unmarked.cons (by decide) (Unmarked.cons (by decide) unmarked_nil)
  rw [Ipv6.text]
  simp only
  split
  · exact unmarked_groupsText groups
  · exact ((unmarked_groupsText _).append hcolons).append (unmarked_groupsText _)

theorem unmarked_of_nameOf {text name : List Char} (h : nameOf text = .ok name) :
    Unmarked name := by
  unfold nameOf at h
  split at h
  · cases h
  · split at h
    · cases h
    · split at h
      · cases h
      · next hnone =>
        cases h
        intro c hc
        have hallowed : isForbiddenInName c = false := by
          refine Bool.eq_false_iff.mpr ?_
          intro hforbidden
          exact hnone (List.any_eq_true.mpr ⟨c, hc, hforbidden⟩)
        refine ⟨?_, ?_, ?_⟩ <;>
        · rintro rfl
          revert hallowed
          decide

theorem unmarked_of_bracketedHost {text : List Char} {host : Host}
    (h : bracketedHost text = .ok host) : Unmarked host.text := by
  unfold bracketedHost at h
  split at h
  · obtain ⟨groups, -, rfl⟩ := map_eq_ok_iff.mp h
    exact Unmarked.cons (by decide)
      ((unmarked_ipv6 groups).append (Unmarked.cons (by decide) unmarked_nil))
  · cases h

theorem unmarked_of_parseHost {text : List Char} {host : Host} (h : parseHost text = .ok host) :
    Unmarked host.text := by
  unfold parseHost at h
  split at h
  · exact unmarked_of_bracketedHost h
  · split at h
    · cases h
    · cases h
    · next hname =>
      split at h
      · obtain ⟨bytes, -, rfl⟩ := map_eq_ok_iff.mp h
        exact unmarked_ipv4 bytes
      · cases h
        exact unmarked_of_nameOf hname

/-! ## Paths -/

/-- What is escaped for a path keeps no mark but the slash. -/
theorem unmarked_encodePath {segment : List Char} (h : ∀ c ∈ segment, isSlash true c = false) :
    Unmarked (Percent.encodeChars keepInPath segment) := by
  refine Percent.forall_mem_encodeChars (by decide) (by decide) ?_
  intro c hc hkept
  have hslash := h c hc
  refine ⟨?_, ?_, ?_⟩
  · rintro rfl
    revert hslash
    decide
  · rintro rfl
    revert hkept
    decide
  · rintro rfl
    revert hkept
    decide

theorem mem_dropLastSegment {before : List (List Char)} {name : List Char}
    (h : name ∈ dropLastSegment before) : name ∈ before := by
  unfold dropLastSegment at h
  split at h
  · exact h
  · exact List.dropLast_subset before h

/-- Going through segments leaves segments without marks. -/
theorem unmarked_normalizeSegments {raw : List (List Char)}
    (hraw : ∀ s ∈ raw, ∀ c ∈ s, isSlash true c = false) {before : List (List Char)}
    (hbefore : ∀ n ∈ before, Unmarked n) :
    ∀ n ∈ normalizeSegments false before raw, Unmarked n := by
  induction raw generalizing before with
  | nil => exact hbefore
  | cons segment rest ih =>
    have hshown : ∀ kept : List (List Char), (∀ n ∈ kept, Unmarked n) →
        ∀ n ∈ (if rest.isEmpty then kept ++ [[]] else kept), Unmarked n := by
      intro kept hkept n hn
      split at hn
      · rcases List.mem_append.mp hn with hn | hn
        · exact hkept n hn
        · rw [List.mem_singleton.mp hn]
          exact unmarked_nil
      · exact hkept n hn
    rw [normalizeSegments]
    refine ih (fun s hs => hraw s (by simp [hs])) ?_
    simp only
    split
    · exact hshown _ fun n hn => hbefore n (mem_dropLastSegment hn)
    · split
      · exact hshown _ hbefore
      · intro n hn
        simp only [addSegment, Bool.false_and, Bool.false_eq_true, if_false] at hn
        rcases List.mem_append.mp hn with hn | hn
        · exact hbefore n hn
        · rw [List.mem_singleton.mp hn]
          exact unmarked_encodePath (hraw segment (by simp))

/-- The segments of a web path have no marks. -/
theorem unmarked_specialPath (text : List Char) :
    ∃ names, specialPath text = .segments names ∧ ∀ n ∈ names, Unmarked n := by
  refine ⟨_, rfl, unmarked_normalizeSegments ?_ (by simp)⟩
  intro s hs
  exact of_mem_splitAll hs

/-! ## Texts of URLs -/

/-- A URL whose parts can be told apart in its text. -/
structure IsReadable (u : Url) : Prop where
  hasHost : u.hasHost = true
  scheme : Unmarked u.scheme
  host : Unmarked u.host.text
  path : ∃ names, u.path = .segments names ∧ ∀ n ∈ names, Unmarked n
  query : ∀ q, u.query = some q → '#' ∉ q

theorem unmarked_of_schemeKind {scheme : List Char} (h : schemeKind scheme = .web) :
    Unmarked scheme := by
  unfold schemeKind at h
  split at h
  · cases h
  · split at h
    · next hport =>
      unfold defaultPort at hport
      split at hport
      · next hscheme =>
        rcases hscheme with rfl | rfl <;> simp [Unmarked]
      · split at hport
        · next hscheme =>
          rcases hscheme with rfl | rfl <;> simp [Unmarked]
        · split at hport
          · next hscheme =>
            rw [hscheme]
            simp [Unmarked]
          · cases hport
    · cases h

theorem not_mem_encodeQuery (special : Bool) (cs : List Char) :
    '#' ∉ Percent.encodeChars (keepInQuery special) cs := by
  intro h
  refine Percent.forall_mem_encodeChars (P := (· ≠ '#')) (by decide) (by decide) ?_ '#' h rfl
  rintro c - hc rfl
  cases special
  · revert hc
    decide
  · revert hc
    decide

/-- A web URL that was read. -/
theorem isReadable_of_parse {s : String} {u : Url} (h : parse s = .ok u)
    (hweb : schemeKind u.scheme = .web) : IsReadable u := by
  obtain ⟨rest, -, hpath, hquery⟩ := back_of_parse h hweb
  obtain ⟨text, htext⟩ := parseHost_of_parse h hweb
  refine ⟨hasHost_of_parse h hweb, unmarked_of_schemeKind hweb, unmarked_of_parseHost htext, ?_, ?_⟩
  · rw [hpath]
    exact unmarked_specialPath (webBack rest)
  · intro q hq
    rw [hquery] at hq
    obtain ⟨raw, -, rfl⟩ := Option.map_eq_some_iff.mp hq
    exact not_mem_encodeQuery true raw

/-- A text and a query are cut where they were put together. -/
theorem cut_marked {front : List Char} (hfront : ∀ c ∈ front, c ≠ '?' ∧ c ≠ '#')
    {query : Option (List Char)} (hquery : ∀ q, query = some q → '#' ∉ q) :
    cut (front ++ marked '?' query) = ⟨front, query, none⟩ := by
  have hnone : ∀ c ∈ front ++ marked '?' query, decide (c ≠ '#') = true := by
    intro c hc
    refine decide_eq_true ?_
    rcases List.mem_append.mp hc with hc | hc
    · exact (hfront c hc).2
    · cases query with
      | none => cases hc
      | some q =>
        rcases List.mem_cons.mp hc with rfl | hc
        · decide
        · rintro rfl
          exact hquery q rfl hc
  have hmark : ∀ c, (marked '?' query).head? = some c → decide (c ≠ '?') = false := by
    intro c hc
    cases query with
    | none => cases hc
    | some q =>
      cases hc
      rfl
  have hplain : ∀ c ∈ front, decide (c ≠ '?') = true := by
    intro c hc
    exact decide_eq_true (hfront c hc).1
  simp only [cut]
  rw [List.takeWhile_eq_self_iff.mpr hnone, List.dropWhile_eq_nil_iff.mpr hnone,
    takeWhile_of_boundary hplain hmark, dropWhile_of_boundary hplain hmark]
  cases query <;> rfl

/-- The query in the text of a URL. -/
def queryIn (text : String) : Option (List Char) :=
  (cut text.toList).query

/-- The segments of the path in the text of a URL with an authority: what follows the scheme, two
slashes and everything up to the next slash. -/
def pathIn (text : String) : List (List Char) :=
  let located := ((cut text.toList).main.dropWhile (· ≠ '/')).drop 2
  splitAll (· = '/') ((located.dropWhile (· ≠ '/')).drop 1)

/-- A URL without credentials and fragment is its scheme, its host and port, its path and its
query. -/
theorem chars_of_bare {u : Url} (hhost : u.hasHost = true) (husername : u.username = [])
    (hpassword : u.password = none) (hfragment : u.fragment = none) :
    u.chars = (u.scheme ++ ':' :: '/' :: '/' :: (u.hostAndPort ++ u.path.text))
      ++ marked '?' u.query := by
  have hauthority : u.authorityText = '/' :: '/' :: u.hostAndPort := by
    rw [authorityText, credentialsText, husername, hpassword]
    cases hkind : u.host with
    | absent => simp [hasHost, hkind, Host.isPresent] at hhost
    | empty => simp [hasHost, hkind, Host.isPresent] at hhost
    | domain | ipv4 | ipv6 => rfl
  rw [chars, hauthority, hfragment]
  simp [marked]

theorem IsReadable.unmarked_hostAndPort {u : Url} (h : IsReadable u) : Unmarked u.hostAndPort := by
  rw [hostAndPort]
  cases u.port with
  | none => exact h.host.append unmarked_nil
  | some port =>
    exact h.host.append (Unmarked.cons (by decide) (unmarked_toDigits (by decide) port))

/-- The front of a readable URL has no mark of a query or a fragment. -/
theorem IsReadable.front_plain {u : Url} (h : IsReadable u) :
    ∀ c ∈ u.scheme ++ ':' :: '/' :: '/' :: (u.hostAndPort ++ u.path.text), c ≠ '?' ∧ c ≠ '#' := by
  obtain ⟨names, hnames, hpath⟩ := h.path
  have hslashes : ∀ c ∈ [':', '/', '/'], c ≠ '?' ∧ c ≠ '#' := by simp
  intro c hc
  rcases List.mem_append.mp hc with hc | hc
  · exact (h.scheme c hc).2
  change c ∈ [':', '/', '/'] ++ (u.hostAndPort ++ u.path.text) at hc
  rcases List.mem_append.mp hc with hc | hc
  · exact hslashes c hc
  rcases List.mem_append.mp hc with hc | hc
  · exact (h.unmarked_hostAndPort c hc).2
  · rw [hnames] at hc
    obtain ⟨name, hname, hc⟩ := List.mem_flatMap.mp hc
    rcases List.mem_cons.mp hc with rfl | hc
    · decide
    · exact (hpath name hname c hc).2

section Bare

variable {u : Url} (h : IsReadable u) (husername : u.username = []) (hpassword : u.password = none)
  (hfragment : u.fragment = none)
include h husername hpassword hfragment

theorem cut_text : cut u.text.toList
    = ⟨u.scheme ++ ':' :: '/' :: '/' :: (u.hostAndPort ++ u.path.text), u.query, none⟩ := by
  rw [text, String.toList_ofList, chars_of_bare h.hasHost husername hpassword hfragment]
  exact cut_marked h.front_plain h.query

/-- **The query of a URL** is read off its text. -/
theorem queryIn_text : queryIn u.text = u.query := by
  rw [queryIn, cut_text h husername hpassword hfragment]

/-- **The path of a URL** is read off its text, segment by segment. -/
theorem pathIn_text {names : List (List Char)} (hnames : u.path = .segments names)
    (hne : names ≠ []) (hpath : ∀ n ∈ names, Unmarked n) : pathIn u.text = names := by
  obtain ⟨name, names, rfl⟩ := List.exists_cons_of_ne_nil hne
  have hscheme : ∀ c ∈ u.scheme ++ [':'], decide (c ≠ '/') = true := by
    intro c hc
    rcases List.mem_append.mp hc with hc | hc
    · exact decide_eq_true (h.scheme c hc).1
    · rw [List.mem_singleton.mp hc]
      decide
  have hlocated : ∀ c ∈ u.hostAndPort, decide (c ≠ '/') = true :=
    fun c hc => decide_eq_true (h.unmarked_hostAndPort c hc).1
  have hslash : ∀ cs : List Char, ∀ c, ('/' :: cs).head? = some c → decide (c ≠ '/') = false := by
    intro cs c hc
    cases hc
    rfl
  have hpieces : splitAll (· = '/') (name ++ names.flatMap ('/' :: ·)) = name :: names :=
    splitAll_flatMap (by decide) fun n hn c hc => decide_eq_false (hpath n hn c hc).1
  have htext : u.path.text = '/' :: (name ++ names.flatMap ('/' :: ·)) := by
    rw [hnames]
    rfl
  rw [pathIn, cut_text h husername hpassword hfragment, htext]
  rw [List.append_cons, dropWhile_of_boundary hscheme (hslash _)]
  simp only [List.drop_succ_cons, List.drop_zero]
  rw [dropWhile_of_boundary hlocated (hslash _), List.drop_one, List.tail_cons, hpieces]

end Bare

end Courier.Url
