import Courier.Proofs.Url.Joining

/-!
# Absolute URLs and their marks

An absolute URL is thought of as one that starts with two slashes, or with a scheme, a colon and two
slashes. What is looked at is not these marks but whether a host can be read. The two come to the
same for a text that needs no cleaning, whose scheme, if it is one of the six special ones, is
followed by two slashes, and which has a sound host behind every mark; each condition is needed.
-/

namespace Courier.Url

/-! ## Marks -/

/-- A scheme: a letter, and letters, digits, plus signs, hyphens and dots after it. -/
def IsScheme (cs : List Char) : Prop :=
  ∃ first more, cs = first :: more ∧ first.isAlpha = true ∧ ∀ c ∈ more, isSchemeChar c = true

/-- The marks of an absolute URL. -/
inductive IsMarked : List Char → Prop
  | slashes (more : List Char) : IsMarked ('/' :: '/' :: more)
  | scheme {scheme : List Char} (sound : IsScheme scheme) (more : List Char) :
      IsMarked (scheme ++ ':' :: '/' :: '/' :: more)

theorem isSchemeChar_of_isAlpha {c : Char} (h : c.isAlpha = true) : isSchemeChar c = true := by
  have hcase : c.isUpper = true ∨ c.isLower = true := (Bool.or_eq_true ..).mp h
  simp only [isSchemeChar, Percent.isAsciiAlnum, Bool.or_eq_true, Bool.and_eq_true,
    decide_eq_true_eq]
  rcases hcase with hupper | hlower
  · have hbounds : 'A' ≤ c ∧ c ≤ 'Z' := of_decide_eq_true hupper
    exact .inl (.inl (.inl (.inl (.inr hbounds))))
  · have hbounds : decide ('a' ≤ c) = true ∧ decide (c ≤ 'z') = true :=
      (Bool.and_eq_true ..).mp hlower
    exact .inl (.inl (.inl (.inl (.inl (hbounds.imp of_decide_eq_true of_decide_eq_true)))))

theorem IsScheme.isSchemeChar {cs : List Char} (h : IsScheme cs) {c : Char} (hc : c ∈ cs) :
    isSchemeChar c = true := by
  obtain ⟨first, more, rfl, hfirst, hmore⟩ := h
  rcases List.mem_cons.mp hc with rfl | hc
  · exact isSchemeChar_of_isAlpha hfirst
  · exact hmore c hc

theorem readScheme_of_isScheme {cs : List Char} (h : IsScheme cs) (rest : List Char) :
    readScheme (cs ++ ':' :: rest) = some (cs.map Char.toLower, rest) := by
  have hall : ∀ c ∈ cs, isSchemeChar c = true := fun c hc => h.isSchemeChar hc
  have htake : (cs ++ ':' :: rest).takeWhile isSchemeChar = cs := by
    rw [List.takeWhile_append_of_pos hall, List.takeWhile_cons_of_neg (by decide),
      List.append_nil]
  have hdrop : (cs ++ ':' :: rest).dropWhile isSchemeChar = ':' :: rest := by
    rw [List.dropWhile_append_of_pos hall, List.dropWhile_cons_of_neg (by decide)]
  obtain ⟨first, more, rfl, hfirst, -⟩ := h
  rw [List.cons_append] at htake hdrop ⊢
  rw [readScheme, if_pos hfirst, hdrop, htake]
  rfl

/-- A scheme is read in lower case up to the first colon. -/
theorem readScheme_eq_some_iff {cs scheme rest : List Char} :
    readScheme cs = some (scheme, rest) ↔
      ∃ written, IsScheme written ∧ cs = written ++ ':' :: rest ∧
        scheme = written.map Char.toLower := by
  constructor
  · intro h
    cases cs with
    | nil => cases h
    | cons first more =>
      rw [readScheme] at h
      split at h
      · next hfirst =>
        split at h
        · next hdrop =>
          cases h
          refine ⟨_, ⟨first, more.takeWhile isSchemeChar, ?_, hfirst, ?_⟩, ?_, rfl⟩
          · exact List.takeWhile_cons_of_pos (isSchemeChar_of_isAlpha hfirst)
          · exact fun c hc => List.mem_takeWhile_imp hc
          · rw [← hdrop, List.takeWhile_append_dropWhile]
        · cases h
      · cases h
  · rintro ⟨written, hwritten, rfl, rfl⟩
    exact readScheme_of_isScheme hwritten rest

/-- Whether a text has one of the marks. -/
def hasMark (cs : List Char) : Bool :=
  ['/', '/'].isPrefixOf cs ||
    match readScheme cs with
    | some (_, rest) => ['/', '/'].isPrefixOf rest
    | none => false

theorem isMarked_iff_hasMark {cs : List Char} : IsMarked cs ↔ hasMark cs = true := by
  rw [hasMark, Bool.or_eq_true, List.isPrefixOf_iff_prefix]
  constructor
  · intro h
    cases h with
    | slashes more => exact .inl ⟨more, rfl⟩
    | scheme sound more =>
      refine .inr ?_
      rw [readScheme_of_isScheme sound]
      rfl
  · rintro (⟨more, rfl⟩ | h)
    · exact .slashes more
    · split at h
      · next hscheme =>
        obtain ⟨written, hwritten, rfl, -⟩ := readScheme_eq_some_iff.mp hscheme
        obtain ⟨more, rfl⟩ := List.isPrefixOf_iff_prefix.mp h
        exact .scheme hwritten more
      · cases h

instance : DecidablePred IsMarked :=
  fun _ => decidable_of_iff _ isMarked_iff_hasMark.symm

/-- The main part of a text without a query or a fragment mark at its front. -/
theorem main_append_of_unmarked {cs : List Char} (hcs : ∀ c ∈ cs, c ≠ '#' ∧ c ≠ '?')
    (ds : List Char) : (cut (cs ++ ds)).main = cs ++ (cut ds).main := by
  have hhash : ∀ c ∈ cs, decide (c ≠ '#') = true := fun c hc => decide_eq_true (hcs c hc).1
  have hquery : ∀ c ∈ cs, decide (c ≠ '?') = true := fun c hc => decide_eq_true (hcs c hc).2
  simp only [cut]
  rw [List.takeWhile_append_of_pos hhash, List.takeWhile_append_of_pos hquery]

theorem main_isPrefix (cs : List Char) : (cut cs).main <+: cs :=
  (List.takeWhile_prefix _).trans (List.takeWhile_prefix _)

/-- Scheme and colon are part of the main part. -/
theorem main_of_isScheme {scheme : List Char} (h : IsScheme scheme) (rest : List Char) :
    (cut (scheme ++ ':' :: rest)).main = scheme ++ ':' :: (cut rest).main := by
  have hscheme : ∀ c ∈ scheme ++ [':'], c ≠ '#' ∧ c ≠ '?' := by
    intro c hc
    rcases List.mem_append.mp hc with hc | hc
    · have hchar := h.isSchemeChar hc
      constructor <;> rintro rfl <;> exact absurd hchar (by decide)
    · obtain rfl := List.mem_singleton.mp hc
      decide
  have := main_append_of_unmarked hscheme rest
  simpa using this

/-! ## Hosts -/

/-- Whether the path of a file starts with a drive. -/
def startsWithDrive (path : List Char) : Bool :=
  ((fileSegments path).head?.map isDrive).getD false

/-- What follows a scheme names a host. Behind a scheme with a web origin any slashes will do, also
none; behind that of files two, with a path that does not start with a drive; and behind another
scheme two that are no backslashes. -/
inductive NamesHost (scheme : List Char) : List Char → Prop
  | web {rest : List Char} {authority : Authority} (kind : schemeKind scheme = .web)
      (reads : readAuthority scheme true true (webFront rest) = .ok authority) :
      NamesHost scheme rest
  | file {a b : Char} {body : List Char} {host : Host} (kind : schemeKind scheme = .file)
      (slashes : isSlash true a = true ∧ isSlash true b = true)
      (driveless : isDrive (body.takeWhile fun c => !isSlash true c) = false ∧
        startsWithDrive (body.dropWhile fun c => !isSlash true c) = false)
      (reads : readFileHost (body.takeWhile fun c => !isSlash true c) = .ok host)
      (present : host.isPresent = true) :
      NamesHost scheme (a :: b :: body)
  | other {body : List Char} {authority : Authority} (kind : schemeKind scheme = .other)
      (reads : readAuthority scheme false true (body.takeWhile (· ≠ '/')) = .ok authority)
      (present : authority.host.isPresent = true) :
      NamesHost scheme ('/' :: '/' :: body)

/-- Whether the reading of a URL has come to one with a host. -/
def HasHost (reading : Except ParseError Url) : Prop :=
  ∃ u, reading = .ok u ∧ u.hasHost = true

theorem hasHost_parseWeb_iff {c : Cut} {scheme rest : List Char}
    (hkind : schemeKind scheme = .web) :
    HasHost (parseWeb c scheme rest) ↔ NamesHost scheme rest := by
  rw [HasHost, parseWeb_eq]
  constructor
  · rintro ⟨u, hu, -⟩
    obtain ⟨authority, hauthority, -⟩ := map_eq_ok_iff.mp hu
    exact .web hkind hauthority
  · intro h
    cases h with
    | web _ reads =>
      obtain ⟨text, htext⟩ := parseHost_of_readAuthority reads
      exact ⟨_, map_eq_ok_iff.mpr ⟨_, reads, rfl⟩, isPresent_of_parseHost htext⟩
    | file kind => cases hkind.symm.trans kind
    | other kind => cases hkind.symm.trans kind

/-- The URL that the reader makes for files. -/
def fileUrl (c : Cut) (scheme : List Char) (host : Host) (path : List Char) : Url :=
  withRest c scheme
    ⟨[], none, if startsWithDrive path then .empty else host, none, []⟩
    (filePath (fileSegments path))

theorem parseFile_cons_cons (c : Cut) (scheme : List Char) (a b : Char) (body : List Char) :
    parseFile c scheme (a :: b :: body)
      = if isSlash true a && isSlash true b then
          if isDrive (body.takeWhile fun x => !isSlash true x) then
            .ok (fileUrl c scheme .empty body)
          else (readFileHost (body.takeWhile fun x => !isSlash true x)).map fun host =>
            fileUrl c scheme host (body.dropWhile fun x => !isSlash true x)
        else .ok (fileUrl c scheme .empty (a :: b :: body)) := rfl

theorem hasHost_fileUrl_iff {c : Cut} {scheme : List Char} {host : Host} {path : List Char} :
    (fileUrl c scheme host path).hasHost = true ↔
      startsWithDrive path = false ∧ host.isPresent = true := by
  cases h : startsWithDrive path <;> simp [fileUrl, withRest, hasHost, h, Host.isPresent]

theorem not_hasHost_fileUrl_empty {c : Cut} {scheme path : List Char} :
    ¬HasHost (.ok (fileUrl c scheme .empty path)) := by
  rintro ⟨u, hu, hhost⟩
  cases hu
  exact absurd (hasHost_fileUrl_iff.mp hhost).2 (by decide)

theorem hasHost_parseFile_iff {c : Cut} {scheme rest : List Char}
    (hkind : schemeKind scheme = .file) :
    HasHost (parseFile c scheme rest) ↔ NamesHost scheme rest := by
  constructor
  · intro h
    match rest with
    | [] => exact absurd h not_hasHost_fileUrl_empty
    | [a] => exact absurd h not_hasHost_fileUrl_empty
    | a :: b :: body =>
      rw [parseFile_cons_cons] at h
      split at h
      · next hslashes =>
        split at h
        · exact absurd h not_hasHost_fileUrl_empty
        · next hdrive =>
          obtain ⟨u, hu, hhost⟩ := h
          obtain ⟨host, hread, rfl⟩ := map_eq_ok_iff.mp hu
          obtain ⟨hpath, hpresent⟩ := hasHost_fileUrl_iff.mp hhost
          exact .file hkind (Bool.and_eq_true _ _ ▸ hslashes) ⟨by simpa using hdrive, hpath⟩
            hread hpresent
      · exact absurd h not_hasHost_fileUrl_empty
  · intro h
    cases h with
    | web kind => cases hkind.symm.trans kind
    | other kind => cases hkind.symm.trans kind
    | file _ slashes driveless reads present =>
      rw [parseFile_cons_cons, slashes.1, slashes.2, driveless.1, reads]
      exact ⟨_, rfl, hasHost_fileUrl_iff.mpr ⟨driveless.2, present⟩⟩

/-- Without a web origin, what follows an authority does not matter where a host is named. -/
theorem readAuthority_followed {scheme cs : List Char} {authority : Authority}
    {followed : Bool} (h : readAuthority scheme false followed cs = .ok authority)
    (hpresent : authority.host.isPresent = true) (followed' : Bool) :
    readAuthority scheme false followed' cs = .ok authority := by
  unfold readAuthority at h ⊢
  cases hcut : cutLast '@' cs with
  | none => simpa only [hcut] using h
  | some parts =>
    obtain ⟨credentials, located⟩ := parts
    simp only [hcut] at h ⊢
    by_cases hempty : credentials.isEmpty = true ∧ located.isEmpty = true
    -- an at sign alone: either refused, or read as an authority without a host
    · obtain rfl : credentials = [] := by simpa using hempty.1
      obtain rfl : located = [] := by simpa using hempty.2
      cases followed with
      | true => cases h
      | false =>
        cases h
        cases hpresent
    · have hnot : ∀ b, (credentials.isEmpty && located.isEmpty && b) = false := by
        intro b
        rw [Bool.eq_false_iff.mpr (mt (Bool.and_eq_true _ _).mp hempty), Bool.false_and]
      rw [hnot] at h ⊢
      exact h

theorem hasHost_parseOther_iff {c : Cut} {scheme rest : List Char}
    (hkind : schemeKind scheme = .other) :
    HasHost (parseOther c scheme rest) ↔ NamesHost scheme rest := by
  constructor
  · rintro ⟨u, hu, hhost⟩
    unfold parseOther at hu
    split at hu
    · obtain ⟨authority, hread, hmade⟩ := bind_eq_ok_iff.mp hu
      cases hmade
      exact .other hkind (readAuthority_followed hread hhost true) hhost
    · cases hu
      cases hhost
    · cases hu
      cases hhost
  · intro h
    cases h with
    | web kind => cases hkind.symm.trans kind
    | file kind => cases hkind.symm.trans kind
    | @other body authority _ reads present =>
      have hread := readAuthority_followed reads present
        (!(body.dropWhile (· ≠ '/')).isEmpty || c.goesOn)
      simp only [parseOther]
      rw [hread]
      exact ⟨_, rfl, present⟩

/-! ## What is absolute -/

/-- A text has a host if it has a scheme, and what follows names a host. -/
theorem hasHost_parse_iff {url : String} :
    HasHost (parse url) ↔
      ∃ scheme rest, readScheme (mainOf url) = some (scheme, rest) ∧ NamesHost scheme rest := by
  rw [parse, parseChars, mainOf]
  cases hscheme : readScheme (cut (clean url.toList)).main with
  | none =>
    constructor
    · rintro ⟨u, hu, -⟩
      cases hu
    · rintro ⟨scheme, rest, h, -⟩
      cases h
  | some parts =>
    obtain ⟨scheme, rest⟩ := parts
    have hparts : (∃ scheme' rest', some (scheme, rest) = some (scheme', rest') ∧
        NamesHost scheme' rest') ↔ NamesHost scheme rest := by
      constructor
      · rintro ⟨scheme', rest', h, hnames⟩
        cases h
        exact hnames
      · exact fun h => ⟨scheme, rest, rfl, h⟩
    rw [hparts]
    simp only
    split
    · next hkind => exact hasHost_parseWeb_iff hkind
    · next hkind => exact hasHost_parseOther_iff hkind
    · next hkind => exact hasHost_parseFile_iff hkind

/-- **What is absolute**: a text that starts with two slashes, and one that, when it is cleaned and
cut, has a scheme and names a host. -/
theorem isAbsolute_iff {url : String} :
    isAbsolute url = true ↔
      (∃ more, url.toList = '/' :: '/' :: more) ∨
      ∃ scheme rest, IsScheme scheme ∧ mainOf url = scheme ++ ':' :: rest ∧
        NamesHost (scheme.map Char.toLower) rest := by
  have hhost : isAbsolute url = true ↔ ['/', '/'] <+: url.toList ∨ HasHost (parse url) := by
    rw [isAbsolute, Bool.or_eq_true, List.isPrefixOf_iff_prefix]
    refine or_congr Iff.rfl ?_
    cases parse url with
    | ok u => simp [HasHost]
    | error e => simp [HasHost]
  rw [hhost, hasHost_parse_iff]
  refine or_congr ?_ ?_
  · exact exists_congr fun more => eq_comm
  · constructor
    · rintro ⟨scheme, rest, hscheme, hnames⟩
      obtain ⟨written, hwritten, hmain, rfl⟩ := readScheme_eq_some_iff.mp hscheme
      exact ⟨written, rest, hwritten, hmain, hnames⟩
    · rintro ⟨scheme, rest, hscheme, hmain, hnames⟩
      exact ⟨_, rest, readScheme_eq_some_iff.mpr ⟨scheme, hscheme, hmain, rfl⟩, hnames⟩

/-- A text whose marks tell whether it is absolute. It is clean; if its scheme is a special one, two
slashes follow; and behind the slashes a host is named, before any query or fragment. -/
structure IsRegular (url : String) : Prop where
  clean : clean url.toList = url.toList
  slashes : ∀ scheme rest, IsScheme scheme → url.toList = scheme ++ ':' :: rest →
    schemeKind (scheme.map Char.toLower) ≠ .other → ∃ more, rest = '/' :: '/' :: more
  host : ∀ scheme more, IsScheme scheme → url.toList = scheme ++ ':' :: '/' :: '/' :: more →
    NamesHost (scheme.map Char.toLower) ('/' :: '/' :: (cut more).main)

/-- The scheme that is read decides whether a text is regular. -/
theorem isRegular_of_readScheme {url : String} {scheme rest : List Char}
    (hclean : clean url.toList = url.toList) (hscheme : readScheme url.toList = some (scheme, rest))
    (hslashes : schemeKind scheme ≠ .other → ∃ more, rest = '/' :: '/' :: more)
    (hhost : ∀ more, rest = '/' :: '/' :: more →
      NamesHost scheme ('/' :: '/' :: (cut more).main)) : IsRegular url := by
  have hunique : ∀ written rest', IsScheme written → url.toList = written ++ ':' :: rest' →
      written.map Char.toLower = scheme ∧ rest' = rest := by
    intro written rest' hwritten hurl
    rw [hurl, readScheme_of_isScheme hwritten] at hscheme
    exact Prod.mk.inj (Option.some.inj hscheme)
  refine ⟨hclean, ?_, ?_⟩
  · intro written rest' hwritten hurl
    obtain ⟨rfl, rfl⟩ := hunique written rest' hwritten hurl
    exact hslashes
  · intro written more hwritten hurl
    obtain ⟨rfl, hrest⟩ := hunique written _ hwritten hurl
    exact hhost more hrest.symm

theorem IsRegular.isMarked_of_isAbsolute {url : String} (h : IsRegular url)
    (habs : isAbsolute url = true) : IsMarked url.toList := by
  rcases isAbsolute_iff.mp habs with ⟨more, hmore⟩ | ⟨scheme, rest, hscheme, hmain, hnames⟩
  · rw [hmore]
    exact .slashes more
  · obtain ⟨tail, htail⟩ := main_isPrefix (Url.clean url.toList)
    have hurl : url.toList = scheme ++ ':' :: (rest ++ tail) := by
      rw [← h.clean, ← htail, ← mainOf, hmain, List.append_assoc, List.cons_append]
    -- the two slashes are asked for by the reader, or by regularity
    have hslashes : ∃ more, rest ++ tail = '/' :: '/' :: more := by
      cases hnames with
      | web kind => exact h.slashes scheme _ hscheme hurl (by simp [kind])
      | file kind => exact h.slashes scheme _ hscheme hurl (by simp [kind])
      | @other body => exact ⟨body ++ tail, rfl⟩
    obtain ⟨more, hmore⟩ := hslashes
    rw [hurl, hmore]
    exact .scheme hscheme more

theorem IsRegular.isAbsolute_of_isMarked {url : String} (h : IsRegular url)
    (hmarked : IsMarked url.toList) : isAbsolute url = true := by
  refine isAbsolute_iff.mpr ?_
  generalize hurl : url.toList = cs at hmarked
  cases hmarked with
  | slashes more => exact .inl ⟨more, rfl⟩
  | @scheme scheme hscheme more =>
    refine .inr ⟨scheme, '/' :: '/' :: (cut more).main, hscheme, ?_, h.host scheme more hscheme hurl⟩
    have hslashes : ∀ c ∈ ['/', '/'], c ≠ '#' ∧ c ≠ '?' := by
      intro c hc
      obtain rfl : c = '/' := by simpa using hc
      decide
    have hmore : (cut ('/' :: '/' :: more)).main = '/' :: '/' :: (cut more).main :=
      main_append_of_unmarked hslashes more
    rw [mainOf, h.clean, hurl, main_of_isScheme hscheme, hmore]

/-- What is absolute is told by a scheme and a host, and of regular texts by the marks: those with a
mark are left alone behind every base, and all others are joined to it. -/
theorem absolute_as_marked (url : String) :
    (isAbsolute url = true ↔
      (∃ more, url.toList = '/' :: '/' :: more) ∨
      ∃ scheme rest, IsScheme scheme ∧ mainOf url = scheme ++ ':' :: rest ∧
        NamesHost (scheme.map Char.toLower) rest) ∧
    (IsRegular url →
      (isAbsolute url = true ↔ IsMarked url.toList) ∧
      ∀ base, (IsMarked url.toList → resolve (some base) url = url) ∧
        (¬IsMarked url.toList →
          resolve (some base) url = if url.isEmpty then base else join base url)) := by
  refine ⟨isAbsolute_iff, ?_⟩
  intro h
  have hiff : isAbsolute url = true ↔ IsMarked url.toList :=
    ⟨h.isMarked_of_isAbsolute, h.isAbsolute_of_isMarked⟩
  refine ⟨hiff, ?_⟩
  intro base
  refine ⟨?_, ?_⟩
  · intro hmarked
    exact resolve_of_isAbsolute (hiff.mpr hmarked) (some base)
  · intro hnot
    exact resolve_of_not_isAbsolute (Bool.eq_false_iff.mpr (mt hiff.mp hnot)) base

/-- A key that looks like a scheme is joined, and a socket URL in capitals is left alone. -/
theorem keys_are_joined :
    IsRegular "users:list" ∧ IsRegular "WS://other/x" ∧
      resolve (some "http://h/") "users:list" = "http://h/users:list" ∧
      resolve (some "http://h/") "WS://other/x" = "WS://other/x" := by
  have hkey : IsRegular "users:list" := by
    refine isRegular_of_readScheme rfl rfl ?_ ?_
    · intro h
      exact absurd rfl h
    · intro more hmore
      cases hmore
  have hsocket : IsRegular "WS://other/x" := by
    refine isRegular_of_readScheme rfl rfl (fun _ => ⟨_, rfl⟩) ?_
    rintro more ⟨⟩
    exact .web rfl rfl
  obtain ⟨-, hjoined⟩ := ((absolute_as_marked "users:list").2 hkey).2 "http://h/"
  obtain ⟨halone, -⟩ := ((absolute_as_marked "WS://other/x").2 hsocket).2 "http://h/"
  exact ⟨hkey, hsocket, hjoined (by decide), halone (by decide)⟩

/-- The marks alone decide neither way: not without slashes behind a special scheme, nor with a
space in front, nor with no host or an impossible port behind them. -/
theorem marks_are_not_looked_at :
    (¬IsMarked "http:x".toList ∧ isAbsolute "http:x" = true ∧
        resolve (some "http://h") "http:x" = "http:x") ∧
      (¬IsMarked " http://x".toList ∧ isAbsolute " http://x" = true) ∧
      (IsMarked "file:///x".toList ∧ isAbsolute "file:///x" = false ∧
        resolve (some "http://h") "file:///x" = "http://h/file:///x") ∧
      (IsMarked "http://h:99999".toList ∧ isAbsolute "http://h:99999" = false) :=
  ⟨⟨by decide, rfl, rfl⟩, ⟨by decide, rfl⟩, ⟨by decide, rfl, rfl⟩, by decide, rfl⟩

end Courier.Url
