import Mathlib.Data.List.DropRight
import Mathlib.Data.List.TakeWhile
import Courier.Proofs.Url.Authority
import Courier.Url.Resolve

/-!
# Joined URLs stay on their site

A relative URL is put behind a base and a slash. The authority of the base ends at that slash at the
latest, so nothing behind it is read as part of an authority, and nothing behind it can make the
text unreadable. Every step of the reader is followed from a text to the same text with something
behind it that starts with a slash: cleaning, cutting, the scheme, the front.
-/

namespace Courier.Url

/-! ## Texts behind a text -/

/-- A text that is empty or starts with a slash. -/
def SlashLed (cs : List Char) : Prop :=
  cs = [] ∨ ∃ more, cs = '/' :: more

theorem SlashLed.of_prefix {cs ds : List Char} (h : SlashLed ds) (hpre : cs <+: ds) :
    SlashLed cs := by
  cases cs with
  | nil => exact .inl rfl
  | cons c cs =>
    rcases h with rfl | ⟨more, rfl⟩
    · exact absurd (List.prefix_nil.mp hpre) (by simp)
    · obtain ⟨rfl, -⟩ := List.cons_prefix_cons.mp hpre
      exact .inr ⟨cs, rfl⟩

theorem SlashLed.of_slashes {cs : List Char} (h : ∀ c ∈ cs, c = '/') : SlashLed cs := by
  cases cs with
  | nil => exact .inl rfl
  | cons c cs => exact .inr ⟨cs, by rw [h c (by simp)]⟩

theorem SlashLed.takeWhile_eq_nil {p : Char → Bool} {cs : List Char} (h : SlashLed cs)
    (hp : p '/' = false) : cs.takeWhile p = [] := by
  rcases h with rfl | ⟨more, rfl⟩
  · rfl
  · rw [List.takeWhile_cons, hp]
    rfl

theorem SlashLed.dropWhile_eq_self {p : Char → Bool} {cs : List Char} (h : SlashLed cs)
    (hp : p '/' = false) : cs.dropWhile p = cs := by
  rcases h with rfl | ⟨more, rfl⟩
  · rfl
  · rw [List.dropWhile_cons, hp]
    rfl

/-- Characters are taken up to the slash at the latest. -/
theorem takeWhile_append_slashLed {p : Char → Bool} (hp : p '/' = false) (cs : List Char)
    {ds : List Char} (hds : SlashLed ds) : (cs ++ ds).takeWhile p = cs.takeWhile p := by
  induction cs with
  | nil => exact hds.takeWhile_eq_nil hp
  | cons c cs ih =>
    rw [List.cons_append, List.takeWhile_cons, List.takeWhile_cons, ih]

/-- Characters are dropped up to the slash at the latest. -/
theorem dropWhile_append_slashLed {p : Char → Bool} (hp : p '/' = false) (cs : List Char)
    {ds : List Char} (hds : SlashLed ds) : (cs ++ ds).dropWhile p = cs.dropWhile p ++ ds := by
  induction cs with
  | nil => exact hds.dropWhile_eq_self hp
  | cons c cs ih =>
    rw [List.cons_append, List.dropWhile_cons, List.dropWhile_cons, ih]
    split <;> rfl

/-- What is taken of two texts is what is taken of the first, and some of the front of the
second. -/
theorem takeWhile_append_prefix (p : Char → Bool) (cs ds : List Char) :
    ∃ front, front <+: ds ∧ (cs ++ ds).takeWhile p = cs.takeWhile p ++ front := by
  rw [List.takeWhile_append]
  by_cases hall : (cs.takeWhile p).length = cs.length
  · rw [if_pos hall]
    refine ⟨ds.takeWhile p, List.takeWhile_prefix p, ?_⟩
    have hself : cs.takeWhile p = cs := (List.takeWhile_prefix p).eq_of_length hall
    rw [hself]
  · rw [if_neg hall]
    exact ⟨[], List.nil_prefix, by simp⟩

/-! ## Cleaning and cutting -/

/-- What cleaning leaves of the front of a text. -/
def cleanFront (cs : List Char) : List Char :=
  (cs.dropWhile isControlOrSpace).filter fun c => !isTabOrBreak c

theorem rdropWhile_append_cons {p : Char → Bool} {c : Char} (hc : p c = false)
    (cs ds : List Char) : (cs ++ c :: ds).rdropWhile p = cs ++ c :: ds.rdropWhile p := by
  -- from the end of the text, where dropping starts
  induction ds using List.reverseRecOn with
  | nil => rw [List.rdropWhile_concat_neg _ _ _ (by simp [hc])]; rfl
  | append_singleton ds d ih =>
    rw [← List.cons_append, ← List.append_assoc, List.rdropWhile_concat, List.rdropWhile_concat]
    by_cases hd : p d = true
    · rw [if_pos hd, if_pos hd, ih]
    · rw [if_neg hd, if_neg hd, List.append_assoc, List.cons_append]

/-- Cleaning leaves a slash inside a text, and works apart on both sides of it. -/
theorem clean_append_slash (cs ds : List Char) :
    ∃ back, clean (cs ++ '/' :: ds) = cleanFront cs ++ '/' :: back := by
  have hled : SlashLed ('/' :: ds) := .inr ⟨ds, rfl⟩
  refine ⟨(ds.rdropWhile isControlOrSpace).filter fun c => !isTabOrBreak c, ?_⟩
  have htrim : trimEnds (cs ++ '/' :: ds)
      = cs.dropWhile isControlOrSpace ++ '/' :: ds.rdropWhile isControlOrSpace := by
    rw [← rdropWhile_append_cons rfl, ← dropWhile_append_slashLed rfl cs hled]
    rfl
  rw [clean, htrim, List.filter_append, List.filter_cons]
  rfl

/-- Dropping the front of a text leaves its end alone. -/
theorem getLast?_dropWhile {p : Char → Bool} {cs : List Char} (hne : cs.dropWhile p ≠ []) :
    cs.getLast? = some ((cs.dropWhile p).getLast hne) := by
  rw [← List.getLast?_eq_getLast_of_ne_nil hne]
  obtain ⟨dropped, hdropped⟩ := List.dropWhile_suffix (l := cs) p
  conv => lhs; rw [← hdropped]
  exact List.getLast?_append_of_ne_nil dropped hne

theorem isTabOrBreak_of_visible {c : Char} (h : isControlOrSpace c = false) :
    isTabOrBreak c = false := by
  refine Bool.eq_false_iff.mpr ?_
  intro hbreak
  simp only [isTabOrBreak, Bool.or_eq_true, decide_eq_true_eq] at hbreak
  rcases hbreak with (rfl | rfl) | rfl <;> exact absurd h (by decide)

/-- A text is cleaned at its front only, if it ends visibly and nothing has to be cleaned behind the
front. -/
theorem clean_append_visible {cs ds : List Char} (hled : SlashLed ds)
    (hds : ∀ c ∈ ds, isControlOrSpace c = false)
    (hend : ∀ c, (cs ++ ds).getLast? = some c → isControlOrSpace c = false) :
    clean (cs ++ ds) = cleanFront cs ++ ds := by
  have htrim : trimEnds (cs ++ ds) = cs.dropWhile isControlOrSpace ++ ds := by
    rw [← dropWhile_append_slashLed rfl cs hled]
    refine List.rdropWhile_eq_self_iff.mpr ?_
    intro hne
    simpa using hend _ (getLast?_dropWhile hne)
  have hkept : ds.filter (fun c => !isTabOrBreak c) = ds := by
    refine List.filter_eq_self.mpr ?_
    intro c hc
    rw [isTabOrBreak_of_visible (hds c hc)]
    rfl
  rw [clean, htrim, List.filter_append, hkept]
  rfl

/-- Of a text and something behind it, the main part is that of the text, and behind it some of the
front of what follows. -/
theorem main_append (cs ds : List Char) :
    ∃ front, front <+: ds ∧ (cut (cs ++ ds)).main = (cut cs).main ++ front := by
  obtain ⟨front, hfront, heq⟩ := takeWhile_append_prefix (· ≠ '#') cs ds
  obtain ⟨front', hfront', heq'⟩ :=
    takeWhile_append_prefix (· ≠ '?') (cs.takeWhile (· ≠ '#')) front
  refine ⟨front', hfront'.trans hfront, ?_⟩
  simp only [cut]
  rw [heq, heq']

/-! ## The scheme and the front -/

/-- A scheme ends before the slash. -/
theorem readScheme_append (cs : List Char) {ds : List Char} (hds : SlashLed ds) :
    readScheme (cs ++ ds) = (readScheme cs).map fun (scheme, rest) => (scheme, rest ++ ds) := by
  cases cs with
  | nil =>
    rcases hds with rfl | ⟨more, rfl⟩
    · rfl
    · rfl
  | cons first cs =>
    have htake := takeWhile_append_slashLed (p := isSchemeChar) rfl (first :: cs) hds
    have hdrop := dropWhile_append_slashLed (p := isSchemeChar) rfl (first :: cs) hds
    rw [List.cons_append] at htake hdrop
    simp only [List.cons_append, readScheme]
    rw [htake, hdrop]
    by_cases hfirst : first.isAlpha = true
    · rw [if_pos hfirst, if_pos hfirst]
      cases (first :: cs).dropWhile isSchemeChar with
      | nil =>
        rcases hds with rfl | ⟨more, rfl⟩
        · rfl
        · rfl
      | cons d more =>
        by_cases hd : d = ':'
        · subst hd
          rfl
        · simp [hd]
    · rw [if_neg hfirst, if_neg hfirst]
      rfl

/-- A front ends before the slash that follows it, and slashes alone make none. -/
theorem webFront_append {cs ds : List Char} (hds : SlashLed ds)
    (h : (∀ c ∈ ds, c = '/') ∨ webFront cs ≠ []) : webFront (cs ++ ds) = webFront cs := by
  have hstop : (fun c => !isSlash true c) '/' = false := rfl
  simp only [webFront]
  rw [List.dropWhile_append]
  by_cases hnone : (cs.dropWhile (isSlash true)).isEmpty = true
  -- nothing but slashes so far: a front could only begin behind them
  · have hnil : cs.dropWhile (isSlash true) = [] := by simpa using hnone
    rw [if_pos hnone, hnil]
    rcases h with hslashes | hfront
    · have hall : ds.dropWhile (isSlash true) = [] := by
        refine List.dropWhile_eq_nil_iff.mpr ?_
        intro c hc
        rw [hslashes c hc]
        rfl
      rw [hall]
    · exact absurd (by simp only [webFront, hnil, List.takeWhile_nil]) hfront
  · rw [if_neg hnone]
    exact takeWhile_append_slashLed hstop _ hds

/-! ## Joining -/

theorem trimEndSlashes_append (cs : List Char) :
    ∃ slashes, (∀ c ∈ slashes, c = '/') ∧ cs = trimEndSlashes cs ++ slashes := by
  refine ⟨cs.rtakeWhile (· = '/'), ?_, (List.rdropWhile_append_rtakeWhile ..).symm⟩
  intro c hc
  simpa using List.mem_rtakeWhile_imp hc

/-- What a base and all texts joined to it have in common at the front of their main parts. -/
def commonMain (base : String) : List Char :=
  (cut (cleanFront (trimEndSlashes base.toList))).main

/-- The main part of a base ends with the slashes that joining drops. -/
theorem mainOf_base {base : String}
    (hend : ∀ c, base.toList.getLast? = some c → isControlOrSpace c = false) :
    ∃ slashes, (∀ c ∈ slashes, c = '/') ∧ mainOf base = commonMain base ++ slashes := by
  obtain ⟨slashes, hslashes, hsplit⟩ := trimEndSlashes_append base.toList
  have hclean : clean base.toList = cleanFront (trimEndSlashes base.toList) ++ slashes := by
    rw [hsplit] at hend
    conv => lhs; rw [hsplit]
    refine clean_append_visible (SlashLed.of_slashes hslashes) ?_ hend
    intro c hc
    rw [hslashes c hc]
    rfl
  obtain ⟨front, hfront, hmain⟩ := main_append (cleanFront (trimEndSlashes base.toList)) slashes
  refine ⟨front, fun c hc => hslashes c (hfront.subset hc), ?_⟩
  rw [mainOf, hclean, hmain, commonMain]

/-- The main part of a joined text goes on with the slash, if it goes on at all. -/
theorem mainOf_join (base url : String) :
    ∃ front, SlashLed front ∧ mainOf (join base url) = commonMain base ++ front := by
  obtain ⟨back, hclean⟩ :=
    clean_append_slash (trimEndSlashes base.toList) (url.toList.dropWhile (· = '/'))
  obtain ⟨front, hfront, hmain⟩ :=
    main_append (cleanFront (trimEndSlashes base.toList)) ('/' :: back)
  refine ⟨front, SlashLed.of_prefix (.inr ⟨back, rfl⟩) hfront, ?_⟩
  rw [mainOf, join, String.toList_ofList, hclean, hmain, commonMain]

/-- **A joined URL is read, and leads where its base leads**, whatever the relative part is. -/
theorem parse_join {base : String} {b : Url} (hbase : parse base = .ok b)
    (hweb : schemeKind b.scheme = .web)
    (hend : ∀ c, base.toList.getLast? = some c → isControlOrSpace c = false) (url : String) :
    ∃ u, parse (join base url) = .ok u ∧ SameSite u b := by
  obtain ⟨rest, authority, hscheme, hfront, husername, hpassword, hhost, hport⟩ :=
    front_of_parse hbase hweb
  obtain ⟨zs, hslashes, hmain⟩ := mainOf_base hend
  obtain ⟨ws, hws, hmain'⟩ := mainOf_join base url
  have hzs := SlashLed.of_slashes hslashes
  -- both main parts have the same scheme
  rw [hmain, readScheme_append _ hzs] at hscheme
  obtain ⟨⟨scheme, common⟩, hcommon, heq⟩ := Option.map_eq_some_iff.mp hscheme
  cases heq
  have hscheme' : readScheme (mainOf (join base url)) = some (b.scheme, common ++ ws) := by
    rw [hmain', readScheme_append _ hws, hcommon]
    rfl
  -- and the same front, because that of the base is not empty
  rw [webFront_append hzs (.inl hslashes)] at hfront
  have hne : webFront common ≠ [] := by
    intro hnil
    rw [hnil, readAuthority_web_nil] at hfront
    cases hfront
  have hfront' : readAuthority b.scheme true true (webFront (common ++ ws)) = .ok authority := by
    rw [webFront_append hws (.inr hne)]
    exact hfront
  obtain ⟨u, hu, hs, hn, hp, hh, ho⟩ := parse_of_front hscheme' hweb hfront'
  exact ⟨u, hu, hs, hn.trans husername.symm, hp.trans hpassword.symm, hh.trans hhost.symm,
    ho.trans hport.symm⟩

/-! ## Resolving -/

theorem isAbsolute_of_parse {url : String} {u : Url} (h : parse url = .ok u)
    (hhost : u.hasHost = true) : isAbsolute url = true := by
  rw [isAbsolute, h]
  simp [hhost]

theorem resolve_of_isAbsolute {url : String} (h : isAbsolute url = true)
    (base : Option String) : resolve base url = url := by
  cases base with
  | none => rfl
  | some base => rw [resolve, if_pos h]

theorem resolve_of_not_isAbsolute {url : String} (h : isAbsolute url = false) (base : String) :
    resolve (some base) url = if url.isEmpty then base else join base url := by
  simp [resolve, h]

/-- A relative URL is resolved on the site of its base. -/
theorem parse_resolve {base : String} {b : Url} (hbase : parse base = .ok b)
    (hweb : schemeKind b.scheme = .web)
    (hend : ∀ c, base.toList.getLast? = some c → isControlOrSpace c = false) {url : String}
    (hurl : isAbsolute url = false) :
    ∃ u, parse (resolve (some base) url) = .ok u ∧ SameSite u b := by
  rw [resolve_of_not_isAbsolute hurl]
  by_cases hempty : url.isEmpty = true
  · rw [if_pos hempty]
    exact ⟨b, hbase, SameSite.refl b⟩
  · rw [if_neg hempty]
    exact parse_join hbase hweb hend url

/-- What is resolved on a web site is absolute. -/
theorem isAbsolute_resolve {base : String} {b : Url} (hbase : parse base = .ok b)
    (hweb : schemeKind b.scheme = .web)
    (hend : ∀ c, base.toList.getLast? = some c → isControlOrSpace c = false) (url : String) :
    isAbsolute (resolve (some base) url) = true := by
  cases hurl : isAbsolute url with
  | true => rw [resolve_of_isAbsolute hurl, hurl]
  | false =>
    obtain ⟨u, hu, hsite⟩ := parse_resolve hbase hweb hend hurl
    rw [← hsite.scheme] at hweb
    exact isAbsolute_of_parse hu (hasHost_of_parse hu hweb)

/-- **A relative URL cannot leave the site of its base**: it is resolved to a URL with the scheme,
user, host and port of the base. So what has been resolved is absolute, and resolving it again
leaves it as it is. The base has to end visibly, because the reader drops controls and spaces at its
end, which the relative part would bring inside. -/
theorem resolve_keeps_site {base : String} {b : Url} (hbase : parse base = .ok b)
    (hscheme : b.scheme = "http".toList ∨ b.scheme = "https".toList)
    (hend : ∀ c, base.toList.getLast? = some c → 0x20 < c.toNat) :
    (∀ url, isAbsolute url = false →
      ∃ u, parse (resolve (some base) url) = .ok u ∧ SameSite u b) ∧
    ∀ url, resolve (some base) (resolve (some base) url) = resolve (some base) url := by
  have hweb : schemeKind b.scheme = .web := by
    rcases hscheme with h | h
    · rw [h]
      rfl
    · rw [h]
      rfl
  have hvisible : ∀ c, base.toList.getLast? = some c → isControlOrSpace c = false := by
    intro c hc
    simpa [isControlOrSpace] using hend c hc
  refine ⟨?_, ?_⟩
  · intro url hurl
    exact parse_resolve hbase hweb hvisible hurl
  · intro url
    exact resolve_of_isAbsolute (isAbsolute_resolve hbase hweb hvisible url) (some base)

/-- A sign that ends a user name stays behind the host of the base. -/
theorem notes_keep_site :
    ∃ b u, parse "http://ana@notes.test:8080/v1/" = .ok b ∧
      parse (resolve (some "http://ana@notes.test:8080/v1/") "@other.test:1/x") = .ok u ∧
      SameSite u b := by
  have hend : ∀ c, "http://ana@notes.test:8080/v1/".toList.getLast? = some c → 0x20 < c.toNat := by
    intro c hc
    obtain rfl : '/' = c := Option.some.inj hc
    decide
  obtain ⟨hrelative, -⟩ := resolve_keeps_site rfl (.inl rfl) hend
  obtain ⟨u, hu, hsite⟩ := hrelative "@other.test:1/x" rfl
  exact ⟨_, u, rfl, hu, hsite⟩

end Courier.Url
