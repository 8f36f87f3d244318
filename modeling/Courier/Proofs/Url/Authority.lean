import Courier.Proofs.Steps
import Courier.Url.Parser

/-!
# Where a web URL leads

Scheme, user, host and port of a URL with a web origin are decided by a small part of its text: the
scheme, and what stands between the slashes after it and the next slash (`webFront`). The reader is
given here in a form that shows this, in both directions. Every host that it accepts is one.
-/

namespace Courier.Url

/-- Two URLs lead to the same place: they have one scheme, user, host and port. -/
structure SameSite (u v : Url) : Prop where
  scheme : u.scheme = v.scheme
  username : u.username = v.username
  password : u.password = v.password
  host : u.host = v.host
  port : u.port = v.port

theorem SameSite.refl (u : Url) : SameSite u u := ⟨rfl, rfl, rfl, rfl, rfl⟩

/-! ## Hosts and authorities -/

/-- A host with a web origin is never empty. -/
theorem isPresent_of_parseHost {text : List Char} {host : Host}
    (h : parseHost text = .ok host) : host.isPresent = true := by
  unfold parseHost at h
  split at h
  · unfold bracketedHost at h
    split at h
    · obtain ⟨groups, -, rfl⟩ := map_eq_ok_iff.mp h
      rfl
    · cases h
  · split at h
    · cases h
    · cases h
    · split at h
      · obtain ⟨bytes, -, rfl⟩ := map_eq_ok_iff.mp h
        rfl
      · cases h
        rfl

/-- With a web origin, what is read as the host is all that decides on it. -/
theorem parseHost_of_readHostAndPort {scheme cs : List Char}
    {located : Host × Option Nat × List Char}
    (h : readHostAndPort scheme true cs = .ok located) :
    parseHost (cs.take (hostLength false cs)) = .ok located.1 := by
  unfold readHostAndPort at h
  simp only [Bool.true_and, if_true] at h
  by_cases hempty : (cs.take (hostLength false cs)).isEmpty = true
  · rw [if_pos hempty] at h
    cases h
  · rw [if_neg hempty] at h
    obtain ⟨host, hhost, h⟩ := bind_eq_ok_iff.mp h
    rw [hhost]
    split at h
    · cases h
      rfl
    · split at h
      · cases h
      · obtain ⟨port, -, hport⟩ := bind_eq_ok_iff.mp h
        cases hport
        rfl

/-- With a web origin, an authority is not empty. -/
theorem readAuthority_web_nil (scheme : List Char) (followed : Bool) :
    readAuthority scheme true followed [] = .error .emptyHost := rfl

/-- With a web origin, what follows an authority does not matter: where it would, there is no host
in either case. -/
theorem readAuthority_web_followed (scheme cs : List Char) (followed : Bool) :
    readAuthority scheme true followed cs = readAuthority scheme true true cs := by
  unfold readAuthority
  cases hcut : cutLast '@' cs with
  | none => rfl
  | some parts =>
    obtain ⟨credentials, located⟩ := parts
    cases followed with
    | true => rfl
    | false =>
      -- it is looked at only where user name and host are both empty
      cases credentials with
      | cons c more => rfl
      | nil =>
        cases located with
        | cons c more => rfl
        | nil => rfl

/-- The host of an authority with a web origin was read as one. -/
theorem parseHost_of_readAuthority {scheme cs : List Char} {followed : Bool}
    {authority : Authority} (h : readAuthority scheme true followed cs = .ok authority) :
    ∃ text, parseHost text = .ok authority.host := by
  unfold readAuthority at h
  split at h
  · obtain ⟨located, hlocated, rfl⟩ := map_eq_ok_iff.mp h
    exact ⟨_, parseHost_of_readHostAndPort hlocated⟩
  · split at h
    · cases h
    · simp only at h
      split at h
      · cases h
      · next hlocated =>
        split at h
        · cases h
        · cases h
          exact ⟨_, parseHost_of_readHostAndPort hlocated⟩

/-! ## The part of a text that decides -/

/-- What stands after the slashes of a scheme with a web origin and before the next slash. -/
def webFront (rest : List Char) : List Char :=
  (rest.dropWhile (isSlash true)).takeWhile fun c => !isSlash true c

/-- What stands from the slash behind the front on. -/
def webBack (rest : List Char) : List Char :=
  (rest.dropWhile (isSlash true)).dropWhile fun c => !isSlash true c

theorem parseWeb_eq (c : Cut) (scheme rest : List Char) :
    parseWeb c scheme rest
      = (readAuthority scheme true true (webFront rest)).map fun authority =>
        withRest c scheme authority (specialPath (webBack rest)) := by
  unfold parseWeb
  simp only
  rw [readAuthority_web_followed]
  rfl

theorem scheme_of_parseOther {c : Cut} {scheme rest : List Char} {u : Url}
    (h : parseOther c scheme rest = .ok u) : u.scheme = scheme := by
  unfold parseOther at h
  split at h
  · obtain ⟨authority, -, hu⟩ := bind_eq_ok_iff.mp h
    cases hu
    rfl
  · cases h
    rfl
  · cases h
    rfl

theorem scheme_of_parseFile {c : Cut} {scheme rest : List Char} {u : Url}
    (h : parseFile c scheme rest = .ok u) : u.scheme = scheme := by
  unfold parseFile at h
  split at h
  · split at h
    · simp only at h
      split at h
      · cases h
        rfl
      · obtain ⟨host, -, hu⟩ := map_eq_ok_iff.mp h
        rw [← hu]
        rfl
    · cases h
      rfl
  · cases h
    rfl

/-- The main part of a text: what is left of query and fragment when it is cleaned. -/
def mainOf (s : String) : List Char :=
  (cut (clean s.toList)).main

/-- Reading a web URL: its scheme and its front have to be sound, and they decide where it leads. -/
theorem parse_of_front {s : String} {scheme rest : List Char} {authority : Authority}
    (hscheme : readScheme (mainOf s) = some (scheme, rest))
    (hweb : schemeKind scheme = .web)
    (hfront : readAuthority scheme true true (webFront rest) = .ok authority) :
    ∃ u, parse s = .ok u ∧ u.scheme = scheme ∧ u.username = authority.username ∧
      u.password = authority.password ∧ u.host = authority.host ∧ u.port = authority.port := by
  refine ⟨withRest (cut (clean s.toList)) scheme authority (specialPath (webBack rest)), ?_,
    rfl, rfl, rfl, rfl, rfl⟩
  rw [mainOf] at hscheme
  rw [parse, parseChars]
  simp only [hscheme, hweb]
  rw [parseWeb_eq, hfront]
  rfl

/-- A web URL was read by the reader for its kind. -/
theorem parseWeb_of_parse {s : String} {u : Url} (h : parse s = .ok u)
    (hweb : schemeKind u.scheme = .web) :
    ∃ rest, readScheme (mainOf s) = some (u.scheme, rest) ∧
      parseWeb (cut (clean s.toList)) u.scheme rest = .ok u := by
  rw [parse, parseChars] at h
  rw [mainOf]
  cases hscheme : readScheme (cut (clean s.toList)).main with
  | none =>
    simp only [hscheme] at h
    cases h
  | some parts =>
    obtain ⟨scheme, rest⟩ := parts
    simp only [hscheme] at h
    split at h
    · have hparse := h
      rw [parseWeb_eq] at h
      obtain ⟨authority, -, rfl⟩ := map_eq_ok_iff.mp h
      exact ⟨rest, rfl, hparse⟩
    -- readers for other schemes keep these, so none of them has read a web URL
    · next hother =>
      rw [scheme_of_parseOther h, hother] at hweb
      cases hweb
    · next hfile =>
      rw [scheme_of_parseFile h, hfile] at hweb
      cases hweb

/-- A web URL that was read has a scheme and a front that are sound. -/
theorem front_of_parse {s : String} {u : Url} (h : parse s = .ok u)
    (hweb : schemeKind u.scheme = .web) :
    ∃ rest authority, readScheme (mainOf s) = some (u.scheme, rest) ∧
      readAuthority u.scheme true true (webFront rest) = .ok authority ∧
      u.username = authority.username ∧ u.password = authority.password ∧
      u.host = authority.host ∧ u.port = authority.port := by
  obtain ⟨rest, hscheme, hparse⟩ := parseWeb_of_parse h hweb
  rw [parseWeb_eq] at hparse
  obtain ⟨authority, hauthority, hu⟩ := map_eq_ok_iff.mp hparse
  refine ⟨rest, authority, hscheme, hauthority, ?_⟩
  rw [← hu]
  exact ⟨rfl, rfl, rfl, rfl⟩

/-- Path and query of a web URL that was read. -/
theorem back_of_parse {s : String} {u : Url} (h : parse s = .ok u)
    (hweb : schemeKind u.scheme = .web) :
    ∃ rest, readScheme (mainOf s) = some (u.scheme, rest) ∧
      u.path = specialPath (webBack rest) ∧
      u.query = (cut (clean s.toList)).query.map (Percent.encodeChars (keepInQuery true)) := by
  obtain ⟨rest, hscheme, hparse⟩ := parseWeb_of_parse h hweb
  rw [parseWeb_eq] at hparse
  obtain ⟨authority, -, hu⟩ := map_eq_ok_iff.mp hparse
  refine ⟨rest, hscheme, ?_, ?_⟩
  · rw [← hu]
    rfl
  · conv => lhs; rw [← hu]
    simp only [withRest, hweb]
    rfl

/-- The host of a web URL was read as one. -/
theorem parseHost_of_parse {s : String} {u : Url} (h : parse s = .ok u)
    (hweb : schemeKind u.scheme = .web) : ∃ text, parseHost text = .ok u.host := by
  obtain ⟨rest, authority, -, hfront, -, -, hhost, -⟩ := front_of_parse h hweb
  rw [hhost]
  exact parseHost_of_readAuthority hfront

/-- A web URL names its host. -/
theorem hasHost_of_parse {s : String} {u : Url} (h : parse s = .ok u)
    (hweb : schemeKind u.scheme = .web) : u.hasHost = true := by
  obtain ⟨text, htext⟩ := parseHost_of_parse h hweb
  exact isPresent_of_parseHost htext

end Courier.Url
