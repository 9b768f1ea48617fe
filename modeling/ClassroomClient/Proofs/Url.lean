/-
# URLs of web servers

A URL that is read under one of the well-known schemes names a host, and names a port only where
that is not the default of the scheme. Between such schemes with the same default port a URL can
change its scheme, and nothing else of it changes.
-/

import ClassroomClient.Proofs.Text
import ClassroomClient.Url.Parser

namespace ClassroomClient.Url

theorem isWeb_iff {url : Url} :
    url.isWeb = true ↔ url.scheme = "http".toList ∨ url.scheme = "https".toList := by
  rw [isWeb, Bool.or_eq_true, beq_iff_eq, beq_iff_eq]

/-! ## Hosts and ports -/

/-- The port that connections to a URL go to. -/
def effectivePort? (url : Url) : Option Nat :=
  (url.authority.bind (·.port)).or (defaultPort? url.scheme)

/-- Whether an authority names a host, and a port only where the scheme has another default. -/
structure IsHosted (scheme : List Char) (authority : Authority) : Prop where
  host : authority.host ≠ .domain []
  port : authority.port ≠ defaultPort? scheme

/-- What stands between brackets is no name. -/
theorem ne_domain_of_readBracketed {text name : List Char} {host : Host}
    (hread : readBracketed text = .ok host) : host ≠ .domain name := by
  rintro rfl
  unfold readBracketed readIpv6 at hread
  split at hread
  · dsimp only at hread
    split at hread
    · cases hread
    · split at hread
      · cases hread
      · split at hread <;> cases hread
  · cases hread

theorem ne_domain_nil_of_readHost {text : List Char} {host : Host}
    (hread : readHost text = .ok host) : host ≠ .domain [] := by
  unfold readHost at hread
  split at hread
  · exact ne_domain_of_readBracketed hread
  · split at hread
    · cases hread
    · split at hread
      · cases hread
      · split at hread
        · cases hread
        · next name _ _ hsome =>
          split at hread
          · cases haddress : readIpv4 name with
            | error error => rw [haddress] at hread; cases hread
            | ok address => rw [haddress] at hread; cases hread; exact nofun
          · cases hread
            rintro ⟨⟩
            exact hsome rfl

theorem isSome_defaultPort? {scheme : List Char} (hkind : SchemeKind.of scheme = .wellKnown) :
    (defaultPort? scheme).isSome = true := by
  unfold SchemeKind.of at hkind
  split at hkind
  · cases hkind
  · split at hkind
    · assumption
    · cases hkind

theorem port_of_readPort {scheme text rest : List Char} {port : Option Nat}
    (hkind : SchemeKind.of scheme = .wellKnown) (hread : readPort scheme text = .ok (port, rest)) :
    port ≠ defaultPort? scheme := by
  have hnone : none ≠ defaultPort? scheme := by
    intro hnone
    have hsome := isSome_defaultPort? hkind
    rw [← hnone] at hsome
    cases hsome
  unfold readPort at hread
  split at hread
  · obtain ⟨⟨written, behind⟩, -, hread⟩ := exists_of_bind hread
    cases hread
    split
    · exact hnone
    · next hother => simpa using hother
  · cases hread
    exact hnone

theorem isHosted_of_readAuthority {scheme text rest : List Char} {authority : Authority}
    (hkind : SchemeKind.of scheme = .wellKnown)
    (hread : readAuthority scheme .wellKnown text = .ok (authority, rest)) :
    IsHosted scheme authority := by
  unfold readAuthority at hread
  extract_lets size at hread
  split at hread
  next username password unnamed text hparts =>
  extract_lets hasUser at hread
  split at hread
  · cases hread
  · next length hostText behind finish _ =>
    -- Only with a host that was read does the reader get as far as the port.
    have hfinish : ∃ host, readHost hostText = .ok host ∧ finish host = .ok (authority, rest) := by
      split at hread
      · cases hread
      · exact exists_of_bind hread
    obtain ⟨host, hhost, hread⟩ := hfinish
    simp only [finish] at hread
    split at hread
    · cases hread
    · obtain ⟨⟨port, left⟩, hport, hread⟩ := exists_of_bind hread
      cases hread
      exact ⟨ne_domain_nil_of_readHost hhost, port_of_readPort hkind hport⟩

/-! ## Reading -/

theorem isHosted_of_readBehindSlashes {scheme text : List Char} {url : Url}
    (hkind : SchemeKind.of scheme = .wellKnown)
    (hread : readBehindSlashes scheme .wellKnown text = .ok url) :
    url.scheme = scheme ∧
      ∃ authority, url.authority = some authority ∧ IsHosted scheme authority := by
  obtain ⟨⟨authority, rest⟩, hauthority, hread⟩ := exists_of_bind hread
  cases hread
  exact ⟨rfl, authority, rfl, isHosted_of_readAuthority hkind hauthority⟩

theorem scheme_of_readFile {text : List Char} {url : Url} (hread : readFile text = .ok url) :
    url.scheme = "file".toList := by
  unfold readFile at hread
  extract_lets scheme finish at hread
  split at hread
  · split at hread
    · extract_lets hostText done at hread
      split at hread
      · cases hread
        rfl
      · split at hread <;>
        · obtain ⟨host, -, hread⟩ := exists_of_bind hread
          cases hread
          rfl
    · cases hread
      rfl
  · cases hread
    rfl

theorem scheme_of_readOther {scheme text : List Char} {url : Url}
    (hread : readOther scheme text = .ok url) : url.scheme = scheme := by
  unfold readOther at hread
  split at hread
  · obtain ⟨⟨authority, rest⟩, -, hread⟩ := exists_of_bind hread
    cases hread
    rfl
  · cases hread
    rfl
  · cases hread
    rfl

/-- A URL of a well-known scheme names a host, whatever it was read from. -/
theorem exists_isHosted_of_parse {text : String} {url : Url} (hparse : parse text = .ok url)
    (hkind : SchemeKind.of url.scheme = .wellKnown) :
    ∃ authority, url.authority = some authority ∧ IsHosted url.scheme authority := by
  unfold parse read at hparse
  extract_lets text at hparse
  split at hparse
  · cases hparse
  · split at hparse
    · rw [scheme_of_readFile hparse] at hkind
      cases hkind
    · next hother =>
      rw [scheme_of_readOther hparse, hother] at hkind
      cases hkind
    · next hwellKnown =>
      obtain ⟨rfl, hauthority⟩ := isHosted_of_readBehindSlashes hwellKnown hparse
      exact hauthority

/-! ## Changing the scheme -/

theorem host?_of_isHosted {url : Url} {scheme : List Char} {authority : Authority}
    (hauthority : url.authority = some authority) (hhosted : IsHosted scheme authority) :
    url.host? = some authority.host := by
  unfold host?
  rw [hauthority]
  split
  · next heq =>
    cases heq
    exact absurd rfl hhosted.host
  · next heq => cases heq; rfl
  · next heq => cases heq

/-- Between well-known schemes of one default port only the scheme changes. -/
theorem withScheme?_of_isHosted {url : Url} {scheme : List Char} {authority : Authority}
    (hold : SchemeKind.of url.scheme = .wellKnown) (hnew : SchemeKind.of scheme = .wellKnown)
    (hdefault : defaultPort? scheme = defaultPort? url.scheme)
    (hauthority : url.authority = some authority) (hhosted : IsHosted url.scheme authority) :
    url.withScheme? scheme = some { url with scheme } := by
  have hport : authority.port ≠ defaultPort? scheme := hdefault ▸ hhosted.port
  simp [withScheme?, hold, hnew, host?_of_isHosted hauthority hhosted, hauthority, hport]

end ClassroomClient.Url
