/-
# Addresses on the configured server

Whatever base URL is accepted, every channel has a URL: the path of the channel on the server of
the base, under the scheme that goes with the base's. The paths of the channels and of the listing
begin with a slash. They take the place of the path of the base, so that a server which is deployed
below a path of its own is not addressed there.
-/

import ClassroomClient.Download
import ClassroomClient.Proofs.Url

namespace ClassroomClient

/-- What is asked for is a page of a web server that the path leads to. -/
theorem Download.url_eq_ok {download : Download} {base url : Url} :
    download.url base = .ok url ↔ base.join download.path = .ok url ∧ url.isWeb = true := by
  unfold Download.url
  cases base.join download.path with
  | error error => simp
  | ok found =>
      dsimp only
      split
      · next hweb => simpa using fun hsame => hsame ▸ hweb
      · next hother => simpa using fun hsame => hsame ▸ Bool.eq_false_iff.2 hother

namespace Config

variable {base team : String} {config : Config}

/-! ## Accepted base URLs -/

/-- The schemes that a web server can have, with those of its channels. -/
def channelSchemes : List (List Char × List Char) :=
  [("http".toList, "ws".toList), ("https".toList, "wss".toList)]

theorem parse_of_ofBase (haccepted : ofBase base team = .ok config) :
    Url.parse base = .ok config.baseUrl := by
  unfold ofBase at haccepted
  split at haccepted
  · cases haccepted
  · next url hparse =>
    split at haccepted
    · cases haccepted
      exact hparse
    · cases haccepted

/-- An accepted base URL names a host, and its scheme goes with one of channels that has the same
default port. -/
theorem exists_scheme_of_ofBase (haccepted : ofBase base team = .ok config) :
    ∃ authority scheme, config.baseUrl.authority = some authority ∧
      Url.IsHosted config.baseUrl.scheme authority ∧
      Url.SchemeKind.of config.baseUrl.scheme = .wellKnown ∧
      (config.baseUrl.scheme, scheme) ∈ channelSchemes := by
  have hparse := parse_of_ofBase haccepted
  have hscheme := Url.isWeb_iff.1 config.onWeb
  have hknown : Url.SchemeKind.of config.baseUrl.scheme = .wellKnown := by
    rcases hscheme with hscheme | hscheme <;> rw [hscheme] <;> decide
  obtain ⟨authority, hauthority, hhosted⟩ := Url.exists_isHosted_of_parse hparse hknown
  rcases hscheme with hscheme | hscheme
  · exact ⟨authority, "ws".toList, hauthority, hhosted, hknown, by rw [hscheme]; decide⟩
  · exact ⟨authority, "wss".toList, hauthority, hhosted, hknown, by rw [hscheme]; decide⟩

theorem mem_channelSchemes {old new : List Char} :
    (old, new) ∈ channelSchemes ↔
      old = "http".toList ∧ new = "ws".toList ∨ old = "https".toList ∧ new = "wss".toList := by
  simp [channelSchemes]

/-- The scheme that goes with one of a web server is chosen, and its default port is the same. -/
theorem of_mem_channelSchemes {old new : List Char} (hpair : (old, new) ∈ channelSchemes) :
    (if old == "https".toList then "wss".toList else "ws".toList) = new ∧
      Url.SchemeKind.of new = .wellKnown ∧ Url.defaultPort? new = Url.defaultPort? old := by
  rcases mem_channelSchemes.1 hpair with ⟨rfl, rfl⟩ | ⟨rfl, rfl⟩ <;> decide

/-! ## Pages at the top of a server -/

/-- The page at the top of the server of a URL that some names lead to. -/
def pageAt (base : Url) (names : List String) : Url :=
  { base with path := .segments (names.map String.toList), query := none, fragment := none }

/-- The page of a channel. -/
def channelPage (base : Url) (channel : Channel) : Url := pageAt base [channel.name, "websocket"]

theorem join_channelPath (base : Url) (channel : Channel) :
    base.join (channelPath channel) = .ok (channelPage base channel) := by
  cases channel <;> rfl

theorem join_files (base : Url) : base.join Route.files = .ok (pageAt base ["files"]) := rfl

/-- The listing is a page of the server, and can be asked for. -/
theorem url_files (config : Config) :
    Download.files.url config.baseUrl = .ok (pageAt config.baseUrl ["files"]) :=
  Download.url_eq_ok.2 ⟨join_files config.baseUrl, config.onWeb⟩

@[simp] theorem path_text_channelPage (base : Url) (channel : Channel) :
    (channelPage base channel).path.text = (channelPath channel).toList := by
  cases channel <;> rfl

theorem channelPath_injective : Function.Injective channelPath := by
  intro first second
  cases first <;> cases second <;> decide

/-- No two channels have one page. -/
theorem text_channelPage_injective (base : Url) :
    Function.Injective fun channel => (channelPage base channel).text := by
  have hchars : ∀ channel, (channelPage base channel).chars =
      (pageAt base ["files"]).front ++ (channelPath channel).toList := by
    intro channel
    cases channel <;> simp [Url.chars, channelPage, pageAt] <;> rfl
  intro first second htext
  have hpaths : (channelPath first).toList = (channelPath second).toList := by
    apply List.append_cancel_left
    rw [← hchars, ← hchars]
    exact String.ofList_injective htext
  exact channelPath_injective (String.toList_injective hpaths)

/-! ## Channels -/

/-- A channel is reached at the page that its path names, once that has the scheme of channels. -/
theorem channelUrl_of_withScheme? {channel : Channel} {page url : Url} {scheme : List Char}
    (hpage : config.httpUrl (channelPath channel) = .ok page)
    (hscheme : (if page.scheme == "https".toList then "wss".toList else "ws".toList) = scheme)
    (hswitched : page.withScheme? scheme = some url) : config.channelUrl channel = .ok url := by
  subst hscheme
  simp only [channelUrl, hpage, bind, Except.bind, hswitched]
  rfl

/-- The channels of a server are reached under the scheme that goes with its own. -/
theorem channelUrl_of_ofBase (haccepted : ofBase base team = .ok config) :
    ∃ scheme, (config.baseUrl.scheme, scheme) ∈ channelSchemes ∧ ∀ channel,
      config.channelUrl channel = .ok (channelPage { config.baseUrl with scheme } channel) := by
  obtain ⟨authority, scheme, hauthority, hhosted, hknown, hpair⟩ :=
    exists_scheme_of_ofBase haccepted
  obtain ⟨hchosen, hnew, hdefault⟩ := of_mem_channelSchemes hpair
  refine ⟨scheme, hpair, fun channel => ?_⟩
  have hpage : config.httpUrl (channelPath channel) = .ok (channelPage config.baseUrl channel) := by
    rw [httpUrl, join_channelPath]
  exact channelUrl_of_withScheme? hpage hchosen
    (Url.withScheme?_of_isHosted hknown hnew hdefault hauthority hhosted)

end Config

/-- A URL that reaches a channel on the server of a base URL: under the scheme that goes with the
base's, by the same user on the same host and port, at the path of the channel, with nothing
behind it. -/
structure Url.Reaches (url base : Url) (channel : Channel) : Prop where
  plain : url.scheme = "ws".toList ↔ base.scheme = "http".toList
  secure : url.scheme = "wss".toList ↔ base.scheme = "https".toList
  plain_or_secure : url.scheme = "ws".toList ∨ url.scheme = "wss".toList
  host : url.host?.isSome = true
  authority : url.authority = base.authority
  port : url.effectivePort? = base.effectivePort?
  query : url.query = none
  fragment : url.fragment = none
  path : (channel.endpoint ++ "/websocket").toList <:+ url.path.text

namespace Config

variable {base team : String} {config : Config}

theorem reaches_channelPage {url : Url} {scheme : List Char} {authority : Authority}
    (hpair : (url.scheme, scheme) ∈ channelSchemes) (hauthority : url.authority = some authority)
    (hhosted : Url.IsHosted url.scheme authority) (channel : Channel) :
    (channelPage { url with scheme } channel).Reaches url channel where
  plain := by
    change scheme = _ ↔ _
    rcases mem_channelSchemes.1 hpair with ⟨hold, rfl⟩ | ⟨hold, rfl⟩ <;> rw [hold] <;> decide
  secure := by
    change scheme = _ ↔ _
    rcases mem_channelSchemes.1 hpair with ⟨hold, rfl⟩ | ⟨hold, rfl⟩ <;> rw [hold] <;> decide
  plain_or_secure := (mem_channelSchemes.1 hpair).imp And.right And.right
  host := by
    have hpage : (channelPage { url with scheme } channel).authority = some authority := hauthority
    rw [Url.host?_of_isHosted hpage hhosted]
    rfl
  authority := rfl
  port := congrArg (url.authority.bind (·.port)).or (of_mem_channelSchemes hpair).2.2
  query := rfl
  fragment := rfl
  path := by
    rw [path_text_channelPage]
    exact List.suffix_rfl

/-- However the base URL is spelled, every channel has a URL on its server, and no two channels
have the same. -/
theorem channelUrls_reach (haccepted : ofBase base team = .ok config) :
    ∃ url : Channel → Url,
      (∀ channel, config.channelUrl channel = .ok (url channel) ∧
        (url channel).Reaches config.baseUrl channel) ∧
      Function.Injective fun channel => (url channel).text := by
  obtain ⟨authority, _, hauthority, hhosted, -, -⟩ := exists_scheme_of_ofBase haccepted
  obtain ⟨scheme, hpair, hurl⟩ := channelUrl_of_ofBase haccepted
  refine ⟨channelPage { config.baseUrl with scheme }, fun channel => ⟨hurl channel, ?_⟩,
    text_channelPage_injective _⟩
  exact reaches_channelPage hpair hauthority hhosted channel

/-- A server that is spelled in capitals, with a user, the default port of the other scheme, a
path, a query and a fragment. -/
theorem channelUrls_reach_spelled :
    ∃ config, ofBase " HTTP://me:pw@[::1]:443/a/../b?q=1#f" "team1" = .ok config ∧
      ∃ url : Channel → Url,
        (∀ channel, config.channelUrl channel = .ok (url channel) ∧
          (url channel).Reaches config.baseUrl channel) ∧
        Function.Injective fun channel => (url channel).text := by
  obtain ⟨config, haccepted⟩ : ∃ config, ofBase " HTTP://me:pw@[::1]:443/a/../b?q=1#f" "team1" =
      .ok config := ⟨_, by rfl⟩
  exact ⟨config, haccepted, channelUrls_reach haccepted⟩

/-! ## Paths -/

/-- The path of a resource below the path of a URL, with one slash at the joint. -/
def pathBelow (base : Url) (path : String) : List Char :=
  Text.dropTrailing (· == '/') base.path.text ++ path.toList

/-- Only below a path without names a resource stands where it stands at the top. -/
theorem pathBelow_eq_self {base : Url} {path : String} :
    pathBelow base path = path.toList ↔ ∀ c ∈ base.path.text, c = '/' := by
  rw [pathBelow, List.append_left_eq_self, Text.dropTrailing_eq_nil, List.all_eq_true]
  simp only [beq_iff_eq]

/-- Whether the channels and the listing are addressed below the path of the base URL. -/
structure AddressesBelow (config : Config) : Prop where
  channel : ∀ channel, ∃ url, config.channelUrl channel = .ok url ∧
    url.path.text = pathBelow config.baseUrl (channelPath channel)
  files : ∃ url, config.httpUrl Route.files = .ok url ∧
    url.path.text = pathBelow config.baseUrl Route.files

/-- Whatever the path of the base URL is, the channels and the listing are addressed at the top of
the server. This is below the path of the base only when that has no names. -/
theorem addresses_at_top (haccepted : ofBase base team = .ok config) :
    (∀ channel, ∃ url, config.channelUrl channel = .ok url ∧
      url.path.text = (channelPath channel).toList) ∧
    (∃ url, config.httpUrl Route.files = .ok url ∧
      Download.files.url config.baseUrl = .ok url ∧ url.path.text = Route.files.toList) ∧
    (config.AddressesBelow ↔ ∀ c ∈ config.baseUrl.path.text, c = '/') := by
  obtain ⟨scheme, -, hurl⟩ := channelUrl_of_ofBase haccepted
  have hfiles : config.httpUrl Route.files = .ok (pageAt config.baseUrl ["files"]) := by
    rw [httpUrl, join_files]
  refine ⟨fun channel => ⟨_, hurl channel, path_text_channelPage _ channel⟩,
    ⟨_, hfiles, config.url_files, rfl⟩, ?_, ?_⟩
  · rintro ⟨-, url, hhttp, hpath⟩
    cases hfiles.symm.trans hhttp
    exact pathBelow_eq_self.1 hpath.symm
  · intro hslashes
    refine ⟨fun channel => ⟨_, hurl channel, ?_⟩, _, hfiles, ?_⟩
    · rw [path_text_channelPage, pathBelow_eq_self.2 hslashes]
    · rw [pathBelow_eq_self.2 hslashes]
      rfl

/-- A server below a path, whose path, query and fragment are all left out. -/
theorem addresses_at_top_of_path :
    ∃ config, ofBase "https://[::1]/app/?q#f" "team1" = .ok config ∧
      (∀ channel, ∃ url, config.channelUrl channel = .ok url ∧
        url.path.text = (channelPath channel).toList) ∧
      (∃ url, config.httpUrl Route.files = .ok url ∧
        Download.files.url config.baseUrl = .ok url ∧ url.path.text = Route.files.toList) ∧
      (config.AddressesBelow ↔ ∀ c ∈ config.baseUrl.path.text, c = '/') := by
  obtain ⟨config, haccepted⟩ : ∃ config, ofBase "https://[::1]/app/?q#f" "team1" =
      .ok config := ⟨_, by rfl⟩
  exact ⟨config, haccepted, addresses_at_top haccepted⟩

/-- A server that is deployed below a path is not addressed there, neither on the channel that
requests are sent on nor for the listing. -/
theorem addresses_miss_base_path :
    ∃ config channelUrl filesUrl, ofBase "http://[::1]:8080/app" "team1" = .ok config ∧
      config.baseUrl.path.text = "/app".toList ∧
      config.baseUrl.query = none ∧ config.baseUrl.fragment = none ∧
      config.channelUrl .control = .ok channelUrl ∧
      channelUrl.text = "ws://[::1]:8080/control/websocket" ∧
      channelUrl.path.text ≠ "/app/control/websocket".toList ∧
      config.httpUrl Route.files = .ok filesUrl ∧
      filesUrl.text = "http://[::1]:8080/files" ∧
      filesUrl.path.text ≠ "/app/files".toList ∧ ¬ config.AddressesBelow := by
  refine ⟨_, _, _, rfl, by decide, rfl, rfl, rfl, by decide, by decide, rfl, by decide,
    by decide, ?_⟩
  rintro ⟨-, url, hurl, hpath⟩
  cases hurl
  exact absurd hpath (by decide)

end Config

end ClassroomClient
