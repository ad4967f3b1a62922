import HopWhy.Guarantees.ProxyCredentials
import HopWhy.Library.FormUrlencoded

/-!
# Redaction keeps keys

What redaction leaves of a URL is its scheme, host, port and path, and of its
query the decoded keys in their order. Nothing else counts for the redacted
text, and redacting that once more changes nothing.
-/

namespace HopWhy

/-- The URLs that parsing, joining and the setters of a redaction build. -/
inductive Built [Crates] : Url → Prop
  | parsed {text : String} {url : Url} (h : Crates.urlParse text = .ok url) : Built url
  | joined {base url : Url} {reference : String} (hbase : Built base)
      (h : Crates.urlJoin base reference = .ok url) : Built url
  | setUsername {url : Url} (h : Built url) : Built (url.setUsername "")
  | clearPassword {url : Url} (h : Built url) : Built url.clearPassword
  | clearFragment {url : Url} (h : Built url) : Built url.clearFragment
  | clearQuery {url : Url} (h : Built url) : Built url.clearQuery
  | queryPairs {url : Url} (h : Built url) (hquery : url.query = none) (names : List String)
      (value : String) :
      Built { url with query := some (FormUrlencoded.serialize names value) }

/-- An HTTP(S) URL of the crate has a host, and its text parses to it. -/
structure HttpUrlLaw [Crates] : Prop where
  host : ∀ {url : Url}, Built url → isHttpScheme url.scheme = true → url.hostStr.isSome = true
  reparses : ∀ {url : Url}, Built url → isHttpScheme url.scheme = true →
    Crates.urlParse url.asStr = .ok url

/-- The decoded pairs of the query; without a query there are none. -/
def queryPairs (url : Url) : List (String × String) :=
  FormUrlencoded.pairs (url.query.getD "")

/-- The URL without its credentials and fragment. -/
def bareUrl (url : Url) : Url := { withoutCredentials url with fragment := none }

/-- The URL that the redacted text spells. -/
def redactedUrl (url : Url) : Url :=
  { bareUrl url with
    query := url.query.map fun query =>
      FormUrlencoded.serialize (FormUrlencoded.keys query) "REDACTED" }

/-- What redaction keeps of a URL. -/
structure RedactsTo (url redacted : Url) : Prop where
  scheme : redacted.scheme = url.scheme
  host : redacted.host = url.host
  port : redacted.port = url.port
  path : redacted.path = url.path
  username : redacted.username = ""
  password : redacted.password = none
  fragment : redacted.fragment = none
  query : redacted.query.isSome = url.query.isSome
  pairs : queryPairs redacted = (queryPairs url).map fun pair => (pair.1, "REDACTED")

/-- The URLs agree on all that redaction keeps. -/
structure SameShape (u v : Url) : Prop where
  scheme : u.scheme = v.scheme
  host : u.host = v.host
  port : u.port = v.port
  path : u.path = v.path
  query : u.query.isSome = v.query.isSome
  keys : (queryPairs u).map Prod.fst = (queryPairs v).map Prod.fst

theorem keys_serialize (names : List String) (value : String) :
    FormUrlencoded.keys (FormUrlencoded.serialize names value) = names := by
  rw [FormUrlencoded.keys_eq, FormUrlencoded.pairs_serialize, List.map_map]
  exact List.map_id names

theorem redactsTo_redactedUrl (url : Url) : RedactsTo url (redactedUrl url) where
  scheme := rfl
  host := rfl
  port := rfl
  path := rfl
  username := rfl
  password := rfl
  fragment := rfl
  query := Option.isSome_map
  pairs := by
    unfold queryPairs redactedUrl
    rcases url.query with _ | query
    · rfl
    · dsimp only [Option.map_some, Option.getD_some]
      rw [FormUrlencoded.pairs_serialize, FormUrlencoded.keys_eq, List.map_map]
      rfl

theorem redactedUrl_idem (url : Url) : redactedUrl (redactedUrl url) = redactedUrl url := by
  unfold redactedUrl
  rcases url.query with _ | query
  · rfl
  · simp [keys_serialize, bareUrl, withoutCredentials]

/-- The keys can be read off the redacted URL. -/
theorem keys_redactedUrl (url : Url) :
    (queryPairs (redactedUrl url)).map Prod.fst = (queryPairs url).map Prod.fst := by
  rw [(redactsTo_redactedUrl url).pairs, List.map_map]
  rfl

theorem sameShape_of_redactedUrl_eq {u v : Url} (h : redactedUrl u = redactedUrl v) :
    SameShape u v where
  scheme := by rw [← (redactsTo_redactedUrl u).scheme, h, (redactsTo_redactedUrl v).scheme]
  host := by rw [← (redactsTo_redactedUrl u).host, h, (redactsTo_redactedUrl v).host]
  port := by rw [← (redactsTo_redactedUrl u).port, h, (redactsTo_redactedUrl v).port]
  path := by rw [← (redactsTo_redactedUrl u).path, h, (redactsTo_redactedUrl v).path]
  query := by rw [← (redactsTo_redactedUrl u).query, h, (redactsTo_redactedUrl v).query]
  keys := by rw [← keys_redactedUrl u, h, keys_redactedUrl v]

theorem SameShape.redactedUrl_eq {u v : Url} (h : SameShape u v) :
    redactedUrl u = redactedUrl v := by
  have hquery := h.query
  have hkeys := h.keys
  unfold redactedUrl bareUrl withoutCredentials
  rw [h.scheme, h.host, h.port, h.path]
  unfold queryPairs at hkeys
  rcases hu : u.query with _ | query <;> rcases hv : v.query with _ | query'
  · rfl
  · simp [hu, hv] at hquery
  · simp [hu, hv] at hquery
  · rw [hu, hv, Option.getD_some, Option.getD_some, ← FormUrlencoded.keys_eq,
      ← FormUrlencoded.keys_eq] at hkeys
    rw [Option.map_some, Option.map_some, hkeys]

section

variable {u : Url} (hscheme : isHttpScheme u.scheme = true) (hhost : u.hostStr.isSome = true)

include hscheme hhost

/-- The setters that come before the query is looked at. -/
theorem clearFragment_eq :
    ((u.setUsername "").clearPassword).clearFragment = bareUrl u := by
  rw [clearCredentials_eq hscheme hhost]
  exact Url.clearFragment_of_host (u := withoutCredentials u) (Url.host_isSome_of_hostStr hhost)

omit hscheme in
theorem clearQuery_bareUrl : (bareUrl u).clearQuery = { bareUrl u with query := none } := by
  have hbase : ¬ ({ bareUrl u with query := none } : Url).cannotBeABase = true := by
    obtain ⟨host, hsome⟩ := Option.isSome_iff_exists.mp (Url.host_isSome_of_hostStr hhost)
    simp [Url.cannotBeABase, bareUrl, withoutCredentials, hsome]
  rw [Url.clearQuery, Url.stripOpaqueSpaces, if_neg fun hopaque => hbase hopaque.1]

theorem redactUrl_eq : redactUrl u false = (redactedUrl u).asStr := by
  have hquery : (bareUrl u).query = u.query := rfl
  unfold redactUrl
  rw [clearFragment_eq hscheme hhost]
  dsimp only
  rw [clearQuery_bareUrl hhost, hquery]
  rcases hsome : u.query with _ | query
  · simp [redactedUrl, bareUrl, withoutCredentials, hsome]
  · simp [redactedUrl, hsome]

theorem Built.redactedUrl [Crates] (h : Built u) : Built (redactedUrl u) := by
  have hbare := h.setUsername.clearPassword.clearFragment
  rw [clearFragment_eq hscheme hhost] at hbare
  rcases hquery : u.query with _ | query
  · have hnone : HopWhy.redactedUrl u = bareUrl u := by
      simp [HopWhy.redactedUrl, bareUrl, withoutCredentials, hquery]
    rw [hnone]
    exact hbare
  · have hclear := hbare.clearQuery
    rw [clearQuery_bareUrl hhost] at hclear
    have hsome : HopWhy.redactedUrl u = { ({ bareUrl u with query := none } : Url) with
        query := some (FormUrlencoded.serialize (FormUrlencoded.keys query) "REDACTED") } := by
      simp [HopWhy.redactedUrl, hquery]
    rw [hsome]
    exact hclear.queryPairs rfl (FormUrlencoded.keys query) "REDACTED"

end

/-- Redaction keeps the keys of a query and nothing else of it. -/
theorem redactUrl_keeps_keys [Crates] (law : HttpUrlLaw) {url : Url} (hbuilt : Built url)
    (hscheme : isHttpScheme url.scheme = true) :
    ∃ redacted, Crates.urlParse (redactUrl url false) = .ok redacted ∧ RedactsTo url redacted ∧
      redactUrl redacted false = redactUrl url false ∧
      ∀ other, Built other → isHttpScheme other.scheme = true →
        (redactUrl url false = redactUrl other false ↔ SameShape url other) := by
  have hparse : ∀ {u : Url}, Built u → isHttpScheme u.scheme = true →
      redactUrl u false = (redactedUrl u).asStr ∧
        Crates.urlParse (redactUrl u false) = .ok (redactedUrl u) := by
    intro u hbuilt hscheme
    have hhost := law.host hbuilt hscheme
    have htext := redactUrl_eq hscheme hhost
    refine ⟨htext, ?_⟩
    rw [htext]
    exact law.reparses (hbuilt.redactedUrl hscheme hhost) hscheme
  have hhost := law.host hbuilt hscheme
  refine ⟨redactedUrl url, (hparse hbuilt hscheme).2, redactsTo_redactedUrl url, ?_, ?_⟩
  · have hagain := hparse (hbuilt.redactedUrl hscheme hhost) hscheme
    rw [hagain.1, redactedUrl_idem, (hparse hbuilt hscheme).1]
  · intro other hother hscheme'
    constructor
    · intro h
      apply sameShape_of_redactedUrl_eq
      have hsame := (hparse hbuilt hscheme).2
      rw [h, (hparse hother hscheme').2] at hsame
      exact (Except.ok.inj hsame).symm
    · intro h
      rw [(hparse hbuilt hscheme).1, (hparse hother hscheme').1, h.redactedUrl_eq]

def isQueryChar (c : Char) : Bool :=
  (c.toNat < 0x80 && FormUrlencoded.isUnreserved (UInt8.ofNat c.toNat)) ||
    ['%', '+', '&', '='].contains c

def siteUrl (query : Option (List Char)) : Url :=
  { exampleUrl "/" with query := query.map String.ofList }

/-- Parses the front page of one site, with encoded queries only. -/
def parseSite (text : String) : Except String Url :=
  let query := text.toList.drop 20
  if text = "http://example.com/" then .ok (siteUrl none)
  else if "http://example.com/?".toList.isPrefixOf text.toList && query.all isQueryChar then
    .ok (siteUrl (some query))
  else .error "relative URL without a base"

@[reducible] def siteCrates : Crates :=
  { ({} : Recordings).crates with urlParse := parseSite }

theorem mem_serialize_isQueryChar {names : List String} {value : String} {c : Char}
    (h : c ∈ (FormUrlencoded.serialize names value).toList) : isQueryChar c = true := by
  rcases FormUrlencoded.mem_serialize h with ⟨hascii, hunreserved | rfl | rfl⟩ | rfl | rfl
  · simp [isQueryChar, hascii, hunreserved]
  · decide
  · decide
  · decide
  · decide

/-- All URLs of the site. -/
theorem siteUrl_of_built {url : Url} (h : @Built siteCrates url) :
    ∃ query : Option (List Char),
      (∀ q ∈ query, q.all isQueryChar = true) ∧ url = siteUrl query := by
  induction h with
  | @parsed text url h =>
    change parseSite text = .ok url at h
    unfold parseSite at h
    dsimp only at h
    split_ifs at h with hfront hquery
    · cases h
      exact ⟨none, by simp, rfl⟩
    · cases h
      exact ⟨some _, by simpa using (Bool.and_eq_true_iff.mp hquery).2, rfl⟩
  | joined hbase h ih => cases h
  | setUsername h ih =>
    obtain ⟨query, hquery, rfl⟩ := ih
    exact ⟨query, hquery, rfl⟩
  | clearPassword h ih =>
    obtain ⟨query, hquery, rfl⟩ := ih
    exact ⟨query, hquery, rfl⟩
  | clearFragment h ih =>
    obtain ⟨query, hquery, rfl⟩ := ih
    exact ⟨query, hquery, rfl⟩
  | clearQuery h ih =>
    obtain ⟨query, hquery, rfl⟩ := ih
    exact ⟨none, by simp, rfl⟩
  | queryPairs h hnone names value ih =>
    obtain ⟨query, hquery, rfl⟩ := ih
    refine ⟨some (FormUrlencoded.serialize names value).toList, ?_, ?_⟩
    · rintro q ⟨rfl⟩
      exact List.all_eq_true.mpr fun c hc => mem_serialize_isQueryChar hc
    · rw [siteUrl, siteUrl, Option.map_some, String.ofList_toList]

theorem asStr_siteUrl (query : List Char) :
    (siteUrl (some query)).asStr = "http://example.com/?" ++ String.ofList query := by
  have hauthority : (siteUrl (some query)).authorityText = "//example.com" := by
    simp [Url.authorityText, siteUrl, exampleUrl, UrlHost.text]
  rw [Url.asStr, hauthority]
  apply String.toList_injective
  simp [siteUrl, exampleUrl]

theorem parseSite_asStr {query : List Char} (h : query.all isQueryChar = true) :
    parseSite (siteUrl (some query)).asStr = .ok (siteUrl (some query)) := by
  have htext : (siteUrl (some query)).asStr.toList = "http://example.com/?".toList ++ query := by
    simp [asStr_siteUrl]
  have hfront : (siteUrl (some query)).asStr ≠ "http://example.com/" := by
    intro heq
    rw [heq] at htext
    have hlength := congrArg List.length htext
    rw [List.length_append] at hlength
    have hshort : "http://example.com/".toList.length < "http://example.com/?".toList.length := by
      decide
    omega
  have hdrop : (siteUrl (some query)).asStr.toList.drop 20 = query := by
    rw [htext]
    rfl
  have hprefix : "http://example.com/?".toList.isPrefixOf (siteUrl (some query)).asStr.toList =
      true := by
    rw [htext, List.isPrefixOf_iff_prefix]
    exact List.prefix_append _ _
  unfold parseSite
  dsimp only
  rw [if_neg hfront, hdrop, hprefix, h]
  rfl

theorem siteCrates_law : @HttpUrlLaw siteCrates := by
  let := siteCrates
  constructor
  · intro url hbuilt hscheme
    obtain ⟨query, -, rfl⟩ := siteUrl_of_built hbuilt
    rfl
  · intro url hbuilt hscheme
    obtain ⟨query, hquery, rfl⟩ := siteUrl_of_built hbuilt
    change parseSite _ = _
    rcases query with _ | query
    · decide +kernel
    · exact parseSite_asStr (hquery query rfl)

theorem redactUrl_keeps_keys_of_site :
    letI := siteCrates
    let url := siteUrl (some "b=2&a%26=1&&=&b".toList)
    ∃ redacted, Crates.urlParse (redactUrl url false) = .ok redacted ∧ RedactsTo url redacted ∧
      redactUrl redacted false = redactUrl url false ∧
      ∀ other, Built other → isHttpScheme other.scheme = true →
        (redactUrl url false = redactUrl other false ↔ SameShape url other) := by
  let := siteCrates
  have hparsed : Crates.urlParse "http://example.com/?b=2&a%26=1&&=&b" =
      .ok (siteUrl (some "b=2&a%26=1&&=&b".toList)) := by decide +kernel
  exact redactUrl_keeps_keys siteCrates_law (.parsed hparsed) rfl

end HopWhy
