import HopWhy.Policy.Target

/-!
# Proxy selection

The proxy for a URL, from the explicit disable option, the `NO_PROXY` list and
the scheme-specific environment variables. The connect host is the proxy's, or
the target's own when no proxy is selected.
-/

namespace HopWhy

structure ResolvedProxy where
  summary : ProxySummary
  url : Option Url
  connectHost : String
  connectPort : UInt16

structure EnvironmentValue where
  key : String
  value : String

/-- A variable that is unset, not Unicode or blank does not count. -/
def firstEnvironmentValue (envVar : String → Option String) (keys : List String) :
    Option EnvironmentValue :=
  keys.findSome? fun key =>
    ((envVar key).filter fun value => Text.trim value.toList ≠ []).map fun value =>
      { key, value }

/-- One entry of the list; an entry with another port is no match. -/
def noProxyEntryMatches (entry : List Char) (host : String) (port : UInt16) : Bool :=
  let pattern := Text.trim entry
  let portSuffix := ':' :: Nat.toDigits 10 port.toNat
  let hostMatches (pattern : List Char) : Bool :=
    let pattern := pattern.dropWhile (· == '.')
    Text.eqIgnoreAsciiCase host.toList pattern ||
      ('.' :: Text.toAsciiLowercase pattern).isSuffixOf (Text.toAsciiLowercase host.toList)
  if pattern = [] then false
  else if pattern = ['*'] then true
  else if portSuffix.isSuffixOf pattern then
    hostMatches (pattern.take (pattern.length - portSuffix.length))
  else
    match Text.rsplitOnce ':' pattern with
    | some (_, suffix) =>
      if suffix ≠ [] ∧ suffix.all Text.isAsciiDigit then false else hostMatches pattern
    | none => hostMatches pattern

def noProxyMatches (noProxy : String) (host : String) (port : UInt16) : Bool :=
  (noProxy.toList.splitOn ',').any fun entry => noProxyEntryMatches entry host port

def directProxySummary (host : String) (port : UInt16) (bypassReason : Option String) :
    ResolvedProxy where
  summary := {
    selected := false
    source := none
    endpoint := none
    configurationSha256 := none
    bypassReason }
  url := none
  connectHost := host
  connectPort := port

def containsSchemeMark (value : String) : Bool := Text.contains "://".toList value.toList

def normalizedProxy (value : String) : String :=
  if containsSchemeMark value then value else "http://" ++ value

section

variable [Crates]

/-- The proxy an environment variable names. -/
def selectProxy (environment : EnvironmentValue) : AppResult ResolvedProxy :=
  match Crates.urlParse (normalizedProxy environment.value) with
  | .error error => .error (.new .policy "invalid_proxy_url"
      (environment.key ++ " is not a valid proxy URL: " ++ error))
  | .ok proxyUrl =>
    if !isHttpScheme proxyUrl.scheme then .error (.new .policy "unsupported_proxy_scheme"
      (environment.key ++ " uses unsupported scheme " ++ proxyUrl.scheme ++
        "; only HTTP(S) proxies are supported"))
    else
      match proxyUrl.hostStr with
      | none => .error (.new .policy "missing_proxy_host"
          (environment.key ++ " does not include a proxy host"))
      | some connectHost =>
        match proxyUrl.portOrKnownDefault with
        | none => .error (.new .policy "missing_proxy_port"
            (environment.key ++ " does not imply a proxy port"))
        | some connectPort =>
          let endpoint := redactUrl proxyUrl false
          .ok {
            summary := {
              selected := true
              source := some environment.key
              endpoint := some endpoint
              configurationSha256 := some (sha256Text endpoint)
              bypassReason := none }
            url := some proxyUrl
            connectHost
            connectPort }

def proxyKeys (scheme : String) : List String :=
  if scheme = "https" then ["https_proxy", "HTTPS_PROXY", "all_proxy", "ALL_PROXY"]
  else ["http_proxy", "HTTP_PROXY", "all_proxy", "ALL_PROXY"]

/-- The `NO_PROXY` variable that exempts the target, if one does. -/
def exemption (envVar : String → Option String) (host : String) (port : UInt16) :
    Option String :=
  match firstEnvironmentValue envVar ["no_proxy", "NO_PROXY"] with
  | some noProxy => if noProxyMatches noProxy.value host port then some noProxy.key else none
  | none => none

def resolveProxy (envVar : String → Option String) (target : Url)
    (options : InspectionOptions) : AppResult ResolvedProxy :=
  let targetHost := target.hostStr.getD ""
  let targetPort := target.portOrKnownDefault.getD 0
  if options.disableProxy then
    .ok (directProxySummary targetHost targetPort (some "proxy use disabled by option"))
  else
    match exemption envVar targetHost targetPort with
    | some key => .ok (directProxySummary targetHost targetPort (some ("matched " ++ key)))
    | none =>
      match firstEnvironmentValue envVar (proxyKeys target.scheme) with
      | none => .ok (directProxySummary targetHost targetPort none)
      | some environment => selectProxy environment

/-- Without a selected proxy the connection goes to the target itself. -/
theorem resolveProxy_direct {envVar : String → Option String} {target : Url}
    {options : InspectionOptions} {proxy : ResolvedProxy}
    (h : resolveProxy envVar target options = .ok proxy) (hdirect : proxy.url = none) :
    proxy.connectHost = target.hostStr.getD "" ∧
      proxy.connectPort = target.portOrKnownDefault.getD 0 := by
  unfold resolveProxy at h
  dsimp only at h
  split_ifs at h
  · cases h
    exact ⟨rfl, rfl⟩
  · split at h
    · cases h
      exact ⟨rfl, rfl⟩
    · split at h
      · cases h
        exact ⟨rfl, rfl⟩
      · unfold selectProxy at h
        repeat' split at h
        all_goals cases h
        cases hdirect

def proxyVariables : List String :=
  ["http_proxy", "HTTP_PROXY", "https_proxy", "HTTPS_PROXY", "all_proxy", "ALL_PROXY"]

omit [Crates] in
theorem proxyKeys_subset (scheme : String) : proxyKeys scheme ⊆ proxyVariables := by
  unfold proxyKeys
  split_ifs <;> decide

omit [Crates] in
/-- A variable that counts is one of those asked for. -/
theorem firstEnvironmentValue_key {envVar : String → Option String} {keys : List String}
    {value : EnvironmentValue} (h : firstEnvironmentValue envVar keys = some value) :
    value.key ∈ keys := by
  obtain ⟨key, hkey, hvalue⟩ := List.exists_of_findSome?_eq_some h
  obtain ⟨text, -, rfl⟩ := Option.map_eq_some_iff.mp hvalue
  exact hkey

/-- A proxy is rejected by the policy only. -/
theorem resolveProxy_error {envVar : String → Option String} {target : Url}
    {options : InspectionOptions} {error : AppError}
    (h : resolveProxy envVar target options = .error error) : error.cls = .policy := by
  unfold resolveProxy selectProxy at h
  dsimp only at h
  repeat' split at h
  all_goals cases h
  all_goals rfl

end

end HopWhy
