import HopWhy.Runs.Twins

/-!
# Proxy credentials

The user information of a proxy variable. A value is taken as a URL when it holds
`://` anywhere, so a value without a scheme whose path or query holds that mark is
read with its user name as the scheme, and the error quotes it. In every other
value the user information reaches the proxy of the client only.
-/

namespace HopWhy

def isSchemeStart (c : Char) : Bool := ('a' ≤ c && c ≤ 'z') || ('A' ≤ c && c ≤ 'Z')

def isSchemeChar (c : Char) : Bool :=
  isSchemeStart c || Text.isAsciiDigit c || ['+', '-', '.'].contains c

/-- A character that user information may hold: no delimiter of a URL but the colon. -/
def isUserinfoChar (c : Char) : Bool :=
  isSchemeStart c || Text.isAsciiDigit c || "-._~!$&'()*+,;=:%".toList.contains c ||
    0xa0 ≤ c.toNat

/-- A scheme as the URL syntax writes it. -/
structure SchemeName where
  text : String
  start : (text.toList.head?).any isSchemeStart = true
  legal : ∀ c ∈ text.toList, isSchemeChar c = true

structure Userinfo where
  text : String
  nonempty : text ≠ ""
  legal : ∀ c ∈ text.toList, isUserinfoChar c = true

/-- A proxy value apart from its user information. -/
structure ProxyForm where
  scheme : Option SchemeName
  rest : String

def ProxyForm.value (form : ProxyForm) (u : Userinfo) : String :=
  (form.scheme.elim "" fun scheme => scheme.text ++ "://") ++ u.text ++ "@" ++ form.rest

/-- The value has a scheme, or it has no mark of one. -/
def ProxyForm.Unambiguous (form : ProxyForm) : Prop :=
  form.scheme.isSome ∨ containsSchemeMark form.rest = false

def withoutCredentials (u : Url) : Url := { u with username := "", password := none }

def specialSchemes : List String := ["ftp", "file", "http", "https", "ws", "wss"]

/-- What the URL Standard says about user information, and about a text with a
scheme of no special syntax and no slash behind it. -/
structure UserinfoLaw [Crates] : Prop where
  authority : ∀ (scheme : SchemeName) (rest : String) (u u' : Userinfo),
    (Crates.urlParse ((ProxyForm.mk (some scheme) rest).value u)).map withoutCredentials =
      (Crates.urlParse ((ProxyForm.mk (some scheme) rest).value u')).map withoutCredentials
  nonSpecial : ∀ (name : SchemeName) (text : String),
    Text.toAsciiLowercase name.text.toList = name.text.toList → name.text ∉ specialSchemes →
    (text.toList.head?).any isSchemeStart = true →
    ∃ url, Crates.urlParse (name.text ++ ":" ++ text) = .ok url ∧ url.scheme = name.text

theorem toList_value (form : ProxyForm) (u : Userinfo) :
    (form.value u).toList =
      (form.scheme.elim [] fun scheme => scheme.text.toList ++ "://".toList) ++
        (u.text.toList ++ '@' :: form.rest.toList) := by
  rcases form with ⟨_ | scheme, rest⟩
  · simp [ProxyForm.value]
  · simp [ProxyForm.value]

/-- User information holds no mark of a scheme. -/
theorem containsSchemeMark_value (form : ProxyForm) (u : Userinfo) :
    containsSchemeMark (form.value u) = (form.scheme.isSome || containsSchemeMark form.rest) := by
  have hslash : '/' ∉ u.text.toList := by
    intro hmem
    cases u.legal '/' hmem
  rcases form with ⟨_ | scheme, rest⟩
  · rw [containsSchemeMark, toList_value]
    exact Text.contains_append_cons rest.toList (by decide) (by decide) hslash
  · rw [containsSchemeMark, toList_value]
    exact Text.contains_append _ _ _

theorem normalizedProxy_value {form : ProxyForm} (h : form.Unambiguous) :
    ∃ scheme : SchemeName, ∀ u, normalizedProxy (form.value u) =
      (ProxyForm.mk (some scheme) form.rest).value u := by
  rcases form with ⟨_ | scheme, rest⟩
  · have hrest : containsSchemeMark rest = false := by
      rcases h with h | h
      · cases h
      · exact h
    refine ⟨⟨"http", by decide, List.all_eq_true.mp (by decide)⟩, fun u => ?_⟩
    rw [normalizedProxy, containsSchemeMark_value, hrest]
    simp [ProxyForm.value, String.append_assoc]
  · refine ⟨scheme, fun u => ?_⟩
    rw [normalizedProxy, containsSchemeMark_value]
    rfl

/-- The setters take the credentials off a URL with a host. -/
theorem clearCredentials_eq {u : Url} (hscheme : isHttpScheme u.scheme = true)
    (hhost : u.hostStr.isSome = true) :
    (u.setUsername "").clearPassword = withoutCredentials u := by
  have hfile : u.scheme ≠ "file" := by
    intro hfile
    rw [hfile] at hscheme
    cases hscheme
  have hcan : ∀ v : Url, v.hostStr = u.hostStr → v.scheme = u.scheme →
      v.cannotHaveCredentials = false := by
    intro v hv hs
    rw [Url.cannotHaveCredentials, hv, hs]
    simpa [hfile, Option.isSome_iff_ne_none] using hhost
  rw [Url.setUsername, hcan u rfl rfl, if_neg Bool.false_ne_true, Url.clearPassword,
    hcan { u with username := "" } rfl rfl, if_neg Bool.false_ne_true]
  rfl

/-- A URL with a host is redacted without regard to its credentials. -/
theorem redactUrl_withoutCredentials {u : Url} (hscheme : isHttpScheme u.scheme = true)
    (hhost : u.hostStr.isSome = true) :
    redactUrl (withoutCredentials u) false = redactUrl u false := by
  have hbare : (((withoutCredentials u).setUsername "").clearPassword) = withoutCredentials u :=
    clearCredentials_eq (u := withoutCredentials u) hscheme hhost
  unfold redactUrl
  rw [clearCredentials_eq hscheme hhost, hbare]

/-- Proxies that differ in the URL that the client gets only. -/
structure SameButUrl (p p' : ResolvedProxy) : Prop where
  summary : p.summary = p'.summary
  host : p.connectHost = p'.connectHost
  port : p.connectPort = p'.connectPort

/-- Proxies whose URLs differ in their credentials only. -/
structure SameButCredentials (p p' : ResolvedProxy) : Prop extends SameButUrl p p' where
  url : p.url.map withoutCredentials = p'.url.map withoutCredentials

section

variable [Crates]

theorem selectProxy_parsed {key value value' : String} {r r' : Except String Url}
    (h : Crates.urlParse (normalizedProxy value) = r)
    (h' : Crates.urlParse (normalizedProxy value') = r')
    (heq : r.map withoutCredentials = r'.map withoutCredentials) :
    (selectProxy ⟨key, value⟩).Alike SameButCredentials (selectProxy ⟨key, value'⟩) := by
  unfold selectProxy
  rw [h, h']
  rcases r with error | url <;> rcases r' with error' | url'
  · obtain rfl : error = error' := Except.error.inj heq
    rfl
  · cases heq
  · cases heq
  · have heq : withoutCredentials url = withoutCredentials url' := Except.ok.inj heq
    have hscheme : url.scheme = url'.scheme := (congrArg Url.scheme heq :)
    have hhost : url.hostStr = url'.hostStr := (congrArg Url.hostStr heq :)
    have hport : url.portOrKnownDefault = url'.portOrKnownDefault :=
      (congrArg Url.portOrKnownDefault heq :)
    dsimp only
    rw [hscheme, hhost, hport]
    split_ifs with hunsupported
    · rfl
    · rcases hsome : url'.hostStr with _ | connectHost
      · rfl
      · rcases url'.portOrKnownDefault with _ | connectPort
        · rfl
        · have hhttp : isHttpScheme url'.scheme = true := by simpa using hunsupported
          have hsome' : url'.hostStr.isSome = true := by rw [hsome]; rfl
          have hredacted : redactUrl url false = redactUrl url' false := by
            rw [← redactUrl_withoutCredentials (hscheme ▸ hhttp) (hhost ▸ hsome'), heq,
              redactUrl_withoutCredentials hhttp hsome']
          exact {
            summary := by
              dsimp only
              rw [hredacted]
            host := rfl
            port := rfl
            url := congrArg some heq }

/-- An unambiguous value is selected without regard to its user information. -/
theorem selectProxy_of_unambiguous (hlaw : UserinfoLaw) {form : ProxyForm} (h : form.Unambiguous)
    (key : String) (u u' : Userinfo) :
    (selectProxy ⟨key, form.value u⟩).Alike SameButCredentials
      (selectProxy ⟨key, form.value u'⟩) := by
  obtain ⟨scheme, hscheme⟩ := normalizedProxy_value h
  apply selectProxy_parsed rfl rfl
  rw [hscheme, hscheme]
  exact hlaw.authority scheme form.rest u u'

/-- An ambiguous value has its user name read as a scheme. -/
theorem selectProxy_of_ambiguous (hlaw : UserinfoLaw) {form : ProxyForm} (h : ¬ form.Unambiguous)
    (key : String) (u : Userinfo) (name : SchemeName) (password : String)
    (hu : u.text = name.text ++ ":" ++ password)
    (hlower : Text.toAsciiLowercase name.text.toList = name.text.toList)
    (hspecial : name.text ∉ specialSchemes) (hhttp : isHttpScheme name.text = false)
    (hpassword : (password.toList.head?).any isSchemeStart = true) :
    selectProxy ⟨key, form.value u⟩ = .error (.new .policy "unsupported_proxy_scheme"
      (key ++ " uses unsupported scheme " ++ name.text ++
        "; only HTTP(S) proxies are supported")) := by
  obtain ⟨hscheme, hrest⟩ := not_or.mp h
  rcases form with ⟨_ | scheme, rest⟩
  · have hmark : containsSchemeMark rest = true := by simpa using hrest
    have hvalue : (ProxyForm.mk none rest).value u =
        name.text ++ ":" ++ (password ++ "@" ++ rest) := by
      simp [ProxyForm.value, hu, String.append_assoc]
    have hhead : ((password ++ "@" ++ rest).toList.head?).any isSchemeStart = true := by
      rcases hp : password.toList with _ | ⟨c, cs⟩
      · rw [hp] at hpassword
        cases hpassword
      · rw [hp] at hpassword
        simpa [hp] using hpassword
    obtain ⟨url, hurl, hname⟩ := hlaw.nonSpecial name _ hlower hspecial hhead
    unfold selectProxy normalizedProxy
    dsimp only
    rw [containsSchemeMark_value, hmark, Bool.or_true, if_pos rfl, hvalue, hurl]
    dsimp only
    rw [hname, hhttp]
    rfl
  · exact absurd rfl hscheme

def setVariable (envVar : String → Option String) (key value : String) : String → Option String :=
  fun k => if k = key then some value else envVar k

/-- The variable decides the proxy of the target when it is set: proxies are in use,
the target is not exempted, and no variable before it counts. -/
def Consulted (envVar : String → Option String) (key : String) (target : Url)
    (options : InspectionOptions) : Prop :=
  options.disableProxy = false ∧
    exemption envVar (target.hostStr.getD "") (target.portOrKnownDefault.getD 0) = none ∧
    key ∈ proxyKeys target.scheme ∧
    firstEnvironmentValue envVar ((proxyKeys target.scheme).takeWhile (· ≠ key)) = none

omit [Crates] in
theorem firstEnvironmentValue_cons (envVar : String → Option String) (k : String)
    (ks : List String) : firstEnvironmentValue envVar (k :: ks) =
      (firstEnvironmentValue envVar [k]).or (firstEnvironmentValue envVar ks) := by
  rw [← List.singleton_append]
  exact List.findSome?_append

omit [Crates] in
theorem firstEnvironmentValue_setVariable_of_ne (envVar : String → Option String)
    {key k : String} (value : String) (h : k ≠ key) :
    firstEnvironmentValue (setVariable envVar key value) [k] =
      firstEnvironmentValue envVar [k] := by
  simp only [firstEnvironmentValue, List.findSome?_cons, List.findSome?_nil, setVariable, if_neg h]

omit [Crates] in
theorem firstEnvironmentValue_setVariable (envVar : String → Option String) (key : String)
    {value : String} (hvalue : Text.trim value.toList ≠ []) (keys : List String) :
    firstEnvironmentValue (setVariable envVar key value) keys =
      (firstEnvironmentValue envVar (keys.takeWhile (· ≠ key))).or
        (if key ∈ keys then some ⟨key, value⟩ else none) := by
  induction keys with
  | nil => rfl
  | cons k ks ih =>
    by_cases hk : k = key
    · subst hk
      simp [firstEnvironmentValue, setVariable, hvalue]
    · have hmem : key ∈ k :: ks ↔ key ∈ ks := by
        rw [List.mem_cons, or_iff_right fun h => hk h.symm]
      rw [List.takeWhile_cons_of_pos (by simpa using hk), firstEnvironmentValue_cons,
        firstEnvironmentValue_cons envVar, firstEnvironmentValue_setVariable_of_ne envVar value hk,
        ih, Option.or_assoc]
      simp only [hmem]

omit [Crates] in
theorem exemption_setVariable (envVar : String → Option String) {key : String}
    (hkey : key ∈ proxyVariables) (value host : String) (port : UInt16) :
    exemption (setVariable envVar key value) host port = exemption envVar host port := by
  have hne : "no_proxy" ≠ key ∧ "NO_PROXY" ≠ key := by
    constructor
    · rintro rfl
      revert hkey
      decide
    · rintro rfl
      revert hkey
      decide
  have hfirst : firstEnvironmentValue (setVariable envVar key value) ["no_proxy", "NO_PROXY"] =
      firstEnvironmentValue envVar ["no_proxy", "NO_PROXY"] := by
    rw [firstEnvironmentValue_cons, firstEnvironmentValue_cons envVar,
      firstEnvironmentValue_setVariable_of_ne envVar value hne.1,
      firstEnvironmentValue_setVariable_of_ne envVar value hne.2]
  unfold exemption
  rw [hfirst]

theorem resolveProxy_of_consulted {envVar : String → Option String} {key value : String}
    {target : Url} {options : InspectionOptions} (hkey : key ∈ proxyVariables)
    (hvalue : Text.trim value.toList ≠ []) (h : Consulted envVar key target options) :
    resolveProxy (setVariable envVar key value) target options = selectProxy ⟨key, value⟩ := by
  obtain ⟨henabled, hexempt, hmem, hfirst⟩ := h
  unfold resolveProxy
  dsimp only
  rw [henabled, if_neg Bool.false_ne_true, exemption_setVariable envVar hkey, hexempt]
  dsimp only
  rw [firstEnvironmentValue_setVariable envVar key hvalue, hfirst, if_pos hmem]
  rfl

theorem resolveProxy_of_not_consulted {envVar : String → Option String} {key value value' : String}
    {target : Url} {options : InspectionOptions} (hkey : key ∈ proxyVariables)
    (hvalue : Text.trim value.toList ≠ []) (hvalue' : Text.trim value'.toList ≠ [])
    (h : ¬ Consulted envVar key target options) :
    resolveProxy (setVariable envVar key value) target options =
      resolveProxy (setVariable envVar key value') target options := by
  unfold resolveProxy
  dsimp only
  rw [exemption_setVariable envVar hkey, exemption_setVariable envVar hkey,
    firstEnvironmentValue_setVariable envVar key hvalue,
    firstEnvironmentValue_setVariable envVar key hvalue']
  by_cases hdisabled : options.disableProxy = true
  · rw [if_pos hdisabled, if_pos hdisabled]
  · rw [if_neg hdisabled, if_neg hdisabled]
    rcases hexempt : exemption envVar (target.hostStr.getD "")
      (target.portOrKnownDefault.getD 0) with _ | variableName
    · rcases hfirst : firstEnvironmentValue envVar
        ((proxyKeys target.scheme).takeWhile (· ≠ key)) with _ | earlier
      · by_cases hmem : key ∈ proxyKeys target.scheme
        · exact absurd ⟨by simpa using hdisabled, hexempt, hmem, hfirst⟩ h
        · rw [if_neg hmem, if_neg hmem]
      · rfl
    · rfl

omit [Crates] in
theorem trim_value (form : ProxyForm) (u : Userinfo) : Text.trim (form.value u).toList ≠ [] := by
  apply Text.trim_ne_nil_of_mem (c := '@')
  · rw [toList_value]
    simp
  · decide

/-- The user names that an ambiguous value is tried with. -/
def aliceInfo : Userinfo := ⟨"alice:secret", by decide, List.all_eq_true.mp (by decide)⟩

def bobInfo : Userinfo := ⟨"bob:hidden", by decide, List.all_eq_true.mp (by decide)⟩

theorem resolveProxy_of_unambiguous (hlaw : UserinfoLaw) {envVar : String → Option String}
    {key : String} (hkey : key ∈ proxyVariables) {form : ProxyForm} (h : form.Unambiguous)
    (u u' : Userinfo) (target : Url) (options : InspectionOptions) :
    (resolveProxy (setVariable envVar key (form.value u)) target options).Alike SameButCredentials
      (resolveProxy (setVariable envVar key (form.value u')) target options) := by
  by_cases hconsulted : Consulted envVar key target options
  · rw [resolveProxy_of_consulted hkey (trim_value form u) hconsulted,
      resolveProxy_of_consulted hkey (trim_value form u') hconsulted]
    exact selectProxy_of_unambiguous hlaw h key u u'
  · rw [resolveProxy_of_not_consulted hkey (trim_value form u) (trim_value form u') hconsulted]
    rcases resolveProxy _ target options with error | proxy
    · rfl
    · exact ⟨⟨rfl, rfl, rfl⟩, rfl⟩

/-- The client takes a proxy whatever its credentials are. -/
def Environment.TakesCredentials (env : Environment) : Prop :=
  ∀ u v : Url, withoutCredentials u = withoutCredentials v →
    env.proxyAccepted u.asStr = env.proxyAccepted v.asStr

omit [Crates] in
theorem SameButCredentials.twins {env : Environment} (hclient : env.TakesCredentials)
    {p p' : ResolvedProxy} (h : SameButCredentials p p') : ProxyTwins env p p' where
  summary := h.summary
  host := h.host
  port := h.port
  accepted := by
    have hurl := h.url
    rcases hp : p.url with _ | url
    · rcases hp' : p'.url with _ | url'
      · rfl
      · rw [hp, hp'] at hurl
        cases hurl
    · rcases hp' : p'.url with _ | url'
      · rw [hp, hp'] at hurl
        cases hurl
      · rw [hp, hp'] at hurl
        simp only [Option.map_some, Option.any_some, hclient url url' (Option.some.inj hurl)]

/-- The variable shows nothing of its user information to the resolution of the target. -/
def CredentialsHidden (envVar : String → Option String) (key : String) (form : ProxyForm)
    (u : Userinfo) (target : Url) (options : InspectionOptions) : Prop :=
  ∀ u' : Userinfo, (resolveProxy (setVariable envVar key (form.value u)) target options).Alike
    SameButUrl (resolveProxy (setVariable envVar key (form.value u')) target options)

/-- An ambiguous value that is consulted shows its user information. -/
theorem not_credentialsHidden (hlaw : UserinfoLaw) {envVar : String → Option String}
    {key : String} (hkey : key ∈ proxyVariables) {form : ProxyForm} (h : ¬ form.Unambiguous)
    (u : Userinfo) {target : Url} {options : InspectionOptions}
    (hconsulted : Consulted envVar key target options) :
    ¬ CredentialsHidden envVar key form u target options := by
  intro hhidden
  have halice := selectProxy_of_ambiguous hlaw h key aliceInfo
    ⟨"alice", by decide, List.all_eq_true.mp (by decide)⟩ "secret" rfl (by decide) (by decide)
    (by decide) (by decide)
  have hbob := selectProxy_of_ambiguous hlaw h key bobInfo
    ⟨"bob", by decide, List.all_eq_true.mp (by decide)⟩ "hidden" rfl (by decide) (by decide)
    (by decide) (by decide)
  rw [← resolveProxy_of_consulted hkey (trim_value form aliceInfo) hconsulted] at halice
  rw [← resolveProxy_of_consulted hkey (trim_value form bobInfo) hconsulted] at hbob
  have hlike := hhidden aliceInfo
  have hlike' := hhidden bobInfo
  rw [halice] at hlike
  rw [hbob] at hlike'
  rcases hr : resolveProxy (setVariable envVar key (form.value u)) target options with
    error | proxy
  · rw [hr] at hlike hlike'
    have hmessage := congrArg AppError.message (hlike.symm.trans hlike')
    have htext := congrArg String.toList hmessage
    simp [AppError.new] at htext
  · rw [hr] at hlike
    cases hlike

/-- The runs with two values of an unambiguous variable do not tell them apart. -/
theorem indistinct_of_unambiguous (hlaw : UserinfoLaw) (envVar : String → Option String)
    {key : String} (hkey : key ∈ proxyVariables) {form : ProxyForm} (h : form.Unambiguous)
    (u u' : Userinfo) {env : Environment} (hclient : env.TakesCredentials)
    (options : InspectionOptions) :
    Indistinct (env.withVars (setVariable envVar key (form.value u)))
      (setVariable envVar key (form.value u')) options Eq Eq where
  current_of_next _ _ heq := heq
  redacted _ _ heq := congrArg (redactUrl · _) heq
  scheme _ _ heq := congrArg Url.scheme heq
  followed := by
    rintro v _ response rfl
    rcases (followLocation v response).1 with _ | next
    · exact ⟨.none, rfl⟩
    · exact ⟨.some rfl, rfl⟩
  reparsed := by
    rintro v _ rfl
    rcases parseTarget v.asStr options with error | parsed
    · rfl
    · exact ⟨rfl, rfl⟩
  resolved := by
    have hclient : (env.withVars (setVariable envVar key (form.value u))).TakesCredentials :=
      hclient
    rintro v _ rfl
    apply (resolveProxy_of_unambiguous hlaw hkey h u u' v options).mono
    intro p p' hp
    exact hp.twins hclient

/-- A proxy variable shows nothing of its user information to a target exactly when it
is not consulted or is unambiguous; no run of the tool shows that of an unambiguous one. -/
theorem credentialsHidden_iff (hlaw : UserinfoLaw) (envVar : String → Option String)
    {key : String} (hkey : key ∈ proxyVariables) (form : ProxyForm) (u : Userinfo) :
    (∀ target options, CredentialsHidden envVar key form u target options ↔
      (Consulted envVar key target options → form.Unambiguous)) ∧
    (form.Unambiguous → ∀ env : Environment, env.TakesCredentials → ∀ (spec : InspectSpec) u',
      (inspect (env.withVars (setVariable envVar key (form.value u))) spec).1 =
        (inspect (env.withVars (setVariable envVar key (form.value u'))) spec).1) := by
  constructor
  · intro target options
    constructor
    · intro hhidden hconsulted
      by_contra hambiguous
      exact not_credentialsHidden hlaw hkey hambiguous u hconsulted hhidden
    · intro h u'
      by_cases hconsulted : Consulted envVar key target options
      · apply (resolveProxy_of_unambiguous hlaw hkey (h hconsulted) u u' target options).mono
        intro p p' hp
        exact hp.toSameButUrl
      · rw [resolveProxy_of_not_consulted hkey (trim_value form u) (trim_value form u') hconsulted]
        rcases resolveProxy _ target options with error | proxy
        · rfl
        · exact ⟨rfl, rfl, rfl⟩
  · intro h env hclient spec u'
    apply inspect_inStep (indistinct_of_unambiguous hlaw envVar hkey h u u' hclient spec.options)
    rcases parseTarget spec.target spec.options with error | parsed
    · rfl
    · exact ⟨rfl, rfl⟩

end

def inAuthority (c : Char) : Bool := !(['/', '?', '#'].contains c)

/-- The URL with a DNS host and no port that follows the two slashes. -/
def authorityUrl (scheme : String) (rest : List Char) : Except String Url :=
  let authority := rest.takeWhile inAuthority
  let host := (authority.reverse.takeWhile (· ≠ '@')).reverse
  let userinfo := authority.take (authority.length - host.length - 1)
  if host = [] then .error "empty host"
  else .ok {
    scheme
    username := String.ofList (userinfo.takeWhile (· ≠ ':'))
    password := if ':' ∈ userinfo then some (String.ofList (userinfo.dropWhile (· ≠ ':')).tail)
      else none
    host := some (.domain (String.ofList host))
    port := none
    path := if rest.dropWhile inAuthority = [] then "/"
      else String.ofList (rest.dropWhile inAuthority)
    query := none
    fragment := none }

/-- A URL with an opaque path. -/
def pathUrl (scheme : String) (rest : List Char) : Url where
  scheme
  username := ""
  password := none
  host := none
  port := none
  path := String.ofList (rest.takeWhile (· ≠ '?'))
  query := if '?' ∈ rest then some (String.ofList (rest.dropWhile (· ≠ '?')).tail) else none
  fragment := none

def parseProxyText (text : String) : Except String Url :=
  let scheme := String.ofList (text.toList.takeWhile isSchemeChar)
  match text.toList.dropWhile isSchemeChar with
  | ':' :: '/' :: '/' :: rest => authorityUrl scheme rest
  | ':' :: rest => .ok (pathUrl scheme rest)
  | _ => .error "relative URL without a base"

@[reducible] def proxyCrates : Crates :=
  { exampleRecordings.crates with urlParse := parseProxyText }

theorem takeWhile_append_cons {p : Char → Bool} {stop : Char} (h : p stop = false)
    (cs ds : List Char) : (cs ++ stop :: ds).takeWhile p = cs.takeWhile p := by
  induction cs with
  | nil => rw [List.nil_append, List.takeWhile_cons_of_neg (by rw [h]; decide), List.takeWhile_nil]
  | cons c cs ih =>
    rw [List.cons_append, List.takeWhile_cons, List.takeWhile_cons, ih]

theorem parseProxyText_scheme (scheme : SchemeName) (rest : List Char) :
    (scheme.text.toList ++ ':' :: rest).takeWhile isSchemeChar = scheme.text.toList ∧
      (scheme.text.toList ++ ':' :: rest).dropWhile isSchemeChar = ':' :: rest := by
  constructor
  · rw [List.takeWhile_append_of_pos scheme.legal]
    simp [isSchemeChar, isSchemeStart, Text.isAsciiDigit]
  · rw [List.dropWhile_append_of_pos scheme.legal]
    simp [isSchemeChar, isSchemeStart, Text.isAsciiDigit]

theorem Userinfo.inAuthority_of_mem (u : Userinfo) : ∀ c ∈ u.text.toList, inAuthority c = true := by
  intro c hmem
  have hc := u.legal c hmem
  have hne : c ≠ '/' ∧ c ≠ '?' ∧ c ≠ '#' := by
    refine ⟨?_, ?_, ?_⟩
    all_goals
      rintro rfl
      cases hc
  simp [inAuthority, hne]

/-- The host stands after the last `@`, so user information does not move it. -/
theorem authorityUrl_userinfo (scheme : String) (u : Userinfo) (rest : List Char) :
    (authorityUrl scheme (u.text.toList ++ '@' :: rest)).map withoutCredentials =
      (authorityUrl scheme rest).map withoutCredentials := by
  have hauthority : (u.text.toList ++ '@' :: rest).takeWhile inAuthority =
      u.text.toList ++ '@' :: rest.takeWhile inAuthority := by
    rw [List.takeWhile_append_of_pos u.inAuthority_of_mem]
    rfl
  have htail : (u.text.toList ++ '@' :: rest).dropWhile inAuthority =
      rest.dropWhile inAuthority := by
    rw [List.dropWhile_append_of_pos u.inAuthority_of_mem]
    rfl
  have hhost : ((u.text.toList ++ '@' :: rest.takeWhile inAuthority).reverse).takeWhile
      (· ≠ '@') = (rest.takeWhile inAuthority).reverse.takeWhile (· ≠ '@') := by
    rw [List.reverse_append, List.reverse_cons, List.append_assoc]
    exact takeWhile_append_cons (by decide) _ _
  unfold authorityUrl
  rw [hauthority, htail]
  dsimp only
  rw [hhost]
  generalize ((rest.takeWhile inAuthority).reverse.takeWhile (· ≠ '@')).reverse = host
  by_cases hempty : host = []
  · rw [if_pos hempty, if_pos hempty]
  · rw [if_neg hempty, if_neg hempty]
    rfl

theorem parseProxyText_authority (scheme : SchemeName) (rest : String) (u : Userinfo) :
    (parseProxyText ((ProxyForm.mk (some scheme) rest).value u)).map withoutCredentials =
      (authorityUrl scheme.text rest.toList).map withoutCredentials := by
  have htext : ((ProxyForm.mk (some scheme) rest).value u).toList =
      scheme.text.toList ++ ':' :: '/' :: '/' :: (u.text.toList ++ '@' :: rest.toList) := by
    rw [toList_value]
    simp
  obtain ⟨htake, hdrop⟩ := parseProxyText_scheme scheme
    ('/' :: '/' :: (u.text.toList ++ '@' :: rest.toList))
  unfold parseProxyText
  rw [htext, htake, hdrop, String.ofList_toList]
  exact authorityUrl_userinfo scheme.text u rest.toList

theorem userinfoLaw_proxyCrates : letI := proxyCrates; UserinfoLaw := by
  let := proxyCrates
  constructor
  · intro scheme rest u u'
    exact (parseProxyText_authority scheme rest u).trans
      (parseProxyText_authority scheme rest u').symm
  · intro name text hlower hspecial hhead
    have htext : (name.text ++ ":" ++ text).toList = name.text.toList ++ ':' :: text.toList := by
      simp
    obtain ⟨htake, hdrop⟩ := parseProxyText_scheme name text.toList
    change ∃ url, parseProxyText (name.text ++ ":" ++ text) = .ok url ∧ url.scheme = name.text
    unfold parseProxyText
    rw [htext, htake, hdrop, String.ofList_toList]
    split
    case h_1 heq =>
      have htail := List.tail_eq_of_cons_eq heq
      rw [htail] at hhead
      cases hhead
    case h_2 => exact ⟨_, rfl, rfl⟩
    case h_3 hnone => exact absurd rfl (hnone text.toList)

/-- A value without a scheme and without the mark of one. -/
def plainForm : ProxyForm := ⟨none, "proxy.test"⟩

/-- The name and password of a plain value stay unseen. -/
theorem plainForm_hidden :
    letI := proxyCrates
    CredentialsHidden (fun _ => none) "http_proxy" plainForm aliceInfo (exampleUrl "/") {} ∧
      (inspect ((Environment.calm fun _ => .ok (.bare 200 [])).withVars
        (setVariable (fun _ => none) "http_proxy" (plainForm.value aliceInfo)))
          ⟨"http://example.com/", {}⟩).1 =
      (inspect ((Environment.calm fun _ => .ok (.bare 200 [])).withVars
        (setVariable (fun _ => none) "http_proxy" (plainForm.value bobInfo)))
          ⟨"http://example.com/", {}⟩).1 := by
  let := proxyCrates
  have hplain : plainForm.Unambiguous := Or.inr (by decide)
  have hkey : "http_proxy" ∈ proxyVariables := by decide
  obtain ⟨hresolved, hreported⟩ := credentialsHidden_iff userinfoLaw_proxyCrates (fun _ => none)
    hkey plainForm aliceInfo
  exact ⟨(hresolved _ _).mpr fun _ => hplain, hreported hplain _ (fun _ _ _ => rfl) _ bobInfo⟩

/-- A value whose query holds the mark of a scheme. -/
def markedForm : ProxyForm := ⟨none, "proxy.test/?next=http://x"⟩

/-- The error of a marked value quotes the user name. -/
theorem markedForm_quotes_user :
    letI := proxyCrates
    ¬ CredentialsHidden (fun _ => none) "http_proxy" markedForm aliceInfo (exampleUrl "/") {} ∧
      (inspect ((Environment.calm fun _ => .ok (.bare 200 [])).withVars
        (setVariable (fun _ => none) "http_proxy" (markedForm.value aliceInfo)))
          ⟨"http://example.com/", {}⟩).1 =
        .error (.new .policy "unsupported_proxy_scheme"
          "http_proxy uses unsupported scheme alice; only HTTP(S) proxies are supported") := by
  let := proxyCrates
  have hconsulted : Consulted (fun _ => none) "http_proxy" (exampleUrl "/") {} :=
    ⟨rfl, rfl, by decide, by decide⟩
  refine ⟨not_credentialsHidden userinfoLaw_proxyCrates (by decide) ?_ aliceInfo hconsulted, ?_⟩
  · intro hmarked
    rcases hmarked with hscheme | hrest
    · cases hscheme
    · revert hrest
      decide
  · rfl

end HopWhy
