import HopWhy.Model.Report
import HopWhy.Policy.Address

/-!
# Targets and redaction

A target is an absolute HTTP(S) URL with a host and without user information.
The text that leaves the tool has its credentials and fragment removed and, by
default, every query value replaced.
-/

namespace HopWhy

structure ParsedTarget where
  url : Url
  summary : TargetSummary

/-- The order of the mutations is the source's. An empty query keeps its mark. -/
def redactUrl (url : Url) (showQueryValues : Bool) : String :=
  let redacted := ((url.setUsername "").clearPassword).clearFragment
  match redacted.query with
  | some query =>
    if showQueryValues then redacted.asStr
    else { redacted.clearQuery with
      query := some (FormUrlencoded.serialize (FormUrlencoded.keys query) "REDACTED") }.asStr
  | none => redacted.asStr

def isHttpScheme (scheme : String) : Bool := scheme == "http" || scheme == "https"

theorem portOrKnownDefault_isSome {u : Url} (h : isHttpScheme u.scheme) :
    u.portOrKnownDefault.isSome := by
  have hdefault : (Url.defaultPort u.scheme).isSome := by
    rcases (by simpa [isHttpScheme] using h : u.scheme = "http" ∨ u.scheme = "https") with h | h
    · rw [h]
      rfl
    · rw [h]
      rfl
  simp [Url.portOrKnownDefault, hdefault]

def invalidTarget (error : String) : AppError :=
  .new .usage "invalid_target" ("target must be an absolute HTTP(S) URL: " ++ error)

def unsupportedScheme : AppError :=
  .new .policy "unsupported_scheme" "only http and https targets are supported"

def missingTargetHost : AppError :=
  .new .usage "missing_target_host" "target URL must include a host"

def embeddedCredentialsDenied : AppError :=
  .new .policy "embedded_credentials_denied"
    "URL user information is denied; provide an unauthenticated diagnostic target"

def missingTargetPort : AppError :=
  .new .usage "missing_target_port" "target scheme does not imply a port"

/-- The checks on a parsed URL, and what a report says about it. -/
def acceptTarget (url : Url) (options : InspectionOptions) : AppResult ParsedTarget :=
  if !isHttpScheme url.scheme then .error unsupportedScheme
  else if url.hostStr.isNone then .error missingTargetHost
  else if url.username ≠ "" ∨ url.password.isSome then .error embeddedCredentialsDenied
  else
    let url := url.clearFragment
    let host := url.hostStr.getD ""
    match url.portOrKnownDefault with
    | none => .error missingTargetPort
    | some port =>
      let redacted := redactUrl url options.showQueryValues
      .ok {
        url
        summary := {
          intended := redacted
          effective := redacted
          scheme := url.scheme
          host
          port } }

def parseTarget [Crates] (raw : String) (options : InspectionOptions) : AppResult ParsedTarget :=
  match Crates.urlParse raw with
  | .error error => .error (invalidTarget error)
  | .ok url => acceptTarget url options

/-- What acceptance says about the URL that a hop goes on with. -/
theorem acceptTarget_eq_ok {url : Url} {options : InspectionOptions} {parsed : ParsedTarget}
    (h : acceptTarget url options = .ok parsed) :
    isHttpScheme url.scheme ∧ url.hostStr.isSome ∧ url.username = "" ∧ url.password = none ∧
      parsed.url = url.clearFragment := by
  unfold acceptTarget at h
  split_ifs at h with hscheme hhost hcred
  dsimp only at h
  split at h
  · cases h
  · cases h
    refine ⟨by simpa using hscheme, ?_, ?_, ?_, rfl⟩
    · simpa [Option.isSome_iff_ne_none] using hhost
    · exact not_not.mp (not_or.mp hcred).1
    · simpa using (not_or.mp hcred).2

theorem acceptTarget_isOk {url : Url} (hscheme : isHttpScheme url.scheme)
    (hhost : url.hostStr.isSome) (hname : url.username = "") (hpassword : url.password = none)
    (options : InspectionOptions) : ∃ parsed, acceptTarget url options = .ok parsed := by
  obtain ⟨port, hport⟩ := Option.isSome_iff_exists.mp
    (portOrKnownDefault_isSome (u := { url with fragment := none }) hscheme)
  rcases hresult : acceptTarget url options with error | parsed
  · unfold acceptTarget at hresult
    split_ifs at hresult with hother hnone hcredentials
    · simp [hscheme] at hother
    · simp [Option.isNone_iff_eq_none.mp hnone] at hhost
    · simp [hname, hpassword] at hcredentials
    · rw [Url.clearFragment_of_host (Url.host_isSome_of_hostStr hhost)] at hresult
      dsimp only at hresult
      rw [hport] at hresult
      cases hresult
  · exact ⟨parsed, rfl⟩

/-- A URL with a host is rejected by the policy only. -/
theorem acceptTarget_error {url : Url} {options : InspectionOptions} {error : AppError}
    (hhost : url.hostStr.isSome)
    (h : acceptTarget url options = .error error) : error.cls = .policy := by
  unfold acceptTarget at h
  split_ifs at h with hscheme hnone hcred
  · cases h
    rfl
  · rw [Option.isNone_iff_eq_none.mp hnone] at hhost
    cases hhost
  · cases h
    rfl
  · have hport := portOrKnownDefault_isSome (u := url.clearFragment)
    rw [Url.clearFragment_of_host (Url.host_isSome_of_hostStr hhost)] at h hport
    dsimp only at h
    rcases hsome : Url.portOrKnownDefault { url with fragment := none } with _ | port
    · rw [hsome] at hport
      cases hport (by simpa using hscheme)
    · rw [hsome] at h
      cases h

theorem parseTarget_eq_ok [Crates] {raw : String} {options : InspectionOptions}
    {parsed : ParsedTarget} (h : parseTarget raw options = .ok parsed) :
    ∃ url, Crates.urlParse raw = .ok url ∧ acceptTarget url options = .ok parsed := by
  unfold parseTarget at h
  rcases hurl : Crates.urlParse raw with error | url
  · rw [hurl] at h
    cases h
  · rw [hurl] at h
    exact ⟨url, rfl, h⟩

end HopWhy
