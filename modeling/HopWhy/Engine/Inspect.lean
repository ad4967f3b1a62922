import HopWhy.Engine.Finalize
import HopWhy.Engine.Http

/-!
# Inspection

The orchestration over a backend of four stages. Every stage that stops the run
leaves with the draft as it stands then, and the report is finalized from it.
-/

namespace HopWhy

def invalidBudget : AppError :=
  .new .usage "invalid_budget" "budget_ms must be between 100 and 120000"

def invalidProbeLimit : AppError :=
  .new .usage "invalid_probe_limit" "max_probes must be between 1 and 64"

def invalidAddressLimit : AppError :=
  .new .usage "invalid_address_limit" "max_addresses must be between 1 and 16"

def invalidRedirectLimit : AppError :=
  .new .usage "invalid_redirect_limit" "max_redirects must not exceed 10"

def invalidBodyLimit : AppError :=
  .new .usage "invalid_body_limit" "max_body_bytes must not exceed 1048576"

def validateOptions (options : InspectionOptions) : AppResult Unit :=
  if ¬ (100 ≤ options.budgetMs ∧ options.budgetMs ≤ 120000) then .error invalidBudget
  else if ¬ (1 ≤ options.maxProbes ∧ options.maxProbes ≤ 64) then .error invalidProbeLimit
  else if ¬ (1 ≤ options.maxAddresses ∧ options.maxAddresses ≤ 16) then .error invalidAddressLimit
  else if 10 < options.maxRedirects then .error invalidRedirectLimit
  else if 1048576 < options.maxBodyBytes then .error invalidBodyLimit
  else .ok ()

/-- What accepted options promise. -/
structure OptionsValid (options : InspectionOptions) : Prop where
  budget : 100 ≤ options.budgetMs.toNat ∧ options.budgetMs.toNat ≤ 120000
  probes : 1 ≤ options.maxProbes.toNat ∧ options.maxProbes.toNat ≤ 64
  addresses : 1 ≤ options.maxAddresses.toNat ∧ options.maxAddresses.toNat ≤ 16
  redirects : options.maxRedirects.toNat ≤ 10
  body : options.maxBodyBytes.toNat ≤ 1048576

theorem validateOptions_eq_ok {options : InspectionOptions}
    (h : validateOptions options = .ok ()) : OptionsValid options := by
  unfold validateOptions at h
  split_ifs at h with hbudget hprobes haddresses hredirects hbody
  exact {
    budget := hbudget
    probes := hprobes
    addresses := haddresses
    redirects := Nat.le_of_not_lt hredirects
    body := Nat.le_of_not_lt hbody }

/-- The stages of an inspection. A backend sees the tracker and its own state. -/
structure DiagnosticBackend (σ : Type) where
  resolveAddresses : ResolvedProxy → InspectionOptions →
    Prog (Session σ) AppError (List SocketAddr × List SocketAddr)
  connectFirst : List SocketAddr → InspectionOptions → Prog (Session σ) AppError SocketAddr
  probeTls : SocketAddr → String → Bool → Prog (Session σ) AppError TlsSummary
  runHttp : Url → ResolvedProxy → SocketAddr → InspectionOptions →
    Prog (Session σ) AppError HttpResult

def countJson (n : ℕ) : Json := .num (.posInt (UInt64.ofNat n))

def familyLabel (address : SocketAddr) : String := if address.isIpv4 then "ipv4" else "ipv6"

variable [Crates]

def observeAddress (options : InspectionOptions) (address : SocketAddr) : AddressObservation where
  address := addressForReport address options.showAddresses
  family := familyLabel address
  permitted := isIpPermitted address.ip options.allowPrivate
  classification := classifyIp address.ip

def nonPublicAddressDenied : AppError :=
  .new .policy "non_public_address_denied"
    "resolution returned no address allowed by the default public-target policy"

section

variable {σ : Type} [Clock σ]

/-- A stage of the orchestration: it goes on, or it stops with the draft that is
to be finalized. -/
abbrev Observe (σ α : Type) : Type := Prog (Session σ) Draft α

def stopWith {α : Type} (draft : Draft) (name : PhaseName) (started : ℕ) (error : AppError) :
    Observe σ α := do
  let durationMs ← elapsedMs started
  Prog.fail (draft.record (failedPhase name durationMs error))

variable (backend : DiagnosticBackend σ)

def observeDns (proxy : ResolvedProxy) (draft : Draft) :
    Observe σ (Draft × List SocketAddr) := do
  let dnsStarted ← instant
  match ← Prog.attempt (backend.resolveAddresses proxy draft.options) with
  | .error error => stopWith draft .dns dnsStarted error
  | .ok (allAddresses, permittedAddresses) => do
    let draft := { draft with addresses := allAddresses.map (observeAddress draft.options) }
    if permittedAddresses = [] then stopWith draft .dns dnsStarted nonPublicAddressDenied
    else do
      let durationMs ← elapsedMs dnsStarted
      pure (draft.record (passedPhase .dns durationMs [
        observation "resolved_address_count" (countJson allAddresses.length)
          "system resolver result after de-duplication",
        observation "permitted_address_count" (countJson permittedAddresses.length)
          "address policy evaluation"]), permittedAddresses)

def observeTcp (permittedAddresses : List SocketAddr) (draft : Draft) :
    Observe σ (Draft × SocketAddr) := do
  let tcpStarted ← instant
  match ← Prog.attempt (backend.connectFirst permittedAddresses draft.options) with
  | .error error => stopWith draft .tcp tcpStarted error
  | .ok selectedAddress => do
    let durationMs ← elapsedMs tcpStarted
    pure (draft.record (passedPhase .tcp durationMs [
      observation "selected_address"
        (.str (addressForReport selectedAddress draft.options.showAddresses))
        "first successful bounded TCP connection"]), selectedAddress)

def tlsSkippedText : String := "the intended target uses plaintext HTTP"

def tlsNotObservedText : String :=
  "TLS through an HTTP(S) proxy is observed only by the bounded HTTP client; a standalone " ++
    "tunnel handshake is not duplicated"

def tlsOmission : String :=
  "proxy CONNECT negotiation and target TLS handshake are not separated in the HTTP client"

def observeTls (parsed : ParsedTarget) (proxy : ResolvedProxy) (selectedAddress : SocketAddr)
    (draft : Draft) : Observe σ Draft := do
  let tlsStarted ← instant
  if parsed.url.scheme ≠ "https" then pure (draft.record (skippedPhase .tls tlsSkippedText))
  else if proxy.summary.selected then
    pure { draft.record (notObservedPhase .tls tlsNotObservedText) with
      omissions := draft.omissions ++ [tlsOmission] }
  else
    match ← Prog.attempt (backend.probeTls selectedAddress parsed.summary.host
        draft.options.showAddresses) with
    | .error error => stopWith draft .tls tlsStarted error
    | .ok summary => do
      let durationMs ← elapsedMs tlsStarted
      pure { draft.record (passedPhase .tls durationMs [
          observation "tls_negotiation" (TlsSummary.codec.write summary)
            "independent rustls handshake using the Mozilla public root set"]) with
        tls := some summary }

/-- The redirect phase, from what is left of the redirect chain. -/
def redirectPhase (hops : List HttpHop) : Option AppError → Phase
  | some error => failedPhase .redirects 0 error
  | none =>
    if 1 < hops.length then
      passedPhase .redirects 0 [observation "redirect_hops" (countJson (hops.length - 1))
        "manually followed after validating each target and budget"]
    else skippedPhase .redirects "the response did not request a redirect"

def observeHttp (parsed : ParsedTarget) (proxy : ResolvedProxy) (selectedAddress : SocketAddr)
    (draft : Draft) : Observe σ Draft := do
  let httpStarted ← instant
  match ← Prog.attempt (backend.runHttp parsed.url proxy selectedAddress draft.options) with
  | .error error => stopWith draft .http httpStarted error
  | .ok (hops, redirectFailure) => do
    let durationMs ← elapsedMs httpStarted
    let statuses := hops.map fun hop => Json.num (.posInt hop.status.toUInt64)
    pure { ((draft.record (passedPhase .http durationMs [
        observation "response_statuses" (.arr statuses)
          "bounded HTTP responses with automatic redirects disabled"])).record
        (redirectPhase hops redirectFailure)).record
        (skippedPhase .assertions "no application-level assertion was configured") with
      http := hops }

/-- Everything after the proxy selection. -/
def observeAll (parsed : ParsedTarget) (proxy : ResolvedProxy) (draft : Draft) :
    Observe σ Draft := do
  let (draft, permittedAddresses) ← observeDns backend proxy draft
  let (draft, selectedAddress) ← observeTcp backend permittedAddresses draft
  let draft ← observeTls backend parsed proxy selectedAddress draft
  observeHttp backend parsed proxy selectedAddress draft

/-- A stage that stops is not a failed inspection. -/
def settle (r : Except Draft Draft) : Draft :=
  match r with
  | .ok draft => draft
  | .error draft => draft

def unixTimeMs (wallClock : ℤ) : UInt64 :=
  if wallClock < 0 then 0 else saturatingU64 (wallClock.toNat / 1000000)

def initialOmissions : List String :=
  ["system resolver internals and upstream DNS transport are not observable",
    "packet paths beyond the host are inferred only from connection outcomes"]

/-- The draft after the input and proxy phases. -/
def openingDraft (options : InspectionOptions) (wallClock : ℤ) (parsed : ParsedTarget)
    (proxy : ResolvedProxy) (proxyMs : UInt64) : Draft where
  target := parsed.summary
  proxy := proxy.summary
  options
  startedAtUnixMs := unixTimeMs wallClock
  addresses := []
  tls := none
  http := []
  phases := [
    passedPhase .input 0 [observation "normalized_target" (.str parsed.summary.intended)
      "parsed with the URL standard and restricted to HTTP(S)"],
    passedPhase .proxy proxyMs [observation "proxy_selection"
      (ProxySummary.codec.write proxy.summary)
      "derived from explicit disable policy, NO_PROXY, and scheme-specific proxy environment"]]
  omissions := initialOmissions

/-- The part of an inspection that has a tracker. -/
def inspectSession (envVar : String → Option String) (wallClock : ℤ)
    (options : InspectionOptions) (parsed : ParsedTarget) :
    Prog (Session σ) AppError Report := do
  let proxyStarted ← instant
  let proxy ← Prog.ofExcept (resolveProxy envVar parsed.url options)
  let proxyMs ← elapsedMs proxyStarted
  let observed ← Prog.attempt
    (observeAll backend parsed proxy (openingDraft options wallClock parsed proxy proxyMs))
  finalizeReport (settle observed)

/-- The tracker lives from the first clock reading to the end of the run. -/
def withTracker {α : Type} (options : InspectionOptions) (m : Prog (Session σ) AppError α) :
    Prog σ AppError α := fun w =>
  let (started, w) := Clock.now w
  let (r, s) := m { tracker := .new options started, world := w }
  (r, s.world)

def inspectWithBackend (envVar : String → Option String) (wallClock : ℤ) (spec : InspectSpec) :
    Prog σ AppError Report := do
  Prog.ofExcept (validateOptions spec.options)
  let parsed ← Prog.ofExcept (parseTarget spec.target spec.options)
  withTracker spec.options (inspectSession backend envVar wallClock spec.options parsed)

end

def liveBackend (env : Environment) : DiagnosticBackend (World env) where
  resolveAddresses := resolveAddresses
  connectFirst := connectFirst
  probeTls := probeTls
  runHttp := runHttp

/-- A whole run: its report or error, and what happened in the world. -/
def inspect (env : Environment) (spec : InspectSpec) : AppResult Report × World env :=
  inspectWithBackend (liveBackend env) env.envVar env.wallClock spec (World.start env)

def plannedProbes (tlsConditional proxySelected : Bool) : List PlannedProbe :=
  [⟨1, .dnsLookup, if proxySelected then "resolve the selected proxy endpoint"
      else "resolve the intended target through the system resolver", false⟩,
    ⟨2, .tcpConnect, "attempt bounded TCP connections to permitted resolved addresses", false⟩,
    ⟨3, .tlsHandshake, "validate TLS identity and record negotiated protocol metadata",
      tlsConditional⟩,
    ⟨4, .httpRequest, "perform one bounded request with automatic redirects disabled", false⟩,
    ⟨5, .httpRequest,
      "repeat only for explicitly observed redirects within the redirect budget", true⟩]

def policyText (allowPrivate : Bool) : String :=
  if allowPrivate then "public and explicitly authorized non-public addresses are permitted"
  else "only globally reachable addresses are permitted; private, local, special-use, " ++
    "non-global, and reserved addresses are denied"

def plan (envVar : String → Option String) (spec : InspectSpec) : AppResult InspectionPlan := do
  validateOptions spec.options
  let target ← parseTarget spec.target spec.options
  let proxy ← resolveProxy envVar target.url spec.options
  pure {
    schemaVersion := planSchemaVersion
    target := target.summary
    options := spec.options
    policy := policyText spec.options.allowPrivate
    plannedProbes := plannedProbes (target.url.scheme ≠ "https" ∨ proxy.summary.selected)
      proxy.summary.selected
    networkPerformed := false }

end HopWhy
