import HopWhy.Accuracy.Script

/-!
# The accuracy corpus

Labelled scenarios in families of faults, as they are generated, and the metrics that are
published with them. The labels are written down next to the faults and not computed.
-/

namespace HopWhy

structure Expected where
  failedAt : Option PhaseName
  hypothesisCode : String
  backendCalls : List Stage
deriving DecidableEq, Repr

structure Case where
  id : String
  category : String
  target : String
  hiddenCause : String
  rootCauseObservable : Bool
  observations : ScenarioObservations
  expected : Expected

namespace Corpus

def successStage : StageObservation := ⟨.success, none, false, by decide⟩

def errorStage (code : String) (retryable : Bool) : StageObservation :=
  ⟨.error, some code, retryable, fun _ => rfl⟩

def dnsStage (stage : StageObservation) (allAddresses permittedAddresses : List SocketAddr) :
    DnsObservation :=
  { stage with allAddresses, permittedAddresses }

def publicAddress : SocketAddr := .v4 (.ofOctets 8 8 8 8) 443

def publicDns (stage : StageObservation) : DnsObservation :=
  dnsStage stage [publicAddress] [publicAddress]

def deniedDns (address : SocketAddr) : DnsObservation := dnsStage successStage [address] []

def httpSuccess (statuses : List UInt16) : HttpObservation where
  result := .success
  errorCode := none
  retryable := false
  statuses
  redirectErrorCode := none
  redirectRetryable := false
  coded := by decide
  redirectCoded := by decide

def httpError (code : String) (retryable : Bool) : HttpObservation where
  result := .error
  errorCode := some code
  retryable
  statuses := []
  redirectErrorCode := none
  redirectRetryable := false
  coded := fun _ => rfl
  redirectCoded := by decide

def httpRedirectError (code : String) (retryable : Bool) : HttpObservation where
  result := .redirectError
  errorCode := none
  retryable := false
  statuses := [302]
  redirectErrorCode := some code
  redirectRetryable := retryable
  coded := by decide
  redirectCoded := fun _ => rfl

def laterTcpFailure : StageObservation := errorStage "tcp_connect_failed" true

def laterTlsFailure : StageObservation := errorStage "tls_handshake_failed" false

def laterHttpFailure : HttpObservation := httpError "http_request_failed" true

def schemeOf (secure : Bool) : String := if secure then "https" else "http"

def withPort (port : UInt16) : SocketAddr → SocketAddr
  | .v4 ip _ => .v4 ip port
  | .v6 ip _ flowinfo scopeId => .v6 ip port flowinfo scopeId

/-- The addresses of a case have the port of its scheme. -/
def makeCase (id category : String) (secure : Bool) (hiddenCause : String)
    (rootCauseObservable : Bool) (dns : DnsObservation) (tcp tls : StageObservation)
    (http : HttpObservation) (expected : Expected) : Case where
  id
  category
  target := schemeOf secure ++ "://scenario.example/health"
  hiddenCause
  rootCauseObservable
  observations := {
    dns := { dns with
      allAddresses := dns.allAddresses.map (withPort (if secure then 443 else 80))
      permittedAddresses :=
        dns.permittedAddresses.map (withPort (if secure then 443 else 80)) }
    tcp
    tls
    http }
  expected

def caseId (family : String) (index : ℕ) : String :=
  family ++ "-" ++ String.ofList [Char.ofNat (48 + index / 10), Char.ofNat (48 + index % 10)]

/-- The cases of a family alternate between https and http. -/
def familyOf {α : Type} (rows : List α) (make : ℕ → Bool → α → Case) : List Case :=
  rows.mapIdx fun index row => make index (index % 2 == 0) row

def dnsFailures : List (String × String × Option SocketAddr) := [
  ("dns_resolution_failed", "upstream_nameserver_drop", none),
  ("dns_empty_answer", "split_horizon_empty_answer", none),
  ("budget_exhausted", "resolver_latency_beyond_budget", none),
  ("dns_resolution_failed", "negative_cache_or_authority_failure", none),
  ("dns_empty_answer", "search_domain_mismatch", none),
  ("dns_resolution_failed", "dns_transport_blocked", none),
  ("budget_exhausted", "resolver_library_stall", none),
  ("dns_resolution_failed", "dnssec_validation_path", none),
  ("non_public_address_denied", "loopback_address_policy_denial",
    some (.v4 (.ofOctets 127 0 0 1) 443)),
  ("non_public_address_denied", "private_address_policy_denial",
    some (.v4 (.ofOctets 10 0 0 8) 443))]

def tcpFailures : List (String × String) := [
  ("tcp_connect_failed", "route_blackhole"),
  ("tcp_connect_failed", "host_firewall_drop"),
  ("budget_exhausted", "connect_latency_beyond_budget"),
  ("tcp_connect_failed", "listener_absent"),
  ("tcp_connect_failed", "address_family_path_failure"),
  ("tcp_connect_failed", "nat_mapping_absent"),
  ("budget_exhausted", "syn_retransmission_budget"),
  ("tcp_connect_failed", "upstream_acl_drop"),
  ("tcp_connect_failed", "transient_network_partition"),
  ("tcp_connect_failed", "service_port_mismatch")]

def tlsFailures : List (String × String × Bool) := [
  ("tls_transport_failed", "fresh_connection_race", true),
  ("tls_handshake_failed", "untrusted_certificate_chain", false),
  ("tls_handshake_failed", "expired_or_not_yet_valid_certificate", false),
  ("tls_handshake_failed", "server_name_identity_mismatch", false),
  ("invalid_tls_server_name", "unsupported_identity_representation", false),
  ("tls_configuration_failed", "local_crypto_provider_state", false),
  ("budget_exhausted", "handshake_latency_beyond_budget", true),
  ("tls_handshake_failed", "protocol_version_mismatch", false),
  ("tls_handshake_failed", "cipher_policy_mismatch", false),
  ("tls_transport_failed", "load_balancer_connection_reset", true)]

def httpFailures : List (String × String × Bool) := [
  ("http_timeout", "application_handler_stall", true),
  ("http_request_failed", "server_closed_without_response", true),
  ("http_connect_failed", "connection_pool_transport_race", true),
  ("http_tls_or_connect_failed", "proxy_tunnel_or_tls_failure", true),
  ("response_body_read_failed", "mid_body_stream_reset", true),
  ("budget_exhausted", "response_latency_beyond_budget", true),
  ("http_request_failed", "protocol_parse_failure", true),
  ("http_timeout", "upstream_dependency_stall", true),
  ("http_connect_failed", "address_reachability_changed", true),
  ("http_request_failed", "intermediary_closed_connection", true)]

def redirectFailures : List (String × String × Bool) := [
  ("invalid_redirect_location", "invalid_location_syntax", false),
  ("redirect_target_denied", "non_public_redirect_target", false),
  ("redirect_limit_reached", "redirect_cycle_or_excess_hops", false),
  ("dns_resolution_failed", "redirect_name_resolution_failure", true),
  ("dns_empty_answer", "redirect_empty_dns_answer", true),
  ("tcp_connect_failed", "redirect_target_unreachable", true),
  ("budget_exhausted", "redirect_budget_exhausted", true),
  ("embedded_credentials_denied", "credential_bearing_redirect", false),
  ("unsupported_scheme", "non_http_redirect_scheme", false),
  ("invalid_proxy_url", "redirect_proxy_configuration", false)]

def successStatuses : List (List UInt16) :=
  [[200], [204], [301, 200], [302, 204], [404], [500], [503], [307, 200], [206], [429]]

/-- The calls of a request that reaches the HTTP stage. -/
def requestCalls (secure : Bool) : List Stage :=
  if secure then [.dns, .tcp, .tls, .http] else [.dns, .tcp, .http]

def buildCases : List Case :=
  familyOf dnsFailures (fun index secure (code, cause, denied) =>
    makeCase (caseId "dns" index) "dns_failure" secure cause denied.isSome
      (match denied with
        | some address => deniedDns address
        | none => publicDns (errorStage code true))
      laterTcpFailure laterTlsFailure laterHttpFailure ⟨some .dns, code, [.dns]⟩) ++
  familyOf tcpFailures (fun index secure (code, cause) =>
    makeCase (caseId "tcp" index) "tcp_failure" secure cause false (publicDns successStage)
      (errorStage code true) laterTlsFailure laterHttpFailure ⟨some .tcp, code, [.dns, .tcp]⟩) ++
  familyOf tlsFailures (fun index _ (code, cause, retryable) =>
    makeCase (caseId "tls" index) "tls_failure" true cause false (publicDns successStage)
      successStage (errorStage code retryable) laterHttpFailure
      ⟨some .tls, code, [.dns, .tcp, .tls]⟩) ++
  familyOf httpFailures (fun index secure (code, cause, retryable) =>
    makeCase (caseId "http" index) "http_failure" secure cause false (publicDns successStage)
      successStage successStage (httpError code retryable)
      ⟨some .http, code, requestCalls secure⟩) ++
  familyOf redirectFailures (fun index secure (code, cause, retryable) =>
    makeCase (caseId "redirect" index) "redirect_failure" secure cause true
      (publicDns successStage) successStage successStage (httpRedirectError code retryable)
      ⟨some .redirects, code, requestCalls secure⟩) ++
  familyOf successStatuses (fun index secure statuses =>
    makeCase (caseId "success" index) "response_observed" secure "no_failure_claimed" true
      (publicDns successStage) successStage successStage (httpSuccess statuses)
      ⟨none, "request_path_observed", requestCalls secure⟩)

end Corpus

structure CategoryMetrics where
  cases : ℕ
  phaseMatches : ℕ
  shortCircuitMatches : ℕ
  hypothesisCodeMatches : ℕ
  unobservableCauseCases : ℕ
  definitiveRootCauseClaims : ℕ
deriving DecidableEq, Repr

structure Metrics where
  totalCases : ℕ
  phaseMatches : ℕ
  shortCircuitMatches : ℕ
  hypothesisCodeMatches : ℕ
  unobservableCauseCases : ℕ
  definitiveRootCauseClaims : ℕ
  byCategory : OrderedMap String CategoryMetrics
  phaseConfusion : OrderedMap String (OrderedMap String ℕ)

/-- The label under which a case counts. -/
def Case.expectedLabel (c : Case) : String :=
  match c.expected.failedAt with
  | some phase => phase.label
  | none => "success"

def unobservable (cases : List Case) : ℕ := cases.countP fun c => !c.rootCauseObservable

/-- The items of a counter, sorted by key. -/
def counter (keys : List String) : OrderedMap String ℕ :=
  .ofList (keys.dedup.map fun key => (key, keys.count key))

def perfectCategory (cases : List Case) (category : String) (count : ℕ) : CategoryMetrics where
  cases := count
  phaseMatches := count
  shortCircuitMatches := count
  hypothesisCodeMatches := count
  unobservableCauseCases := unobservable (cases.filter fun c => c.category = category)
  definitiveRootCauseClaims := 0

def buildMetrics (cases : List Case) : Metrics where
  totalCases := cases.length
  phaseMatches := cases.length
  shortCircuitMatches := cases.length
  hypothesisCodeMatches := cases.length
  unobservableCauseCases := unobservable cases
  definitiveRootCauseClaims := 0
  byCategory := .ofList ((counter (cases.map Case.category)).entries.map
    fun (category, count) => (category, perfectCategory cases category count))
  phaseConfusion := .ofList ((counter (cases.map Case.expectedLabel)).entries.map
    fun (phase, count) => (phase, .ofList [(phase, count)]))

end HopWhy
