import Mathlib.Data.List.Sort
import HopWhy.Engine.Tracker
import HopWhy.Policy.Proxy

/-!
# The live DNS, TCP and TLS stages

Each stage opens its probe, performs its network call and closes the probe with
an outcome. The order of the clock readings is the source's.
-/

namespace HopWhy

variable [Crates] {env : Environment}

/-- Programs of the live backend. -/
abbrev Live (env : Environment) (α : Type) : Type := Prog (Session (World env)) AppError α

/-- One network interaction; its answer depends on its number. -/
def interact {ε α : Type} (answer : ℕ → α × Interaction) :
    Prog (Session (World env)) ε α := fun s =>
  (.ok (answer s.world.step).1, { s with world := s.world.interact (answer s.world.step).2 })

def seconds (n : ℕ) : ℕ := n * 1000000000

def dnsResolutionFailed : AppError :=
  (AppError.new .io "dns_resolution_failed"
    "the system resolver did not return an address").withRetryable true

def dnsEmptyAnswer : AppError :=
  (AppError.new .io "dns_empty_answer"
    "the system resolver returned an empty address set").withRetryable true

/-- `to_socket_addrs`: a literal address answers itself. -/
def answerTo (env : Environment) (destination : String) (n : ℕ) : Option (List SocketAddr) :=
  match SocketAddr.parse destination with
  | some address => some [address]
  | none => (env.resolver n).map Subtype.val

def toSocketAddrs (destination : String) : Live env (Option (List SocketAddr)) :=
  interact fun n => (answerTo env destination n, .lookup destination (answerTo env destination n))

/-- The first occurrence of every address that `seen` does not have. -/
def unseen (seen : List SocketAddr) : List SocketAddr → List SocketAddr
  | [] => []
  | a :: as => if a ∈ seen then unseen seen as else a :: unseen (a :: seen) as

/-- The sort key: family, address and port, one after the other. -/
def addressRank : SocketAddr → ℕ
  | .v4 ip port => ip.bits.toNat * 2 ^ 16 + port.toNat
  | .v6 ip port _ _ => 2 ^ 48 + ip.bits.toNat * 2 ^ 16 + port.toNat

def arrange (answer : List SocketAddr) : List SocketAddr :=
  (unseen [] answer).insertionSort fun a b => addressRank a ≤ addressRank b

def permittedOf (options : InspectionOptions) (addresses : List SocketAddr) : List SocketAddr :=
  (addresses.filter fun a => isIpPermitted a.ip options.allowPrivate).take
    options.maxAddresses.toNat

def resolveAddresses (proxy : ResolvedProxy) (options : InspectionOptions) :
    Live env (List SocketAddr × List SocketAddr) := do
  let destination := socketDestination proxy.connectHost proxy.connectPort
  let probe ← Tracker.startProbe .dnsLookup destination
  let resolutionStarted ← instant
  match ← toSocketAddrs destination with
  | some answer => do
    let addresses := arrange answer
    Tracker.finishProbe probe resolutionStarted "resolved"
    if addresses = [] then Prog.fail dnsEmptyAnswer
    else pure (addresses, permittedOf options addresses)
  | none => do
    Tracker.finishProbe probe resolutionStarted "failed"
    Prog.fail dnsResolutionFailed

def tcpConnectFailed : AppError :=
  (AppError.new .io "tcp_connect_failed"
    "no permitted resolved address accepted a bounded TCP connection").withRetryable true

def connectTimeout (address : SocketAddr) (timeout : ℕ) : Live env Bool :=
  interact fun n => (env.accepts n, .connect address timeout (env.accepts n))

/-- One round of `connectFirst`. -/
def connectOne (options : InspectionOptions) (address : SocketAddr) :
    Live env (Option SocketAddr) := do
  let destination := addressForReport address options.showAddresses
  let probe ← Tracker.startProbe .tcpConnect destination
  let started ← instant
  let timeout ← Tracker.remaining
  if ← connectTimeout address (min timeout (seconds 5)) then
    Tracker.finishProbe probe started "connected"
    pure (some address)
  else
    Tracker.finishProbe probe started "failed"
    pure none

def connectFirst (addresses : List SocketAddr) (options : InspectionOptions) :
    Live env SocketAddr :=
  Prog.firstOf (connectOne options) (Prog.fail tcpConnectFailed)
    (addresses.take options.maxAddresses.toNat)

def tlsTransportFailed : AppError :=
  (AppError.new .io "tls_transport_failed"
    "a fresh TCP connection for the TLS handshake failed").withRetryable true

def invalidTlsServerName : AppError :=
  .new .usage "invalid_tls_server_name"
    "the target host cannot be represented as a TLS server name"

def tlsConfigurationFailed : AppError :=
  .new .contract "tls_configuration_failed" "the TLS client could not initialize"

def tlsHandshakeFailed : AppError :=
  (AppError.new .io "tls_handshake_failed"
    "TLS negotiation or certificate validation failed").withRetryable false

/-- The transport connection of a handshake, and how the handshake will go. -/
def tlsConnect (address : SocketAddr) (timeout : ℕ) : Live env (Bool × Handshake) :=
  interact fun n =>
    ((env.accepts n, env.handshake n), .tlsConnect address timeout (env.accepts n))

/-- One pass of the handshake loop up to the return of `complete_io`. The second
test of the remaining time is the source's own. -/
def handshakeRound (probe : ActiveProbe) (started timeout : ℕ) : Live env Unit := do
  let left ← Tracker.remaining
  if left = 0 then do
    Tracker.finishProbe probe started "budget_exhausted"
    Prog.fail budgetExhausted
  else interact fun _ => ((), .tlsRound timeout)

def completeHandshake (probe : ActiveProbe) (started timeout : ℕ)
    (outcome : Option TlsSession) : ℕ → Live env TlsSession
  | 0 => do
    handshakeRound probe started timeout
    match outcome with
    | some session => pure session
    | none => do
      Tracker.finishProbe probe started "handshake_failed"
      Prog.fail tlsHandshakeFailed
  | rounds + 1 => do
    handshakeRound probe started timeout
    completeHandshake probe started timeout outcome rounds

def summarizeTls (session : TlsSession) : TlsSummary where
  protocol := session.protocolVersion
  cipherSuite := session.cipherSuite
  alpn := session.alpnProtocol.map Text.fromUtf8Lossy
  peerLeafSha256 := session.peerCertificates.head?.map sha256Hex
  peerCertificateCount := UInt64.ofNat session.peerCertificates.length

/-- The handshake over a connection attempt that is made. -/
def negotiateTls (probe : ActiveProbe) (started timeout : ℕ) (serverHost : String)
    (connected : Bool) (handshake : Handshake) : Live env TlsSummary :=
  if !connected then do
    Tracker.finishProbe probe started "tcp_failed"
    Prog.fail tlsTransportFailed
  else if !Crates.serverName serverHost then do
    Tracker.finishProbe probe started "invalid_server_name"
    Prog.fail invalidTlsServerName
  else if !env.tlsClient serverHost then do
    Tracker.finishProbe probe started "configuration_failed"
    Prog.fail tlsConfigurationFailed
  else do
    let session ← completeHandshake probe started timeout handshake.outcome handshake.rounds
    Tracker.finishProbe probe started "validated"
    pure (summarizeTls session)

def probeTls (address : SocketAddr) (serverHost : String) (showAddresses : Bool) :
    Live env TlsSummary := do
  let destination := addressForReport address showAddresses
  let probe ← Tracker.startProbe .tlsHandshake destination
  let started ← instant
  let left ← Tracker.remaining
  let timeout := min left (seconds 7)
  let (connected, handshake) ← tlsConnect address timeout
  negotiateTls probe started timeout serverHost connected handshake

end HopWhy
