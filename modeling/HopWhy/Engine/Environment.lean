import Mathlib.Order.Monotone.Defs
import HopWhy.Library.IpAddr
import HopWhy.Library.Prog
import HopWhy.Library.Url
import HopWhy.Model.Report

/-!
# The world around a run

A run meets its environment in numbered interactions: readings of the monotonic
clock and blocking network calls. The environment answers by number, and the
interactions so far are all the state it keeps, so every behaviour of clock,
resolver, peers and proxies over one run is some environment.
-/

namespace HopWhy

/-- Why `send` failed, as far as the classification asks. -/
structure SendError where
  isTimeout : Bool
  isConnect : Bool
deriving DecidableEq, Repr

inductive HttpVersion where
  | http09
  | http10
  | http11
  | http2
  | http3
  | other
deriving DecidableEq, Repr

/-- One read of a response body. -/
inductive BodyRead where
  | data (octets : List UInt8)
  | failed
deriving DecidableEq, Repr

structure Response where
  status : UInt16
  version : HttpVersion
  headers : List (String × List UInt8)
  contentLength : Option UInt64
  body : List BodyRead
deriving DecidableEq, Repr

/-- What a finished handshake negotiated. -/
structure TlsSession where
  protocolVersion : Option String
  cipherSuite : Option String
  alpnProtocol : Option (List UInt8)
  peerCertificates : List (List UInt8)
deriving DecidableEq, Repr

/-- The calls of `complete_io` that return with the handshake still going on,
and then the one that ends it. -/
structure Handshake where
  rounds : ℕ
  outcome : Option TlsSession
deriving DecidableEq, Repr

/-- The settings a request is sent with. Durations are nanoseconds. -/
structure HttpClient where
  timeout : ℕ
  pinnedHost : String
  pinnedAddress : SocketAddr
  proxy : Option String
deriving DecidableEq, Repr

inductive Interaction where
  | clock
  | lookup (destination : String) (answer : Option (List SocketAddr))
  | connect (address : SocketAddr) (timeout : ℕ) (connected : Bool)
  | tlsConnect (address : SocketAddr) (timeout : ℕ) (connected : Bool)
  | tlsRound (timeout : ℕ)
  | request (client : HttpClient) (method : RequestMethod) (url : Url)
  | bodyRead (timeout : ℕ)
deriving DecidableEq, Repr

structure Environment where
  /-- `env::var`, with values that are not Unicode left out. -/
  envVar : String → Option String
  /-- The system time of the start, in nanoseconds from the Unix epoch. -/
  wallClock : ℤ
  /-- The monotonic time at which an interaction is over, in nanoseconds. -/
  time : ℕ → ℕ
  time_mono : Monotone time
  /-- The system resolver. An answer is a vector, whose length is a machine word. -/
  resolver : ℕ → Option { answer : List SocketAddr // answer.length < 2 ^ 64 }
  accepts : ℕ → Bool
  handshake : ℕ → Handshake
  /-- The TLS client initializes for the server name. -/
  tlsClient : String → Bool
  /-- The HTTP client takes the text as a proxy URL. -/
  proxyAccepted : String → Bool
  /-- The HTTP client builds, when so many interactions have passed. -/
  clientBuilds : ℕ → Bool
  respond : ℕ → Except SendError Response

/-- A frozen clock, one public address behind every name, peers that accept
everything, and given answers to requests. -/
def Environment.calm (respond : ℕ → Except SendError Response) : Environment where
  envVar _ := none
  wallClock := 0
  time _ := 0
  time_mono := monotone_const
  resolver _ := some ⟨[.v4 (.ofOctets 93 184 215 14) 80], by decide⟩
  accepts _ := true
  handshake _ := ⟨0, some ⟨none, none, none, []⟩⟩
  tlsClient _ := true
  proxyAccepted _ := true
  clientBuilds _ := true
  respond

/-- The calm environment with a resolver that answers with these addresses. -/
def Environment.answering (answer : { l : List SocketAddr // l.length < 2 ^ 64 }) : Environment :=
  { Environment.calm fun _ => .error ⟨false, true⟩ with resolver := fun _ => some answer }

/-- The same peers with a clock that jumps by an hour at the interaction `n`. -/
def Environment.stalling (env : Environment) (n : ℕ) : Environment :=
  { env with
    time := fun step => if step < n then 0 else 3600000000000
    time_mono := by
      intro a b h
      dsimp only
      split_ifs with ha hb
      · exact le_refl 0
      · exact Nat.zero_le _
      · omega
      · exact le_refl _ }

/-- An answer without a body. -/
def Response.bare (status : UInt16) (headers : List (String × List UInt8)) : Response where
  status
  version := .http11
  headers
  contentLength := none
  body := []

/-- The front page refers to `/next` for as long as a first request takes. -/
def exampleRedirect (step : ℕ) : Except SendError Response :=
  .ok (if step < 26 then .bare 302 [("location", Text.utf8 "/next")] else .bare 200 [])

/-- The history of a run. The finished hops stand beside the interactions, so
that a run which loses them can be told from one that had none. -/
structure World (env : Environment) where
  interactions : List Interaction
  completed : List HttpHop

/-- The monotonic clock a run reads. -/
class Clock (σ : Type) where
  now : σ → ℕ × σ

namespace World

variable {env : Environment}

def start (env : Environment) : World env := ⟨[], []⟩

/-- The number of the next interaction. -/
def step (w : World env) : ℕ := w.interactions.length

def interact (w : World env) (i : Interaction) : World env :=
  { w with interactions := w.interactions ++ [i] }

def complete (w : World env) (hop : HttpHop) : World env :=
  { w with completed := w.completed ++ [hop] }

instance : Clock (World env) where
  now w := (env.time w.step, w.interact .clock)

@[simp] theorem step_interact (w : World env) (i : Interaction) :
    (w.interact i).step = w.step + 1 := by simp [step, interact]

@[simp] theorem step_complete (w : World env) (hop : HttpHop) :
    (w.complete hop).step = w.step := rfl

@[simp] theorem interactions_interact (w : World env) (i : Interaction) :
    (w.interact i).interactions = w.interactions ++ [i] := rfl

@[simp] theorem completed_interact (w : World env) (i : Interaction) :
    (w.interact i).completed = w.completed := rfl

@[simp] theorem interactions_complete (w : World env) (hop : HttpHop) :
    (w.complete hop).interactions = w.interactions := rfl

@[simp] theorem completed_complete (w : World env) (hop : HttpHop) :
    (w.complete hop).completed = w.completed ++ [hop] := rfl

end World

end HopWhy
