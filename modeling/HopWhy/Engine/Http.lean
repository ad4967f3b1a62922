import HopWhy.Engine.Stages

/-!
# The live HTTP stage

One request at a time, with redirects followed by hand: each `Location` is
parsed, proxied, resolved and authorized again before the next request.
-/

namespace HopWhy

def versionName : HttpVersion → String
  | .http09 => "HTTP/0.9"
  | .http10 => "HTTP/1.0"
  | .http11 => "HTTP/1.1"
  | .http2 => "HTTP/2"
  | .http3 => "HTTP/3"
  | .other => "unknown"

/-- The text of a header value, if it is visible ASCII and tabs. -/
def headerText (value : List UInt8) : Option String :=
  if value.all fun b => (32 ≤ b && b < 127) || b == 9 then
    some (String.ofList (value.map fun b => Char.ofNat b.toNat))
  else none

/-- The first value of the name, when it is text. -/
def headerValue (headers : List (String × List UInt8)) (name : String) : Option String :=
  (headers.lookup name).bind headerText

def sanitizeHeaderValue (value : String) : String :=
  String.ofList ((value.toList.take 512).map fun c =>
    if Text.isControl c ∧ c ≠ '\t' then Text.replacement else c)

def safeHeaderNames : List String :=
  ["content-type", "content-length", "cache-control", "date", "retry-after"]

def safeHeaders (headers : List (String × List UInt8)) : OrderedMap String String :=
  .ofList (safeHeaderNames.filterMap fun name =>
    (headerValue headers name).map fun value => (name, sanitizeHeaderValue value))

def classifyHttpError (error : SendError) (scheme : String) : AppError :=
  if error.isTimeout then
    (AppError.new .budget "http_timeout"
      "the HTTP request exceeded its bounded timeout").withRetryable true
  else if error.isConnect ∧ scheme = "https" then
    (AppError.new .io "http_tls_or_connect_failed"
      ("the HTTP client could not establish the HTTPS transport; inspect the independent " ++
        "TCP and TLS phases")).withRetryable true
  else if error.isConnect then
    (AppError.new .io "http_connect_failed"
      "the HTTP client could not establish its transport connection").withRetryable true
  else
    (AppError.new .io "http_request_failed"
      "the bounded HTTP request failed before a response was available").withRetryable true

def responseBodyReadFailed : AppError :=
  (AppError.new .io "response_body_read_failed"
    "the bounded response body sample could not be read").withRetryable true

def invalidRedirectLocation : AppError :=
  .new .contract "invalid_redirect_location"
    "the server returned a redirect Location that is not a valid URL reference"

def redirectTargetDenied : AppError :=
  .new .policy "redirect_target_denied"
    "a redirect resolved only to addresses denied by policy"

def redirectLimitReached : AppError :=
  .new .budget "redirect_limit_reached"
    "the response requested another redirect after the configured limit"

def proxyConfigurationRejected : AppError :=
  .new .policy "proxy_configuration_rejected"
    "the selected proxy could not be configured by the HTTP client"

def httpClientInitializationFailed : AppError :=
  .new .contract "http_client_initialization_failed"
    "the bounded HTTP client could not initialize"

def isRedirection (status : UInt16) : Bool := 300 ≤ status && status < 400

variable [Crates]

/-- The URL a response asks for next, or what is wrong with its reference. -/
def followLocation (current : Url) (response : Response) : Option Url × Option AppError :=
  if isRedirection response.status then
    match headerValue response.headers "location" with
    | none => (none, none)
    | some location =>
      match Crates.urlJoin current location with
      | .ok next => (some next, none)
      | .error _ => (none, some invalidRedirectLocation)
  else (none, none)

variable {env : Environment}

/-- `read_to_end` below a limit: a read past the limit is not made, an empty read
ends the body. -/
def readToEnd (timeout : ℕ) : ℕ → List BodyRead → Live env (List UInt8)
  | 0, _ => pure []
  | _ + 1, [] => do
    interact fun _ => ((), .bodyRead timeout)
    pure []
  | limit + 1, .data octets :: rest => do
    interact fun _ => ((), .bodyRead timeout)
    if octets = [] then pure []
    else do
      let later ← readToEnd timeout (limit + 1 - octets.length) rest
      pure (octets.take (limit + 1) ++ later)
  | _ + 1, .failed :: _ => do
    interact fun _ => ((), .bodyRead timeout)
    Prog.fail responseBodyReadFailed

/-- The hop of a response whose body sample is read. -/
def hopOf (response : Response) (sequence : ℕ) (url : String) (location : Option String)
    (options : InspectionOptions) (read : List UInt8) : HttpHop :=
  let limit := options.maxBodyBytes.toNat
  let body := read.take limit
  { sequence := UInt64.ofNat sequence
    url
    status := response.status
    version := versionName response.version
    headers := safeHeaders response.headers
    declaredContentLength := response.contentLength
    returnedBodyBytes := UInt64.ofNat body.length
    bodyTruncated := limit < read.length
    bodySampleSha256 := sha256Hex body
    bodySampleBase64 := if options.includeBodySample then some (Text.base64 body) else none
    location }

def responseToHop (response : Response) (sequence timeout : ℕ) (url : String)
    (location : Option String) (options : InspectionOptions) : Live env HttpHop := do
  let limit := options.maxBodyBytes.toNat
  let read ← readToEnd timeout (min (limit + 1) (2 ^ 64 - 1)) response.body
  modifyTracker fun t => { t with
    responseBytesRead := saturatingU64 (t.responseBytesRead.toNat + (read.take limit).length) }
  pure (hopOf response sequence url location options read)

def buildHttpClient (proxy : ResolvedProxy) (selectedAddress : SocketAddr) :
    Live env HttpClient := do
  let left ← Tracker.remaining
  let client : HttpClient := {
    timeout := min left (seconds 10)
    pinnedHost := proxy.connectHost
    pinnedAddress := selectedAddress
    proxy := proxy.url.map Url.asStr }
  if client.proxy.any fun text => !env.proxyAccepted text then
    Prog.fail proxyConfigurationRejected
  else do
    let s ← Prog.state
    if env.clientBuilds s.world.step then pure client
    else Prog.fail httpClientInitializationFailed

def sendRequest (client : HttpClient) (method : RequestMethod) (url : Url) :
    Live env (Except SendError Response) :=
  interact fun n => (env.respond n, .request client method url)

/-- What one request leaves: the finished hop, the next URL and a bad reference. -/
structure Exchange where
  hop : HttpHop
  nextUrl : Option Url
  redirectError : Option AppError

/-- One request and its response. Every failure here leaves `runHttp` at once. -/
def exchange (sequence : ℕ) (current : Url) (proxy : ResolvedProxy)
    (selectedAddress : SocketAddr) (options : InspectionOptions) : Live env Exchange := do
  let client ← buildHttpClient proxy selectedAddress
  let redactedUrl := redactUrl current options.showQueryValues
  let probe ← Tracker.startProbe .httpRequest redactedUrl
  let started ← instant
  match ← sendRequest client options.method current with
  | .error error => do
    Tracker.finishProbe probe started "request_failed"
    Prog.fail (classifyHttpError error current.scheme)
  | .ok response => do
    Tracker.finishProbe probe started "response_received"
    let (nextUrl, redirectError) := followLocation current response
    let location := nextUrl.map fun url => redactUrl url options.showQueryValues
    let hop ← responseToHop response sequence client.timeout redactedUrl location options
    pure { hop, nextUrl, redirectError }

/-- The endpoint of a redirect, authorized from its URL text anew. -/
def authorizeRedirect (current : Url) (options : InspectionOptions) :
    Live env (ResolvedProxy × SocketAddr) := do
  let parsed ← Prog.ofExcept (parseTarget current.asStr options)
  let proxy ← Prog.ofExcept (resolveProxy env.envVar parsed.url options)
  let (_, permitted) ← resolveAddresses proxy options
  match permitted.head? with
  | some address => pure (proxy, address)
  | none => Prog.fail redirectTargetDenied

/-- The variables of the redirect loop. -/
structure HopState where
  current : Url
  hops : List HttpHop
  proxy : ResolvedProxy
  selectedAddress : SocketAddr

abbrev HttpResult : Type := List HttpHop × Option AppError

/-- The first hop uses the endpoint of the earlier stages. -/
def hopEndpoint (options : InspectionOptions) (sequence : ℕ) (b : HopState) :
    Live env (ResolvedProxy × SocketAddr) :=
  if sequence = 0 then pure (b.proxy, b.selectedAddress)
  else authorizeRedirect b.current options

/-- Where the loop goes after a finished hop. -/
def afterHop (options : InspectionOptions) (sequence : ℕ) (b : HopState)
    (proxy : ResolvedProxy) (selectedAddress : SocketAddr) (e : Exchange) :
    HopState ⊕ HttpResult :=
  let hops := b.hops ++ [e.hop]
  match e.redirectError with
  | some error => .inr (hops, some error)
  | none =>
    match e.nextUrl with
    | none => .inr (hops, none)
    | some next =>
      if sequence = options.maxRedirects.toNat then .inr (hops, some redirectLimitReached)
      else .inl { current := next, hops, proxy, selectedAddress }

def complete (hop : HttpHop) : Live env Unit :=
  Prog.modify fun s => { s with world := s.world.complete hop }

def hopRound (options : InspectionOptions) (sequence : ℕ) (b : HopState) :
    Live env (HopState ⊕ HttpResult) := do
  match ← Prog.attempt (hopEndpoint options sequence b) with
  | .error error => pure (.inr (b.hops, some error))
  | .ok (proxy, selectedAddress) => do
    let e ← exchange sequence b.current proxy selectedAddress options
    complete e.hop
    pure (afterHop options sequence b proxy selectedAddress e)

def runHttp (initialUrl : Url) (initialProxy : ResolvedProxy) (initialAddress : SocketAddr)
    (options : InspectionOptions) : Live env HttpResult :=
  Prog.loop (hopRound options) (fun b => pure (b.hops, none))
    (options.maxRedirects.toNat + 1) 0
    { current := initialUrl, hops := [], proxy := initialProxy, selectedAddress := initialAddress }

end HopWhy
