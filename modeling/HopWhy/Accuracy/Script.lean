import HopWhy.Runs.Course

/-!
# Scripted scenarios

The backend of the accuracy corpus. A scenario says how every stage would answer, and a
stage that is called leaves one probe record and one entry in the list of calls, whatever
it answers.
-/

namespace HopWhy

inductive StageResult where
  | success
  | error
deriving DecidableEq, Repr

/-- An observation of a stage. Without a code an error could not be scripted. -/
structure StageObservation where
  result : StageResult
  errorCode : Option String
  retryable : Bool
  coded : result = .error → errorCode.isSome

structure DnsObservation extends StageObservation where
  allAddresses : List SocketAddr
  permittedAddresses : List SocketAddr

inductive HttpStageResult where
  | success
  | error
  | redirectError
deriving DecidableEq, Repr

structure HttpObservation where
  result : HttpStageResult
  errorCode : Option String
  retryable : Bool
  statuses : List UInt16
  redirectErrorCode : Option String
  redirectRetryable : Bool
  coded : result = .error → errorCode.isSome
  redirectCoded : result = .redirectError → redirectErrorCode.isSome

structure ScenarioObservations where
  dns : DnsObservation
  tcp : StageObservation
  tls : StageObservation
  http : HttpObservation

def StageObservation.cause (stage : StageObservation) : Option Cause :=
  match stage.result with
  | .success => none
  | .error => stage.errorCode.map fun code => ⟨code, stage.retryable⟩

def HttpObservation.cause (stage : HttpObservation) : Option Cause :=
  match stage.result with
  | .error => stage.errorCode.map fun code => ⟨code, stage.retryable⟩
  | _ => none

def HttpObservation.redirectCause (stage : HttpObservation) : Option Cause :=
  match stage.result with
  | .redirectError => stage.redirectErrorCode.map fun code => ⟨code, stage.redirectRetryable⟩
  | _ => none

/-- A clock and the stages that were called. -/
structure ScriptWorld (time : ℕ → ℕ) where
  readings : ℕ
  calls : List Stage

instance {time : ℕ → ℕ} : Clock (ScriptWorld time) where
  now w := (time w.readings, { w with readings := w.readings + 1 })

def ScriptWorld.start (time : ℕ → ℕ) : ScriptWorld time := ⟨0, []⟩

def scriptedClass (code : String) : ErrorClass :=
  let holds (part : String) : Bool := Text.contains part.toList code.toList
  if holds "budget" || holds "limit" then .budget
  else if holds "denied" || code == "unsupported_scheme" then .policy
  else if holds "invalid" then .contract
  else .io

def scriptedError (cause : Cause) : AppError :=
  (AppError.new (scriptedClass cause.code) cause.code
    ("scripted observation: " ++ cause.code)).withRetryable cause.retryable

def scriptedTls : TlsSummary where
  protocol := some "TLSv1_3"
  cipherSuite := some "TLS13_AES_256_GCM_SHA384"
  alpn := some "h2"
  peerLeafSha256 := some (String.ofList (List.replicate 64 '0'))
  peerCertificateCount := 2

def scriptedHop [Crates] (initialUrl : Url) (status : UInt16) (sequence : ℕ) : HttpHop where
  sequence := UInt64.ofNat sequence
  url := initialUrl.asStr
  status
  version := "HTTP/1.1"
  headers := .ofList []
  declaredContentLength := some 0
  returnedBodyBytes := 0
  bodyTruncated := false
  bodySampleSha256 := sha256Text ""
  bodySampleBase64 := none
  location := none

section

variable {time : ℕ → ℕ}

def recordCall (stage : Stage) : Prog (Session (ScriptWorld time)) AppError Unit :=
  Prog.modify fun s => { s with world := { s.world with calls := s.world.calls ++ [stage] } }

def recordProbe (kind : ProbeKind) (outcome : String) :
    Prog (Session (ScriptWorld time)) AppError Unit := do
  let started ← instant
  let probe ← Tracker.startProbe kind "scripted-observation"
  Tracker.finishProbe probe started outcome

/-- What every stage of the script does first. -/
def scriptedStage (stage : Stage) (kind : ProbeKind) (done : String) (cause : Option Cause) :
    Prog (Session (ScriptWorld time)) AppError Unit := do
  recordCall stage
  recordProbe kind (if cause.isSome then "failed" else done)
  match cause with
  | some cause => Prog.fail (scriptedError cause)
  | none => pure ()

/-- The orchestration connects to permitted addresses only, of which there is one. -/
def scriptBackend [Crates] (observations : ScenarioObservations) :
    DiagnosticBackend (ScriptWorld time) where
  resolveAddresses _ _ := do
    scriptedStage .dns .dnsLookup "resolved" observations.dns.cause
    pure (observations.dns.allAddresses, observations.dns.permittedAddresses)
  connectFirst addresses _ := do
    scriptedStage .tcp .tcpConnect "connected" observations.tcp.cause
    pure (addresses.headD (.v4 (.ofOctets 0 0 0 0) 0))
  probeTls _ _ _ := do
    scriptedStage .tls .tlsHandshake "validated" observations.tls.cause
    pure scriptedTls
  runHttp initialUrl _ _ _ := do
    scriptedStage .http .httpRequest "response_received" observations.http.cause
    pure (observations.http.statuses.mapIdx fun sequence status =>
        scriptedHop initialUrl status sequence,
      observations.http.redirectCause.map scriptedError)

end

/-- The earliest stage that fails decides. -/
def ScenarioObservations.course (observations : ScenarioObservations) (probed : Bool) : Course :=
  match observations.dns.cause with
  | some cause => .unresolved cause
  | none =>
    if observations.dns.permittedAddresses = [] then .unresolved nonPublicAddressDenied.cause
    else
      match observations.tcp.cause, (if probed then observations.tls.cause else none),
        observations.http.cause with
      | some cause, _, _ => .unconnected cause
      | none, some cause, _ => .unsecured cause
      | none, none, some cause => .unanswered cause
      | none, none, none => .answered observations.http.statuses observations.http.redirectCause

section

variable {time : ℕ → ℕ}

/-- A script in which every call so far left one probe record, with time for four. -/
structure Primed (called : List Stage) (s : Session (ScriptWorld time)) : Prop where
  calls : s.world.calls = called
  recorded : s.tracker.probes.length = called.length
  limit : 4 ≤ s.tracker.maxProbes.toNat
  timely : ∀ n, time n < s.tracker.deadline

theorem Primed.tick {called : List Stage} {s : Session (ScriptWorld time)} (h : Primed called s) :
    Primed called s.tick := ⟨h.calls, h.recorded, h.limit, h.timely⟩

/-- With time and a free slot a probe is opened. -/
theorem startProbe_of_room {σ : Type} [Clock σ] {s : Session σ} (kind : ProbeKind)
    (destination : String) (htime : s.reading < s.tracker.deadline)
    (hslot : ¬ s.tracker.maxProbes ≤ saturatingU32 s.tracker.probes.length) :
    ∃ probe, Tracker.startProbe kind destination s = (.ok probe, s.tick.tick) := by
  have hremaining : Tracker.remaining s = (.ok (s.tracker.deadline - s.reading), s.tick) := by
    simp [Tracker.remaining, Prog.bind_apply, htime]
  unfold Tracker.startProbe
  rw [Prog.bind_ok hremaining, Prog.bind_ok (Prog.state_apply _)]
  have hslot : ¬ s.tick.tracker.maxProbes ≤ saturatingU32 s.tick.tracker.probes.length := hslot
  rw [if_neg hslot]
  exact ⟨_, rfl⟩

theorem recordProbe_primed {called : List Stage} (hcalled : called.length < 4) (stage : Stage)
    (kind : ProbeKind) (outcome : String) {s : Session (ScriptWorld time)}
    (hs : Primed called s) :
    ∃ t, Primed (called ++ [stage]) t ∧
      (recordCall stage >>= fun _ => recordProbe kind outcome) s = (.ok (), t) := by
  have hlimit : ¬ s.tracker.maxProbes ≤ saturatingU32 s.tracker.probes.length := by
    rw [UInt32.le_iff_toNat_le, hs.recorded, toNat_saturatingU32 (hcalled.trans (by decide))]
    have := hs.limit
    omega
  let entered : Session (ScriptWorld time) :=
    { s with world := { s.world with calls := s.world.calls ++ [stage] } }
  obtain ⟨probe, hprobe⟩ := startProbe_of_room (s := entered.tick) kind "scripted-observation"
    (hs.timely _) hlimit
  have hrun : (recordCall stage >>= fun _ => recordProbe kind outcome) s =
      Tracker.finishProbe probe entered.reading outcome entered.tick.tick.tick := by
    change recordProbe kind outcome entered = _
    unfold recordProbe
    rw [instant_bind, Prog.bind_ok hprobe]
  refine ⟨_, ?_, hrun⟩
  exact {
    calls := congrArg (· ++ [stage]) hs.calls
    recorded := by
      change (s.tracker.probes ++ [_]).length = _
      rw [List.length_append, List.length_append, hs.recorded]
      rfl
    limit := hs.limit
    timely := hs.timely }

theorem scriptedStage_post {called : List Stage} (hcalled : called.length < 4) (stage : Stage)
    (kind : ProbeKind) (done : String) (cause : Option Cause)
    {s : Session (ScriptWorld time)} (hs : Primed called s) :
    Prog.Post (fun _ t => Primed (called ++ [stage]) t ∧ cause = none)
      (fun error t => Primed (called ++ [stage]) t ∧ cause = some error.cause)
      (scriptedStage stage kind done cause s) := by
  obtain ⟨t, ht, hrecord⟩ := recordProbe_primed hcalled stage kind
    (if cause.isSome then "failed" else done) hs
  unfold scriptedStage
  rw [← Prog.bind_assoc, Prog.bind_ok hrecord]
  rcases cause with _ | cause
  · exact ⟨ht, rfl⟩
  · exact ⟨ht, rfl⟩

/-- The stages that were called have passed. -/
structure ScenarioObservations.Passes (observations : ScenarioObservations)
    (called : List Stage) : Prop where
  dns : .dns ∈ called → observations.dns.cause = none ∧ observations.dns.permittedAddresses ≠ []
  tcp : .tcp ∈ called → observations.tcp.cause = none
  tls : .tls ∈ called → observations.tls.cause = none

/-- A script that goes on. -/
def Playing (observations : ScenarioObservations) (called : List Stage)
    (s : Session (ScriptWorld time)) : Prop :=
  Primed called s ∧ observations.Passes called

/-- A script at its end. -/
def Played (observations : ScenarioObservations) (passage : Passage) (course : Course)
    (s : Session (ScriptWorld time)) : Prop :=
  course = observations.course passage.probed ∧ s.world.calls = course.calls passage

/-- What follows a scripted stage. -/
theorem scriptedStage_bind {α : Type} {called : List Stage} (hcalled : called.length < 4)
    (stage : Stage) (kind : ProbeKind) (done : String) (cause : Option Cause) (a : α)
    {s : Session (ScriptWorld time)} (hs : Primed called s)
    {Q : α → Session (ScriptWorld time) → Prop} {E : AppError → Session (ScriptWorld time) → Prop}
    (hok : cause = none → ∀ t, Primed (called ++ [stage]) t → Q a t)
    (herror : ∀ error t, cause = some error.cause → Primed (called ++ [stage]) t → E error t) :
    Prog.Post Q E ((scriptedStage stage kind done cause >>= fun _ => pure a) s) := by
  have h := scriptedStage_post hcalled stage kind done cause hs
  rw [Prog.bind_apply]
  rcases hr : scriptedStage stage kind done cause s with ⟨error | u, t⟩
  · rw [hr] at h
    exact herror error t h.2 h.1
  · rw [hr] at h
    exact hok h.2 t h.1

variable [Crates]

theorem statuses_scriptedHop (url : Url) (statuses : List UInt16) :
    (statuses.mapIdx fun sequence status => scriptedHop url status sequence).map HttpHop.status =
      statuses := by
  apply List.ext_getElem
  · rw [List.length_map, List.length_mapIdx]
  · intro n hn hn'
    rw [List.getElem_map, List.getElem_mapIdx]
    rfl

omit [Crates] in
theorem redirectCause_scriptedError (cause : Option Cause) :
    (cause.map scriptedError).map AppError.cause = cause := by
  rcases cause with _ | cause
  · rfl
  · rfl

/-- The script stays in its own course. -/
theorem scriptBackend_keeps (observations : ScenarioObservations) (options : InspectionOptions)
    (passage : Passage) :
    Keeps (scriptBackend observations) options passage
      (Playing observations : List Stage → Session (ScriptWorld time) → Prop)
      (Played observations passage) := by
  constructor
  case tick => exact fun h => ⟨h.1.tick, h.2⟩
  case tick_ended => exact fun h => h
  case resolves =>
    rintro proxy s ⟨hs, -⟩
    apply scriptedStage_bind (by decide) .dns .dnsLookup "resolved" _ _ hs
    · intro hcause t ht
      dsimp only
      split_ifs with hempty
      · refine ⟨?_, ht.calls⟩
        simp [ScenarioObservations.course, hcause, hempty]
      · exact ⟨ht, fun _ => ⟨hcause, hempty⟩, by simp, by simp⟩
    · intro error t hcause ht
      refine ⟨?_, ht.calls⟩
      simp [ScenarioObservations.course, hcause]
  case connects =>
    rintro addresses s ⟨hs, hpasses⟩
    obtain ⟨hdns, hpermitted⟩ := hpasses.dns (by decide)
    apply scriptedStage_bind (by decide) .tcp .tcpConnect "connected" _ _ hs
    · intro hcause t ht
      exact ⟨ht, fun _ => ⟨hdns, hpermitted⟩, fun _ => hcause, by simp⟩
    · intro error t hcause ht
      refine ⟨?_, ht.calls⟩
      simp [ScenarioObservations.course, hdns, hpermitted, hcause]
  case secures =>
    rintro hprobed address host s ⟨hs, hpasses⟩
    obtain ⟨hdns, hpermitted⟩ := hpasses.dns (by decide)
    have htcp := hpasses.tcp (by decide)
    apply scriptedStage_bind (by decide) .tls .tlsHandshake "validated" _ _ hs
    · intro hcause t ht
      exact ⟨ht, fun _ => ⟨hdns, hpermitted⟩, fun _ => htcp, fun _ => hcause⟩
    · intro error t hcause ht
      refine ⟨?_, ht.calls⟩
      simp [ScenarioObservations.course, hdns, hpermitted, htcp, hprobed, hcause]
  case answers =>
    rintro url proxy address s ⟨hs, hpasses⟩
    have hdns : .dns ∈ passage.secured := by
      unfold Passage.secured
      split_ifs <;> decide
    have htcp : .tcp ∈ passage.secured := by
      unfold Passage.secured
      split_ifs <;> decide
    have hlength : passage.secured.length < 4 := by
      unfold Passage.secured
      split_ifs <;> decide
    have htls : (if passage.probed then observations.tls.cause else none) = none := by
      split_ifs with hprobed
      · exact hpasses.tls (by simp [Passage.secured, hprobed])
      · rfl
    obtain ⟨hdns, hpermitted⟩ := hpasses.dns hdns
    have htcp := hpasses.tcp htcp
    apply scriptedStage_bind hlength .http .httpRequest "response_received" _ _ hs
    · intro hcause t ht
      refine ⟨?_, ht.calls⟩
      rw [statuses_scriptedHop, redirectCause_scriptedError]
      simp [ScenarioObservations.course, hdns, hpermitted, htcp, htls, hcause]
    · intro error t hcause ht
      refine ⟨?_, ht.calls⟩
      simp [ScenarioObservations.course, hdns, hpermitted, htcp, htls, hcause]

end

end HopWhy
