import HopWhy.Engine.Inspect
import HopWhy.Library.Coupled

/-!
# Runs under different views

Three options say what a report shows: addresses, query values and the sample of
the body. Two runs that differ in these only make the same calls at the same
times, and what they report differs in the shown texts only.
-/

namespace HopWhy

/-- The options that say what a report shows. -/
structure View where
  showAddresses : Bool
  showQueryValues : Bool
  includeBodySample : Bool

/-- The same inspection under another view. -/
def InspectionOptions.under (options : InspectionOptions) (view : View) : InspectionOptions :=
  { options with
    showAddresses := view.showAddresses
    showQueryValues := view.showQueryValues
    includeBodySample := view.includeBodySample }

def View.blind : View := ⟨false, false, false⟩

def ProbeRecord.masked (probe : ProbeRecord) : ProbeRecord := { probe with destination := "" }

def HttpHop.masked (hop : HttpHop) : HttpHop :=
  { hop with url := "", bodySampleBase64 := none, location := hop.location.map fun _ => "" }

def TargetSummary.masked (target : TargetSummary) : TargetSummary :=
  { target with intended := "", effective := "" }

def AddressObservation.masked (address : AddressObservation) : AddressObservation :=
  { address with address := "" }

/-- The observations that quote the target and the selected address. -/
def Observation.masked (o : Observation) : Observation :=
  if o.kind ∈ ["normalized_target", "selected_address"] then { o with value := .ofJson .null }
  else o

def Phase.masked (phase : Phase) : Phase :=
  { phase with observations := phase.observations.map Observation.masked }

def Draft.masked (draft : Draft) : Draft :=
  { draft with
    target := draft.target.masked
    options := draft.options.under .blind
    addresses := draft.addresses.map AddressObservation.masked
    http := draft.http.map HttpHop.masked
    phases := draft.phases.map Phase.masked }

/-- A report without the texts that a view decides about, and without the digest over them. -/
def Report.masked (report : Report) : Report :=
  { report with
    target := report.target.masked
    options := report.options.under .blind
    probes := report.probes.map ProbeRecord.masked
    addresses := report.addresses.map AddressObservation.masked
    http := report.http.map HttpHop.masked
    phases := report.phases.map Phase.masked
    reportSha256 := none }

def Tracker.masked (tracker : Tracker) : Tracker :=
  { tracker with probes := tracker.probes.map ProbeRecord.masked }

def ActiveProbe.masked (probe : ActiveProbe) : ActiveProbe := { probe with destination := "" }

def Exchange.masked (e : Exchange) : Exchange := { e with hop := e.hop.masked }

variable {env : Environment}

/-- The sessions of two runs with the same history. -/
structure Veiled (s s' : Session (World env)) : Prop where
  tracker : s.tracker.masked = s'.tracker.masked
  interactions : s.world.interactions = s'.world.interactions

theorem Veiled.length_probes {s s' : Session (World env)} (h : Veiled s s') :
    s.tracker.probes.length = s'.tracker.probes.length := by
  have hprobes := congrArg (fun t : Tracker => t.probes.length) h.tracker
  simpa [Tracker.masked] using hprobes

theorem Veiled.step {s s' : Session (World env)} (h : Veiled s s') : s.world.step = s'.world.step :=
  congrArg List.length h.interactions

abbrev Unveiled (env : Environment) {ε α α' : Type} (A : α → α' → Prop)
    (m : Prog (Session (World env)) ε α) (m' : Prog (Session (World env)) ε α') : Prop :=
  Prog.Coupled Veiled A m m'

section

variable {ε ε' α α' : Type}

theorem Veiled.tick {s s' : Session (World env)} (h : Veiled s s') : Veiled s.tick s'.tick :=
  ⟨h.tracker, congrArg (· ++ [Interaction.clock]) h.interactions⟩

theorem Veiled.reading {s s' : Session (World env)} (h : Veiled s s') : s.reading = s'.reading :=
  congrArg env.time h.step

theorem instant_unveiled : Unveiled env Eq (instant : Prog (Session (World env)) ε ℕ) instant :=
  fun _ _ h => ⟨h.reading, h.tick⟩

theorem elapsedMs_unveiled (started : ℕ) :
    Unveiled env Eq (elapsedMs started : Prog (Session (World env)) ε UInt64)
      (elapsedMs started) := by
  apply instant_unveiled.bindEq
  intro now
  exact Prog.Coupled.pure rfl

theorem state_unveiled : Unveiled env Veiled
    (Prog.state : Prog (Session (World env)) ε (Session (World env))) Prog.state :=
  fun _ _ h => ⟨h, h⟩

theorem modifyTracker_unveiled {f f' : Tracker → Tracker}
    (h : ∀ t t', t.masked = t'.masked → (f t).masked = (f' t').masked) :
    Unveiled env Eq (modifyTracker f : Prog (Session (World env)) ε Unit) (modifyTracker f') := by
  apply Prog.Coupled.modify
  intro s s' hs
  exact ⟨h _ _ hs.tracker, hs.interactions⟩

/-- The same call, with the same answer. -/
theorem interact_unveiled (answer : ℕ → α × Interaction) :
    Unveiled env Eq (interact answer : Prog (Session (World env)) ε α) (interact answer) := by
  intro s s' hs
  refine ⟨congrArg (fun n => (answer n).1) hs.step, hs.tracker, ?_⟩
  change s.world.interactions ++ [(answer s.world.step).2] = _
  rw [hs.interactions, hs.step]
  rfl

theorem remaining_unveiled :
    Unveiled env Eq (Tracker.remaining : Prog (Session (World env)) AppError ℕ)
      Tracker.remaining := by
  apply instant_unveiled.bindEq
  intro now
  apply state_unveiled.bind
  intro s s' h
  have hdeadline : s.tracker.deadline = s'.tracker.deadline :=
    (congrArg Tracker.deadline h.tracker :)
  rw [hdeadline]
  exact Prog.Coupled.ite Iff.rfl (Prog.Coupled.pure rfl) (Prog.Coupled.fail _)

theorem startProbe_unveiled (kind : ProbeKind) (destination destination' : String) :
    Unveiled env (fun probe probe' => probe.masked = probe'.masked)
      (Tracker.startProbe kind destination : Prog (Session (World env)) AppError ActiveProbe)
      (Tracker.startProbe kind destination') := by
  apply remaining_unveiled.bindEq
  intro _
  apply state_unveiled.bind
  intro s s' h
  have hmax : s.tracker.maxProbes = s'.tracker.maxProbes :=
    (congrArg Tracker.maxProbes h.tracker :)
  have hstarted : s.tracker.started = s'.tracker.started :=
    (congrArg Tracker.started h.tracker :)
  rw [h.length_probes, hmax, hstarted]
  apply Prog.Coupled.ite Iff.rfl (Prog.Coupled.fail _)
  apply (elapsedMs_unveiled _).bindEq
  intro startedMs
  exact Prog.Coupled.pure rfl

theorem finishProbe_unveiled {probe probe' : ActiveProbe} (h : probe.masked = probe'.masked)
    (started : ℕ) (outcome : String) : Unveiled env Eq
      (Tracker.finishProbe probe started outcome : Prog (Session (World env)) ε Unit)
      (Tracker.finishProbe probe' started outcome) := by
  apply (elapsedMs_unveiled started).bindEq
  intro durationMs
  apply modifyTracker_unveiled
  intro t t' ht
  have hsequence : probe.sequence = probe'.sequence := (congrArg ActiveProbe.sequence h :)
  have hkind : probe.kind = probe'.kind := (congrArg ActiveProbe.kind h :)
  have hstarted : probe.startedMs = probe'.startedMs :=
    (congrArg ActiveProbe.startedMs h :)
  obtain ⟨started, deadline, maxProbes, probes, read⟩ := t
  obtain ⟨started', deadline', maxProbes', probes', read'⟩ := t'
  simp only [Tracker.masked, Tracker.mk.injEq] at ht
  simp [Tracker.masked, ProbeRecord.masked, hsequence, hkind, hstarted, ht]

/-- A probe that is closed before the stage fails. -/
theorem finishProbe_fail_unveiled {A : α → α' → Prop} {probe probe' : ActiveProbe}
    (h : probe.masked = probe'.masked) (started : ℕ) (outcome : String) (error : ε) :
    Unveiled env A
      ((Tracker.finishProbe probe started outcome : Prog (Session (World env)) ε Unit) >>=
        fun _ => Prog.fail error)
      (Tracker.finishProbe probe' started outcome >>= fun _ => Prog.fail error) := by
  apply (finishProbe_unveiled h started outcome).bindEq
  intro _
  exact Prog.Coupled.fail error

end

variable [Crates]

omit [Crates] in
theorem resolveAddresses_unveiled (env : Environment) (proxy : ResolvedProxy)
    (options : InspectionOptions) (view : View) : Unveiled env Eq (resolveAddresses proxy options)
      (resolveAddresses proxy (options.under view)) := by
  apply (startProbe_unveiled _ _ _).bind
  intro probe probe' hprobe
  apply instant_unveiled.bindEq
  intro started
  apply (interact_unveiled _).bindEq
  rintro (_ | answer)
  · exact finishProbe_fail_unveiled hprobe _ _ _
  · apply (finishProbe_unveiled hprobe _ _).bindEq
    intro _
    exact Prog.Coupled.ite Iff.rfl (Prog.Coupled.fail _) (Prog.Coupled.pure rfl)

theorem connectFirst_unveiled (env : Environment) (addresses : List SocketAddr)
    (options : InspectionOptions) (view : View) : Unveiled env Eq (connectFirst addresses options)
      (connectFirst addresses (options.under view)) := by
  apply Prog.Coupled.firstOf _ (Prog.Coupled.fail _)
  intro address
  apply (startProbe_unveiled _ _ _).bind
  intro probe probe' hprobe
  apply instant_unveiled.bindEq
  intro started
  apply remaining_unveiled.bindEq
  intro timeout
  apply (interact_unveiled _).bindEq
  intro connected
  apply Prog.Coupled.ite Iff.rfl
  · apply (finishProbe_unveiled hprobe _ _).bindEq
    intro _
    exact Prog.Coupled.pure rfl
  · apply (finishProbe_unveiled hprobe _ _).bindEq
    intro _
    exact Prog.Coupled.pure rfl

section

omit [Crates]

variable {probe probe' : ActiveProbe} (hprobe : probe.masked = probe'.masked)

include hprobe

theorem handshakeRound_unveiled (started timeout : ℕ) : Unveiled env Eq
    (handshakeRound probe started timeout) (handshakeRound probe' started timeout) := by
  apply remaining_unveiled.bindEq
  intro left
  apply Prog.Coupled.ite Iff.rfl (finishProbe_fail_unveiled hprobe _ _ _)
  exact interact_unveiled _

theorem completeHandshake_unveiled (started timeout : ℕ) (outcome : Option TlsSession)
    (rounds : ℕ) : Unveiled env Eq
      (completeHandshake probe started timeout outcome rounds)
      (completeHandshake probe' started timeout outcome rounds) := by
  induction rounds with
  | zero =>
    apply (handshakeRound_unveiled hprobe _ _).bindEq
    intro _
    rcases outcome with _ | session
    · exact finishProbe_fail_unveiled hprobe _ _ _
    · exact Prog.Coupled.pure rfl
  | succ rounds ih =>
    apply (handshakeRound_unveiled hprobe _ _).bindEq
    intro _
    exact ih

end

theorem probeTls_unveiled (address : SocketAddr) (serverHost : String)
    (showAddresses showAddresses' : Bool) : Unveiled env Eq
      (probeTls address serverHost showAddresses) (probeTls address serverHost showAddresses') := by
  apply (startProbe_unveiled _ _ _).bind
  intro probe probe' hprobe
  apply instant_unveiled.bindEq
  intro started
  apply remaining_unveiled.bindEq
  intro left
  apply (interact_unveiled _).bindEq
  rintro ⟨connected, handshake⟩
  apply Prog.Coupled.ite Iff.rfl (finishProbe_fail_unveiled hprobe _ _ _)
  apply Prog.Coupled.ite Iff.rfl (finishProbe_fail_unveiled hprobe _ _ _)
  apply Prog.Coupled.ite Iff.rfl (finishProbe_fail_unveiled hprobe _ _ _)
  apply (completeHandshake_unveiled hprobe _ _ _ _).bindEq
  intro session
  apply (finishProbe_unveiled hprobe _ _).bindEq
  intro _
  exact Prog.Coupled.pure rfl

omit [Crates] in
theorem readToEnd_unveiled (timeout limit : ℕ) (body : List BodyRead) :
    Unveiled env Eq (readToEnd timeout limit body) (readToEnd timeout limit body) := by
  induction body generalizing limit with
  | nil =>
    rcases limit with _ | limit
    · exact Prog.Coupled.pure rfl
    · apply (interact_unveiled _).bindEq
      intro _
      exact Prog.Coupled.pure rfl
  | cons read rest ih =>
    rcases limit with _ | limit
    · exact Prog.Coupled.pure rfl
    · rcases read with octets | _
      · apply (interact_unveiled _).bindEq
        intro _
        apply Prog.Coupled.ite Iff.rfl (Prog.Coupled.pure rfl)
        apply (ih _).bindEq
        intro later
        exact Prog.Coupled.pure rfl
      · apply (interact_unveiled _).bindEq
        intro _
        exact Prog.Coupled.fail _

omit [Crates] in
/-- Counting body octets. -/
theorem count_unveiled (n : ℕ) : Unveiled env Eq
    (modifyTracker fun t => { t with
      responseBytesRead := saturatingU64 (t.responseBytesRead.toNat + n) } : Live env Unit)
    (modifyTracker fun t => { t with
      responseBytesRead := saturatingU64 (t.responseBytesRead.toNat + n) }) := by
  apply modifyTracker_unveiled
  intro t t' ht
  simp only [Tracker.masked, Tracker.mk.injEq] at ht ⊢
  obtain ⟨hstarted, hdeadline, hmax, hprobes, hread⟩ := ht
  exact ⟨hstarted, hdeadline, hmax, hprobes, by rw [hread]⟩

theorem responseToHop_unveiled (response : Response) (sequence timeout : ℕ) (url url' : String)
    {location location' : Option String}
    (hlocation : (location.map fun _ => "") = location'.map fun _ => "")
    (options : InspectionOptions) (view : View) :
    Unveiled env (fun hop hop' => hop.masked = hop'.masked)
      (responseToHop response sequence timeout url location options)
      (responseToHop response sequence timeout url' location' (options.under view)) := by
  apply (readToEnd_unveiled _ _ _).bindEq
  intro read
  apply (count_unveiled _).bindEq
  intro _
  apply Prog.Coupled.pure
  simp only [HttpHop.masked, hopOf, hlocation]
  rfl

theorem exchange_unveiled (sequence : ℕ) (current : Url) (proxy : ResolvedProxy)
    (address : SocketAddr) (options : InspectionOptions) (view : View) :
    Unveiled env (fun e e' => e.masked = e'.masked)
      (exchange sequence current proxy address options)
      (exchange sequence current proxy address (options.under view)) := by
  have hclient : Unveiled env Eq (buildHttpClient proxy address)
      (buildHttpClient proxy address) := by
    apply remaining_unveiled.bindEq
    intro left
    apply Prog.Coupled.ite Iff.rfl (Prog.Coupled.fail _)
    apply state_unveiled.bind
    intro s s' hs
    rw [hs.step]
    exact Prog.Coupled.ite Iff.rfl (Prog.Coupled.pure rfl) (Prog.Coupled.fail _)
  apply hclient.bindEq
  intro client
  apply (startProbe_unveiled _ _ _).bind
  intro probe probe' hprobe
  apply instant_unveiled.bindEq
  intro started
  apply (interact_unveiled _).bindEq
  rintro (error | response)
  · exact finishProbe_fail_unveiled hprobe _ _ _
  · apply (finishProbe_unveiled hprobe _ _).bindEq
    intro _
    dsimp only
    apply (responseToHop_unveiled response sequence client.timeout _ _ _ options view).bind
    · intro hop hop' hhop
      apply Prog.Coupled.pure
      change Exchange.mk hop.masked _ _ = Exchange.mk hop'.masked _ _
      rw [hhop]
    · rw [Option.map_map, Option.map_map]
      rfl

/-- What is accepted does not depend on the view. -/
theorem parseTarget_unveiled (raw : String) (options : InspectionOptions) (view : View) :
    (parseTarget raw options).Alike
      (fun p p' => p.url = p'.url ∧ p.summary.masked = p'.summary.masked)
      (parseTarget raw (options.under view)) := by
  unfold parseTarget
  rcases Crates.urlParse raw with error | url
  · rfl
  · unfold acceptTarget
    dsimp only
    split_ifs
    · rfl
    · rfl
    · rfl
    · rcases url.clearFragment.portOrKnownDefault with _ | port
      · rfl
      · exact ⟨rfl, rfl⟩

theorem authorizeRedirect_unveiled (current : Url) (options : InspectionOptions) (view : View) :
    Unveiled env Eq (authorizeRedirect current options)
      (authorizeRedirect current (options.under view)) := by
  apply (Prog.Coupled.ofExcept (parseTarget_unveiled current.asStr options view)).bind
  rintro parsed parsed' ⟨hurl, -⟩
  rw [hurl]
  apply (Prog.Coupled.ofExcept (A := Eq) ?_).bindEq
  · intro proxy
    apply (resolveAddresses_unveiled env proxy options view).bindEq
    rintro ⟨all, permitted⟩
    dsimp only
    rcases permitted.head? with _ | address
    · exact Prog.Coupled.fail _
    · exact Prog.Coupled.pure rfl
  · change (resolveProxy env.envVar parsed'.url options).Alike Eq
      (resolveProxy env.envVar parsed'.url options)
    rcases resolveProxy env.envVar parsed'.url options with error | proxy
    · rfl
    · rfl

def HopState.masked (b : HopState) : HopState := { b with hops := b.hops.map HttpHop.masked }

/-- The result of a chain without the texts of its hops. -/
def maskedResult (r : HttpResult) : HttpResult := (r.1.map HttpHop.masked, r.2)

omit [Crates] in
theorem afterHop_unveiled (options : InspectionOptions) (view : View) (sequence : ℕ)
    {b b' : HopState} (hb : b.masked = b'.masked) (proxy : ResolvedProxy) (address : SocketAddr)
    {e e' : Exchange} (he : e.masked = e'.masked) :
    Sum.LiftRel (fun b b' => b.masked = b'.masked) (fun r r' => maskedResult r = maskedResult r')
      (afterHop options sequence b proxy address e)
      (afterHop (options.under view) sequence b' proxy address e') := by
  have hhops : b.hops.map HttpHop.masked = b'.hops.map HttpHop.masked :=
    (congrArg HopState.hops hb :)
  obtain ⟨hop, nextUrl, redirectError⟩ := e
  obtain ⟨hop', nextUrl', redirectError'⟩ := e'
  simp only [Exchange.masked, Exchange.mk.injEq] at he
  obtain ⟨hhop, rfl, rfl⟩ := he
  have hfinished :
      (b.hops ++ [hop]).map HttpHop.masked = (b'.hops ++ [hop']).map HttpHop.masked := by
    rw [List.map_append, List.map_append, hhops, List.map_singleton, List.map_singleton, hhop]
  unfold afterHop
  rcases redirectError with _ | error
  · rcases nextUrl with _ | next
    · exact .inr (congrArg (·, none) hfinished)
    · dsimp only
      by_cases hlast : sequence = options.maxRedirects.toNat
      · have hlast' : sequence = (options.under view).maxRedirects.toNat := hlast
        rw [if_pos hlast, if_pos hlast']
        exact .inr (congrArg (·, some redirectLimitReached) hfinished)
      · have hlast' : ¬ sequence = (options.under view).maxRedirects.toNat := hlast
        rw [if_neg hlast, if_neg hlast']
        exact .inl (congrArg (HopState.mk next · proxy address) hfinished)
  · exact .inr (congrArg (·, some error) hfinished)

theorem hopRound_unveiled (options : InspectionOptions) (view : View) (sequence : ℕ)
    {b b' : HopState} (hb : b.masked = b'.masked) :
    Unveiled env
      (Sum.LiftRel (fun b b' => b.masked = b'.masked) fun r r' => maskedResult r = maskedResult r')
      (hopRound options sequence b) (hopRound (options.under view) sequence b') := by
  have hcurrent : b.current = b'.current := (congrArg HopState.current hb :)
  have hproxy : b.proxy = b'.proxy := (congrArg HopState.proxy hb :)
  have haddress : b.selectedAddress = b'.selectedAddress :=
    (congrArg HopState.selectedAddress hb :)
  have hhops : b.hops.map HttpHop.masked = b'.hops.map HttpHop.masked :=
    (congrArg HopState.hops hb :)
  have hendpoint : Unveiled env Eq (hopEndpoint options sequence b)
      (hopEndpoint (options.under view) sequence b') := by
    unfold hopEndpoint
    rw [hcurrent, hproxy, haddress]
    exact Prog.Coupled.ite Iff.rfl (Prog.Coupled.pure rfl) (authorizeRedirect_unveiled _ _ _)
  apply Prog.Coupled.attemptBind hendpoint
  · rintro ⟨proxy, address⟩ _ rfl
    dsimp only
    rw [hcurrent]
    apply (exchange_unveiled sequence b'.current proxy address options view).bind
    intro e e' he
    have hcomplete : Unveiled env Eq (complete e.hop) (complete e'.hop) := by
      apply Prog.Coupled.modify
      intro s s' hs
      exact ⟨hs.tracker, hs.interactions⟩
    apply hcomplete.bindEq
    intro _
    exact Prog.Coupled.pure (afterHop_unveiled options view sequence hb proxy address he)
  · intro error
    exact Prog.Coupled.pure (.inr (congrArg (·, some error) hhops))

theorem runHttp_unveiled (env : Environment) (url : Url) (proxy : ResolvedProxy)
    (address : SocketAddr) (options : InspectionOptions) (view : View) :
    Unveiled env (fun r r' => maskedResult r = maskedResult r')
      (runHttp url proxy address options) (runHttp url proxy address (options.under view)) := by
  apply Prog.Coupled.loop fun _ b b' => b.masked = b'.masked
  · intro i b b' hb
    exact hopRound_unveiled options view i hb
  · intro i b b' hb
    exact Prog.Coupled.pure (congrArg (·, none) (congrArg HopState.hops hb :))
  · rfl

end HopWhy
