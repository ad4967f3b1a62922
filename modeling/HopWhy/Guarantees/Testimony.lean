import HopWhy.Guarantees.AddressCounts
import HopWhy.Guarantees.ChainContinuity
import HopWhy.Guarantees.ConnectVerdict
import HopWhy.Guarantees.RuledOut

/-!
# What phases testify

The observations of a passed phase repeat what other sections of the report say: its target,
its proxy, its addresses, its probes, its TLS summary and its hops. A report in which they
disagree is not one of a run.
-/

namespace HopWhy

/-- The first connection that was made. -/
def connection (probes : List ProbeRecord) : Option ProbeRecord :=
  probes.find? fun record => record.letter = (.tcpConnect, "connected")

/-- The sections of a report that its phases speak about. -/
structure Sections where
  target : TargetSummary
  proxy : ProxySummary
  options : InspectionOptions
  addresses : List AddressObservation
  probes : List ProbeRecord
  tls : Option TlsSummary
  http : List HttpHop

namespace Sections

variable (sections : Sections)

/-- The permitted addresses up to the address limit. -/
def usableAddresses : ℕ :=
  min sections.options.maxAddresses.toNat (sections.addresses.filter (·.permitted)).length

/-- What the sections have a passed phase observe. -/
def testimony : PhaseName → List Observation
  | .input => [observation "normalized_target" (.str sections.target.intended)
      "parsed with the URL standard and restricted to HTTP(S)"]
  | .proxy => [observation "proxy_selection" (ProxySummary.codec.write sections.proxy)
      "derived from explicit disable policy, NO_PROXY, and scheme-specific proxy environment"]
  | .dns => [
      observation "resolved_address_count" (countJson sections.addresses.length)
        "system resolver result after de-duplication",
      observation "permitted_address_count" (countJson sections.usableAddresses)
        "address policy evaluation"]
  | .tcp => (connection sections.probes).toList.map fun record =>
      observation "selected_address" (.str record.destination)
        "first successful bounded TCP connection"
  | .tls => sections.tls.toList.map fun summary =>
      observation "tls_negotiation" (TlsSummary.codec.write summary)
        "independent rustls handshake using the Mozilla public root set"
  | .http => [observation "response_statuses"
      (.arr (sections.http.map fun hop => .num (.posInt hop.status.toUInt64)))
      "bounded HTTP responses with automatic redirects disabled"]
  | .redirects => [observation "redirect_hops" (countJson (sections.http.length - 1))
      "manually followed after validating each target and budget"]
  | .assertions => []

end Sections

/-- The phases agree with the sections. -/
structure Testified (sections : Sections) (phases : List Phase) : Prop where
  observed : ∀ phase ∈ phases, phase.observations =
    if phase.status = .passed then sections.testimony phase.name else []
  secured : sections.tls.isSome ↔ (PhaseName.tls, PhaseStatus.passed) ∈ phases.map Phase.outline
  answered : sections.http ≠ [] ↔ (PhaseName.http, PhaseStatus.passed) ∈ phases.map Phase.outline
  followed : (PhaseName.redirects, PhaseStatus.passed) ∈ phases.map Phase.outline →
    1 < sections.http.length

def Draft.sections (draft : Draft) (probes : List ProbeRecord) : Sections where
  target := draft.target
  proxy := draft.proxy
  options := draft.options
  addresses := draft.addresses
  probes
  tls := draft.tls
  http := draft.http

def Report.sections (report : Report) : Sections where
  target := report.target
  proxy := report.proxy
  options := report.options
  addresses := report.addresses
  probes := report.probes
  tls := report.tls
  http := report.http

/-- A redirect phase observes nothing but the number of redirects that were followed. -/
theorem redirectPhase_observations {sections : Sections} {hops : List HttpHop}
    (h : sections.http = hops) (failure : Option AppError) :
    (redirectPhase hops failure).observations =
      if (redirectPhase hops failure).status = .passed then
        sections.testimony (redirectPhase hops failure).name else [] := by
  subst h
  unfold redirectPhase
  rcases failure with _ | error
  · dsimp only
    by_cases hlength : 1 < sections.http.length
    · rw [if_pos hlength]
      rfl
    · rw [if_neg hlength]
      rfl
  · rfl

theorem length_of_followed {hops : List HttpHop} {failure : Option AppError}
    (h : (redirectPhase hops failure).status = .passed) : 1 < hops.length := by
  unfold redirectPhase at h
  rcases failure with _ | error
  · dsimp only at h
    split_ifs at h with hlength
    · exact hlength
    · cases h
  · cases h

section

variable {a b : Sections} {phases : List Phase}

theorem kept_of_outline {o : Outline} (ho : phases.map Phase.outline = o)
    (h : ∀ e ∈ o, b.testimony e.1 = a.testimony e.1) :
    ∀ phase ∈ phases, b.testimony phase.name = a.testimony phase.name := by
  intro phase hphase
  apply h phase.outline
  rw [← ho]
  exact List.mem_map_of_mem hphase

section

variable (htarget : b.target = a.target) (hproxy : b.proxy = a.proxy)

include htarget hproxy

theorem testimony_opened : ∀ e ∈ openedLedger, b.testimony e.1 = a.testimony e.1 := by
  intro e he
  simp only [openedLedger, List.mem_cons, List.not_mem_nil, or_false] at he
  rcases he with rfl | rfl
  · simp only [Sections.testimony, htarget]
  · simp only [Sections.testimony, hproxy]

variable (hoptions : b.options = a.options) (haddresses : b.addresses = a.addresses)

include hoptions haddresses

theorem testimony_resolved : ∀ e ∈ resolvedLedger, b.testimony e.1 = a.testimony e.1 := by
  apply List.forall_mem_append.mpr ⟨testimony_opened htarget hproxy, _⟩
  intro e he
  rw [List.mem_singleton.mp he]
  simp only [Sections.testimony, Sections.usableAddresses, hoptions, haddresses]

variable (hconnection : connection b.probes = connection a.probes)

include hconnection

theorem testimony_connected : ∀ e ∈ connectedLedger, b.testimony e.1 = a.testimony e.1 := by
  apply List.forall_mem_append.mpr
    ⟨testimony_resolved htarget hproxy hoptions haddresses, _⟩
  intro e he
  rw [List.mem_singleton.mp he]
  simp only [Sections.testimony, hconnection]

theorem testimony_requested (htls : b.tls = a.tls) (status : PhaseStatus) :
    ∀ e ∈ requestedLedger status, b.testimony e.1 = a.testimony e.1 := by
  apply List.forall_mem_append.mpr
    ⟨testimony_connected htarget hproxy hoptions haddresses hconnection, _⟩
  intro e he
  rw [List.mem_singleton.mp he]
  simp only [Sections.testimony, htls]

end

variable (h : Testified a phases)
  (hkept : ∀ phase ∈ phases, b.testimony phase.name = a.testimony phase.name)

include h hkept

theorem Testified.observed_append {more : List Phase} (hmore : ∀ phase ∈ more, phase.observations =
      if phase.status = .passed then b.testimony phase.name else []) :
    ∀ phase ∈ phases ++ more, phase.observations =
      if phase.status = .passed then b.testimony phase.name else [] := by
  intro phase hphase
  rcases List.mem_append.mp hphase with hphase | hphase
  · rw [hkept phase hphase]
    exact h.observed phase hphase
  · exact hmore phase hphase

/-- A phase that brings neither a TLS summary nor hops. -/
theorem Testified.record {phase : Phase} (htls : b.tls = a.tls) (hhttp : b.http = a.http)
    (hobserved : phase.observations =
      if phase.status = .passed then b.testimony phase.name else [])
    (hplain : phase.status = .passed → phase.name ∉ [PhaseName.tls, .http, .redirects]) :
    Testified b (phases ++ [phase]) := by
  have hmem : ∀ name ∈ [PhaseName.tls, .http, .redirects],
      (name, PhaseStatus.passed) ∈ (phases ++ [phase]).map Phase.outline ↔
        (name, PhaseStatus.passed) ∈ phases.map Phase.outline := by
    intro name hname
    rw [List.map_append, List.mem_append, or_iff_left]
    intro hphase
    obtain ⟨hsame, hpassed⟩ := Prod.mk.inj (List.mem_singleton.mp hphase)
    rw [hsame] at hname
    exact hplain hpassed.symm hname
  constructor
  · apply h.observed_append hkept
    intro p hp
    rw [List.mem_singleton.mp hp]
    exact hobserved
  · rw [hmem .tls (by decide), htls]
    exact h.secured
  · rw [hmem .http (by decide), hhttp]
    exact h.answered
  · rw [hmem .redirects (by decide), hhttp]
    exact h.followed

/-- A stage that fails observes nothing. -/
theorem Testified.fail (htls : b.tls = a.tls) (hhttp : b.http = a.http) (name : PhaseName)
    (durationMs : UInt64) (error : AppError) :
    Testified b (phases ++ [failedPhase name durationMs error]) :=
  h.record hkept htls hhttp rfl fun hpassed => by cases hpassed

omit hkept in
theorem Testified.http_eq_nil {o : Outline} (ho : phases.map Phase.outline = o)
    (hnot : (PhaseName.http, PhaseStatus.passed) ∉ o) : a.http = [] := by
  rw [← not_ne_iff, h.answered, ho]
  exact hnot

/-- A TLS stage that brings a summary. -/
theorem Testified.secure (ho : phases.map Phase.outline = connectedLedger)
    (htls : b.tls.isSome) (hhttp : b.http = a.http) (durationMs : UInt64) :
    Testified b (phases ++ [passedPhase .tls durationMs (b.testimony .tls)]) := by
  have houtline : (phases ++ [passedPhase .tls durationMs (b.testimony .tls)]).map Phase.outline =
      requestedLedger .passed := by
    rw [List.map_append, ho]
    rfl
  have hempty : b.http = [] := hhttp.trans (h.http_eq_nil ho (by decide))
  constructor
  · apply h.observed_append hkept
    intro phase hphase
    rw [List.mem_singleton.mp hphase]
    rfl
  · rw [houtline]
    exact iff_of_true htls (by decide)
  · rw [houtline]
    exact iff_of_false (not_not.mpr hempty) (by decide)
  · rw [houtline]
    exact fun hfollowed => absurd hfollowed (by decide)

/-- An HTTP stage that brings hops. -/
theorem Testified.answer {tls : PhaseStatus} (ho : phases.map Phase.outline = requestedLedger tls)
    (htls : b.tls = a.tls) (hhttp : b.http ≠ []) (durationMs : UInt64)
    (failure : Option AppError) (limitation : String) :
    Testified b (phases ++ [passedPhase .http durationMs (b.testimony .http),
      redirectPhase b.http failure, skippedPhase .assertions limitation]) := by
  obtain ⟨status, -, hredirects⟩ := redirectPhase_outline b.http failure
  have houtline : (phases ++ [passedPhase .http durationMs (b.testimony .http),
      redirectPhase b.http failure, skippedPhase .assertions limitation]).map Phase.outline =
      answeredLedger status tls := by
    rw [List.map_append, ho, List.map_cons, List.map_cons, hredirects]
    rfl
  constructor
  · apply h.observed_append hkept
    intro phase hphase
    simp only [List.mem_cons, List.not_mem_nil, or_false] at hphase
    rcases hphase with rfl | rfl | rfl
    · rfl
    · exact redirectPhase_observations rfl failure
    · rfl
  · rw [houtline, htls, h.secured, ho, answeredLedger, List.mem_append, or_iff_left]
    simp
  · rw [houtline]
    exact iff_of_true hhttp (by simp [answeredLedger])
  · intro hfollowed
    have hpassed : status = .passed := by
      rw [houtline] at hfollowed
      simpa [answeredLedger, requestedLedger, connectedLedger, resolvedLedger, openedLedger,
        eq_comm] using hfollowed
    rw [hpassed] at hredirects
    exact length_of_followed (congrArg Prod.snd hredirects)

end

theorem connection_isSome {probes : List ProbeRecord} :
    (connection probes).isSome ↔ (.tcpConnect, "connected") ∈ probes.map ProbeRecord.letter := by
  rw [connection, List.find?_isSome, List.mem_map]
  simp

theorem connection_append {probes : List ProbeRecord} (h : (connection probes).isSome)
    (more : List ProbeRecord) : connection (probes ++ more) = connection probes := by
  rw [connection, List.find?_append]
  exact Option.or_of_isSome h

section

variable [Crates] {env : Environment}

/-- The first connection of attempts of which the last one succeeds. -/
theorem Attempted.connection_eq {options : InspectionOptions} {n : ℕ}
    {earlier : List SocketAddr} {address : SocketAddr} {calls : List Interaction}
    {records : List ProbeRecord}
    (h : Attempted options n (failedOn earlier ++ [(address, true)]) calls records) :
    ∃ record, connection records = some record ∧
      record.destination = addressForReport address options.showAddresses := by
  induction earlier generalizing n calls records with
  | nil =>
    cases h with
    | @more _ _ _ timeout record attempts _ _ sequence kind names outcome later =>
      refine ⟨record, ?_, names⟩
      have hletter : record.letter = (.tcpConnect, "connected") := by
        rw [ProbeRecord.letter, kind, outcome]
        rfl
      rw [connection, List.find?_cons_of_pos (by simpa using hletter)]
  | cons first rest ih =>
    cases h with
    | @more _ _ _ timeout record attempts _ _ sequence kind names outcome later =>
      have hletter : record.letter ≠ (.tcpConnect, "connected") := by
        rw [ProbeRecord.letter, kind, outcome]
        decide
      obtain ⟨found, hfound, hdestination⟩ := ih later
      refine ⟨found, ?_, hdestination⟩
      rw [connection, List.find?_cons_of_neg (by simpa using hletter)]
      exact hfound

theorem connectFirst_connection {permitted : List SocketAddr} {options : InspectionOptions}
    {s t : Session (World env)} {address : SocketAddr}
    (hnone : connection s.tracker.probes = none)
    (h : connectFirst permitted options s = (.ok address, t)) :
    ∃ record, connection t.tracker.probes = some record ∧
      record.destination = addressForReport address options.showAddresses := by
  have hverdict := connectFirst_verdict permitted options s
  rw [h] at hverdict
  generalize permitted.take options.maxAddresses.toNat = attempts at hverdict
  cases hverdict with
  | connected earlier _ later tries =>
    obtain ⟨calls, records, hattempted, -, hprobes⟩ := tries
    obtain ⟨record, hrecord, hdestination⟩ := hattempted.connection_eq
    refine ⟨record, ?_, hdestination⟩
    rw [hprobes, connection, List.find?_append]
    change (connection s.tracker.probes).or (connection records) = _
    rw [hnone, hrecord]
    rfl

/-- The phases of the draft agree with its sections and the probes. -/
def Agrees (draft : Draft) (s : Session (World env)) : Prop :=
  Testified (draft.sections s.tracker.probes) draft.phases

variable {draft : Draft}

omit [Crates] in
theorem permitted_of_resolveAddresses {proxy : ResolvedProxy} {options : InspectionOptions}
    {s t : Session (World env)} {all permitted : List SocketAddr}
    (h : resolveAddresses proxy options s = (.ok (all, permitted), t)) :
    permitted = permittedOf options all := by
  obtain ⟨e, -, hlookup⟩ := resolveAddresses_effect proxy options s
  rw [h] at hlookup
  generalize hr : (Except.ok (all, permitted) : AppResult (List SocketAddr × List SocketAddr)) = r
    at hlookup
  cases hlookup with
  | refused => cases hr
  | asked answer record kind asks literal =>
    rcases answer with _ | answer
    · cases hr
    · dsimp only at hr
      split_ifs at hr
      cases hr
      rfl

theorem length_permittedOf_observed (options : InspectionOptions) (all : List SocketAddr) :
    (permittedOf options all).length =
      min options.maxAddresses.toNat
        ((all.map (observeAddress options)).filter (·.permitted)).length := by
  rw [filter_permitted_observed, permittedOf, List.length_take]

theorem observeDns_agrees (hdraft : draft.outline = openedLedger) (proxy : ResolvedProxy) :
    Prog.Triple (Agrees draft) (observeDns (liveBackend env) proxy draft)
      (fun r => Agrees r.1) Agrees := by
  intro s hs
  unfold observeDns
  rw [instant_bind, Prog.bind_apply, Prog.attempt_apply]
  rcases hr : (liveBackend env).resolveAddresses proxy draft.options s.tick with
    ⟨error | ⟨all, permitted⟩, t⟩
  · apply Testified.fail hs
    · exact kept_of_outline hdraft (testimony_opened rfl rfl)
    · rfl
    · rfl
  · dsimp only
    split_ifs
    · apply Testified.fail hs
      · exact kept_of_outline hdraft (testimony_opened rfl rfl)
      · rfl
      · rfl
    · apply Testified.record hs
      · exact kept_of_outline hdraft (testimony_opened rfl rfl)
      · rfl
      · rfl
      · have hcount := length_permittedOf_observed draft.options all
        rw [← permitted_of_resolveAddresses hr] at hcount
        have hlength : all.length = (all.map (observeAddress draft.options)).length :=
          (List.length_map _).symm
        change [observation _ (countJson all.length) _, _] = _
        rw [hcount, hlength]
        rfl
      · exact fun _ => (by decide : PhaseName.dns ∉ [PhaseName.tls, .http, .redirects])

theorem observeTcp_agrees (hdraft : draft.outline = resolvedLedger) (permitted : List SocketAddr) :
    Prog.Triple (fun s => connection s.tracker.probes = none ∧ Agrees draft s)
      (observeTcp (liveBackend env) permitted draft)
      (fun r t => (connection t.tracker.probes).isSome ∧ Agrees r.1 t) Agrees := by
  rintro s ⟨hnone, hs⟩
  unfold observeTcp
  rw [instant_bind, Prog.bind_apply, Prog.attempt_apply]
  rcases hr : (liveBackend env).connectFirst permitted draft.options s.tick with
    ⟨error | address, t⟩
  · apply Testified.fail hs
    · exact kept_of_outline hdraft (testimony_resolved rfl rfl rfl rfl)
    · rfl
    · rfl
  · obtain ⟨record, hrecord, hdestination⟩ := connectFirst_connection (s := s.tick) hnone hr
    refine ⟨Option.isSome_iff_exists.mpr ⟨record, hrecord⟩, ?_⟩
    apply Testified.record hs
    · exact kept_of_outline hdraft (testimony_resolved rfl rfl rfl rfl)
    · rfl
    · rfl
    · change [_] = (connection t.tracker.probes).toList.map _
      rw [hrecord, ← hdestination]
      rfl
    · exact fun _ => (by decide : PhaseName.tcp ∉ [PhaseName.tls, .http, .redirects])

omit [Crates] in
/-- The connection stays the first one. -/
theorem connection_of_leads {s t : Session (World env)} {e : Effect} (h : Leads s e t)
    (hsome : (connection s.tracker.probes).isSome) :
    connection t.tracker.probes = connection s.tracker.probes := by
  rw [h.probes]
  exact connection_append hsome _

theorem observeTls_agrees (hdraft : draft.outline = connectedLedger) (parsed : ParsedTarget)
    (proxy : ResolvedProxy) (address : SocketAddr) :
    Prog.Triple (fun s => (connection s.tracker.probes).isSome ∧ Agrees draft s)
      (observeTls (liveBackend env) parsed proxy address draft)
      (fun d t => (connection t.tracker.probes).isSome ∧ Agrees d t) Agrees := by
  rintro s ⟨hsome, hs⟩
  obtain ⟨e, hleads, -⟩ := observeTls_effect parsed proxy address draft s
  have hconnection := connection_of_leads hleads hsome
  revert hconnection
  unfold observeTls
  rw [instant_bind, Prog.ite_apply]
  split_ifs with hscheme hselected
  · intro hconnection
    refine ⟨hsome, ?_⟩
    apply Testified.record hs
    · exact kept_of_outline hdraft (testimony_connected rfl rfl rfl rfl rfl)
    · rfl
    · rfl
    · rfl
    · intro hpassed
      cases hpassed
  · intro hconnection
    refine ⟨hsome, ?_⟩
    apply Testified.record hs
    · exact kept_of_outline hdraft (testimony_connected rfl rfl rfl rfl rfl)
    · rfl
    · rfl
    · rfl
    · intro hpassed
      cases hpassed
  · rw [Prog.bind_apply, Prog.attempt_apply]
    rcases hr : (liveBackend env).probeTls address parsed.summary.host draft.options.showAddresses
      s.tick with ⟨error | summary, t⟩
    · intro hconnection
      apply Testified.fail hs
      · exact kept_of_outline hdraft (testimony_connected rfl rfl rfl rfl hconnection)
      · rfl
      · rfl
    · intro hconnection
      refine ⟨hconnection ▸ hsome, ?_⟩
      apply Testified.secure hs
      · exact kept_of_outline hdraft (testimony_connected rfl rfl rfl rfl hconnection)
      · exact hdraft
      · rfl
      · rfl

theorem observeHttp_agrees {tls : PhaseStatus} (hdraft : draft.outline = requestedLedger tls)
    (parsed : ParsedTarget) (proxy : ResolvedProxy) (address : SocketAddr) :
    Prog.Triple (fun s => (connection s.tracker.probes).isSome ∧ Agrees draft s)
      (observeHttp (liveBackend env) parsed proxy address draft) Agrees Agrees := by
  rintro s ⟨hsome, hs⟩
  unfold observeHttp
  rw [instant_bind, Prog.bind_apply, Prog.attempt_apply]
  obtain ⟨e, hleads, -⟩ := runHttp_effect parsed.url proxy address draft.options s.tick
  rcases hr : (liveBackend env).runHttp parsed.url proxy address draft.options s.tick with
    ⟨error | ⟨hops, failure⟩, t⟩
  · have hconnection : connection t.tracker.probes = connection s.tracker.probes := by
      change runHttp parsed.url proxy address draft.options s.tick = _ at hr
      rw [hr] at hleads
      exact connection_of_leads ((leads_tick s).trans hleads) hsome
    apply Testified.fail hs
    · apply kept_of_outline hdraft
      exact testimony_requested (a := draft.sections s.tracker.probes)
        (b := draft.sections t.tracker.probes) rfl rfl rfl rfl hconnection rfl tls
    · rfl
    · rfl
  · change runHttp parsed.url proxy address draft.options s.tick = _ at hr
    rw [hr] at hleads
    have hconnection : connection t.tracker.probes = connection s.tracker.probes :=
      connection_of_leads ((leads_tick s).trans hleads) hsome
    change Testified _ (((draft.record _).record _).record _).phases
    rw [phases_record₃]
    apply Testified.answer hs
    · apply kept_of_outline hdraft
      exact testimony_requested (a := draft.sections s.tracker.probes)
        (b := ({ draft with http := hops } : Draft).sections t.tracker.probes) rfl rfl rfl rfl
        hconnection rfl tls
    · exact hdraft
    · rfl
    · exact (continuous_of_runHttp hr).nonempty

omit [Crates] in
/-- No connection is recorded when connections begin. -/
theorem connection_of_resolved {tlsDue : Bool} {s : Session (World env)}
    (h : At tlsDue .resolved s) : connection s.tracker.probes = none := by
  rw [← Option.not_isSome_iff_eq_none, connection_isSome]
  intro hmem
  have hpast : probeState tlsDue s.tracker.probes ∈ past .tcp := past_of_letter_mem rfl hmem
  rw [show probeState tlsDue s.tracker.probes = .resolved from h] at hpast
  revert hpast
  decide

/-- All stages, from the phases before them. -/
theorem observeAll_agrees {tlsDue : Bool} (hdraft : draft.outline = openedLedger)
    {parsed : ParsedTarget} {proxy : ResolvedProxy}
    (hdue : tlsDue = true ↔ TlsProbed parsed proxy) :
    Prog.Triple (fun s => At tlsDue .start s ∧ Agrees draft s)
      (observeAll (liveBackend env) parsed proxy draft) Agrees Agrees := by
  unfold observeAll
  apply ((observeDns_fits hdraft proxy).along (observeDns_agrees hdraft proxy)).bind
  rintro ⟨d₁, permitted⟩ s ⟨⟨hdraft₁, hs⟩, hagrees⟩
  refine (((observeTcp_fits hdraft₁ permitted).along (observeTcp_agrees hdraft₁ permitted)).bind
    ?_) s ⟨hs, connection_of_resolved hs, hagrees⟩
  rintro ⟨d₂, address⟩ s ⟨⟨hdraft₂, hs⟩, hagrees⟩
  refine (((observeTls_fits hdraft₂ hdue address).along
    (observeTls_agrees hdraft₂ parsed proxy address)).bind ?_) s ⟨hs, hagrees⟩
  rintro d₃ s ⟨⟨⟨tls, -, hdraft₃⟩, -⟩, hagrees⟩
  exact observeHttp_agrees hdraft₃ parsed proxy address s hagrees

theorem finalized_sections (run : Except Draft Draft × Session (World env)) :
    (finalized run).1.sections = (settle run.1).sections run.2.tracker.probes := rfl

theorem Opening.testified {spec : InspectSpec} (o : Opening env.envVar spec) :
    Testified (o.outcome (liveBackend env) env.wallClock (World.start env)).1.sections
      (o.outcome (liveBackend env) env.wallClock (World.start env)).1.phases := by
  have hopened : (o.draft env.wallClock (World.start env)).phases.map Phase.outline =
      openedLedger := rfl
  have hdue : decide (TlsProbed o.parsed o.proxy) = true ↔ TlsProbed o.parsed o.proxy :=
    decide_eq_true_iff
  have hagrees : Agrees (o.draft env.wallClock (World.start env))
      (openingSession spec.options (World.start env)) := by
    constructor
    · intro phase hphase
      rcases List.mem_pair.mp hphase with rfl | rfl
      · rfl
      · rfl
    · rw [hopened]
      exact iff_of_false Bool.false_ne_true (by decide)
    · rw [hopened]
      exact iff_of_false (not_not.mpr rfl) (by decide)
    · rw [hopened]
      exact fun hfollowed => absurd hfollowed (by decide)
  have hrun := settle_of_post (observeAll_agrees hopened hdue
    (openingSession spec.options (World.start env)) ⟨rfl, hagrees⟩)
  rw [Opening.outcome, finalized_sections, finalized_phases]
  exact hrun

/-- The phases of a report testify to its other sections. -/
theorem inspect_testified {spec : InspectSpec} {report : Report} {w : World env}
    (h : inspect env spec = (.ok report, w)) : Testified report.sections report.phases := by
  obtain ⟨o, ho⟩ := inspectWithBackend_eq_ok (liveBackend env) h
  have htestified := o.testified
  rwa [ho] at htestified

end

/-- The two hops of the example site. -/
theorem redirect_testified :
    letI := exampleRecordings.crates
    ∃ report w, inspect (.calm exampleRedirect) ⟨"http://example.com/", {}⟩ = (.ok report, w) ∧
      report.http.length = 2 ∧ Testified report.sections report.phases := by
  let := exampleRecordings.crates
  have hrun : Reports (inspect (.calm exampleRedirect) ⟨"http://example.com/", {}⟩)
      fun report _ => report.http.length = 2 := by
    decide +kernel
  obtain ⟨report, w, hrun, htest⟩ := exists_of_reports hrun
  exact ⟨report, w, hrun, of_decide_eq_true htest, inspect_testified hrun⟩

end HopWhy
