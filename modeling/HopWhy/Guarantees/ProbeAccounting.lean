import HopWhy.Runs.Inspection

/-!
# Accounting for network calls

The list of probes against the network calls of a live run. Every effect of the
stages is accounted for but one: a TLS handshake that the deadline cuts leaves
its call without a probe.
-/

namespace HopWhy

/-- The kind and destination under which a call belongs in the list of probes.
A call of the resolver is a lookup also where the text answers it; the rounds of
a handshake and the reads of a body belong to the call that began them. -/
def probeOf [Crates] (options : InspectionOptions) : Interaction → Option (ProbeKind × String)
  | .lookup destination _ => some (.dnsLookup, destination)
  | .connect address _ _ => some (.tcpConnect, addressForReport address options.showAddresses)
  | .tlsConnect address _ _ => some (.tlsHandshake, addressForReport address options.showAddresses)
  | .request _ _ url => some (.httpRequest, redactUrl url options.showQueryValues)
  | .clock | .tlsRound _ | .bodyRead _ => none

def ProbeRecord.key (p : ProbeRecord) : ProbeKind × String := (p.kind, p.destination)

section

variable [Crates] {options : InspectionOptions}

/-- The calls that need a probe, in order. -/
def actions (options : InspectionOptions) (calls : List Interaction) : List (ProbeKind × String) :=
  calls.filterMap (probeOf options)

/-- Each network action appears once in the list of probes, and they are counted. -/
structure AccountsFor {env : Environment} (options : InspectionOptions) (report : Report)
    (w : World env) : Prop where
  probes : actions options w.calls = report.probes.map ProbeRecord.key
  used : report.usage.probesUsed.toNat = (actions options w.calls).length

def Effect.Accounted (options : InspectionOptions) (e : Effect) : Prop :=
  actions options e.calls = e.probes.map ProbeRecord.key

theorem Effect.accounted_none : Effect.none.Accounted options := rfl

theorem Effect.Accounted.append {a b : Effect} (ha : a.Accounted options)
    (hb : b.Accounted options) : (a ++ b).Accounted options := by
  unfold Effect.Accounted actions at ha hb ⊢
  rw [Effect.calls_append, Effect.probes_append, List.filterMap_append, List.map_append, ha, hb]

@[simp] theorem actions_cons (i : Interaction) (calls : List Interaction) :
    actions options (i :: calls) = (probeOf options i).toList ++ actions options calls := by
  unfold actions
  rcases h : probeOf options i with _ | key
  · rw [List.filterMap_cons_none h]
    rfl
  · rw [List.filterMap_cons_some h]
    rfl

@[simp] theorem actions_nil : actions options [] = [] := rfl

theorem actions_replicate {i : Interaction} (h : probeOf options i = none) (n : ℕ) :
    actions options (List.replicate n i) = [] := by
  unfold actions
  rw [List.filterMap_replicate_of_none h]

/-- A call with its record, and follow-up calls that need none. -/
theorem accounted_probed {call : Interaction} {more : List Interaction} {record : ProbeRecord}
    (h : probeOf options call = some record.key) (hmore : actions options more = []) :
    (Effect.probed (call :: more) record).Accounted options := by
  unfold Effect.Accounted Effect.probed
  rw [actions_cons, h, hmore]
  rfl

theorem LookupEffect.accounted {destination : String} {e : Effect}
    {r : AppResult (List SocketAddr × List SocketAddr)}
    (h : LookupEffect options destination e r) : e.Accounted options := by
  cases h with
  | refused => exact Effect.accounted_none
  | asked answer record kind asks =>
    exact accounted_probed (by rw [ProbeRecord.key, kind, asks]; rfl) rfl

theorem ConnectEffect.accounted {addresses : List SocketAddr} {e : Effect}
    {r : AppResult SocketAddr} (h : ConnectEffect options addresses e r) :
    e.Accounted options := by
  induction h with
  | exhausted => exact Effect.accounted_none
  | refused => exact Effect.accounted_none
  | connected address rest timeout record kind names =>
    exact accounted_probed (by rw [ProbeRecord.key, kind, names]; rfl) rfl
  | failed address rest timeout record kind names later ih =>
    exact (accounted_probed (by rw [ProbeRecord.key, kind, names]; rfl) rfl).append ih

theorem ReachEffect.accounted {proxy : ResolvedProxy} {e : Effect} {r : Option SocketAddr}
    (h : ReachEffect options proxy e r) : e.Accounted options := by
  cases h with
  | unresolved lookup => exact lookup.accounted
  | denied lookup => exact lookup.accounted
  | attempted lookup connect => exact lookup.accounted.append connect.accounted

/-- The records of a TLS stage and its actions agree unless it is cut; then one
action has no record. -/
theorem TlsEffect.accounted_or {cut : Prop} {address : SocketAddr} {e : Effect}
    {r : AppResult TlsSummary} (h : TlsEffect cut address options.showAddresses e r) :
    (¬ cut ∧ e.Accounted options) ∨
      (cut ∧ e.probes = [] ∧ (actions options e.calls).length = 1) := by
  cases h with
  | refused uncut => exact Or.inl ⟨uncut, Effect.accounted_none⟩
  | attempted uncut timeout connected rounds record kind names r =>
    exact Or.inl ⟨uncut, accounted_probed (by rw [ProbeRecord.key, kind, names]; rfl)
      (actions_replicate rfl rounds)⟩
  | abandoned iscut timeout rounds =>
    refine Or.inr ⟨iscut, rfl, ?_⟩
    rw [Effect.ofCalls, actions_cons, actions_replicate rfl]
    rfl

theorem SecureEffect.accounted {probed cut : Prop} {address : SocketAddr} {e : Effect}
    (h : SecureEffect probed cut address options.showAddresses e) : e.Accounted options := by
  cases h with
  | unprobed h => exact Effect.accounted_none
  | validated h tls =>
    rcases tls.accounted_or with ⟨-, haccounted⟩ | ⟨hcut, -⟩
    · exact haccounted
    · exact absurd hcut tls.uncut_of_ok

theorem ExchangeEffect.accounted {served : Prop} {sequence : ℕ} {current : Url}
    {proxy : ResolvedProxy} {address : SocketAddr} {e : Effect} {r : AppResult Exchange}
    (h : ExchangeEffect env served options sequence current proxy address e r) :
    e.Accounted options := by
  cases h with
  | refused unserved error => exact Effect.accounted_none
  | failed unserved client pinned reads record kind names error =>
    exact accounted_probed (by rw [ProbeRecord.key, kind, names]; rfl)
      (actions_replicate rfl reads)
  | finished isserved client pinned reads record kind names response read sampled =>
    exact accounted_probed (by rw [ProbeRecord.key, kind, names]; rfl)
      (actions_replicate rfl reads)

theorem EndpointEffect.accounted {i : ℕ} {b : HopState} {e : Effect}
    {r : AppResult (ResolvedProxy × SocketAddr)} (h : EndpointEffect env options i b e r) :
    e.Accounted options := by
  cases h with
  | first => exact Effect.accounted_none
  | later i b authorized =>
    cases authorized with
    | denied error => exact Effect.accounted_none
    | looked parsed proxy accepts selects lookup => exact lookup.accounted

theorem RoundEffect.accounted {i : ℕ} {b : HopState} {e : Effect}
    {r : AppResult (HopState ⊕ HttpResult)} (h : RoundEffect env options i b e r) :
    e.Accounted options := by
  cases h with
  | stopped endpoint => exact endpoint.accounted
  | lost endpoint request => exact endpoint.accounted.append request.accounted
  | finished endpoint request =>
    exact (endpoint.accounted.append request.accounted).append rfl

theorem ChainEffect.accounted {i : ℕ} {b : HopState} {e : Effect} {r : AppResult HttpResult}
    (h : ChainEffect env options i b e r) : e.Accounted options := by
  induction h with
  | lost round => exact round.accounted
  | ended round => exact round.accounted
  | followed round later ih => exact round.accounted.append ih

theorem InspectionEffect.accounted_iff {parsed : ParsedTarget} {proxy : ResolvedProxy}
    {cut : Prop} {e : Effect} {r : Option (AppResult HttpResult)}
    (h : InspectionEffect env options parsed proxy cut e r) :
    e.Accounted options ↔ ¬ cut := by
  cases h with
  | unreached reach uncut => exact iff_of_true reach.accounted uncut
  | unprotected reach probed tls =>
    rcases tls.accounted_or with ⟨huncut, haccounted⟩ | ⟨hcut, hprobes, hactions⟩
    · exact iff_of_true (reach.accounted.append haccounted) huncut
    · refine iff_of_false (fun haccounted => ?_) (not_not.mpr hcut)
      -- The cut handshake is one action more than there are records.
      have hlength := congrArg List.length haccounted
      have hreach := congrArg List.length reach.accounted
      unfold actions at hlength hactions hreach
      simp only [Effect.calls_append, Effect.probes_append, hprobes, List.filterMap_append,
        List.length_append, List.append_nil, hactions, hreach] at hlength
      omega
  | requested reach tls uncut chain =>
    exact iff_of_true ((reach.accounted.append tls.accounted).append chain.accounted) uncut

variable {env : Environment}

theorem Shows.accountsFor_iff {e : Effect} {report : Report} {w : World env}
    (h : Shows options e report w) : AccountsFor options report w ↔ e.Accounted options := by
  have hmax := options.maxProbes.toNat_lt
  have hlimit := h.limit
  constructor
  · intro haccounts
    have hprobes := haccounts.probes
    rwa [h.calls, h.probes] at hprobes
  · intro haccounted
    refine ⟨by rw [h.calls, h.probes]; exact haccounted, ?_⟩
    rw [h.calls, haccounted, List.length_map, h.probesUsed, toNat_saturatingU32 (by omega)]

/-- The probes of a live run account for its network calls unless the deadline
cuts the TLS handshake. -/
theorem inspect_accountsFor_iff_uncut {spec : InspectSpec} {report : Report} {w : World env}
    (h : inspect env spec = (.ok report, w)) :
    AccountsFor spec.options report w ↔ ¬ ∃ o : Opening env.envVar spec, o.Cut env := by
  obtain ⟨o, e, r, d, heffect, hshows, -⟩ := inspect_effect h
  have hcut : (∃ o : Opening env.envVar spec, o.Cut env) ↔ o.Cut env :=
    ⟨fun ⟨o', ho'⟩ => o'.eq o ▸ ho', fun ho => ⟨o, ho⟩⟩
  rw [hshows.accountsFor_iff, heffect.accounted_iff, hcut]

end

/-- A clock that jumps while the handshake is going on. -/
def stallingHandshake : Environment :=
  .stalling (.calm fun _ => .ok (.bare 200 [])) 24

theorem stallingHandshake_leaves_probe_out :
    letI := exampleRecordings.crates
    ∃ report w, inspect stallingHandshake ⟨"https://example.com/", {}⟩ = (.ok report, w) ∧
      ¬ AccountsFor {} report w := by
  let := exampleRecordings.crates
  have hrun : Reports (inspect stallingHandshake ⟨"https://example.com/", {}⟩)
      fun report w => report.usage.probesUsed.toNat = 2 ∧ (actions {} w.calls).length = 3 := by
    decide +kernel
  obtain ⟨report, w, hrun, htest⟩ := exists_of_reports hrun
  obtain ⟨hused, hactions⟩ := of_decide_eq_true htest
  refine ⟨report, w, hrun, fun h => ?_⟩
  have := h.used
  omega

/-- The same spec with a clock that stands still. -/
theorem calm_accountsFor :
    letI := exampleRecordings.crates
    ∃ report w, inspect (.calm fun _ => .ok (.bare 200 [])) ⟨"https://example.com/", {}⟩ =
        (.ok report, w) ∧
      (AccountsFor {} report w ↔ ¬ ∃ o : Opening (fun _ => none) ⟨"https://example.com/", {}⟩,
        o.Cut (.calm fun _ => .ok (.bare 200 []))) := by
  let := exampleRecordings.crates
  have hrun : Reports (inspect (.calm fun _ => .ok (.bare 200 [])) ⟨"https://example.com/", {}⟩)
      fun report _ => report.usage.probesUsed.toNat = 4 := by decide +kernel
  obtain ⟨report, w, hrun, -⟩ := exists_of_reports hrun
  exact ⟨report, w, hrun, inspect_accountsFor_iff_uncut hrun⟩

end HopWhy
