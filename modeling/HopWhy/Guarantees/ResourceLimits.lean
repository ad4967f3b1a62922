import Mathlib.Algebra.GroupWithZero.Nat
import HopWhy.Runs.Inspection

/-!
# Resource limits

Upper bounds on what one live run records, reads and keeps. Each effect has a
tally that bounds its records by kind; tallies add up along the run, and the
redirect loop has one for every hop it may still make.
-/

namespace HopWhy

section

def countKind (kind : ProbeKind) (probes : List ProbeRecord) : ℕ :=
  (probes.map ProbeRecord.kind).count kind

theorem countKind_append (kind : ProbeKind) (a b : List ProbeRecord) :
    countKind kind (a ++ b) = countKind kind a + countKind kind b := by
  rw [countKind, List.map_append, List.count_append]
  rfl

/-- Upper bounds for the records of an effect by kind, and for its hops. -/
structure Tally (dns tcp tls http hops : ℕ) (e : Effect) : Prop where
  dns : countKind .dnsLookup e.probes ≤ dns
  tcp : countKind .tcpConnect e.probes ≤ tcp
  tls : countKind .tlsHandshake e.probes ≤ tls
  http : countKind .httpRequest e.probes ≤ http
  hops : e.hops.length ≤ hops

theorem tally_none : Tally 0 0 0 0 0 .none := by
  constructor <;> exact le_refl 0

theorem Tally.append {d t l h n d' t' l' h' n' : ℕ} {a b : Effect} (ha : Tally d t l h n a)
    (hb : Tally d' t' l' h' n' b) :
    Tally (d + d') (t + t') (l + l') (h + h') (n + n') (a ++ b) where
  dns := by
    rw [Effect.probes_append, countKind_append]
    exact Nat.add_le_add ha.dns hb.dns
  tcp := by
    rw [Effect.probes_append, countKind_append]
    exact Nat.add_le_add ha.tcp hb.tcp
  tls := by
    rw [Effect.probes_append, countKind_append]
    exact Nat.add_le_add ha.tls hb.tls
  http := by
    rw [Effect.probes_append, countKind_append]
    exact Nat.add_le_add ha.http hb.http
  hops := by
    rw [Effect.hops_append, List.length_append]
    exact Nat.add_le_add ha.hops hb.hops

theorem Tally.mono {d t l h n d' t' l' h' n' : ℕ} {e : Effect} (he : Tally d t l h n e)
    (hd : d ≤ d') (ht : t ≤ t') (hl : l ≤ l') (hh : h ≤ h') (hn : n ≤ n') :
    Tally d' t' l' h' n' e :=
  ⟨he.dns.trans hd, he.tcp.trans ht, he.tls.trans hl, he.http.trans hh, he.hops.trans hn⟩

theorem countKind_singleton (kind : ProbeKind) (record : ProbeRecord) :
    countKind kind [record] = if record.kind = kind then 1 else 0 := by
  simp [countKind, List.count_singleton]

/-- One record counts for its own kind. -/
theorem tally_record {e : Effect} {record : ProbeRecord} (hprobes : e.probes = [record])
    (hhops : e.hops = []) :
    Tally (if record.kind = .dnsLookup then 1 else 0) (if record.kind = .tcpConnect then 1 else 0)
      (if record.kind = .tlsHandshake then 1 else 0) (if record.kind = .httpRequest then 1 else 0)
      0 e := by
  constructor
  case hops => rw [hhops, List.length_nil]
  all_goals rw [hprobes, countKind_singleton]

theorem tally_unrecorded {e : Effect} (hprobes : e.probes = []) (hhops : e.hops = []) :
    Tally 0 0 0 0 0 e := by
  constructor
  case hops => rw [hhops, List.length_nil]
  all_goals rw [hprobes]; exact le_refl 0

variable [Crates] {options : InspectionOptions} {env : Environment}

omit [Crates] in
theorem LookupEffect.tally {destination : String} {e : Effect}
    {r : AppResult (List SocketAddr × List SocketAddr)}
    (h : LookupEffect options destination e r) : Tally 1 0 0 0 0 e := by
  cases h with
  | refused => exact tally_none.mono (Nat.zero_le 1) le_rfl le_rfl le_rfl le_rfl
  | asked answer record kind asks =>
    have := tally_record (e := .probed [.lookup destination answer] record) rfl rfl
    simpa [kind] using this

theorem ConnectEffect.tally {addresses : List SocketAddr} {e : Effect} {r : AppResult SocketAddr}
    (h : ConnectEffect options addresses e r) : Tally 0 addresses.length 0 0 0 e := by
  induction h with
  | exhausted => exact tally_none
  | refused => exact tally_none.mono le_rfl (Nat.zero_le _) le_rfl le_rfl le_rfl
  | connected address rest timeout record kind names =>
    have := tally_record (e := .probed [.connect address timeout true] record) rfl rfl
    simp only [kind] at this
    exact this.mono le_rfl (by simp) le_rfl le_rfl le_rfl
  | failed address rest timeout record kind names later ih =>
    have := tally_record (e := .probed [.connect address timeout false] record) rfl rfl
    simp only [kind] at this
    exact (this.append ih).mono le_rfl (by rw [List.length_cons]; simp [Nat.add_comm]) le_rfl
      le_rfl le_rfl

theorem ReachEffect.tally {proxy : ResolvedProxy} {e : Effect} {r : Option SocketAddr}
    (h : ReachEffect options proxy e r) : Tally 1 options.maxAddresses.toNat 0 0 0 e := by
  cases h with
  | unresolved lookup => exact lookup.tally.mono le_rfl (Nat.zero_le _) le_rfl le_rfl le_rfl
  | denied lookup => exact lookup.tally.mono le_rfl (Nat.zero_le _) le_rfl le_rfl le_rfl
  | attempted lookup connect =>
    refine (lookup.tally.append connect.tally).mono le_rfl ?_ le_rfl le_rfl le_rfl
    rw [Nat.zero_add]
    exact List.length_take_le _ _

theorem TlsEffect.tally {cut : Prop} {address : SocketAddr} {showAddresses : Bool} {e : Effect}
    {r : AppResult TlsSummary} (h : TlsEffect cut address showAddresses e r) :
    Tally 0 0 1 0 0 e := by
  cases h with
  | refused uncut => exact tally_none.mono le_rfl le_rfl (Nat.zero_le 1) le_rfl le_rfl
  | attempted uncut timeout connected rounds record kind names r =>
    have := tally_record (e := .probed (.tlsConnect address timeout connected ::
      List.replicate rounds (.tlsRound timeout)) record) rfl rfl
    simpa [kind] using this
  | abandoned iscut timeout rounds =>
    exact (tally_unrecorded rfl rfl).mono le_rfl le_rfl (Nat.zero_le 1) le_rfl le_rfl

theorem SecureEffect.tally {probed cut : Prop} {address : SocketAddr} {showAddresses : Bool}
    {e : Effect} (h : SecureEffect probed cut address showAddresses e) : Tally 0 0 1 0 0 e := by
  cases h with
  | unprobed h => exact tally_none.mono le_rfl le_rfl (Nat.zero_le 1) le_rfl le_rfl
  | validated h tls => exact tls.tally

theorem ExchangeEffect.tally {served : Prop} {sequence : ℕ} {current : Url}
    {proxy : ResolvedProxy} {address : SocketAddr} {e : Effect} {r : AppResult Exchange}
    (h : ExchangeEffect env served options sequence current proxy address e r) :
    Tally 0 0 0 1 0 e := by
  cases h with
  | refused unserved error => exact tally_none.mono le_rfl le_rfl le_rfl (Nat.zero_le 1) le_rfl
  | failed unserved client pinned reads record kind names error =>
    have := tally_record (e := .probed (.request client options.method current ::
      List.replicate reads (.bodyRead client.timeout)) record) rfl rfl
    simpa [kind] using this
  | finished isserved client pinned reads record kind names response read sampled =>
    have := tally_record (e := ⟨.request client options.method current ::
      List.replicate reads (.bodyRead client.timeout), [record], [],
      (read.take options.maxBodyBytes.toNat).length⟩) rfl rfl
    simpa [kind] using this

/-- Only a redirect looks an endpoint up. -/
theorem EndpointEffect.tally {i : ℕ} {b : HopState} {e : Effect}
    {r : AppResult (ResolvedProxy × SocketAddr)} (h : EndpointEffect env options i b e r) :
    Tally (min i 1) 0 0 0 0 e := by
  cases h with
  | first => exact tally_none
  | later i b authorized =>
    have hone : min (i + 1) 1 = 1 := by omega
    rw [hone]
    cases authorized with
    | denied error => exact tally_none.mono (Nat.zero_le 1) le_rfl le_rfl le_rfl le_rfl
    | looked parsed proxy accepts selects lookup => exact lookup.tally

theorem RoundEffect.tally {i : ℕ} {b : HopState} {e : Effect}
    {r : AppResult (HopState ⊕ HttpResult)} (h : RoundEffect env options i b e r) :
    Tally (min i 1) 0 0 1 1 e := by
  cases h with
  | stopped endpoint =>
    exact endpoint.tally.mono le_rfl le_rfl le_rfl (Nat.zero_le 1) (Nat.zero_le 1)
  | lost endpoint request =>
    exact (endpoint.tally.append request.tally).mono le_rfl le_rfl le_rfl le_rfl (Nat.zero_le 1)
  | finished endpoint request =>
    have hhop : ∀ hop, Tally 0 0 0 0 1 (.ofHop hop) := fun _ =>
      ⟨le_rfl, le_rfl, le_rfl, le_rfl, le_rfl⟩
    exact ((endpoint.tally.append request.tally).append (hhop _)).mono le_rfl le_rfl le_rfl
      le_rfl le_rfl

/-- From hop `i` on there are at most as many hops left as the limit allows. -/
theorem ChainEffect.tally {i : ℕ} {b : HopState} {e : Effect} {r : AppResult HttpResult}
    (h : ChainEffect env options i b e r) (hi : i ≤ options.maxRedirects.toNat) :
    Tally (options.maxRedirects.toNat + 1 - max i 1) 0 0 (options.maxRedirects.toNat + 1 - i)
      (options.maxRedirects.toNat + 1 - i) e := by
  induction h with
  | lost round => exact round.tally.mono (by omega) le_rfl le_rfl (by omega) (by omega)
  | ended round => exact round.tally.mono (by omega) le_rfl le_rfl (by omega) (by omega)
  | followed round later ih =>
    have hlt := round.lt_limit
    exact (round.tally.append (ih (by omega))).mono (by omega) le_rfl le_rfl (by omega) (by omega)

theorem InspectionEffect.tally {parsed : ParsedTarget} {proxy : ResolvedProxy} {cut : Prop}
    {e : Effect} {r : Option (AppResult HttpResult)}
    (h : InspectionEffect env options parsed proxy cut e r) :
    Tally (options.maxRedirects.toNat + 1) options.maxAddresses.toNat 1
      (options.maxRedirects.toNat + 1) (options.maxRedirects.toNat + 1) e := by
  cases h with
  | unreached reach uncut =>
    exact reach.tally.mono (by omega) le_rfl (by omega) (by omega) (by omega)
  | unprotected reach probed tls =>
    exact (reach.tally.append tls.tally).mono (by omega) (by omega) (by omega) (by omega)
      (by omega)
  | requested reach tls uncut chain =>
    exact ((reach.tally.append tls.tally).append (chain.tally (Nat.zero_le _))).mono (by omega)
      (by omega) (by omega) (by omega) (by omega)

/-- The sample of a hop: the beginning of the body of a response, within the limit. -/
structure SampleOf (env : Environment) (options : InspectionOptions) (hop : HttpHop)
    (sample : List UInt8) : Prop where
  served : ∃ n response read, env.respond n = .ok response ∧
    bodySample (readLimit options) response.body = some read ∧
    sample = read.take options.maxBodyBytes.toNat
  limit : sample.length ≤ options.maxBodyBytes.toNat
  counted : hop.returnedBodyBytes.toNat = sample.length
  digest : hop.bodySampleSha256 = sha256Hex sample
  shown : hop.bodySampleBase64 =
    if options.includeBodySample then some (Text.base64 sample) else none

/-- The hop shows a sample as its options ask. -/
def CountsSample (env : Environment) (options : InspectionOptions) (hop : HttpHop) : Prop :=
  ∃ sample, SampleOf env options hop sample

def sampledOctets (hops : List HttpHop) : ℕ := (hops.map fun hop => hop.returnedBodyBytes.toNat).sum

/-- The hops of an effect, numbered from `i`, and the octets it counts for them. -/
structure Sampled (env : Environment) (options : InspectionOptions) (i : ℕ) (e : Effect) :
    Prop where
  counts : ∀ hop ∈ e.hops, CountsSample env options hop
  read : e.read = sampledOctets e.hops
  numbered : ∀ j hop, e.hops[j]? = some hop → hop.sequence.toNat = i + j

theorem sampled_of_silent {i : ℕ} {e : Effect} (hhops : e.hops = []) (hread : e.read = 0) :
    Sampled env options i e where
  counts := by simp [hhops]
  read := by rw [hread, hhops]; rfl
  numbered := by simp [hhops]

theorem Sampled.append {i : ℕ} {a b : Effect} (ha : Sampled env options i a)
    (hb : Sampled env options (i + a.hops.length) b) : Sampled env options i (a ++ b) where
  counts := by
    intro hop hhop
    rcases List.mem_append.mp hhop with hhop | hhop
    · exact ha.counts hop hhop
    · exact hb.counts hop hhop
  read := by
    rw [Effect.read_append, ha.read, hb.read, Effect.hops_append]
    simp [sampledOctets]
  numbered := by
    intro j hop hhop
    rw [Effect.hops_append] at hhop
    by_cases hj : j < a.hops.length
    · rw [List.getElem?_append_left hj] at hhop
      exact ha.numbered j hop hhop
    · rw [List.getElem?_append_right (Nat.le_of_not_lt hj)] at hhop
      have := hb.numbered _ hop hhop
      omega

/-- A request counts the octets of the hop it ends in, and none otherwise. -/
theorem ExchangeEffect.sample {served : Prop} {i : ℕ} {current : Url} {proxy : ResolvedProxy}
    {address : SocketAddr} {e : Effect} {r : AppResult Exchange}
    (h : ExchangeEffect env served options i current proxy address e r) :
    ∀ x, r = .ok x → CountsSample env options x.hop ∧
      e.read = x.hop.returnedBodyBytes.toNat ∧ x.hop.sequence = UInt64.ofNat i := by
  have hmax := options.maxBodyBytes.toNat_lt
  cases h with
  | refused unserved error => exact fun x hx => by cases hx
  | failed unserved client pinned reads record kind names error =>
    exact fun x hx => by cases hx
  | finished isserved client pinned reads record kind names response read sampled responded =>
    have hle : (read.take options.maxBodyBytes.toNat).length ≤ options.maxBodyBytes.toNat :=
      List.length_take_le _ _
    have hexact : (UInt64.ofNat (read.take options.maxBodyBytes.toNat).length).toNat =
        (read.take options.maxBodyBytes.toNat).length :=
      UInt64.toNat_ofNat_of_lt' (hle.trans_lt hmax)
    intro x hx
    cases hx
    obtain ⟨n, hrespond⟩ := responded
    exact ⟨⟨_, ⟨n, response, read, hrespond, sampled, rfl⟩, hle, hexact, rfl, rfl⟩,
      hexact.symm, rfl⟩

/-- A round finishes at most its own hop. -/
theorem RoundEffect.sampled {i : ℕ} {b : HopState} {e : Effect}
    {r : AppResult (HopState ⊕ HttpResult)} (h : RoundEffect env options i b e r)
    (hi : i ≤ options.maxRedirects.toNat) : Sampled env options i e := by
  have hmax := options.maxRedirects.toNat_lt
  cases h with
  | stopped endpoint =>
    obtain ⟨hhops, hread⟩ := endpoint.silent
    exact sampled_of_silent hhops hread
  | lost endpoint request =>
    obtain ⟨hhops, hread⟩ := endpoint.silent
    refine sampled_of_silent ?_ ?_
    · rw [Effect.hops_append, hhops, request.silent.1]
      rfl
    · rw [Effect.read_append, hread, request.silent.2 rfl]
  | @finished e₁ e₂ proxy address x served endpoint request =>
    obtain ⟨hhops, hread⟩ := endpoint.silent
    obtain ⟨hcounts, hread', hsequence⟩ := request.sample x rfl
    have hall : (e₁ ++ e₂ ++ Effect.ofHop x.hop).hops = [x.hop] := by
      rw [Effect.hops_append, Effect.hops_append, hhops, request.silent.1]
      rfl
    refine ⟨?_, ?_, ?_⟩
    · rw [hall]
      simpa using hcounts
    · rw [hall, Effect.read_append, Effect.read_append, hread, hread']
      simp [Effect.ofHop, sampledOctets]
    · intro j hop hj
      rw [hall] at hj
      rcases j with _ | j
      · cases hj
        rw [hsequence, UInt64.toNat_ofNat_of_lt' (hi.trans_lt hmax), Nat.add_zero]
      · cases hj

theorem ChainEffect.sampled {i : ℕ} {b : HopState} {e : Effect} {r : AppResult HttpResult}
    (h : ChainEffect env options i b e r) (hi : i ≤ options.maxRedirects.toNat) :
    Sampled env options i e := by
  induction h with
  | lost round => exact round.sampled hi
  | ended round => exact round.sampled hi
  | @followed i b b' e e' r round later ih =>
    have hlt := round.lt_limit
    refine (round.sampled hi).append ?_
    rw [round.length_hops.1 b' rfl]
    exact ih (by omega)

theorem InspectionEffect.sampled {parsed : ParsedTarget} {proxy : ResolvedProxy} {cut : Prop}
    {e : Effect} {r : Option (AppResult HttpResult)}
    (h : InspectionEffect env options parsed proxy cut e r) : Sampled env options 0 e := by
  cases h with
  | unreached reach uncut => exact sampled_of_silent reach.silent.1 reach.silent.2
  | unprotected reach probed tls =>
    refine (sampled_of_silent reach.silent.1 reach.silent.2).append ?_
    exact sampled_of_silent tls.silent.1 tls.silent.2
  | @requested e₁ e₂ e₃ address r reach tls uncut chain =>
    have hsilent : (e₁ ++ e₂).hops = [] ∧ (e₁ ++ e₂).read = 0 := by
      rw [Effect.hops_append, Effect.read_append, reach.silent.1, tls.silent.1, reach.silent.2,
        tls.silent.2]
      exact ⟨rfl, rfl⟩
    refine (sampled_of_silent hsilent.1 hsilent.2).append ?_
    rw [hsilent.1]
    exact chain.sampled (Nat.zero_le _)

theorem sampledOctets_le {hops : List HttpHop} (h : ∀ hop ∈ hops, CountsSample env options hop) :
    sampledOctets hops ≤ hops.length * options.maxBodyBytes.toNat := by
  induction hops with
  | nil => exact Nat.zero_le _
  | cons hop hops ih =>
    obtain ⟨sample, hsample⟩ := h hop List.mem_cons_self
    have hcounted := hsample.counted
    have hle := hsample.limit
    have := ih fun hop hhop => h hop (List.mem_cons_of_mem _ hhop)
    simp only [sampledOctets, List.map_cons, List.sum_cons, List.length_cons] at this ⊢
    rw [Nat.add_mul]
    omega

/-- The laws of a report's counters. -/
structure WithinLimits {env : Environment} (options : InspectionOptions) (report : Report)
    (w : World env) : Prop where
  numbered : ∀ i p, report.probes[i]? = some p → p.sequence.toNat = i + 1
  used : report.usage.probesUsed.toNat = report.probes.length
  probes : report.probes.length ≤ options.maxProbes.toNat
  connects : countKind .tcpConnect report.probes ≤ options.maxAddresses.toNat
  handshakes : countKind .tlsHandshake report.probes ≤ 1
  lookups : countKind .dnsLookup report.probes ≤ options.maxRedirects.toNat + 1
  requests : countKind .httpRequest report.probes ≤ options.maxRedirects.toNat + 1
  hops : report.http.length ≤ options.maxRedirects.toNat + 1
  hop_numbered : ∀ (i : ℕ) (hop : HttpHop), report.http[i]? = some hop → hop.sequence.toNat = i
  samples : ∀ hop ∈ report.http, CountsSample env options hop
  /-- The counter of body octets is the sum over the finished hops: nothing saturates. -/
  read : report.usage.responseBytesRead.toNat = sampledOctets w.completed
  read_le : report.usage.responseBytesRead.toNat ≤
    (options.maxRedirects.toNat + 1) * options.maxBodyBytes.toNat

/-- The hops of a report are the finished hops of the run, or none. -/
theorem Concluded.http_eq {parsed : ParsedTarget} {proxy : ResolvedProxy} {cut : Prop}
    {e : Effect} {r : Option (AppResult HttpResult)} {d : Draft} (h : Concluded r d)
    (heffect : InspectionEffect env options parsed proxy cut e r) :
    d.http = [] ∨ d.http = e.hops := by
  cases h with
  | unrequested http => exact Or.inl http
  | lost http phases => exact Or.inl http
  | reached http phases => exact Or.inr (http.trans heffect.hops_eq)

variable {env : Environment}

/-- The hops of a report: as many as the redirect limit allows, numbered, each with a sample. -/
theorem hops_of_inspect {spec : InspectSpec} {report : Report} {w : World env}
    (h : inspect env spec = (.ok report, w)) :
    report.http.length ≤ spec.options.maxRedirects.toNat + 1 ∧
      (∀ (i : ℕ) (hop : HttpHop), report.http[i]? = some hop → hop.sequence.toNat = i) ∧
      ∀ hop ∈ report.http, CountsSample env spec.options hop := by
  obtain ⟨o, e, r, d, heffect, -, hconcluded, hhttp, -⟩ := inspect_effect h
  rw [hhttp]
  rcases hconcluded.http_eq heffect with hnone | hall
  · rw [hnone]
    exact ⟨Nat.zero_le _, fun i hop h => by simp at h, fun hop h => by simp at h⟩
  · rw [hall]
    refine ⟨heffect.tally.hops, fun i hop h => ?_, heffect.sampled.counts⟩
    simpa using heffect.sampled.numbered i hop h

theorem inspect_withinLimits {spec : InspectSpec} {report : Report} {w : World env}
    (h : inspect env spec = (.ok report, w)) : WithinLimits spec.options report w := by
  obtain ⟨o, e, r, d, heffect, hshows, hconcluded, hhttp, -⟩ := inspect_effect h
  have hvalid := validateOptions_eq_ok o.valid
  have htally := heffect.tally
  have hsampled := heffect.sampled
  have hmax := spec.options.maxProbes.toNat_lt
  have hlimit := hshows.limit
  have hle : sampledOctets e.hops ≤
      (spec.options.maxRedirects.toNat + 1) * spec.options.maxBodyBytes.toNat :=
    (sampledOctets_le hsampled.counts).trans (Nat.mul_le_mul_right _ htally.hops)
  have hsmall : sampledOctets e.hops < 2 ^ 64 := by
    have := Nat.mul_le_mul (Nat.add_le_add_right hvalid.redirects 1) hvalid.body
    omega
  have hread : report.usage.responseBytesRead.toNat = sampledOctets e.hops := by
    rw [hshows.read, hsampled.read]
    omega
  obtain ⟨hhops, hnumbered, hsamples⟩ := hops_of_inspect h
  exact {
    numbered := by rw [hshows.probes]; exact hshows.numbered
    used := by rw [hshows.probesUsed, hshows.probes, toNat_saturatingU32 (by omega)]
    probes := by rw [hshows.probes]; exact hlimit
    connects := by rw [hshows.probes]; exact htally.tcp
    handshakes := by rw [hshows.probes]; exact htally.tls
    lookups := by rw [hshows.probes]; exact htally.dns
    requests := by rw [hshows.probes]; exact htally.http
    hops := hhops
    hop_numbered := hnumbered
    samples := hsamples
    read := by rw [hshows.completed]; exact hread
    read_le := by rw [hread]; exact hle }

end

/-- A redirect and its target, within the default limits. -/
theorem redirect_withinLimits :
    letI := exampleRecordings.crates
    ∃ report w, inspect (.calm exampleRedirect) ⟨"http://example.com/", {}⟩ = (.ok report, w) ∧
      WithinLimits {} report w ∧ report.http.length = 2 := by
  let := exampleRecordings.crates
  have hrun : Reports (inspect (.calm exampleRedirect) ⟨"http://example.com/", {}⟩)
      fun report _ => report.http.length = 2 := by decide +kernel
  obtain ⟨report, w, hrun, htest⟩ := exists_of_reports hrun
  exact ⟨report, w, hrun, inspect_withinLimits hrun, of_decide_eq_true htest⟩

end HopWhy
