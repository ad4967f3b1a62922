import HopWhy.Library.Trace
import HopWhy.Runs.Inspection

/-!
# Address policy over whole runs

Every connection and request of a live run is justified by the latest lookup
before it: the lookup was made for the connect host of that hop, its answer has
the address, and the policy permits the address.
-/

namespace HopWhy

open Trace (Guarded latest)

/-- What a lookup asked for and what it was told. -/
def lookupOf : Interaction → Option (String × Option (List SocketAddr))
  | .lookup destination answer => some (destination, answer)
  | _ => none

/-- The address that a call contacts. -/
def contactOf : Interaction → Option SocketAddr
  | .connect address _ _ => some address
  | .tlsConnect address _ _ => some address
  | .request client _ _ => some client.pinnedAddress
  | _ => none

section

variable [Crates]

/-- The latest lookup was for the connect host of the URL, and its answer has the
address, which the policy permits. A literal connect host stands for itself. -/
structure Cleared (envVar : String → Option String) (options : InspectionOptions) (url : Url)
    (proxy : ResolvedProxy) (history : List Interaction) (address : SocketAddr) : Prop where
  selects : resolveProxy envVar url options = .ok proxy
  direct : proxy.url = none → proxy.connectHost = url.hostStr.getD "" ∧
    proxy.connectPort = url.portOrKnownDefault.getD 0
  lookup : ∃ answer, latest lookupOf history = some (destinationOf proxy, some answer) ∧
    address ∈ answer
  literal : ∀ a, SocketAddr.parse (destinationOf proxy) = some a → address = a
  permitted : isIpPermitted address.ip options.allowPrivate = true

/-- `parse_target` accepted the URL: http or https, with a host, without user information. -/
structure AcceptedUrl (options : InspectionOptions) (url : Url) : Prop where
  accepted : ∃ text parsed, parseTarget text options = .ok parsed ∧
    parsed.url = url.clearFragment
  scheme : url.scheme = "http" ∨ url.scheme = "https"
  host : url.hostStr.isSome
  username : url.username = ""
  password : url.password = none

/-- What justifies a call. Connections belong to the hop of the target `first`. -/
def Justified (envVar : String → Option String) (options : InspectionOptions) (first : Url)
    (history : List Interaction) : Interaction → Prop
  | .connect address _ _ => ∃ proxy, Cleared envVar options first proxy history address
  | .tlsConnect address _ _ => ∃ proxy, Cleared envVar options first proxy history address
  | .request client _ url => AcceptedUrl options url ∧ ∃ proxy,
      Cleared envVar options url.clearFragment proxy history client.pinnedAddress ∧
      Pinned proxy client.pinnedAddress client
  | _ => True

variable {env : Environment} {options : InspectionOptions} {first : Url}
  {history : List Interaction} {proxy : ResolvedProxy}

omit [Crates] in
theorem of_mem_permittedOf {a : SocketAddr} {addresses : List SocketAddr}
    (h : a ∈ permittedOf options addresses) :
    a ∈ addresses ∧ isIpPermitted a.ip options.allowPrivate = true :=
  List.mem_filter.mp (List.mem_of_mem_take h)

/-- A lookup clears the permitted addresses it returns. -/
theorem LookupEffect.cleared {url : Url} {e : Effect} {all permitted : List SocketAddr}
    (h : LookupEffect options (destinationOf proxy) e (.ok (all, permitted)))
    (hselects : resolveProxy env.envVar url options = .ok proxy) (history : List Interaction) :
    ∀ a ∈ permitted, Cleared env.envVar options url proxy (history ++ e.calls) a := by
  generalize hr : (Except.ok (all, permitted) : AppResult _) = r at h
  cases h with
  | refused => cases hr
  | asked answer record kind asks literal =>
    rcases answer with _ | answer
    · cases hr
    · rw [resolutionOf] at hr
      split_ifs at hr
      cases hr
      intro a ha
      obtain ⟨hall, hpermitted⟩ := of_mem_permittedOf ha
      have hlookup : lookupOf (.lookup (destinationOf proxy) (some answer)) =
          some (destinationOf proxy, some answer) := rfl
      exact {
        selects := hselects
        direct := resolveProxy_direct hselects
        lookup := ⟨answer, Trace.latest_concat hlookup history, mem_arrange.mp hall⟩
        literal := by
          intro b hb
          have hmem := mem_arrange.mp hall
          rw [Option.some.inj (literal b hb)] at hmem
          exact List.mem_singleton.mp hmem
        permitted := hpermitted }

omit [Crates] in
theorem LookupEffect.calls_free {destination : String} {e : Effect}
    {r : AppResult (List SocketAddr × List SocketAddr)}
    (h : LookupEffect options destination e r) : ∀ c ∈ e.calls, contactOf c = none := by
  cases h with
  | refused => simp
  | asked answer record kind asks => simp [Effect.probed, contactOf]

theorem justified_of_no_contact {c : Interaction} (h : contactOf c = none)
    (before : List Interaction) : Justified env.envVar options first before c := by
  cases c <;> simp_all [contactOf, Justified]

theorem guarded_of_no_contact {calls : List Interaction} (h : ∀ c ∈ calls, contactOf c = none)
    (history : List Interaction) :
    Guarded (Justified env.envVar options first) history calls :=
  Trace.guarded_of_free fun c hc before => justified_of_no_contact (h c hc) before

/-- Calls that look nothing up leave an address cleared. -/
theorem Cleared.append {url : Url} {a : SocketAddr} {more : List Interaction}
    (h : Cleared env.envVar options url proxy history a) (hmore : ∀ c ∈ more, lookupOf c = none) :
    Cleared env.envVar options url proxy (history ++ more) a :=
  ⟨h.selects, h.direct, by rw [Trace.latest_append_of_silent hmore]; exact h.lookup, h.literal,
    h.permitted⟩

theorem ConnectEffect.lookups_none {addresses : List SocketAddr} {e : Effect}
    {r : AppResult SocketAddr} (h : ConnectEffect options addresses e r) :
    ∀ c ∈ e.calls, lookupOf c = none := by
  induction h with
  | exhausted => simp
  | refused => simp
  | connected => simp [Effect.probed, lookupOf]
  | failed address rest timeout record kind names later ih =>
    intro c hc
    rcases List.mem_append.mp hc with hc | hc
    · simp only [Effect.probed, List.mem_singleton] at hc
      rw [hc]
      rfl
    · exact ih c hc

theorem ConnectEffect.guarded {addresses : List SocketAddr} {e : Effect} {r : AppResult SocketAddr}
    (h : ConnectEffect options addresses e r)
    (hcleared : ∀ a ∈ addresses, Cleared env.envVar options first proxy history a) :
    Guarded (Justified env.envVar options first) history e.calls ∧
      ∀ a, r = .ok a → a ∈ addresses := by
  induction h generalizing history with
  | exhausted => exact ⟨Trace.guarded_nil, fun a h => (by cases h)⟩
  | refused => exact ⟨Trace.guarded_nil, fun a h => (by cases h)⟩
  | connected address rest timeout record kind names =>
    refine ⟨Trace.guarded_cons ⟨proxy, hcleared address List.mem_cons_self⟩ Trace.guarded_nil,
      fun a h => ?_⟩
    cases h
    exact List.mem_cons_self
  | failed address rest timeout record kind names later ih =>
    have hone : ∀ c ∈ [Interaction.connect address timeout false], lookupOf c = none := by
      simp [lookupOf]
    obtain ⟨hguarded, hmem⟩ :=
      ih fun a ha => (hcleared a (List.mem_cons_of_mem _ ha)).append hone
    exact ⟨Trace.guarded_cons ⟨proxy, hcleared address List.mem_cons_self⟩ hguarded,
      fun a h => List.mem_cons_of_mem _ (hmem a h)⟩

theorem TlsEffect.lookups_none {cut : Prop} {address : SocketAddr} {showAddresses : Bool}
    {e : Effect} {r : AppResult TlsSummary} (h : TlsEffect cut address showAddresses e r) :
    ∀ c ∈ e.calls, lookupOf c = none := by
  cases h with
  | refused => simp
  | attempted uncut timeout connected rounds =>
    simp +contextual [Effect.probed, lookupOf]
  | abandoned iscut timeout rounds =>
    simp +contextual [Effect.ofCalls, lookupOf]

theorem TlsEffect.guarded {cut : Prop} {address : SocketAddr} {showAddresses : Bool} {e : Effect}
    {r : AppResult TlsSummary} (h : TlsEffect cut address showAddresses e r)
    (hcleared : Cleared env.envVar options first proxy history address) :
    Guarded (Justified env.envVar options first) history e.calls := by
  have hrounds : ∀ rounds timeout, ∀ c ∈ List.replicate rounds (Interaction.tlsRound timeout),
      contactOf c = none := by
    intro rounds timeout c hc
    rw [List.eq_of_mem_replicate hc]
    rfl
  cases h with
  | refused => exact Trace.guarded_nil
  | attempted uncut timeout connected rounds record kind names r =>
    exact Trace.guarded_cons ⟨proxy, hcleared⟩ (guarded_of_no_contact (hrounds rounds timeout) _)
  | abandoned iscut timeout rounds =>
    exact Trace.guarded_cons ⟨proxy, hcleared⟩ (guarded_of_no_contact (hrounds rounds timeout) _)

theorem ExchangeEffect.guarded {served : Prop} {i : ℕ} {current : Url} {address : SocketAddr}
    {e : Effect} {r : AppResult Exchange}
    (h : ExchangeEffect env served options i current proxy address e r)
    (haccepted : AcceptedUrl options current)
    (hcleared : Cleared env.envVar options current.clearFragment proxy history address) :
    Guarded (Justified env.envVar options first) history e.calls := by
  have hreads : ∀ reads timeout, ∀ c ∈ List.replicate reads (Interaction.bodyRead timeout),
      contactOf c = none := by
    intro reads timeout c hc
    rw [List.eq_of_mem_replicate hc]
    rfl
  cases h with
  | refused unserved error => exact Trace.guarded_nil
  | failed unserved client pinned reads record kind names error =>
    refine Trace.guarded_cons ⟨haccepted, proxy, ?_⟩ (guarded_of_no_contact (hreads reads _) _)
    rw [pinned.address]
    exact ⟨hcleared, pinned⟩
  | finished isserved client pinned reads record kind names response read sampled =>
    refine Trace.guarded_cons ⟨haccepted, proxy, ?_⟩ (guarded_of_no_contact (hreads reads _) _)
    rw [pinned.address]
    exact ⟨hcleared, pinned⟩

/-- The text of a joined URL parses as that URL again. -/
def JoinReparses : Prop :=
  ∀ base reference url, Crates.urlJoin base reference = .ok url →
    Crates.urlParse url.asStr = .ok url

theorem acceptedUrl_of_parseTarget {text : String} {url : Url} {parsed : ParsedTarget}
    (hurl : Crates.urlParse text = .ok url) (h : parseTarget text options = .ok parsed) :
    AcceptedUrl options url ∧ parsed.url = url.clearFragment := by
  obtain ⟨url', hurl', haccept⟩ := parseTarget_eq_ok h
  obtain rfl : url = url' := Except.ok.inj (hurl.symm.trans hurl')
  obtain ⟨hscheme, hhost, husername, hpassword, hfragment⟩ := acceptTarget_eq_ok haccept
  exact ⟨⟨⟨text, parsed, h, hfragment⟩, by simpa [isHttpScheme] using hscheme, hhost, husername,
    hpassword⟩, hfragment⟩

/-- What the redirect loop keeps between hops: the first hop is cleared already, a
later one has a URL whose text parses as itself. -/
def HopInvariant (envVar : String → Option String) (options : InspectionOptions) (i : ℕ)
    (b : HopState) (history : List Interaction) : Prop :=
  if i = 0 then AcceptedUrl options b.current ∧
    Cleared envVar options b.current.clearFragment b.proxy history b.selectedAddress
  else Crates.urlParse b.current.asStr = .ok b.current

/-- An endpoint that a round goes on with is cleared for its URL. -/
theorem EndpointEffect.guarded (first : Url) {i : ℕ} {b : HopState} {e : Effect}
    {r : AppResult (ResolvedProxy × SocketAddr)} (h : EndpointEffect env options i b e r)
    (hinv : HopInvariant env.envVar options i b history) :
    Guarded (Justified env.envVar options first) history e.calls ∧
      ∀ proxy address, r = .ok (proxy, address) → AcceptedUrl options b.current ∧
        Cleared env.envVar options b.current.clearFragment proxy (history ++ e.calls) address := by
  cases h with
  | first b =>
    obtain ⟨haccepted, hcleared⟩ := hinv
    refine ⟨Trace.guarded_nil, fun proxy address h => ?_⟩
    cases h
    rw [Effect.calls_none, List.append_nil]
    exact ⟨haccepted, hcleared⟩
  | later i b authorized =>
    cases authorized with
    | denied error => exact ⟨Trace.guarded_nil, fun proxy address h => (by cases h)⟩
    | @looked parsed proxy accepts selects e r lookup =>
      obtain ⟨haccepted, hurl⟩ := acceptedUrl_of_parseTarget hinv accepts
      rw [hurl] at selects
      refine ⟨guarded_of_no_contact lookup.calls_free _, fun proxy' address h => ?_⟩
      rcases r with error | ⟨all, permitted⟩
      · cases h
      · rw [endpointOf] at h
        rcases hhead : permitted.head? with _ | a
        · rw [hhead] at h
          cases h
        · rw [hhead] at h
          cases h
          exact ⟨haccepted, lookup.cleared selects history _ (List.mem_of_mem_head? hhead)⟩

/-- The next URL of an exchange is joined to the one before. -/
theorem ExchangeEffect.next {served : Prop} {i : ℕ} {current : Url} {address : SocketAddr}
    {e : Effect} {x : Exchange} (hjoin : JoinReparses)
    (h : ExchangeEffect env served options i current proxy address e (.ok x)) {next : Url}
    (hnext : x.nextUrl = some next) : Crates.urlParse next.asStr = .ok next := by
  cases h with
  | finished isserved client pinned reads record kind names response read sampled =>
    unfold exchangeOf followLocation at hnext
    split_ifs at hnext
    · rcases hvalue : headerValue response.headers "location" with _ | location
      · simp [hvalue] at hnext
      · rcases hurl : Crates.urlJoin current location with error | url
        · simp [hvalue, hurl] at hnext
        · simp only [hvalue, hurl, Option.some.injEq] at hnext
          rw [← hnext]
          exact hjoin current location url hurl

theorem RoundEffect.guarded (first : Url) (hjoin : JoinReparses) {i : ℕ} {b : HopState} {e : Effect}
    {r : AppResult (HopState ⊕ HttpResult)} (h : RoundEffect env options i b e r)
    (hinv : HopInvariant env.envVar options i b history) :
    Guarded (Justified env.envVar options first) history e.calls ∧
      ∀ b', r = .ok (.inl b') →
        HopInvariant env.envVar options (i + 1) b' (history ++ e.calls) := by
  cases h with
  | stopped endpoint => exact ⟨(endpoint.guarded first hinv).1, fun b' h => (by cases h)⟩
  | lost endpoint request =>
    obtain ⟨hguarded, hcleared⟩ := endpoint.guarded first hinv
    obtain ⟨haccepted, hcleared⟩ := hcleared _ _ rfl
    exact ⟨hguarded.append (request.guarded haccepted hcleared), fun b' h => (by cases h)⟩
  | finished endpoint request =>
    obtain ⟨hguarded, hcleared⟩ := endpoint.guarded first hinv
    obtain ⟨haccepted, hcleared⟩ := hcleared _ _ rfl
    refine ⟨?_, fun b' h => ?_⟩
    · exact (hguarded.append (request.guarded haccepted hcleared)).append Trace.guarded_nil
    · exact request.next hjoin (afterHop_eq_inl (Except.ok.inj h)).2.2.1

theorem ChainEffect.guarded (first : Url) (hjoin : JoinReparses) {i : ℕ} {b : HopState} {e : Effect}
    {r : AppResult HttpResult} (h : ChainEffect env options i b e r)
    (hinv : HopInvariant env.envVar options i b history) :
    Guarded (Justified env.envVar options first) history e.calls := by
  induction h generalizing history with
  | lost round => exact (round.guarded first hjoin hinv).1
  | ended round => exact (round.guarded first hjoin hinv).1
  | followed round later ih =>
    obtain ⟨hguarded, hnext⟩ := round.guarded first hjoin hinv
    exact hguarded.append (ih (hnext _ rfl))

theorem ReachEffect.guarded {e : Effect} {r : Option SocketAddr}
    (h : ReachEffect options proxy e r)
    (hselects : resolveProxy env.envVar first options = .ok proxy) (history : List Interaction) :
    Guarded (Justified env.envVar options first) history e.calls ∧
      ∀ a, r = some a → Cleared env.envVar options first proxy (history ++ e.calls) a := by
  cases h with
  | unresolved lookup =>
    exact ⟨guarded_of_no_contact lookup.calls_free _, fun a h => (by cases h)⟩
  | denied lookup => exact ⟨guarded_of_no_contact lookup.calls_free _, fun a h => (by cases h)⟩
  | @attempted e₁ e₂ all permitted r lookup connect =>
    have hcleared : ∀ a ∈ permitted.take options.maxAddresses.toNat,
        Cleared env.envVar options first proxy (history ++ e₁.calls) a :=
      fun a ha => lookup.cleared hselects history a (List.mem_of_mem_take ha)
    obtain ⟨hguarded, hmem⟩ := connect.guarded hcleared
    refine ⟨(guarded_of_no_contact lookup.calls_free _).append hguarded, fun a h => ?_⟩
    rcases r with error | address
    · cases h
    · cases h
      rw [Effect.calls_append, ← List.append_assoc]
      exact (hcleared _ (hmem _ rfl)).append connect.lookups_none

theorem InspectionEffect.guarded (hjoin : JoinReparses) {parsed : ParsedTarget} {cut : Prop}
    {e : Effect} {r : Option (AppResult HttpResult)}
    (h : InspectionEffect env options parsed proxy cut e r)
    (haccepted : AcceptedUrl options parsed.url) (hfragment : parsed.url.clearFragment = parsed.url)
    (hselects : resolveProxy env.envVar parsed.url options = .ok proxy) :
    Guarded (Justified env.envVar options parsed.url) [] e.calls := by
  cases h with
  | unreached reach uncut => exact (reach.guarded hselects []).1
  | unprotected reach probed tls =>
    obtain ⟨hguarded, hcleared⟩ := reach.guarded hselects []
    exact hguarded.append (tls.guarded (hcleared _ rfl))
  | @requested e₁ e₂ e₃ address r reach tls uncut chain =>
    obtain ⟨hguarded, hcleared⟩ := reach.guarded hselects []
    have hcleared := hcleared _ rfl
    have htls : Guarded (Justified env.envVar options parsed.url) ([] ++ e₁.calls) e₂.calls ∧
        ∀ c ∈ e₂.calls, lookupOf c = none := by
      cases tls with
      | unprobed h => exact ⟨Trace.guarded_nil, by simp⟩
      | validated h tls => exact ⟨tls.guarded hcleared, tls.lookups_none⟩
    refine (hguarded.append htls.1).append (chain.guarded parsed.url hjoin ⟨haccepted, ?_⟩)
    rw [hfragment]
    have := hcleared.append htls.2
    rwa [List.append_assoc] at this

/-- The address policy as it shows in the calls of a run. -/
structure KeepsAddressPolicy (env : Environment) (spec : InspectSpec) (calls : List Interaction) :
    Prop where
  permitted : ∀ call ∈ calls, ∀ address, contactOf call = some address →
    isIpPermitted address.ip false = true
  justified : ∀ parsed, parseTarget spec.target spec.options = .ok parsed →
    Guarded (Justified env.envVar spec.options parsed.url) [] calls
  rejected : ∀ error, parseTarget spec.target spec.options = .error error → calls = []
  /-- After an answer without a permitted address nothing is contacted for that hop. -/
  denied : ∀ before destination answer after,
    calls = before ++ .lookup destination answer :: after →
    (∀ address ∈ answer.getD [], isIpPermitted address.ip false = false) →
    ∀ call ∈ after.takeWhile fun call => (lookupOf call).isNone, contactOf call = none

theorem Justified.of_contact {call : Interaction} {address : SocketAddr}
    (h : Justified env.envVar options first history call)
    (hcontact : contactOf call = some address) :
    isIpPermitted address.ip options.allowPrivate = true ∧ ∃ destination answer,
      latest lookupOf history = some (destination, some answer) ∧ address ∈ answer := by
  have of_cleared : ∀ url proxy, Cleared env.envVar options url proxy history address →
      isIpPermitted address.ip options.allowPrivate = true ∧ ∃ destination answer,
        latest lookupOf history = some (destination, some answer) ∧ address ∈ answer := by
    intro url proxy hcleared
    obtain ⟨answer, hlatest, hmem⟩ := hcleared.lookup
    exact ⟨hcleared.permitted, _, answer, hlatest, hmem⟩
  cases call with
  | connect a timeout connected =>
    cases hcontact
    exact h.elim fun proxy hcleared => of_cleared _ _ hcleared
  | tlsConnect a timeout connected =>
    cases hcontact
    exact h.elim fun proxy hcleared => of_cleared _ _ hcleared
  | request client method url =>
    cases hcontact
    exact h.2.elim fun proxy hcleared => of_cleared _ _ hcleared.1
  | clock => cases hcontact
  | lookup destination answer => cases hcontact
  | tlsRound timeout => cases hcontact
  | bodyRead timeout => cases hcontact

theorem keepsAddressPolicy_of_guarded {spec : InspectSpec} {parsed : ParsedTarget}
    {calls : List Interaction} (hprivate : spec.options.allowPrivate = false)
    (hparsed : parseTarget spec.target spec.options = .ok parsed)
    (h : Guarded (Justified env.envVar spec.options parsed.url) [] calls) :
    KeepsAddressPolicy env spec calls where
  permitted := by
    intro call hcall address hcontact
    obtain ⟨before, after, heq⟩ := List.append_of_mem hcall
    rw [← hprivate]
    exact ((h before call after heq).of_contact hcontact).1
  justified := by
    intro parsed' hparsed'
    obtain rfl := Except.ok.inj (hparsed.symm.trans hparsed')
    exact h
  rejected := by
    intro error herror
    rw [hparsed] at herror
    cases herror
  denied := by
    intro before destination answer after heq hdenied call hcall
    have hlookup : lookupOf (.lookup destination answer) = some (destination, answer) := rfl
    obtain ⟨history, hlatest, hjustified⟩ := h.of_mem_takeWhile heq hlookup hcall
    rcases hcontact : contactOf call with _ | address
    · rfl
    · obtain ⟨hpermitted, destination', answer', hlatest', hmem⟩ := hjustified.of_contact hcontact
      rw [hlatest] at hlatest'
      cases hlatest'
      rw [hprivate] at hpermitted
      rw [hdenied address hmem] at hpermitted
      cases hpermitted

theorem keepsAddressPolicy_nil {spec : InspectSpec} : KeepsAddressPolicy env spec [] where
  permitted := by simp
  justified := fun _ _ => Trace.guarded_nil
  rejected := fun _ _ => rfl
  denied := by simp

/-- The URL a target is requested at is accepted, and has no fragment left. -/
theorem acceptedUrl_of_target {text : String} {parsed : ParsedTarget}
    (h : parseTarget text options = .ok parsed) :
    AcceptedUrl options parsed.url ∧ parsed.url.clearFragment = parsed.url := by
  obtain ⟨url, hurl, -⟩ := parseTarget_eq_ok h
  obtain ⟨haccepted, hfragment⟩ := acceptedUrl_of_parseTarget hurl h
  have hhost := Url.host_isSome_of_hostStr haccepted.host
  rw [Url.clearFragment_of_host hhost] at hfragment
  have hsame : parsed.url.clearFragment = parsed.url := by
    rw [Url.clearFragment_of_host (by rw [hfragment]; exact hhost), hfragment]
  refine ⟨⟨⟨text, parsed, h, hsame.symm⟩, ?_, ?_, ?_, ?_⟩, hsame⟩
  · rw [hfragment]
    exact haccepted.scheme
  · rw [hfragment]
    exact haccepted.host
  · rw [hfragment]
    exact haccepted.username
  · rw [hfragment]
    exact haccepted.password

/-- With private addresses denied, every live run keeps the address policy, whatever the
resolver and the servers answer. -/
theorem inspect_keepsAddressPolicy (hjoin : JoinReparses) {spec : InspectSpec}
    (hprivate : spec.options.allowPrivate = false) :
    KeepsAddressPolicy env spec (inspect env spec).2.calls := by
  rcases hrun : inspect env spec with ⟨error | report, w⟩
  · rw [calls_of_inspect_error hrun]
    exact keepsAddressPolicy_nil
  · obtain ⟨o, e, r, d, heffect, hshows, -⟩ := inspect_effect hrun
    obtain ⟨haccepted, hfragment⟩ := acceptedUrl_of_target o.accepts
    rw [hshows.calls]
    exact keepsAddressPolicy_of_guarded hprivate o.accepts
      (heffect.guarded hjoin haccepted hfragment o.selects)

end

/-- Recorded answers agree when every recorded target of a join is recorded as a URL. -/
theorem Recordings.joinReparses (r : Recordings)
    (h : ∀ join ∈ r.joins, r.urls.lookup join.2.asStr = some join.2) :
    letI := r.crates
    JoinReparses := by
  let := r.crates
  intro base reference url hjoin
  change (r.joins.lookup (base, reference)).elim _ Except.ok = Except.ok url at hjoin
  change (r.urls.lookup url.asStr).elim _ Except.ok = Except.ok url
  rcases hlookup : r.joins.lookup (base, reference) with _ | next
  · rw [hlookup] at hjoin
    cases hjoin
  · rw [hlookup] at hjoin
    cases hjoin
    obtain ⟨before, after, hsplit, -⟩ := List.lookup_eq_some_iff.mp hlookup
    rw [h ((base, reference), url) (hsplit ▸ List.mem_append_right _ List.mem_cons_self)]
    rfl

/-- The two hops of the example site. -/
theorem redirect_keepsAddressPolicy :
    letI := exampleRecordings.crates
    KeepsAddressPolicy (.calm exampleRedirect) ⟨"http://example.com/", {}⟩
      (inspect (.calm exampleRedirect) ⟨"http://example.com/", {}⟩).2.calls := by
  let := exampleRecordings.crates
  exact inspect_keepsAddressPolicy (exampleRecordings.joinReparses (by decide +kernel)) rfl

end HopWhy
