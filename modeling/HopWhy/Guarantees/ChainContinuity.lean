import Mathlib.Data.List.Chain
import HopWhy.Runs.Http

/-!
# Continuity of redirect chains

The hops of a chain are numbered, start at the redacted initial URL, and each
but the last is a redirect whose location is the URL of the next. How the chain
ended can be read off the location of the last hop.
-/

namespace HopWhy

/-- Numbered hops from a URL on; each asks for the next. -/
structure LinkedHops (first : String) (hops : List HttpHop) : Prop where
  numbered : ∀ i (hop : HttpHop), hops[i]? = some hop → hop.sequence.toNat = i
  starts : ∀ hop, hops.head? = some hop → hop.url = first
  linked : hops.IsChain fun (hop next : HttpHop) =>
    isRedirection hop.status = true ∧ hop.location = some next.url

theorem LinkedHops.nil (first : String) : LinkedHops first [] where
  numbered := by simp
  starts := by simp
  linked := List.isChain_nil

theorem LinkedHops.append {first : String} {hops : List HttpHop} {hop : HttpHop}
    (h : LinkedHops first hops) (hsequence : hop.sequence.toNat = hops.length)
    (hfirst : hops = [] → hop.url = first)
    (hlast : ∀ last, hops.getLast? = some last →
      isRedirection last.status = true ∧ last.location = some hop.url) :
    LinkedHops first (hops ++ [hop]) where
  numbered := by
    intro i other hother
    rw [List.getElem?_append] at hother
    split at hother
    · exact h.numbered i other hother
    · have hi : i - hops.length < 1 := by
        have := (List.getElem?_eq_some_iff.mp hother).1
        simpa using this
      have hzero : i - hops.length = 0 := by omega
      rw [hzero] at hother
      cases hother
      omega
  starts := by
    intro other hother
    rcases hops with _ | ⟨front, rest⟩
    · cases hother
      exact hfirst rfl
    · exact h.starts other hother
  linked := by
    apply h.linked.append (List.isChain_singleton hop)
    intro last hmem next hnext
    cases hnext
    exact hlast last hmem

variable [Crates] {env : Environment}

/-- The codes with which the endpoint of a redirect is refused, each with its class. -/
def refusals : List (String × ErrorClass) :=
  [("invalid_target", .usage), ("unsupported_scheme", .policy), ("missing_target_host", .usage),
    ("embedded_credentials_denied", .policy), ("missing_target_port", .usage),
    ("invalid_proxy_url", .policy), ("unsupported_proxy_scheme", .policy),
    ("missing_proxy_host", .policy), ("missing_proxy_port", .policy),
    ("budget_exhausted", .budget), ("dns_resolution_failed", .io), ("dns_empty_answer", .io),
    ("redirect_target_denied", .policy)]

/-- The codes with which the endpoint of a redirect is refused. -/
def refusalCodes : List String := refusals.map Prod.fst

def AppError.classified (error : AppError) : String × ErrorClass := (error.code, error.cls)

omit [Crates] in
theorem resolutionOf_refused {options : InspectionOptions} {answer : Option (List SocketAddr)}
    {error : AppError} (h : resolutionOf options answer = .error error) :
    error.classified ∈ refusals := by
  unfold resolutionOf at h
  repeat' split at h
  all_goals cases h
  all_goals decide

omit [Crates] in
theorem new_refused {cls : ErrorClass} {code message : String} (h : (code, cls) ∈ refusals) :
    (AppError.new cls code message).classified ∈ refusals := h

theorem parseTarget_refused {raw : String} {options : InspectionOptions} {error : AppError}
    (h : parseTarget raw options = .error error) : error.classified ∈ refusals := by
  unfold parseTarget acceptTarget at h
  dsimp only at h
  repeat' split at h
  all_goals cases h
  all_goals exact new_refused (by decide)

theorem resolveProxy_refused {envVar : String → Option String} {target : Url}
    {options : InspectionOptions} {error : AppError}
    (h : resolveProxy envVar target options = .error error) : error.classified ∈ refusals := by
  unfold resolveProxy selectProxy at h
  dsimp only at h
  repeat' split at h
  all_goals cases h
  all_goals exact new_refused (by decide)

omit [Crates] in
theorem resolveAddresses_refused {proxy : ResolvedProxy} {options : InspectionOptions}
    {s : Session (World env)} {error : AppError}
    (h : (resolveAddresses proxy options s).1 = .error error) : error.classified ∈ refusals := by
  rcases resolveAddresses_result proxy options s with ⟨-, n, hresult⟩ | ⟨-, hresult⟩
  · exact resolutionOf_refused (hresult.symm.trans h)
  · rw [hresult] at h
    cases h
    decide

theorem authorizeRedirect_classified {current : Url} {options : InspectionOptions}
    {s : Session (World env)} {error : AppError}
    (h : (authorizeRedirect current options s).1 = .error error) :
    error.classified ∈ refusals := by
  rcases hparsed : parseTarget current.asStr options with e | parsed
  · simp only [authorizeRedirect, hparsed, Prog.bind_apply, Prog.ofExcept_apply] at h
    cases h
    exact parseTarget_refused hparsed
  rcases hproxy : resolveProxy env.envVar parsed.url options with e | proxy
  · simp only [authorizeRedirect, hparsed, hproxy, Prog.bind_apply, Prog.ofExcept_apply] at h
    cases h
    exact resolveProxy_refused hproxy
  rw [authorizeRedirect_apply hparsed hproxy] at h
  rcases hlookup : (resolveAddresses proxy options s).1 with e | ⟨all, permitted⟩
  · rw [hlookup, endpointOf] at h
    cases h
    exact resolveAddresses_refused hlookup
  · rw [hlookup, endpointOf] at h
    rcases hhead : permitted.head? with _ | address
    · rw [hhead] at h
      cases h
      decide
    · rw [hhead] at h
      cases h

theorem authorizeRedirect_refused {current : Url} {options : InspectionOptions}
    {s : Session (World env)} {error : AppError}
    (h : (authorizeRedirect current options s).1 = .error error) : error.code ∈ refusalCodes :=
  List.mem_map_of_mem (authorizeRedirect_classified h)

/-- The hop gets an endpoint, and its request is answered there. -/
def FinishedAt (options : InspectionOptions) (i : ℕ) (b : HopState) (s : Session (World env)) :
    Prop :=
  ∃ proxy address t, hopEndpoint options i b s = (.ok (proxy, address), t) ∧
    Served env options proxy t

/-- The ends of a round: a refused endpoint, a lost request, or a finished hop. -/
theorem hopRound_result (options : InspectionOptions) (i : ℕ) (b : HopState)
    (s : Session (World env)) :
    (i ≠ 0 ∧ ∃ error, (authorizeRedirect b.current options s).1 = .error error ∧
      (hopRound options i b s).1 = .ok (.inr (b.hops, some error))) ∨
    (∃ error, (hopRound options i b s).1 = .error error) ∨
    FinishedAt options i b s ∧ ∃ proxy address response read, (hopRound options i b s).1 =
      .ok (afterHop options i b proxy address (exchangeOf options i b.current response read)) := by
  unfold hopRound
  rcases hendpoint : hopEndpoint options i b s with ⟨failure | ⟨proxy, address⟩, t⟩
  · simp only [Prog.bind_apply, Prog.attempt_apply, hendpoint]
    rcases i with _ | i
    · cases hendpoint
    · exact .inl ⟨Nat.succ_ne_zero i, failure, congrArg Prod.fst hendpoint, rfl⟩
  · simp only [Prog.bind_apply, Prog.attempt_apply, hendpoint]
    obtain ⟨e, -, hexchange⟩ := exchange_effect i b.current proxy address options t
    rcases hx : exchange i b.current proxy address options t with ⟨failure | x, u⟩
    · exact .inr (.inl ⟨failure, rfl⟩)
    · rw [hx] at hexchange
      cases hexchange with
      | finished isserved client pinned reads record kind names response read sampled responded =>
        exact .inr (.inr ⟨⟨proxy, address, t, hendpoint, isserved⟩, proxy, address, response, read,
          rfl⟩)

/-- What a round finds: linked hops, the last of which asks for the current URL. -/
structure RoundStart (options : InspectionOptions) (first : String) (i : ℕ) (b : HopState) :
    Prop extends LinkedHops first b.hops where
  within : i ≤ options.maxRedirects.toNat
  length : b.hops.length = i
  current : b.hops = [] → redactUrl b.current options.showQueryValues = first
  follows : ∀ last, b.hops.getLast? = some last → isRedirection last.status = true ∧
    last.location = some (redactUrl b.current options.showQueryValues)

/-- A finished chain and its outcome. The last location tells why it ended. -/
structure Continuous (env : Environment) (options : InspectionOptions) (first : String)
    (hops : List HttpHop) (failure : Option AppError) : Prop extends LinkedHops first hops where
  nonempty : hops ≠ []
  bounded : hops.length ≤ options.maxRedirects.toNat + 1
  ended : failure = none → ∀ last, hops.getLast? = some last → last.location = none
  limit : failure.map AppError.code = some "redirect_limit_reached" ↔
    hops.length = options.maxRedirects.toNat + 1 ∧
      ∃ last, hops.getLast? = some last ∧ last.location.isSome
  invalid : failure.map AppError.code = some "invalid_redirect_location" →
    ∀ last, hops.getLast? = some last → last.location = none
  refused : ∀ error, failure = some error → error.code ≠ "redirect_limit_reached" →
    error.code ≠ "invalid_redirect_location" → ∃ last url, hops.getLast? = some last ∧
      last.location = some (redactUrl url options.showQueryValues) ∧
      ∃ s : Session (World env), (authorizeRedirect url options s).1 = .error error

section

variable {options : InspectionOptions} {first : String} {i : ℕ} {b : HopState}

omit [Crates] in
theorem RoundStart.exists_last (h : RoundStart options first i b) (hi : i ≠ 0) :
    ∃ last, b.hops.getLast? = some last := by
  rcases hlast : b.hops.getLast? with _ | last
  · rw [List.getLast?_eq_none_iff] at hlast
    have := h.length
    rw [hlast] at this
    exact absurd this.symm hi
  · exact ⟨last, rfl⟩

/-- The hop of a finished round continues the chain. -/
theorem RoundStart.append (h : RoundStart options first i b) (response : Response)
    (read : List UInt8) :
    LinkedHops first (b.hops ++ [(exchangeOf options i b.current response read).hop]) := by
  apply h.toLinkedHops.append
  · have hlt : i < 2 ^ 64 := h.within.trans_lt options.maxRedirects.toNat_lt
    change (UInt64.ofNat i).toNat = _
    rw [UInt64.toNat_ofNat_of_lt' hlt, h.length]
  · exact h.current
  · exact h.follows

/-- What a response asks for, and how its hop records it. -/
theorem exchangeOf_cases (options : InspectionOptions) (i : ℕ) (current : Url)
    (response : Response) (read : List UInt8) :
    let x := exchangeOf options i current response read
    (∃ next, isRedirection x.hop.status = true ∧ x.redirectError = none ∧
      x.nextUrl = some next ∧
      x.hop.location = some (redactUrl next options.showQueryValues)) ∨
    (x.redirectError = some invalidRedirectLocation ∧ x.hop.location = none) ∨
    (x.redirectError = none ∧ x.nextUrl = none ∧ x.hop.location = none) := by
  unfold exchangeOf followLocation
  by_cases hstatus : isRedirection response.status = true
  · rcases headerValue response.headers "location" with _ | location
    · simp [hstatus, hopOf]
    · rcases hjoin : Crates.urlJoin current location with error | next
      · simp [hstatus, hjoin, hopOf]
      · simp [hstatus, hjoin, hopOf]
  · simp [hstatus, hopOf]

/-- A round that goes on re-establishes what the next round finds. -/
theorem RoundStart.next (h : RoundStart options first i b) {b' : HopState}
    {s t : Session (World env)} (hround : hopRound options i b s = (.ok (.inl b'), t)) :
    RoundStart options first (i + 1) b' := by
  rcases hopRound_result options i b s with
    ⟨-, error, -, hend⟩ | ⟨error, hend⟩ | ⟨-, proxy, address, response, read, hend⟩
  · rw [hround] at hend
    cases hend
  · rw [hround] at hend
    cases hend
  rw [hround] at hend
  obtain ⟨hlt, hnone, hnext, hhops⟩ := afterHop_eq_inl (Except.ok.inj hend).symm
  have hlinked := h.append response read
  rw [← hhops] at hlinked
  refine { toLinkedHops := hlinked, within := ?_, length := ?_, current := ?_, follows := ?_ }
  · have := h.within
    omega
  · rw [hhops, List.length_append, h.length]
    rfl
  · intro hnil
    rw [hhops] at hnil
    cases (List.append_eq_nil_iff.mp hnil).2
  · intro last hlast
    rw [hhops, List.getLast?_concat] at hlast
    cases hlast
    rcases exchangeOf_cases options i b.current response read with
      ⟨next, hstatus, -, hurl, hlocation⟩ | ⟨herror, -⟩ | ⟨-, hurl, -⟩
    · rw [hnext] at hurl
      cases hurl
      exact ⟨hstatus, hlocation⟩
    · rw [hnone] at herror
      cases herror
    · rw [hnext] at hurl
      cases hurl

/-- A refused endpoint leaves the hops that the round began with. -/
theorem RoundStart.continuous_of_refused (h : RoundStart options first i b) (hi : i ≠ 0)
    {error : AppError} {s : Session (World env)}
    (hrefused : (authorizeRedirect b.current options s).1 = .error error) :
    Continuous env options first b.hops (some error) := by
  have hcode := authorizeRedirect_refused hrefused
  have hlimit : error.code ≠ "redirect_limit_reached" := by
    intro hcon
    rw [hcon] at hcode
    exact absurd hcode (by decide)
  have hinvalid : error.code ≠ "invalid_redirect_location" := by
    intro hcon
    rw [hcon] at hcode
    exact absurd hcode (by decide)
  have hlength := h.length
  have hwithin := h.within
  obtain ⟨last, hlast⟩ := h.exists_last hi
  refine { toLinkedHops := h.toLinkedHops, nonempty := ?_, bounded := by omega, ended := ?_,
           limit := ?_, invalid := ?_, refused := ?_ }
  · intro hnil
    rw [hnil] at hlast
    cases hlast
  · intro hnone
    cases hnone
  · constructor
    · intro hsome
      exact absurd (Option.some.inj hsome) hlimit
    · rintro ⟨hfull, -⟩
      omega
  · intro hsome
    exact absurd (Option.some.inj hsome) hinvalid
  · intro e he hnotLimit hnotInvalid
    cases he
    exact ⟨last, b.current, hlast, (h.follows last hlast).2, s, hrefused⟩

section

variable {hops : List HttpHop} {hop : HttpHop}
  (hlinked : LinkedHops first (hops ++ [hop]))

include hlinked

/-- A chain may end with a hop that asks for no redirect, or for one that cannot be read. -/
theorem LinkedHops.continuous_of_unfollowed {failure : Option AppError}
    (hbounded : (hops ++ [hop]).length ≤ options.maxRedirects.toNat + 1)
    (hlocation : hop.location = none)
    (hfailure : failure = none ∨ failure = some invalidRedirectLocation) :
    Continuous env options first (hops ++ [hop]) failure := by
  have hunfollowed : ∀ last, (hops ++ [hop]).getLast? = some last → last.location = none := by
    intro last hlast
    rw [List.getLast?_concat] at hlast
    cases hlast
    exact hlocation
  refine { toLinkedHops := hlinked, nonempty := List.concat_ne_nil hop hops,
           bounded := hbounded, ended := fun _ => hunfollowed, limit := ?_,
           invalid := fun _ => hunfollowed, refused := ?_ }
  · apply iff_of_false
    · rcases hfailure with rfl | rfl
      · simp
      · decide
    · rintro ⟨-, last, hlast, hsome⟩
      rw [hunfollowed last hlast] at hsome
      cases hsome
  · intro error herror hnotLimit hnotInvalid
    rcases hfailure with rfl | rfl
    · cases herror
    · cases herror
      exact absurd rfl hnotInvalid

/-- A chain ends with the last hop that it may have, although that asks for a redirect. -/
theorem LinkedHops.continuous_of_limit
    (hlength : (hops ++ [hop]).length = options.maxRedirects.toNat + 1)
    (hlocation : hop.location.isSome = true) :
    Continuous env options first (hops ++ [hop]) (some redirectLimitReached) := by
  refine { toLinkedHops := hlinked, nonempty := List.concat_ne_nil hop hops,
           bounded := hlength.le, ended := ?_, limit := ?_, invalid := ?_, refused := ?_ }
  · intro hnone
    cases hnone
  · apply iff_of_true rfl
    exact ⟨hlength, hop, List.getLast?_concat, hlocation⟩
  · intro hinvalid
    exact absurd (Option.some.inj hinvalid) (by decide)
  · intro error herror hnotLimit
    cases herror
    exact absurd rfl hnotLimit

end

/-- A finished hop that ends the chain is its last. -/
theorem RoundStart.continuous_of_finished (h : RoundStart options first i b)
    {proxy : ResolvedProxy} {address : SocketAddr} {response : Response} {read : List UInt8}
    {result : HttpResult} (hend : afterHop options i b proxy address
      (exchangeOf options i b.current response read) = .inr result) :
    Continuous env options first result.1 result.2 := by
  have hlinked := h.append response read
  have hwithin := h.within
  have hcases := exchangeOf_cases options i b.current response read
  generalize exchangeOf options i b.current response read = x at hend hlinked hcases
  dsimp only at hcases
  have hlength : (b.hops ++ [x.hop]).length = i + 1 := by
    rw [List.length_append, h.length]
    rfl
  have hbounded : (b.hops ++ [x.hop]).length ≤ options.maxRedirects.toNat + 1 := by omega
  unfold afterHop at hend
  dsimp only at hend
  rcases hcases with ⟨next, -, herror, hnext, hlocation⟩ | ⟨herror, hlocation⟩ |
    ⟨herror, hnext, hlocation⟩
  · rw [herror, hnext] at hend
    dsimp only at hend
    split_ifs at hend with hfull
    cases hend
    apply hlinked.continuous_of_limit
    · rw [hlength, hfull]
    · rw [hlocation]
      rfl
  · rw [herror] at hend
    cases hend
    exact hlinked.continuous_of_unfollowed hbounded hlocation (Or.inr rfl)
  · rw [herror, hnext] at hend
    cases hend
    exact hlinked.continuous_of_unfollowed hbounded hlocation (Or.inl rfl)

/-- A round that ends the chain leaves it continuous. -/
theorem RoundStart.ends (h : RoundStart options first i b) {s t : Session (World env)}
    {result : HttpResult} (hround : hopRound options i b s = (.ok (.inr result), t)) :
    Continuous env options first result.1 result.2 := by
  rcases hopRound_result options i b s with
    ⟨hi, error, hrefused, hend⟩ | ⟨error, hend⟩ | ⟨-, proxy, address, response, read, hend⟩
  · rw [hround] at hend
    cases hend
    exact h.continuous_of_refused hi hrefused
  · rw [hround] at hend
    cases hend
  · rw [hround] at hend
    exact h.continuous_of_finished (Except.ok.inj hend).symm

end

omit [Crates] in
theorem roundStart_initial (options : InspectionOptions) (url : Url) (proxy : ResolvedProxy)
    (address : SocketAddr) :
    RoundStart options (redactUrl url options.showQueryValues) 0
      { current := url, hops := [], proxy, selectedAddress := address } where
  toLinkedHops := .nil _
  within := Nat.zero_le _
  length := rfl
  current := fun _ => rfl
  follows := by simp

omit [Crates] in
theorem not_roundStart_exhausted (options : InspectionOptions) (first : String) (b : HopState) :
    ¬ RoundStart options first (options.maxRedirects.toNat + 1) b := by
  intro h
  have := h.within
  omega

theorem continuous_of_runHttp {url : Url} {proxy : ResolvedProxy} {address : SocketAddr}
    {options : InspectionOptions} {s t : Session (World env)} {result : HttpResult}
    (h : runHttp url proxy address options s = (.ok result, t)) :
    Continuous env options (redactUrl url options.showQueryValues) result.1 result.2 := by
  have hloop : Prog.Triple (fun _ => RoundStart options (redactUrl url options.showQueryValues) 0
        { current := url, hops := [], proxy, selectedAddress := address })
      (runHttp url proxy address options)
      (fun result (_ : Session (World env)) =>
        Continuous env options (redactUrl url options.showQueryValues) result.1 result.2)
      (fun _ _ => True) := by
    apply Prog.Triple.loop
      (fun i b _ => RoundStart options (redactUrl url options.showQueryValues) i b)
      (options.maxRedirects.toNat + 1)
    · intro i b hi s h
      rcases hround : hopRound options i b s with ⟨error | b' | result, t⟩
      · trivial
      · exact h.next hround
      · exact h.ends hround
    · intro b s h
      exact absurd h (not_roundStart_exhausted _ _ _)
    · exact Nat.zero_add _
  have hpost := hloop s (roundStart_initial options url proxy address)
  rw [h] at hpost
  exact hpost

/-- Every chain that `runHttp` returns is continuous, and the rounds never run out. -/
theorem runHttp_continuous (url : Url) (proxy : ResolvedProxy) (address : SocketAddr)
    (options : InspectionOptions) (s : Session (World env)) :
    (∀ hops failure t, runHttp url proxy address options s = (.ok (hops, failure), t) →
      Continuous env options (redactUrl url options.showQueryValues) hops failure) ∧
    ∀ after, runHttp url proxy address options s =
      Prog.loop (hopRound options) after (options.maxRedirects.toNat + 1) 0
        { current := url, hops := [], proxy, selectedAddress := address } s := by
  constructor
  · intro hops failure t hrun
    exact continuous_of_runHttp hrun
  · intro after
    apply Prog.loop_eq_of_invariant _ after
      (fun i b _ => RoundStart options (redactUrl url options.showQueryValues) i b)
      (options.maxRedirects.toNat + 1)
    · intro i b s b' t h hround
      exact h.next hround
    · intro b s
      exact not_roundStart_exhausted _ _ _
    · exact Nat.zero_add _
    · exact roundStart_initial options url proxy address

end HopWhy
