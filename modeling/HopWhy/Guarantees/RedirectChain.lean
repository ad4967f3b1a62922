import HopWhy.Guarantees.PhaseLedger
import HopWhy.Runs.Inspection

/-!
# Redirect chains

Which finished hops a report keeps. A failure of the endpoint of a redirect ends
the loop with its hops; a failure of the request leaves it without them. So the
hops are kept exactly when every redirect that reaches its request is served.
-/

namespace HopWhy

section

variable [Crates] {env : Environment} {options : InspectionOptions}

/-- The HTTP stage comes to the hop `i`. -/
abbrev HopReached (options : InspectionOptions) (b₀ : HopState) (s₀ : Session (World env)) :
    ℕ → HopState → Session (World env) → Prop :=
  Prog.Reaches (hopRound options) b₀ s₀

/-- Every redirect that has an endpoint is answered in time, with a free slot. -/
def RedirectsServed (options : InspectionOptions) (b₀ : HopState) (s₀ : Session (World env)) :
    Prop :=
  ∀ i b s proxy address t, HopReached options b₀ s₀ (i + 1) b s →
    hopEndpoint options (i + 1) b s = (.ok (proxy, address), t) → Served env options proxy t

/-- Something fails after a finished hop: a redirect, or what its response asks for. -/
def RedirectFails (options : InspectionOptions) (b₀ : HopState) (s₀ : Session (World env)) : Prop :=
  ∃ i b s, HopReached options b₀ s₀ i b s ∧
    ((i ≠ 0 ∧ ∃ error, (hopRound options i b s).1 = .error error) ∨
      ∃ hops error, (hopRound options i b s).1 = .ok (.inr (hops, some error)))

/-- The report keeps the finished hops, and a failure after them is a redirect failure. -/
structure KeepsHops (failed : Prop) (report : Report) (w : World env) : Prop where
  hops : report.http = w.completed
  passed : HasStatus report.phases .http .passed
  redirects : failed → report.failedAt = some .redirects
  not_http : report.failedAt ≠ some .http

/-- Only a request that is not served makes a round fail. -/
theorem hopRound_eq_error {i : ℕ} {b : HopState} {s t : Session (World env)} {error : AppError}
    (h : hopRound options i b s = (.error error, t)) :
    ∃ proxy address u, hopEndpoint options i b s = (.ok (proxy, address), u) ∧
      ¬ Served env options proxy u := by
  unfold hopRound at h
  rcases hendpoint : hopEndpoint options i b s with ⟨failure | ⟨proxy, address⟩, u⟩
  · simp only [Prog.bind_apply, Prog.attempt_apply, hendpoint] at h
    cases h
  · simp only [Prog.bind_apply, Prog.attempt_apply, hendpoint] at h
    refine ⟨proxy, address, u, rfl, fun hserved => ?_⟩
    obtain ⟨e, -, hexchange⟩ := exchange_effect i b.current proxy address options u
    rcases hx : exchange i b.current proxy address options u with ⟨failure | x, v⟩
    · rw [hx] at hexchange
      generalize hr : (Except.error failure : AppResult Exchange) = r at hexchange
      cases hexchange with
      | refused unserved error => exact unserved hserved
      | failed unserved client pinned reads record kind names error => exact unserved hserved
      | finished => cases hr
    · rw [hx] at h
      cases h

theorem hopRound_of_unserved {i : ℕ} {b : HopState} {s u : Session (World env)}
    {proxy : ResolvedProxy} {address : SocketAddr}
    (hendpoint : hopEndpoint options i b s = (.ok (proxy, address), u))
    (hunserved : ¬ Served env options proxy u) :
    ∃ error, (hopRound options i b s).1 = .error error := by
  unfold hopRound
  simp only [Prog.bind_apply, Prog.attempt_apply, hendpoint]
  obtain ⟨e, -, hexchange⟩ := exchange_effect i b.current proxy address options u
  rcases hx : exchange i b.current proxy address options u with ⟨failure | x, v⟩
  · exact ⟨failure, rfl⟩
  · rw [hx] at hexchange
    cases hexchange with
    | finished isserved => exact absurd isserved hunserved

theorem HopReached.completed {b₀ b : HopState} {s₀ s : Session (World env)} {i : ℕ}
    (h : HopReached options b₀ s₀ i b s) :
    i ≤ options.maxRedirects.toNat ∧ (i ≠ 0 → s.world.completed ≠ []) := by
  induction h with
  | start => exact ⟨Nat.zero_le _, fun h => absurd rfl h⟩
  | @next i b b' s t h goesOn ih =>
    obtain ⟨e, hleads, heffect⟩ := hopRound_effect options i b s
    rw [goesOn] at hleads heffect
    have hlt := heffect.lt_limit
    refine ⟨by omega, fun _ => ?_⟩
    rw [hleads.completed]
    intro hnil
    have hone := heffect.length_hops.1 b' rfl
    rw [(List.append_eq_nil_iff.mp hnil).2] at hone
    cases hone

theorem runHttp_eq_loop {b : HopState} (h : b.hops = []) (s : Session (World env)) :
    runHttp b.current b.proxy b.selectedAddress options s =
      Prog.loop (hopRound options) (fun b => pure (b.hops, none)) (options.maxRedirects.toNat + 1)
        0 b s := by
  obtain ⟨current, hops, proxy, address⟩ := b
  obtain rfl : hops = [] := h
  rfl

theorem loop_of_reached {b₀ b : HopState} {s₀ s : Session (World env)} {i : ℕ}
    (h : HopReached options b₀ s₀ i b s) :
    (∀ error, (hopRound options i b s).1 = .error error →
      Prog.loop (hopRound options) (fun b => pure (b.hops, none)) (options.maxRedirects.toNat + 1)
        0 b₀ s₀ = (.error error, (hopRound options i b s).2)) ∧
    ∀ result, (hopRound options i b s).1 = .ok (.inr result) →
      Prog.loop (hopRound options) (fun b => pure (b.hops, none)) (options.maxRedirects.toNat + 1)
        0 b₀ s₀ = (.ok result, (hopRound options i b s).2) := by
  have hle := h.completed.1
  have hrest : options.maxRedirects.toNat + 1 = i + (options.maxRedirects.toNat - i + 1) := by omega
  rw [hrest, Prog.loop_eq_of_reaches h, Prog.loop]
  refine ⟨fun error herror => ?_, fun result hresult => ?_⟩
  · rw [Prog.bind_error (Prod.ext herror rfl)]
  · rw [Prog.bind_ok (Prod.ext hresult rfl)]
    rfl

theorem loop_error_of_served {b₀ : HopState} {s₀ t : Session (World env)} {error : AppError}
    (hserved : RedirectsServed options b₀ s₀)
    (h : Prog.loop (hopRound options) (fun b => pure (b.hops, none))
      (options.maxRedirects.toNat + 1) 0 b₀ s₀ = (.error error, t)) :
    t.world.completed = s₀.world.completed := by
  rcases Prog.exists_reaches_of_loop_error _ .start h with
    ⟨j, b, s, hreached, hround⟩ | ⟨b, s, hend⟩
  · obtain ⟨proxy, address, u, hendpoint, hunserved⟩ := hopRound_eq_error hround
    rcases hreached with _ | @⟨j, b', _, s', _, hreached, goesOn⟩
    · obtain ⟨e, hleads, heffect⟩ := hopRound_effect options 0 b₀ s₀
      rw [hround] at hleads heffect
      rw [hleads.completed, heffect.length_hops.2 error rfl, List.append_nil]
    · exact absurd (hserved j b s proxy address u (hreached.next goesOn) hendpoint) hunserved
  · cases hend

theorem runHttp_of_unserved {b₀ : HopState} {s₀ : Session (World env)} (hb : b₀.hops = [])
    (h : ¬ RedirectsServed options b₀ s₀) :
    ∃ error t, runHttp b₀.current b₀.proxy b₀.selectedAddress options s₀ = (.error error, t) ∧
      t.world.completed ≠ [] := by
  unfold RedirectsServed at h
  push Not at h
  obtain ⟨i, b, s, proxy, address, u, hreached, hendpoint, hunserved⟩ := h
  obtain ⟨error, herror⟩ := hopRound_of_unserved hendpoint hunserved
  refine ⟨error, _, (runHttp_eq_loop hb s₀).trans ((loop_of_reached hreached).1 error herror), ?_⟩
  obtain ⟨e, hleads, -⟩ := hopRound_effect options (i + 1) b s
  rw [hleads.completed]
  exact fun hnil => hreached.completed.2 (Nat.succ_ne_zero i) (List.append_eq_nil_iff.mp hnil).1

/-- When every redirect is served, a chain that finished a hop returns its hops, with
the failure if there is one. -/
theorem runHttp_of_served {b₀ : HopState} {s₀ : Session (World env)} (hb : b₀.hops = [])
    (hfresh : s₀.world.completed = []) (hserved : RedirectsServed options b₀ s₀)
    (hdone : (runHttp b₀.current b₀.proxy b₀.selectedAddress options s₀).2.world.completed ≠ []) :
    ∃ hops failure t,
      runHttp b₀.current b₀.proxy b₀.selectedAddress options s₀ = (.ok (hops, failure), t) ∧
      hops = t.world.completed ∧ (RedirectFails options b₀ s₀ → ∃ error, failure = some error) := by
  obtain ⟨e, hleads, hchain⟩ :=
    runHttp_effect b₀.current b₀.proxy b₀.selectedAddress options s₀
  rcases hrun : runHttp b₀.current b₀.proxy b₀.selectedAddress options s₀ with
    ⟨error | ⟨hops, failure⟩, t⟩
  · rw [hrun] at hdone
    rw [runHttp_eq_loop hb] at hrun
    exact absurd ((loop_error_of_served hserved hrun).trans hfresh) hdone
  · rw [hrun] at hleads hchain
    refine ⟨hops, failure, t, rfl, ?_, ?_⟩
    · rw [hleads.completed, hfresh]
      exact hchain.hops_eq _ rfl
    · rw [runHttp_eq_loop hb] at hrun
      rintro ⟨i, b, s, hreached, ⟨-, error, hround⟩ | ⟨hops', error, hround⟩⟩
      · rw [(loop_of_reached hreached).1 error hround] at hrun
        cases hrun
      · rw [(loop_of_reached hreached).2 _ hround] at hrun
        cases hrun
        exact ⟨error, rfl⟩

def Opening.RedirectsServed (env : Environment) {spec : InspectSpec}
    (o : Opening env.envVar spec) : Prop :=
  ∀ b s, o.StartsHttp env b s → HopWhy.RedirectsServed spec.options b s

def Opening.RedirectFails (env : Environment) {spec : InspectSpec}
    (o : Opening env.envVar spec) : Prop :=
  ∃ b s, o.StartsHttp env b s ∧ HopWhy.RedirectFails spec.options b s

omit [Crates] in
theorem Concluded.hasStatus {r : AppResult HttpResult} {d : Draft} (h : Concluded (some r) d) :
    HasStatus d.phases .http (if r.isOk then .passed else .failed) ∧
      ∀ hops error, r = .ok (hops, some error) → HasStatus d.phases .redirects .failed := by
  cases h with
  | @lost error d front ms http phases =>
    rw [phases]
    exact ⟨⟨failedPhase .http ms error, List.mem_append_right _ List.mem_cons_self, rfl, rfl⟩,
      fun hops error h => (by cases h)⟩
  | @reached hops failure d front ms observations limitation http phases =>
    rw [phases]
    refine ⟨⟨passedPhase .http ms observations, List.mem_append_right _ List.mem_cons_self, rfl,
      rfl⟩, ?_⟩
    rintro hops' error h
    cases h
    exact ⟨failedPhase .redirects 0 error, List.mem_append_right _ (List.mem_cons_of_mem _
      List.mem_cons_self), rfl, rfl⟩

/-- Completed hops are kept, and failures after them are redirect failures, exactly
in the runs whose redirects are served. -/
theorem inspect_keepsHops_iff {spec : InspectSpec} {report : Report} {w : World env}
    (h : inspect env spec = (.ok report, w)) (o : Opening env.envVar spec) :
    (w.completed ≠ [] → KeepsHops (o.RedirectFails env) report w) ↔ o.RedirectsServed env := by
  obtain ⟨stages, hledger⟩ := exists_phaseLedger_of_inspect h o
  rcases inspect_http h o with
    ⟨b, s, hstart, hfresh, d, hconcluded, hhttp, hphases, hdone⟩ | ⟨hnone, hdone⟩
  · have hb : b.hops = [] := hstart.hops_eq_nil
    obtain ⟨hstatus, hredirects⟩ := hconcluded.hasStatus
    rw [← hphases] at hstatus hredirects
    have hnodup := canonicalPhases_nodup.sublist hledger.names.sublist
    have hall : o.RedirectsServed env ↔ HopWhy.RedirectsServed spec.options b s := by
      refine ⟨fun h => h b s hstart, fun h b' s' hstart' => ?_⟩
      obtain ⟨rfl, rfl⟩ := hstart.eq hstart'
      exact h
    rw [hall]
    constructor
    · intro hkeeps
      by_contra hunserved
      obtain ⟨error, t, hrun, hsome⟩ := runHttp_of_unserved hb hunserved
      rw [hrun] at hdone hstatus
      have hpassed := (hkeeps (by rw [hdone]; exact hsome)).passed
      cases hpassed.eq hnodup hstatus
    · intro hserved hsome
      rw [hdone] at hsome
      obtain ⟨hops, failure, t, hrun, hhops, hfails⟩ := runHttp_of_served hb hfresh hserved hsome
      rw [hrun] at hdone hstatus hredirects hconcluded
      refine ⟨?_, hstatus, ?_, fun hfailed => ?_⟩
      · cases hconcluded with
        | reached http phases => rw [hhttp, http, hhops, hdone]
      · rintro ⟨b', s', hstart', hfailed⟩
        obtain ⟨rfl, rfl⟩ := hstart.eq hstart'
        obtain ⟨error, rfl⟩ := hfails hfailed
        exact (hledger.failed _).mpr (hredirects hops error rfl)
      · cases hstatus.eq hnodup ((hledger.failed _).mp hfailed)
  · exact iff_of_true (fun h => absurd hdone h) fun b s hstart => absurd hstart (hnone b s)

end

/-- The fourth probe is the lookup of the redirect, so its request finds no slot. -/
def fourProbes : InspectSpec := ⟨"http://example.com/", { maxProbes := 4 }⟩

theorem fourProbes_loses_hop :
    letI := exampleRecordings.crates
    ∃ report w, inspect (.calm exampleRedirect) fourProbes = (.ok report, w) ∧
      w.completed ≠ [] ∧ report.failedAt = some .http ∧
      ∀ failed, ¬ KeepsHops failed report w := by
  let := exampleRecordings.crates
  have hrun : Reports (inspect (.calm exampleRedirect) fourProbes)
      fun report w => w.completed.length = 1 ∧ report.failedAt = some .http := by decide +kernel
  obtain ⟨report, w, hrun, htest⟩ := exists_of_reports hrun
  obtain ⟨hone, hfailed⟩ := of_decide_eq_true htest
  refine ⟨report, w, hrun, fun hnil => ?_, hfailed, fun failed h => h.not_http hfailed⟩
  rw [hnil] at hone
  cases hone

theorem redirect_keepsHops :
    letI := exampleRecordings.crates
    ∃ report w, ∃ o : Opening (fun _ => none) ⟨"http://example.com/", {}⟩,
      inspect (.calm exampleRedirect) ⟨"http://example.com/", {}⟩ = (.ok report, w) ∧
      w.completed.length = 2 ∧
      ((w.completed ≠ [] → KeepsHops (o.RedirectFails (.calm exampleRedirect)) report w) ↔
        o.RedirectsServed (.calm exampleRedirect)) := by
  let := exampleRecordings.crates
  have hrun : Reports (inspect (.calm exampleRedirect) ⟨"http://example.com/", {}⟩)
      fun _ w => w.completed.length = 2 := by decide +kernel
  obtain ⟨report, w, hrun, htest⟩ := exists_of_reports hrun
  obtain ⟨o, -⟩ := inspectWithBackend_eq_ok _ hrun
  exact ⟨report, w, o, hrun, of_decide_eq_true htest, inspect_keepsHops_iff hrun o⟩

end HopWhy
