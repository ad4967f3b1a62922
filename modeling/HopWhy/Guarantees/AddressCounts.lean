import HopWhy.Runs.Resolution

/-!
# The two address evaluations

A report flags each address of the answer, and its DNS phase counts a list that
is filtered on its own and cut to the address limit. The refusal of an answer
without permitted addresses always agrees with the flags; the count of permitted
addresses does so up to the limit.
-/

namespace HopWhy

section

variable [Crates] {env : Environment}

def countOf : Json → Option ℕ
  | .num (.posInt n) => some n.toNat
  | _ => none

/-- The counts that a phase observes under this kind. -/
def Phase.counts (phase : Phase) (kind : String) : List (Option ℕ) :=
  (phase.observations.filter (·.kind = kind)).map fun o => countOf o.value.tree

/-- The DNS phase failed since no address was permitted. -/
def DeniesAnswer (report : Report) : Prop :=
  ∃ p ∈ report.phases, p.name = .dns ∧ p.status = .failed ∧
    p.error.map DiagnosticError.code = some "non_public_address_denied"

/-- The resolver's answer to the opened run, if its lookup is made. -/
def Opening.Answered (env : Environment) {spec : InspectSpec} (o : Opening env.envVar spec)
    (answer : List SocketAddr) : Prop :=
  Answers o.proxy (openingSession spec.options (World.start env)).tick answer

/-- The flags of the addresses agree with what the DNS phase says. -/
structure EvaluationsAgree {spec : InspectSpec} (o : Opening env.envVar spec) (report : Report) :
    Prop where
  permitted : ∀ p ∈ report.phases, p.name = .dns → p.status = .passed →
    p.counts "permitted_address_count" = [some (report.addresses.filter (·.permitted)).length]
  resolved : ∀ p ∈ report.phases, p.name = .dns → p.status = .passed →
    p.counts "resolved_address_count" = [some report.addresses.length]
  denied : ∀ answer, o.Answered env answer → answer ≠ [] →
    (DeniesAnswer report ↔ ∀ a ∈ report.addresses, a.permitted = false)

/-- The different addresses of an answer that the policy permits. -/
def permittedOnes (options : InspectionOptions) (answer : List SocketAddr) : List SocketAddr :=
  (unseen [] answer).filter fun a => isIpPermitted a.ip options.allowPrivate

omit [Crates] in
theorem countOf_countJson {n : ℕ} (h : n < 2 ^ 64) :
    countOf (Value.ofJson (countJson n)).tree = some n := by
  simp only [countJson, Value.ofJson, Json.canon_num, countOf]
  rw [UInt64.toNat_ofNat_of_lt' h]

omit [Crates] in
theorem counts_of_pair (phase : Phase) {a b : Observation} (h : phase.observations = [a, b])
    (hne : a.kind ≠ b.kind) :
    phase.counts a.kind = [countOf a.value.tree] ∧
      phase.counts b.kind = [countOf b.value.tree] := by
  simp [Phase.counts, h, hne, hne.symm]

omit [Crates] in
theorem counts_resolvedPhase (durationMs : UInt64) {all permitted : List SocketAddr}
    (hall : all.length < 2 ^ 64) (hpermitted : permitted.length < 2 ^ 64) :
    (resolvedPhase durationMs all permitted).counts "resolved_address_count" =
        [some all.length] ∧
      (resolvedPhase durationMs all permitted).counts "permitted_address_count" =
        [some permitted.length] := by
  rw [← countOf_countJson hall, ← countOf_countJson hpermitted]
  exact counts_of_pair (resolvedPhase durationMs all permitted) rfl
    (by simp only [observation]; decide)

omit [Crates] in
theorem length_arrange_le (answer : List SocketAddr) : (arrange answer).length ≤ answer.length := by
  rw [arrange, List.length_insertionSort]
  exact (List.subperm_of_subset (nodup_unseen [] answer) fun a ha => (mem_unseen.mp ha).1).length_le

omit [Crates] in
theorem length_answer_lt {destination : String} {n : ℕ} {answer : List SocketAddr}
    (h : answerTo env destination n = some answer) : answer.length < 2 ^ 64 := by
  unfold answerTo at h
  split at h
  · cases h
    simp
  · obtain ⟨given, -, rfl⟩ := Option.map_eq_some_iff.mp h
    exact given.property

omit [Crates] in
theorem length_filter_arrange (options : InspectionOptions) (answer : List SocketAddr) :
    ((arrange answer).filter fun a => isIpPermitted a.ip options.allowPrivate).length =
      (permittedOnes options answer).length :=
  ((List.perm_insertionSort _ (unseen [] answer)).filter _).length_eq

theorem filter_permitted_observed (options : InspectionOptions) (all : List SocketAddr) :
    ((all.map (observeAddress options)).filter (·.permitted)).length =
      (all.filter fun a => isIpPermitted a.ip options.allowPrivate).length := by
  rw [List.filter_map, List.length_map]
  rfl

omit [Crates] in
theorem permittedOf_eq_nil {options : InspectionOptions} (h : OptionsValid options)
    {addresses : List SocketAddr} :
    permittedOf options addresses = [] ↔
      ∀ a ∈ addresses, isIpPermitted a.ip options.allowPrivate = false := by
  have hlimit := h.addresses.1
  rw [permittedOf, List.take_eq_nil_iff]
  simp only [Nat.ne_of_gt hlimit, false_or, List.filter_eq_nil_iff, Bool.not_eq_true]

section

variable {spec : InspectSpec} {o : Opening env.envVar spec}

theorem liveBackend_resolveAddresses (proxy : ResolvedProxy) (options : InspectionOptions) :
    (liveBackend env).resolveAddresses proxy options = resolveAddresses proxy options := rfl

theorem Opening.resolution_live :
    o.resolution (liveBackend env) (World.start env) = (resolveAddresses o.proxy spec.options
      (openingSession spec.options (World.start env)).tick).1 := by
  rw [Opening.resolution, liveBackend_resolveAddresses]

theorem Opening.resolution_of_answered {answer : List SocketAddr} (h : o.Answered env answer) :
    o.resolution (liveBackend env) (World.start env) = resolutionOf spec.options (some answer) := by
  rw [Opening.resolution_live, resolveAddresses_answered o.proxy spec.options h.1, h.2]

/-- A resolution that succeeds has an answer. -/
theorem Opening.exists_answered {all permitted : List SocketAddr}
    (h : o.resolution (liveBackend env) (World.start env) = .ok (all, permitted)) :
    ∃ answer, o.Answered env answer ∧ answer ≠ [] ∧ all = arrange answer ∧
      permitted = permittedOf spec.options (arrange answer) := by
  rw [Opening.resolution_live] at h
  by_cases hopen : Openable (openingSession spec.options (World.start env)).tick
  · rw [resolveAddresses_answered o.proxy spec.options hopen] at h
    rcases hanswer : answerTo env (destinationOf o.proxy)
      ((openingSession spec.options (World.start env)).tick.world.step + 3) with _ | answer
    · rw [hanswer] at h
      cases h
    · rw [hanswer, resolutionOf] at h
      split_ifs at h with hempty
      cases h
      exact ⟨answer, ⟨hopen, hanswer⟩, fun hnil => hempty (arrange_eq_nil.mpr hnil), rfl, rfl⟩
  · rw [resolveAddresses_closed o.proxy spec.options hopen] at h
    cases h

theorem Opening.Answered.eq {answer answer' : List SocketAddr} (h : o.Answered env answer)
    (h' : o.Answered env answer') : answer = answer' :=
  Option.some.inj (h.2.symm.trans h'.2)

end

omit [Crates] in
theorem DnsPhase.of_denies {report : Report} {phase : Phase} (hdns : DnsPhase report phase)
    (h : DeniesAnswer report) : phase.status = .failed ∧
      phase.error.map DiagnosticError.code = some "non_public_address_denied" := by
  obtain ⟨p, hp, hname, hstatus, hcode⟩ := h
  rw [← hdns.2 p hp hname]
  exact ⟨hstatus, hcode⟩

omit [Crates] in
/-- A failed DNS phase counts nothing. -/
theorem DnsPhase.not_passed {report : Report} {durationMs : UInt64} {error : AppError}
    (hdns : DnsPhase report (failedPhase .dns durationMs error)) :
    ∀ p ∈ report.phases, p.name = .dns → p.status ≠ .passed := by
  intro p hp hname
  rw [hdns.2 p hp hname]
  simp [failedPhase]

theorem permitted_observed_iff (options : InspectionOptions) (all : List SocketAddr) :
    (∀ a ∈ all.map (observeAddress options), a.permitted = false) ↔
      ∀ a ∈ all, isIpPermitted a.ip options.allowPrivate = false := by
  simp [observeAddress]

theorem permittedOnes_observed (options : InspectionOptions) (answer : List SocketAddr) :
    (((arrange answer).map (observeAddress options)).filter (·.permitted)).length =
      (permittedOnes options answer).length :=
  (filter_permitted_observed options _).trans (length_filter_arrange options answer)

omit [Crates] in
theorem length_permittedOf (options : InspectionOptions) (answer : List SocketAddr) :
    (permittedOf options (arrange answer)).length =
      min options.maxAddresses.toNat (permittedOnes options answer).length := by
  rw [permittedOf, List.length_take, length_filter_arrange]

/-- The phase of a passed resolution counts the permitted addresses up to the limit, and the
answer is not denied. -/
theorem evaluationsAgree_passed_iff {spec : InspectSpec} {o : Opening env.envVar spec}
    {report : Report} {durationMs : UInt64} {answer : List SocketAddr}
    (hanswered : o.Answered env answer)
    (hpermitted : permittedOf spec.options (arrange answer) ≠ [])
    (haddresses : report.addresses = (arrange answer).map (observeAddress spec.options))
    (hdns : DnsPhase report (resolvedPhase durationMs (arrange answer)
      (permittedOf spec.options (arrange answer)))) :
    EvaluationsAgree o report ↔
      (permittedOnes spec.options answer).length ≤ spec.options.maxAddresses.toNat := by
  have hvalid := validateOptions_eq_ok o.valid
  have hall := (length_arrange_le answer).trans_lt (length_answer_lt hanswered.2)
  have hcut := length_permittedOf spec.options answer
  have hlimit := hvalid.addresses.2
  have hfew : (permittedOf spec.options (arrange answer)).length < 2 ^ 64 := by omega
  obtain ⟨hresolved, hcount⟩ := counts_resolvedPhase durationMs hall hfew
  have hflags : (report.addresses.filter (·.permitted)).length =
      (permittedOnes spec.options answer).length := by
    rw [haddresses, permittedOnes_observed]
  constructor
  · intro h
    have hagree := h.permitted _ hdns.1 rfl rfl
    rw [hcount, hflags, hcut] at hagree
    simp only [List.cons.injEq, Option.some.injEq, and_true] at hagree
    omega
  · intro h
    constructor
    · intro p hp hname _
      rw [hdns.2 p hp hname, hcount, hflags, hcut, Nat.min_eq_right h]
    · intro p hp hname _
      rw [hdns.2 p hp hname, hresolved, haddresses, List.length_map]
    · intro _ _ _
      constructor
      · intro hdenies
        cases (hdns.of_denies hdenies).1
      · intro hnone
        rw [haddresses, permitted_observed_iff] at hnone
        exact absurd ((permittedOf_eq_nil hvalid).mpr hnone) hpermitted

/-- Nothing is counted for a lookup that failed. -/
theorem EvaluationsAgree.of_failed {spec : InspectSpec} {o : Opening env.envVar spec}
    {report : Report} {durationMs : UInt64} {error : AppError}
    (dns : DnsPhase report (failedPhase .dns durationMs error))
    (denied : ∀ answer, o.Answered env answer → answer ≠ [] →
      (DeniesAnswer report ↔ ∀ a ∈ report.addresses, a.permitted = false)) :
    EvaluationsAgree o report where
  permitted p hp hname hpassed := absurd hpassed (dns.not_passed p hp hname)
  resolved p hp hname hpassed := absurd hpassed (dns.not_passed p hp hname)
  denied := denied

/-- The evaluations agree exactly when the different permitted addresses of the answer fit in
the address limit. -/
theorem evaluationsAgree_iff {spec : InspectSpec} {report : Report} {w : World env}
    (h : inspect env spec = (.ok report, w)) (o : Opening env.envVar spec) :
    EvaluationsAgree o report ↔
      ∀ answer, o.Answered env answer →
        (permittedOnes spec.options answer).length ≤ spec.options.maxAddresses.toNat := by
  obtain ⟨o', ho⟩ := inspectWithBackend_eq_ok (liveBackend env) h
  obtain rfl := o.eq o'
  have hshows := o.showsResolution (liveBackend env) env.wallClock (World.start env)
  rw [ho] at hshows
  generalize hr : o.resolution (liveBackend env) (World.start env) = r at hshows
  cases hshows with
  | unresolved ms error addresses dns =>
    have hempty : ∀ answer, o.Answered env answer → answer = [] := by
      intro answer hanswered
      by_contra hne
      rw [o.resolution_of_answered hanswered, resolutionOf,
        if_neg fun hnil => hne (arrange_eq_nil.mp hnil)] at hr
      cases hr
    constructor
    · intro _ answer hanswered
      simp [hempty answer hanswered, permittedOnes, unseen]
    · intro _
      apply EvaluationsAgree.of_failed dns
      intro answer hanswered hne
      exact absurd (hempty answer hanswered) hne
  | denied ms all addresses dns =>
    obtain ⟨answer, hanswered, -, rfl, hnone⟩ := o.exists_answered hr
    have hdenied := (permittedOf_eq_nil (validateOptions_eq_ok o.valid)).mp hnone.symm
    have hcut := length_permittedOf spec.options answer
    have hlimit := (validateOptions_eq_ok o.valid).addresses.1
    rw [← hnone, List.length_nil] at hcut
    constructor
    · intro _ answer' hanswered'
      rw [hanswered'.eq hanswered]
      omega
    · intro _
      apply EvaluationsAgree.of_failed dns
      intro _ _ _
      apply iff_of_true ⟨_, dns.1, rfl, rfl, rfl⟩
      rw [addresses, permitted_observed_iff]
      exact hdenied
  | passed ms all permitted nonempty addresses dns =>
    obtain ⟨answer, hanswered, -, rfl, rfl⟩ := o.exists_answered hr
    rw [evaluationsAgree_passed_iff hanswered nonempty addresses dns]
    constructor
    · intro hle answer' hanswered'
      rwa [hanswered'.eq hanswered]
    · intro hle
      exact hle answer hanswered

end

/-- The neighbours of a public address. -/
def neighbours : { l : List SocketAddr // l.length < 2 ^ 64 } :=
  ⟨[.v4 (.ofOctets 93 184 215 14) 80, .v4 (.ofOctets 93 184 215 15) 80], by decide⟩

theorem evaluationsAgree_of_neighbours :
    letI := exampleRecordings.crates
    ∃ report w, ∃ o : Opening (Environment.answering neighbours).envVar ⟨"http://example.com/", {}⟩,
      inspect (.answering neighbours) ⟨"http://example.com/", {}⟩ = (.ok report, w) ∧
        (@EvaluationsAgree _ (.answering neighbours) _ o report ↔
          ∀ answer, o.Answered (.answering neighbours) answer →
            (permittedOnes {} answer).length ≤ 4) := by
  let := exampleRecordings.crates
  have hrun : Reports (inspect (.answering neighbours) ⟨"http://example.com/", {}⟩)
      fun _ _ => true := by decide +kernel
  obtain ⟨report, w, hrun, -⟩ := exists_of_reports hrun
  obtain ⟨o, -⟩ := inspectWithBackend_eq_ok (liveBackend (.answering neighbours)) hrun
  exact ⟨report, w, o, hrun, evaluationsAgree_iff hrun o⟩

/-- Two addresses are permitted, and one is counted. -/
theorem evaluations_disagree :
    letI := exampleRecordings.crates
    ∃ report w, inspect (.answering neighbours) ⟨"http://example.com/", { maxAddresses := 1 }⟩ =
        (.ok report, w) ∧
      ∀ o : Opening (Environment.answering neighbours).envVar
          ⟨"http://example.com/", { maxAddresses := 1 }⟩,
        ¬ @EvaluationsAgree _ (.answering neighbours) _ o report := by
  let := exampleRecordings.crates
  have hrun : Reports (inspect (.answering neighbours)
      ⟨"http://example.com/", { maxAddresses := 1 }⟩) fun report _ =>
        (report.addresses.filter (·.permitted)).length = 2 ∧ ∃ p ∈ report.phases,
          p.name = .dns ∧ p.status = .passed ∧
            p.counts "permitted_address_count" = [some 1] := by decide +kernel
  obtain ⟨report, w, hrun, htest⟩ := exists_of_reports hrun
  obtain ⟨hflags, p, hp, hname, hstatus, hcount⟩ := of_decide_eq_true htest
  refine ⟨report, w, hrun, fun o hagree => ?_⟩
  have hpermitted := hagree.permitted p hp hname hstatus
  rw [hcount, hflags] at hpermitted
  cases hpermitted

end HopWhy
